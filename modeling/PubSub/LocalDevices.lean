import PubSub.Mirrors
import PubSub.NodeTask

/-!
# The devices of a node

The worker, the application and incoming messages change a device through a few functions.
So a property of devices that these functions keep holds of all the devices of a node after
any run, with devices made and deleted at any time.
-/

namespace PubSub
set_option autoImplicit false

namespace SparkplugNode
variable {P : Platform}

/-- A node takes no metrics this way: the call returns no topic and changes nothing. -/
def addMetric (_ : Metric) (n : SparkplugNode P) : SparkplugNode P × Option (Topic P) :=
  (n, none)

def deleteDevice (name : Str) (n : SparkplugNode P) : SparkplugNode P :=
  if n.isHost then n
  else { n with deviceList := n.deviceList.eraseFirst (Entries.sameKey P.foldKey name) }

theorem deleteDevice_frame (name : Str) (n : SparkplugNode P) :
    ∃ devices, n.deleteDevice name = { n with deviceList := devices } := by
  unfold deleteDevice
  split
  · exact ⟨n.deviceList, rfl⟩
  · exact ⟨_, rfl⟩

end SparkplugNode

/-- What moves a node: an event of its session, or a call of the application that makes or
deletes devices and metrics. -/
inductive NodeAct (P : Platform) where
  | event (e : NodeEvent P)
  | createDevice (name : Str)
  | deleteDevice (name : Str)
  | addMetric (m : Metric)
  | addDeviceMetric (device : Str) (m : Metric)
  | createMetric (name : Str)

namespace NodeSys
variable {P : Platform}

def act (s : NodeSys P) : NodeAct P → NodeSys P
  | .event e => s.step e
  | .createDevice name => s.withSelf (s.self.createDevice name s.now)
  | .deleteDevice name => s.withSelf (s.self.deleteDevice name)
  | .addMetric m => s.withSelf (s.self.addMetric m).1
  | .addDeviceMetric device m =>
    s.withSelf (s.self.updateDevice device (SparkplugDevice.addMetric m))
  | .createMetric name =>
    s.withSelf (s.self.onTopics fun list => list.update (str "NBIRTH") fun t =>
      t.onPayload fun p => p.createMetric name)

end NodeSys

namespace SparkplugDevice
variable {P : Platform}

def onTopics (f : TopicList P → TopicList P) (d : SparkplugDevice P) : SparkplugDevice P :=
  { d with topicList := f d.topicList }

/-- A property of devices that everything that happens to a device keeps. -/
structure Invariant (Q : SparkplugDevice P → Prop) : Prop where
  create : ∀ parentName now group name,
    Q { SparkplugDevice.create parentName now with group := group, name := name }
  start : ∀ d, Q d → Q d.start
  inService : ∀ on d, Q d → Q { d with inService := on }
  poll : ∀ key parent now o d, Q d → Q (d.poll key parent now o).1
  stop : ∀ key parent now o d, Q d → Q (d.stop key parent now o).1
  addMetric : ∀ m d, Q d → Q (d.addMetric m)
  number : ∀ n d, Q d → Q (d.onTopics fun list => (list.assignAliasNumbers (str "DBIRTH") n).2)
  update : ∀ now body d, Q d → Q (d.onTopics fun list =>
    list.receive (str "DBIRTH") (Payload.receiveProtobuf true now body))
  death : ∀ now body d, Q d → Q (d.onTopics fun list =>
    list.receiveDeath (str "DBIRTH") (str "DDEATH") (Payload.receiveProtobuf true now body))

end SparkplugDevice

namespace Receiver
variable {P : Platform} {Q : SparkplugNode P → Prop}

/-- A property of the receiver's own node that every handler keeps. -/
structure SelfInvariant (Q : SparkplugNode P → Prop) : Prop where
  state : ∀ body n, Q n →
    Q (n.onTopics fun list => list.receive (str "STATE") (Payload.receiveJson body))
  birth : ∀ now body n, Q n → Q (n.onTopics fun list =>
    list.receive (str "NBIRTH") (Payload.receiveProtobuf true now body))
  death : ∀ now body n, Q n → Q (n.onTopics fun list =>
    list.receiveDeath (str "NBIRTH") (str "NDEATH") (Payload.receiveProtobuf true now body))
  command : ∀ now body n, Q n → Q (n.onTopics fun list => list.update (str "NBIRTH") fun t =>
    t.onPayload (Payload.receiveProtobuf false now body))
  data : ∀ now body n, Q n → Q (n.onTopics fun list =>
    list.receive (str "NBIRTH") (Payload.receiveProtobuf false now body))
  deviceBirth : ∀ device now body n, Q n → Q (deviceBirth device now body n)
  deviceDeath : ∀ device now body n, Q n → Q (n.onDevice device fun list =>
    list.receiveDeath (str "DBIRTH") (str "DDEATH") (Payload.receiveProtobuf true now body))
  deviceUpdate : ∀ device now body n, Q n → Q (n.onDevice device fun list =>
    list.receive (str "DBIRTH") (Payload.receiveProtobuf true now body))

theorem MirrorInvariant.toSelf (hQ : MirrorInvariant Q)
    (hcommand : ∀ now body n, Q n → Q (n.onTopics fun list => list.update (str "NBIRTH") fun t =>
      t.onPayload (Payload.receiveProtobuf false now body))) : SelfInvariant Q where
  state := hQ.state
  birth := hQ.birth
  death := hQ.death
  command := hcommand
  data := hQ.data
  deviceBirth := hQ.deviceBirth
  deviceDeath := hQ.deviceDeath
  deviceUpdate := hQ.deviceUpdate

theorem SelfInvariant.change (hQ : SelfInvariant Q) {messageType : Str} {now : UInt64}
    {body : BodyList} {f : SparkplugNode P → SparkplugNode P}
    (hf : Change messageType now body .self f) {n : SparkplugNode P} (h : Q n) : Q (f n) := by
  cases hf with
  | state _ _ => exact hQ.state body n h
  | birth _ => exact hQ.birth now body n h
  | death _ => exact hQ.death now body n h
  | command => exact hQ.command now body n h
  | data _ => exact hQ.data now body n h
  | deviceBirth _ device => exact hQ.deviceBirth device now body n h
  | deviceDeath _ device => exact hQ.deviceDeath device now body n h
  | deviceUpdate _ device => exact hQ.deviceUpdate device now body n h

/-- What the handlers keep of the receiver a message keeps. -/
theorem self_message_keeps (hQ : SelfInvariant Q) {r : Receiver P} (h : Q r.self)
    (topicName : Str) (now : UInt64) (body : BodyList) :
    Q (r.message topicName now body).self := by
  have heffect := r.effect_message topicName now body
  generalize r.message topicName now body = next at heffect ⊢
  cases heffect with
  | ensured hs =>
    rw [hs.self_eq]
    exact h
  | @changed s target f hs hf =>
    rw [← hs.self_eq] at h
    cases target with
    | self => exact hQ.change hf h
    | remote i => exact h

end Receiver

namespace SparkplugNode
variable {P : Platform} {Q : SparkplugDevice P → Prop}

/-- All the devices have the property. -/
def Devices (Q : SparkplugDevice P → Prop) (n : SparkplugNode P) : Prop :=
  ∀ e ∈ n.deviceList.entries, Q e.2

theorem Devices.updateDevice {n : SparkplugNode P} (h : n.Devices Q) (name : Str)
    {f : SparkplugDevice P → SparkplugDevice P} (hf : ∀ d, Q d → Q (f d)) :
    (n.updateDevice name f).Devices Q := by
  intro e he
  rcases Entries.mem_updateFirst he with he | ⟨d, hd, heq⟩
  · exact h e he
  · rw [heq]
    exact hf d (h _ hd)

theorem Devices.onDevice {n : SparkplugNode P} (h : n.Devices Q) (name : Str)
    {f : TopicList P → TopicList P} (hf : ∀ d, Q d → Q (d.onTopics f)) :
    (n.onDevice name f).Devices Q := by
  unfold SparkplugNode.onDevice
  split
  · exact h
  · exact h.updateDevice name hf

theorem Devices.createDevice {n : SparkplugNode P} (h : n.Devices Q)
    (hQ : SparkplugDevice.Invariant Q) (name : Str) (now : UInt64) :
    (n.createDevice name now).Devices Q := by
  unfold SparkplugNode.createDevice
  split
  · exact h
  · split
    · exact h
    · intro e he
      rcases Entries.mem_insert_subset he with rfl | he
      · exact hQ.create n.name now n.group name
      · exact h e he

theorem Devices.deleteDevice {n : SparkplugNode P} (h : n.Devices Q) (name : Str) :
    (n.deleteDevice name).Devices Q := by
  unfold SparkplugNode.deleteDevice
  split
  · exact h
  · intro e he
    exact h e ((Entries.eraseFirst_sublist _ _).mem he)

theorem Devices.mapAccum {n m : SparkplugNode P} (h : n.Devices Q) {σ : Type}
    {f : σ → Str → SparkplugDevice P → σ × SparkplugDevice P}
    (hf : ∀ s key d, Q d → Q (f s key d).2) {s : σ}
    (hm : m.deviceList = (n.deviceList.mapAccum f s).2) : m.Devices Q := by
  intro e he
  rw [hm, FoldedMap.entries_mapAccum] at he
  obtain ⟨t, d, hd, heq⟩ := Entries.mem_mapAccum he
  rw [heq]
  exact hf t e.1 d (h _ hd)

/-- The handlers of messages keep the property of the devices. -/
theorem devices_invariant (hQ : SparkplugDevice.Invariant Q) :
    Receiver.MirrorInvariant (P := P) (Devices Q) where
  host _ _ := fun _ he => absurd he List.not_mem_nil
  node _ _ _ := fun _ he => absurd he List.not_mem_nil
  state _ _ h := h
  birth _ _ _ h := h
  death _ _ _ h := h
  data _ _ _ h := h
  deviceBirth device now body _ h := Receiver.deviceBirth_keeps
    (fun _ hn => hn.createDevice hQ device now)
    (fun _ hn => hn.onDevice device (hQ.update now body)) h
  deviceDeath device now body _ h := h.onDevice device (hQ.death now body)
  deviceUpdate device now body _ h := h.onDevice device (hQ.update now body)

end SparkplugNode

namespace NodeSys
variable {P : Platform} {Q : SparkplugDevice P → Prop}

theorem publishMessage_deviceList (messageType : Str) (kind : MessageKind) (connected : Bool)
    (now : UInt64) (n : SparkplugNode P) :
    (n.publishMessage messageType kind connected now).1.deviceList = n.deviceList := by
  obtain ⟨topics, number, hframe⟩ := n.publishMessage_frame messageType kind connected now
  rw [hframe]

theorem devices_pollDevices (hQ : SparkplugDevice.Invariant Q) {s : NodeSys P}
    (h : s.self.Devices Q) : s.pollDevices.self.Devices Q :=
  h.mapAccum (fun o key d hd => hQ.poll key _ _ o d hd) rfl

theorem devices_publishNodeDeath {s : NodeSys P} (h : s.self.Devices Q) :
    s.publishNodeDeath.self.Devices Q := by
  intro e he
  have hlist : s.publishNodeDeath.self.deviceList = s.self.deviceList :=
    publishMessage_deviceList _ _ _ _ _
  exact h e (hlist ▸ he)

theorem devices_publishNodeBirth {s : NodeSys P} (h : s.self.Devices Q) :
    s.publishNodeBirth.self.Devices Q := by
  intro e he
  have hlist : s.publishNodeBirth.self.deviceList = s.self.deviceList :=
    publishMessage_deviceList _ _ _ _ _
  exact h e (hlist ▸ he)

theorem devices_worked (hQ : SparkplugDevice.Invariant Q) {s : NodeSys P}
    (h : s.self.Devices Q) {n : SparkplugNode P} (hworked : s.Worked n) : n.Devices Q := by
  cases hworked with
  | same => exact h
  | will => exact h
  | born hphase hstate hconnected =>
    have hborn : s.startSubscription.publishNodeBirth.self.Devices Q := devices_publishNodeBirth h
    exact devices_pollDevices (s := { s.startSubscription.publishNodeBirth with nodeState := .online })
      hQ hborn
  | polled hphase hstate => exact devices_pollDevices hQ h
  | died hphase hstate => exact devices_publishNodeDeath (devices_pollDevices hQ h)

theorem devices_start (hQ : SparkplugDevice.Invariant Q) {n m : SparkplugNode P}
    (h : n.Devices Q) (hm : n.start = some m) : m.Devices Q := by
  unfold SparkplugNode.start at hm
  split at hm
  · cases hm
  · rw [← Option.some.inj hm]
    have hbase : n.addDefaultMetrics.startTopics.startSubscriptions.Devices Q := h
    exact hbase.mapAccum (fun next _ d hd => hQ.number next d hd) rfl

theorem devices_step (hQ : SparkplugDevice.Invariant Q) {s : NodeSys P} (h : s.self.Devices Q)
    (e : NodeEvent P) : (s.step e).self.Devices Q := by
  have hsetting : e.isSetting = true → (s.step e).self.Devices Q := by
    intro he
    obtain ⟨_, _, _, _, hself⟩ := self_setting (s := s) he
    rw [hself]
    exact h
  cases e with
  | work elapsed io => exact devices_worked (s := s.tick elapsed) hQ h (worked_work io _)
  | message topicName body =>
    change (s.message topicName body).self.Devices Q
    unfold message
    split
    · exact Receiver.self_message_keeps
        ((SparkplugNode.devices_invariant hQ).toSelf fun _ _ _ h => h) h topicName s.now body
    · exact h
  | start =>
    change s.start.self.Devices Q
    unfold start
    split
    · exact h
    · split
      · exact h
      · rename_i m hm
        exact devices_start hQ h hm
  | deviceInService device on => exact h.updateDevice device (hQ.inService on)
  | deviceStart device => exact h.updateDevice device hQ.start
  | deviceStop device =>
    refine h.mapAccum (fun o key d hd => ?_) rfl
    dsimp only
    split
    · exact hQ.stop key _ _ o d hd
    · exact hd
  | addBirthMetric _ | editMetric _ _ => exact h
  | _ => exact hsetting rfl

theorem devices_act (hQ : SparkplugDevice.Invariant Q) {s : NodeSys P} (h : s.self.Devices Q)
    (a : NodeAct P) : (s.act a).self.Devices Q := by
  cases a with
  | event e => exact devices_step hQ h e
  | createDevice name => exact h.createDevice hQ name s.now
  | deleteDevice name => exact h.deleteDevice name
  | addMetric _ => exact h
  | addDeviceMetric device m => exact h.updateDevice device (hQ.addMetric m)
  | createMetric name => exact h

theorem devices_configured (hQ : SparkplugDevice.Invariant Q) (now : UInt64)
    (setups : List Setup) : (SparkplugNode.configured (P := P) now setups).Devices Q := by
  have hconfigure : ∀ (n : SparkplugNode P), n.Devices Q →
      (setups.foldl SparkplugNode.configure n).Devices Q := by
    induction setups with
    | nil => exact fun _ h => h
    | cons setup setups ih =>
      intro n h
      apply ih
      cases setup with
      | createDevice name now => exact h.createDevice hQ name now
      | addDeviceMetric device m => exact h.updateDevice device (hQ.addMetric m)
      | _ => exact h
  exact hconfigure _ fun _ he => absurd he List.not_mem_nil

/-- After any run all the devices of the node have the property. -/
theorem devices_run (hQ : SparkplugDevice.Invariant Q) (now : UInt64) (setups : List Setup)
    (acts : List (NodeAct P)) : (run act (init now setups) acts).self.Devices Q := by
  have hstep : ∀ (s : NodeSys P) (a : NodeAct P), s.self.Devices Q → (s.act a).self.Devices Q :=
    fun _ a h => devices_act hQ h a
  exact run_preserves hstep acts (devices_configured hQ now setups)

end NodeSys
end PubSub
