import PubSub.PublishCalls

/-!
# Gaps in the sequence numbers

The accepted messages count from zero, modulo 256, as long as the calls send in the order
of their numbers, no payload is written by two at a time and nothing is accepted after a
refused message, whose number is lost.
-/

namespace PubSub
set_option autoImplicit false

namespace Topic
variable {P : Platform}

/-- The same topic as far as its lookup and its message go. -/
structure SameMessage (s t : Topic P) : Prop where
  messageType : t.messageType = s.messageType
  nameSpace : t.nameSpace = s.nameSpace
  content : t.content = s.content

theorem sameMessage_timestamp (now : UInt64) (t : Topic P) :
    t.SameMessage (t.stamp now) := ⟨rfl, rfl, rfl⟩

theorem sameMessage_renamed (path : Str) (now : UInt64) {t : Topic P}
    (hspace : t.nameSpace = str "spvBv1.0") (htype : t.messageType ≠ []) :
    t.SameMessage ((t.setTopic path).stamp now) := by
  have hns : t.nameSpace ≠ [] := by
    rw [hspace]
    decide
  have hsp : t.nameSpace ≠ str "spBv1.0" := by
    rw [hspace]
    decide
  refine ⟨setTopic_messageType htype (.inr ⟨hns, hsp⟩), setTopic_nameSpace hns, ?_⟩
  change (((t.setTopic path).payload.setTimestamp now false).sequenceNumber,
    ((t.setTopic path).payload.setTimestamp now false).body) = t.content
  rw [setTopic_payload]
  rfl

end Topic

namespace SparkplugDevice
variable {P : Platform}

/-- The topics of a device, with their contents. -/
structure SameContents (d e : SparkplugDevice P) : Prop where
  hasTopics : e.HasTopics
  content : ∀ messageType, e.topicList.content messageType = d.topicList.content messageType

theorem sameContents_deviceState {d : SparkplugDevice P} (h : d.HasTopics) (state : DeviceState) :
    d.SameContents { d with deviceState := state } := ⟨h.of_same rfl, fun _ => rfl⟩

theorem sameContents_invalid {d : SparkplugDevice P} (h : d.HasTopics) :
    d.SameContents d.setAllMetricsInvalid := by
  refine ⟨h.setAllMetricsInvalid, fun messageType => ?_⟩
  apply TopicList.content_map
  · intro t
    split <;> rfl
  · intro t
    split <;> rfl

theorem sameContents_offline {d : SparkplugDevice P} (h : d.HasTopics) :
    d.SameContents { d.setAllMetricsInvalid with deviceState := .offline } := by
  have hinvalid := sameContents_invalid h
  exact ⟨hinvalid.hasTopics.of_same rfl, hinvalid.content⟩

/-- A change of the topic of a type, of a device with both topics. -/
theorem HasTopics.onTopic {d : SparkplugDevice P} (h : d.HasTopics) {messageType : Str}
    (hmessageType : messageType = str "DBIRTH" ∨ messageType = str "DDEATH")
    {f : Topic P → Topic P} (htype : ∀ t : Topic P, t.nameSpace = str "spvBv1.0" →
      t.messageType ≠ [] → (f t).messageType = t.messageType ∧ (f t).nameSpace = t.nameSpace) :
    (d.onTopics fun list => list.update messageType f).HasTopics := by
  obtain ⟨death, birth, howns⟩ := h
  rcases hmessageType with rfl | rfl
  · have hne : birth.messageType ≠ [] := by
      rw [howns.birthType]
      decide
    obtain ⟨hkept, hspace⟩ := htype birth howns.birthSpace hne
    exact ⟨_, _, howns.updateBirth rfl hkept hspace⟩
  · have hne : death.messageType ≠ [] := by
      rw [howns.deathType]
      decide
    obtain ⟨hkept, hspace⟩ := htype death howns.deathSpace hne
    exact ⟨_, _, howns.updateDeath rfl hkept hspace⟩

theorem sameContents_onTopic {d : SparkplugDevice P} (h : d.HasTopics) {messageType : Str}
    (hmessageType : messageType = str "DBIRTH" ∨ messageType = str "DDEATH")
    {f : Topic P → Topic P} (hf : ∀ t : Topic P, t.nameSpace = str "spvBv1.0" →
      t.messageType ≠ [] → t.SameMessage (f t)) :
    d.SameContents (d.onTopics fun list => list.update messageType f) := by
  refine ⟨h.onTopic hmessageType fun t hspace hne =>
    ⟨(hf t hspace hne).messageType, (hf t hspace hne).nameSpace⟩, fun other => ?_⟩
  apply TopicList.content_update
  intro t ht
  obtain ⟨death, birth, howns⟩ := h
  have hfound : t.nameSpace = str "spvBv1.0" ∧ t.messageType ≠ [] := by
    rcases hmessageType with rfl | rfl
    · rw [howns.findBirth] at ht
      obtain rfl := Option.some.inj ht
      exact ⟨howns.birthSpace, by rw [howns.birthType]; decide⟩
    · rw [howns.findDeath] at ht
      obtain rfl := Option.some.inj ht
      exact ⟨howns.deathSpace, by rw [howns.deathType]; decide⟩
  have hsame := hf t hfound.1 hfound.2
  exact ⟨hsame.messageType, hsame.content⟩

end SparkplugDevice

theorem MessageKind.messageType_device {k : MessageKind} {key : Str} (h : k.device = some key) :
    k.messageType = str "DBIRTH" ∨ k.messageType = str "DDEATH" := by
  cases k with
  | deviceBirth _ => exact .inl rfl
  | deviceDeath _ => exact .inr rfl
  | nodeBirth => cases h
  | nodeDeath => cases h
  | state => cases h

namespace SparkplugNode
variable {P : Platform}

/-- What the calls that are under way need of a step of others. -/
structure Undisturbed (n m : SparkplugNode P) : Prop where
  devices : m.Devices SparkplugDevice.HasTopics
  sequenceNumber : m.sequenceNumber = n.sequenceNumber
  content : ∀ k, m.contentAt k = n.contentAt k

theorem Undisturbed.refl {n : SparkplugNode P} (h : n.Devices SparkplugDevice.HasTopics) :
    n.Undisturbed n := ⟨h, rfl, fun _ => rfl⟩

theorem contentAt_client {k : MessageKind} (hk : k.device = none) (n : SparkplugNode P) :
    n.contentAt k = n.topicList.content k.messageType := by
  rw [contentAt, topicAt, hk]
  rfl

theorem contentAt_device {k : MessageKind} {key : Str} (hk : k.device = some key)
    (n : SparkplugNode P) : n.contentAt k =
      (n.deviceList.get? key).bind fun d => d.topicList.content k.messageType := by
  rw [contentAt, topicAt, hk]
  exact Option.map_bind

theorem undisturbed_updateDevice {n : SparkplugNode P} (h : n.Devices SparkplugDevice.HasTopics)
    (name : Str) {f : SparkplugDevice P → SparkplugDevice P}
    (hf : ∀ d : SparkplugDevice P, d.HasTopics → d.SameContents (f d)) :
    n.Undisturbed (n.updateDevice name f) := by
  refine ⟨h.updateDevice name fun d hd => (hf d hd).hasTopics, rfl, fun k => ?_⟩
  cases hk : k.device with
  | none =>
    rw [contentAt_client hk, contentAt_client hk]
    rfl
  | some key =>
    rw [contentAt_device hk, contentAt_device hk]
    change ((n.deviceList.update name f).get? key).bind _ = _
    rw [FoldedMap.get?_update]
    split
    · cases hget : n.deviceList.get? key with
      | none => rfl
      | some d =>
        obtain ⟨_, hmem, _⟩ := FoldedMap.get?_mem hget
        exact (hf d (h _ hmem)).content k.messageType
    · rfl

theorem undisturbed_client {n : SparkplugNode P} (h : n.Devices SparkplugDevice.HasTopics)
    {k : MessageKind} (hk : k.device = none) {f : Topic P → Topic P}
    (hf : ∀ t : Topic P, t.SameMessage (f t)) : n.Undisturbed (n.onTopicAt k f) := by
  have hnode : n.onTopicAt k f = n.onTopics fun list => list.update k.messageType f := by
    rw [onTopicAt, hk]
  rw [hnode]
  refine ⟨h, rfl, fun j => ?_⟩
  cases hj : j.device with
  | none =>
    rw [contentAt_client hj, contentAt_client hj]
    exact TopicList.content_update (fun t _ => ⟨(hf t).messageType, (hf t).content⟩) _
  | some key =>
    rw [contentAt_device hj, contentAt_device hj]
    rfl

theorem undisturbed_device {n : SparkplugNode P} (h : n.Devices SparkplugDevice.HasTopics)
    {k : MessageKind} {key : Str} (hk : k.device = some key) {f : Topic P → Topic P}
    (hf : ∀ t : Topic P, t.nameSpace = str "spvBv1.0" → t.messageType ≠ [] →
      t.SameMessage (f t)) : n.Undisturbed (n.onTopicAt k f) := by
  have htype := MessageKind.messageType_device hk
  have hnode : n.onTopicAt k f = n.updateDevice key
      (SparkplugDevice.onTopics fun list => list.update k.messageType f) := by
    rw [onTopicAt, hk]
  rw [hnode]
  exact undisturbed_updateDevice h key fun d hd => SparkplugDevice.sameContents_onTopic hd htype hf

theorem devices_onTopicAt {n : SparkplugNode P} (h : n.Devices SparkplugDevice.HasTopics)
    {k : MessageKind} {f : Topic P → Topic P} (htype : ∀ t, (f t).messageType = t.messageType)
    (hspace : ∀ t, (f t).nameSpace = t.nameSpace) :
    (n.onTopicAt k f).Devices SparkplugDevice.HasTopics := by
  unfold onTopicAt
  split
  · exact h
  · rename_i key hk
    exact h.updateDevice key fun d hd =>
      hd.onTopic (MessageKind.messageType_device hk) fun t _ _ => ⟨htype t, hspace t⟩

@[simp] theorem createDevice_sequenceNumber (name : Str) (now : UInt64) (n : SparkplugNode P) :
    (n.createDevice name now).sequenceNumber = n.sequenceNumber := by
  obtain ⟨devices, hframe⟩ := n.createDevice_frame name now
  rw [hframe]

@[simp] theorem onDevice_sequenceNumber (name : Str) (f : TopicList P → TopicList P)
    (n : SparkplugNode P) : (n.onDevice name f).sequenceNumber = n.sequenceNumber := by
  obtain ⟨devices, hframe⟩ := n.onDevice_frame name f
  rw [hframe]

/-- No message moves the counter of the node. -/
theorem sequenceNumber_invariant (counter : UInt8) :
    Receiver.SelfInvariant (P := P) fun n => n.sequenceNumber = counter where
  state _ _ h := h
  birth _ _ _ h := h
  death _ _ _ h := h
  command _ _ _ h := h
  data _ _ _ h := h
  deviceBirth device now body n h := by
    obtain ⟨devices, hframe⟩ := Receiver.deviceBirth_frame device now body n
    rw [hframe]
    exact h
  deviceDeath _ _ _ _ h := (onDevice_sequenceNumber _ _ _).trans h
  deviceUpdate _ _ _ _ h := (onDevice_sequenceNumber _ _ _).trans h

end SparkplugNode

namespace NodeSys
variable {P : Platform}

/-- Outside the state functions that publish the worker leaves the devices and the counter. -/
theorem quiet_work {s : NodeSys P} (h : s.publishTasks = none) (io : Outcomes) :
    (s.work io).self.deviceList = s.self.deviceList ∧
      (s.work io).self.sequenceNumber = s.self.sequenceNumber := by
  have hworked := s.worked_work io
  unfold publishTasks at h
  generalize (s.work io).self = n at hworked ⊢
  cases hworked with
  | same => exact ⟨rfl, rfl⟩
  | will => exact ⟨rfl, rfl⟩
  | born hphase hstate hconnected =>
    rw [hphase, hstate] at h
    dsimp only at h
    rw [if_pos hconnected] at h
    cases h
  | polled hphase hstate =>
    rw [hphase, hstate] at h
    dsimp only at h
    split at h <;> cases h
  | died hphase hstate =>
    rw [hphase, hstate] at h
    dsimp only at h
    split at h <;> cases h

/-- Only publications move the counter. -/
theorem sequenceNumber_step {s : NodeSys P} {e : NodeEvent P}
    (hwork : ∀ elapsed io, e ≠ .work elapsed io) (hstop : ∀ device, e ≠ .deviceStop device) :
    (s.step e).self.sequenceNumber = s.self.sequenceNumber := by
  have hsetting : e.isSetting = true → (s.step e).self.sequenceNumber = s.self.sequenceNumber := by
    intro he
    obtain ⟨_, _, _, _, hself⟩ := self_setting (s := s) he
    rw [hself]
  cases e with
  | work elapsed io => exact absurd rfl (hwork elapsed io)
  | deviceStop device => exact absurd rfl (hstop device)
  | message topicName body =>
    change (s.message topicName body).self.sequenceNumber = _
    unfold message
    split
    · exact Receiver.self_message_keeps (SparkplugNode.sequenceNumber_invariant _)
        (rfl : s.receiver.self.sequenceNumber = _) topicName s.now body
    · rfl
  | start =>
    change s.start.self.sequenceNumber = _
    unfold start
    split
    · rfl
    · split
      · rfl
      · rename_i m hm
        change m.sequenceNumber = s.self.sequenceNumber
        rw [SparkplugNode.start_base hm]
  | deviceInService _ _ => rfl
  | deviceStart _ => rfl
  | addBirthMetric _ => rfl
  | editMetric _ _ => rfl
  | _ => exact hsetting rfl

end NodeSys

namespace PublishSys
variable {P : Platform}

theorem sequenceNumber_configured (now : UInt64) (setups : List Setup) :
    (SparkplugNode.configured (P := P) now setups).sequenceNumber = 0 := by
  have hconfigure : ∀ n : SparkplugNode P, n.sequenceNumber = 0 →
      (setups.foldl SparkplugNode.configure n).sequenceNumber = 0 := by
    induction setups with
    | nil => exact fun _ h => h
    | cons setup setups ih =>
      intro n h
      apply ih
      cases setup with
      | createDevice name now => exact (SparkplugNode.createDevice_sequenceNumber _ _ _).trans h
      | _ => exact h
  exact hconfigure _ rfl

theorem act_sequenceNumber (s : PublishSys P) (a : NodeAct P) :
    (s.act a).self.sequenceNumber = s.self.sequenceNumber := by
  unfold act
  split
  · rfl
  · rfl
  · rename_i hwork hstop
    change (s.node.act a).self.sequenceNumber = s.node.self.sequenceNumber
    cases a with
    | event e =>
      apply NodeSys.sequenceNumber_step
      · intro elapsed io he
        exact hwork elapsed io (congrArg NodeAct.event he)
      · intro device he
        exact hstop device (congrArg NodeAct.event he)
    | createDevice name => exact SparkplugNode.createDevice_sequenceNumber _ _ _
    | deleteDevice name =>
      obtain ⟨devices, hframe⟩ := s.node.self.deleteDevice_frame name
      change (s.node.self.deleteDevice name).sequenceNumber = _
      rw [hframe]
    | addMetric m => rfl
    | addDeviceMetric device m => rfl
    | createMetric name => rfl

theorem act_devices {s : PublishSys P} (h : s.self.Devices SparkplugDevice.HasTopics)
    (a : NodeAct P) : (s.act a).self.Devices SparkplugDevice.HasTopics := by
  unfold act
  split
  · exact h
  · exact h
  · exact NodeSys.devices_act SparkplugDevice.hasTopics_invariant h a

theorem act_calls (s : PublishSys P) (a : NodeAct P) :
    (s.act a).entered = s.entered ∧ (s.act a).numbered = s.numbered ∧
      (s.act a).accepted = s.accepted ∧ (s.act a).refused = s.refused := by
  unfold act
  split
  · exact ⟨rfl, rfl, rfl, rfl⟩
  · exact ⟨rfl, rfl, rfl, rfl⟩
  · exact ⟨rfl, rfl, rfl, rfl⟩

/-- The sequence number that a message carries. -/
def carried (P : Platform) (m : MqttMessage) : Option UInt64 :=
  (P.parseFromArray m.body).bind PbPayload.seq

/-- The accepted messages count from zero, modulo 256. -/
def GapFree (s : PublishSys P) : Prop :=
  s.accepted.map (carried P) =
    (List.range s.accepted.length).map fun i => some (UInt64.ofNat (i % 256))

instance (s : PublishSys P) : Decidable s.GapFree := inferInstanceAs (Decidable (_ = _))

/-- The calls send in the order of their numbers, no two of them work on one payload, nothing
else writes a payload of theirs, and the serializer takes the messages. -/
def Orderly (s : PublishSys P) : PublishEvent P → Prop
  | .act a => ∀ c ∈ s.numbered, (s.act a).self.contentAt c.kind = s.self.contentAt c.kind
  | .take i => ∀ e ∈ s.entered[i]?, ∀ c ∈ s.numbered, c.kind.topicKey P ≠ e.kind.topicKey P
  | .generate i => ∀ c ∈ s.numbered[i]?, ∀ t ∈ s.self.topicAt c.kind,
      (P.serializeToArray (PayloadHelper.protobufOf false t.payload)).isSome = true
  | .send i _ => i = 0
  | .work _ _ | .stopDevice _ => True

instance (s : PublishSys P) (e : PublishEvent P) : Decidable (s.Orderly e) :=
  match e with
  | .act a => inferInstanceAs (Decidable (∀ c ∈ s.numbered,
      (s.act a).self.contentAt c.kind = s.self.contentAt c.kind))
  | .take i => inferInstanceAs (Decidable (∀ e ∈ s.entered[i]?, ∀ c ∈ s.numbered,
      c.kind.topicKey P ≠ e.kind.topicKey P))
  | .generate i => inferInstanceAs (Decidable (∀ c ∈ s.numbered[i]?, ∀ t ∈ s.self.topicAt c.kind,
      (P.serializeToArray (PayloadHelper.protobufOf false t.payload)).isSome = true))
  | .send i _ => inferInstanceAs (Decidable (i = 0))
  | .work _ _ | .stopDevice _ => inferInstanceAs (Decidable True)

/-- A message is accepted after a multiple of 256 refused ones. -/
def InStep (s : PublishSys P) : PublishEvent P → Prop
  | .send i true => s.numbered[i]?.any NumberedCall.generated = true → 256 ∣ s.refused
  | _ => True

instance (s : PublishSys P) (e : PublishEvent P) : Decidable (s.InStep e) :=
  match e with
  | .send _ true => inferInstanceAs (Decidable (_ → _))
  | .send _ false | .act _ | .work _ _ | .stopDevice _ | .take _ | .generate _ =>
    inferInstanceAs (Decidable True)

/-- Only the worker publishes births and the death of the node. -/
def Allowed (c : EnteredCall) : Prop :=
  (∃ key, c.kind = .deviceDeath key) ∨ c.byWorker = true ∧ c.kind ≠ .state

theorem Allowed.not_state {c : EnteredCall} (h : Allowed c) : c.kind ≠ .state := by
  rcases h with ⟨key, hkey⟩ | ⟨_, hne⟩
  · rw [hkey]
    exact fun he => by cases he
  · exact hne

/-- The payload of a call has its number, and then the body says it. -/
def Holds (n : SparkplugNode P) (c : NumberedCall) : Prop :=
  ∃ t, n.topicAt c.kind = some t ∧
    if c.generated then carried P t.message = some c.number.toUInt64
    else t.payload.sequenceNumber = c.number.toUInt64

/-- How many calls have ended. -/
def ended (s : PublishSys P) : Nat := s.accepted.length + s.refused

structure Inv (s : PublishSys P) : Prop where
  devices : s.self.Devices SparkplugDevice.HasTopics
  counter : s.self.sequenceNumber = UInt8.ofNat (s.ended + s.numbered.length)
  numbers : s.numbered.map NumberedCall.number =
    (List.range' s.ended s.numbered.length).map UInt8.ofNat
  topics : (s.numbered.map fun c => c.kind.topicKey P).Nodup
  entered : ∀ c ∈ s.entered, Allowed c
  allowed : ∀ c ∈ s.numbered, Allowed c.toEnteredCall
  holds : ∀ c ∈ s.numbered, Holds s.self c

theorem holds_congr {n m : SparkplugNode P} {c : NumberedCall}
    (h : m.contentAt c.kind = n.contentAt c.kind) (hc : Holds n c) : Holds m c := by
  obtain ⟨t, ht, hnumber⟩ := hc
  rw [SparkplugNode.contentAt, SparkplugNode.contentAt, ht, Option.map_some] at h
  obtain ⟨u, hu, hcontent⟩ := Option.map_eq_some_iff.mp h
  obtain ⟨hseq, hbody⟩ := Prod.mk.inj hcontent
  refine ⟨u, hu, ?_⟩
  have hcarried : carried P u.message = carried P t.message := by
    rw [carried, carried, Topic.message, Topic.message, hbody]
  rw [hcarried, hseq]
  exact hnumber

/-- A step that takes no number and ends no call. -/
theorem Inv.quiet {s t : PublishSys P} (h : s.Inv)
    (hdevices : t.self.Devices SparkplugDevice.HasTopics)
    (hcounter : t.self.sequenceNumber = s.self.sequenceNumber)
    (hcontent : ∀ c ∈ s.numbered, t.self.contentAt c.kind = s.self.contentAt c.kind)
    (hcalls : t.numbered = s.numbered) (hended : t.ended = s.ended)
    (hentered : ∀ c ∈ t.entered, Allowed c) : t.Inv where
  devices := hdevices
  counter := by
    rw [hcounter, h.counter, hcalls, hended]
  numbers := by
    rw [hcalls, hended, h.numbers]
  topics := by
    rw [hcalls]
    exact h.topics
  entered := hentered
  allowed := by
    rw [hcalls]
    exact h.allowed
  holds := by
    rw [hcalls]
    exact fun c hc => holds_congr (hcontent c hc) (h.holds c hc)

theorem Inv.undisturbed {s t : PublishSys P} (h : s.Inv) (hself : s.self.Undisturbed t.self)
    (hcalls : t.numbered = s.numbered) (hended : t.ended = s.ended)
    (hentered : ∀ c ∈ t.entered, Allowed c) : t.Inv :=
  h.quiet hself.devices hself.sequenceNumber (fun c _ => hself.content c.kind) hcalls hended
    hentered

theorem inv_act {s : PublishSys P} (h : s.Inv) {a : NodeAct P} (hok : s.Orderly (.act a)) :
    (s.act a).Inv := by
  obtain ⟨hentered, hnumbered, haccepted, hrefused⟩ := s.act_calls a
  refine h.quiet (act_devices h.devices a) (s.act_sequenceNumber a) hok hnumbered ?_ ?_
  · rw [ended, ended, haccepted, hrefused]
  · rw [hentered]
    exact h.entered

theorem Inv.node {s : PublishSys P} (h : s.Inv) {node : NodeSys P}
    (hself : s.self.Undisturbed node.self) : { s with node := node }.Inv :=
  h.undisturbed hself rfl rfl h.entered

theorem Inv.tasks {s : PublishSys P} (h : s.Inv) (tasks : List WorkerTask) :
    { s with tasks := tasks }.Inv :=
  h.undisturbed (.refl h.devices) rfl rfl h.entered

theorem Inv.enter {s : PublishSys P} (h : s.Inv) {c : EnteredCall} (hc : Allowed c) :
    (s.enter c).Inv := by
  refine h.undisturbed (.refl h.devices) rfl rfl ?_
  intro d hd
  rcases List.mem_append.mp hd with hd | hd
  · exact h.entered d hd
  · rw [List.mem_singleton.mp hd]
    exact hc

theorem inv_publishNode {s : PublishSys P} (h : s.Inv) {kind : MessageKind}
    (hkind : kind.device = none) (hstate : kind ≠ .state) : (s.publishNode kind).Inv := by
  unfold publishNode
  split
  · split
    · exact h
    · have hself := SparkplugNode.undisturbed_client h.devices hkind
        (Topic.sameMessage_timestamp s.node.now)
      have hstamped : (s.withSelf (s.self.onTopicAt kind (Topic.stamp s.node.now))).Inv :=
        h.node hself
      exact hstamped.enter (.inr ⟨rfl, hstate⟩)
  · exact h

theorem inv_publishDevice {s : PublishSys P} (h : s.Inv) {byWorker : Bool} {kind : MessageKind}
    (hallowed : Allowed ⟨byWorker, kind⟩) {key : Str} (hkind : kind.device = some key)
    (d : SparkplugDevice P) : (s.publishDevice byWorker kind d).Inv := by
  unfold publishDevice
  split
  · exact h
  · have hself := SparkplugNode.undisturbed_device h.devices hkind fun t hspace htype =>
      Topic.sameMessage_renamed (d.topicPath kind.messageType s.self.name) s.node.now hspace htype
    have hrenamed : (s.withSelf (s.self.onTopicAt kind fun t =>
        (t.setTopic (d.topicPath kind.messageType s.self.name)).stamp s.node.now)).Inv :=
      h.node hself
    dsimp only
    split
    · exact hrenamed.enter hallowed
    · exact hrenamed

theorem inv_pollDevice {s : PublishSys P} (h : s.Inv) (key : Str) : (s.pollDevice key).Inv := by
  unfold pollDevice
  split
  · exact h
  · rename_i d _
    split
    · split
      · have hallowed : Allowed ⟨true, .deviceDeath key⟩ := .inl ⟨key, rfl⟩
        exact (inv_publishDevice h hallowed rfl d).tasks _
      · exact h
    · split
      · have hallowed : Allowed ⟨true, .deviceBirth key⟩ := .inr ⟨rfl, fun he => by cases he⟩
        exact (inv_publishDevice h hallowed rfl d).tasks _
      · exact h
    · exact h.tasks _

theorem inv_perform {s : PublishSys P} (h : s.Inv) (io : Outcomes) (task : WorkerTask) :
    (s.perform io task).Inv := by
  cases task with
  | startSubscription => exact h.node (.refl h.devices)
  | publishNodeBirth => exact inv_publishNode h rfl fun he => by cases he
  | publishNodeDeath => exact inv_publishNode h rfl fun he => by cases he
  | online => exact h.node (.refl h.devices)
  | pollDevices => exact h.tasks _
  | poll key => exact inv_pollDevice h key
  | deviceOnline key =>
    exact h.node (SparkplugNode.undisturbed_updateDevice h.devices key fun d hd =>
      SparkplugDevice.sameContents_deviceState hd .online)
  | deviceOffline key =>
    exact h.node (SparkplugNode.undisturbed_updateDevice h.devices key fun d hd =>
      SparkplugDevice.sameContents_offline hd)
  | leave started =>
    refine h.node ?_
    change s.self.Undisturbed (s.node.sendDisconnect io).self
    rw [NodeSys.sendDisconnect_self]
    exact .refl h.devices
  | loop => exact h.node (.refl h.devices)

/-- The calls that are under way while the worker does not publish are stops of devices. -/
theorem Inv.deviceCalls {s : PublishSys P} (h : s.Inv) (hfree : s.workerPublishes = false) :
    ∀ c ∈ s.numbered, ∃ key, c.kind = .deviceDeath key := by
  intro c hc
  rcases h.allowed c hc with hdeath | ⟨hworker, _⟩
  · exact hdeath
  · unfold workerPublishes at hfree
    have hnone := (Bool.or_eq_false_iff.mp hfree).2
    have hthis := List.any_eq_false.mp hnone c hc
    exact absurd hworker hthis

theorem inv_work {s : PublishSys P} (h : s.Inv) (elapsed : Nat) (io : Outcomes) :
    (s.work elapsed io).Inv := by
  unfold work
  split
  · exact h
  · rename_i hfree
    have hticked : { s with node := s.node.tick elapsed }.Inv := h.node (.refl h.devices)
    dsimp only
    split
    · rename_i task tasks _
      exact inv_perform (hticked.tasks tasks) io task
    · split
      · rename_i tasks _
        exact hticked.tasks tasks
      · rename_i hquiet
        obtain ⟨hdevices, hcounter⟩ := NodeSys.quiet_work hquiet io
        refine h.quiet ?_ hcounter ?_ rfl rfl h.entered
        · intro e he
          exact h.devices e (hdevices ▸ he)
        · intro c hc
          obtain ⟨key, hkey⟩ := h.deviceCalls (Bool.not_eq_true _ ▸ hfree) c hc
          rw [SparkplugNode.contentAt_device (congrArg MessageKind.device hkey),
            SparkplugNode.contentAt_device (congrArg MessageKind.device hkey)]
          exact congrArg (fun list => Option.bind (FoldedMap.get? list key) _) hdevices

theorem inv_stopDevice {s : PublishSys P} (h : s.Inv) (name : Str) : (s.stopDevice name).Inv := by
  unfold stopDevice
  split
  · exact h
  · rename_i d _
    have hinvalid : (s.withSelf
        (s.self.updateDevice name SparkplugDevice.setAllMetricsInvalid)).Inv :=
      h.node (SparkplugNode.undisturbed_updateDevice h.devices name fun d hd =>
        SparkplugDevice.sameContents_invalid hd)
    dsimp only
    split
    · have hallowed : Allowed ⟨false, .deviceDeath name⟩ := .inl ⟨name, rfl⟩
      exact inv_publishDevice hinvalid hallowed rfl d
    · exact hinvalid

theorem inv_take {s : PublishSys P} (h : s.Inv) {i : Nat} (hok : s.Orderly (.take i)) :
    (s.take i).Inv := by
  unfold take
  split
  · exact h
  · rename_i e he
    split
    · exact h
    · rename_i t ht
      have hallowed := h.entered e (List.mem_of_getElem? he)
      have hstate := hallowed.not_state
      have hproto := SparkplugNode.isState_of_topicAt ht hstate
      have htaken : (s.self.onTopicAt e.kind (SparkplugTopic.number s.self.sequenceNumber)).topicAt
          e.kind = some (SparkplugTopic.number s.self.sequenceNumber t) := by
        rw [SparkplugNode.topicAt_onTopicAt _ (SparkplugTopic.number_messageType _), ht]
        rfl
      refine
        { devices := SparkplugNode.devices_onTopicAt h.devices
            (fun t => SparkplugTopic.number_messageType _ t)
            (fun t => SparkplugTopic.number_nameSpace _ t)
          counter := ?_
          numbers := ?_
          topics := ?_
          entered := fun c hc => h.entered c (List.mem_of_mem_eraseIdx hc)
          allowed := ?_
          holds := ?_ }
      · change SparkplugTopic.nextSequenceNumber s.self.sequenceNumber t =
          UInt8.ofNat (s.ended + (s.numbered ++ [_]).length)
        rw [SparkplugTopic.nextSequenceNumber, hproto, if_neg Bool.false_ne_true, h.counter,
          List.length_append, List.length_singleton, ← Nat.add_assoc]
        exact (UInt8.ofNat_add _ 1).symm
      · rw [List.map_append, List.length_append, List.length_singleton, List.range'_1_concat,
          List.map_append, h.numbers, List.map_singleton, h.counter]
        rfl
      · rw [List.map_append, List.map_singleton]
        refine List.nodup_append.mpr ⟨h.topics, List.nodup_singleton _, ?_⟩
        intro a ha b hb hab
        obtain ⟨c, hc, rfl⟩ := List.mem_map.mp ha
        exact hok e he c hc (hab.trans (List.mem_singleton.mp hb))
      · intro c hc
        rcases List.mem_append.mp hc with hc | hc
        · exact h.allowed c hc
        · rw [List.mem_singleton.mp hc]
          exact hallowed
      · intro c hc
        rcases List.mem_append.mp hc with hc | hc
        · refine holds_congr ?_ (h.holds c hc)
          exact congrArg (Option.map Topic.content) (SparkplugNode.topicAt_onTopicAt_ne
            (hok e he c hc) (SparkplugTopic.number_messageType _) s.self)
        · rw [List.mem_singleton.mp hc]
          refine ⟨_, htaken, ?_⟩
          change (SparkplugTopic.number s.self.sequenceNumber t).payload.sequenceNumber = _
          rw [SparkplugTopic.number, hproto]
          rfl

/-- The body that is generated says the number of the payload. -/
theorem carried_generateBody {t : Topic P} (hproto : SparkplugTopic.isState t = false)
    (hserialized : (P.serializeToArray (PayloadHelper.protobufOf false t.payload)).isSome = true) :
    carried P (SparkplugTopic.generateBody t).message = some t.payload.sequenceNumber := by
  obtain ⟨body, hbody⟩ := Option.isSome_iff_exists.mp hserialized
  have hmessage : (SparkplugTopic.generateBody t).message.body = body := by
    rw [SparkplugTopic.generateBody, hproto, if_neg Bool.false_ne_true]
    change (P.serializeToArray (PayloadHelper.protobufOf false t.payload)).getD [] = body
    rw [hbody]
    rfl
  rw [carried, hmessage, P.parse_serialize _ _ hbody]
  rfl

theorem map_modify_same {α β : Type} {f : α → β} {g : α → α} (h : ∀ a, f (g a) = f a)
    (i : Nat) (list : List α) : (list.modify i g).map f = list.map f := by
  apply List.ext_getElem?
  intro j
  simp only [List.getElem?_map, List.getElem?_modify]
  cases list[j]? with
  | none => split <;> rfl
  | some a =>
    split
    · exact congrArg some (h a)
    · rfl

theorem inv_generate {s : PublishSys P} (h : s.Inv) {i : Nat} (hok : s.Orderly (.generate i)) :
    (s.generate i).Inv := by
  unfold generate
  split
  · exact h
  · rename_i c hc
    split
    · exact h
    · rename_i hfresh
      obtain ⟨t, ht, hnumber⟩ := h.holds c (List.mem_of_getElem? hc)
      rw [if_neg hfresh] at hnumber
      have hproto := SparkplugNode.isState_of_topicAt ht
        (h.allowed c (List.mem_of_getElem? hc)).not_state
      have hgenerated : (s.self.onTopicAt c.kind SparkplugTopic.generateBody).topicAt c.kind =
          some (SparkplugTopic.generateBody t) := by
        rw [SparkplugNode.topicAt_onTopicAt _ SparkplugTopic.generateBody_messageType, ht]
        rfl
      have hcalls : (s.numbered.modify i NumberedCall.withBody).map NumberedCall.toEnteredCall =
          s.numbered.map NumberedCall.toEnteredCall :=
        map_modify_same (g := NumberedCall.withBody) (fun _ => rfl) i _
      refine
        { devices := SparkplugNode.devices_onTopicAt h.devices
            SparkplugTopic.generateBody_messageType SparkplugTopic.generateBody_nameSpace
          counter := ?_
          numbers := ?_
          topics := ?_
          entered := h.entered
          allowed := ?_
          holds := ?_ }
      · change (s.self.onTopicAt c.kind SparkplugTopic.generateBody).sequenceNumber =
          UInt8.ofNat (s.ended + (s.numbered.modify i _).length)
        rw [SparkplugNode.onTopicAt_sequenceNumber, List.length_modify, h.counter]
      · change (s.numbered.modify i _).map NumberedCall.number =
          (List.range' s.ended (s.numbered.modify i _).length).map UInt8.ofNat
        rw [List.length_modify, ← h.numbers]
        exact map_modify_same (g := NumberedCall.withBody) (fun _ => rfl) i _
      · change ((s.numbered.modify i _).map fun c => c.kind.topicKey P).Nodup
        have htopics :
            (s.numbered.modify i NumberedCall.withBody).map (fun c => c.kind.topicKey P) =
              s.numbered.map fun c => c.kind.topicKey P :=
          map_modify_same (g := NumberedCall.withBody) (fun _ => rfl) i _
        rw [htopics]
        exact h.topics
      · intro d hd
        have hmem := List.mem_map_of_mem (f := NumberedCall.toEnteredCall) hd
        rw [hcalls] at hmem
        obtain ⟨e, he, heq⟩ := List.mem_map.mp hmem
        rw [← heq]
        exact h.allowed e he
      · intro d hd
        obtain ⟨j, hj⟩ := List.mem_iff_getElem?.mp hd
        simp only [List.getElem?_modify] at hj
        obtain ⟨e, he, rfl⟩ := Option.map_eq_some_iff.mp hj
        split
        · rename_i hij
          rw [← hij, hc] at he
          obtain rfl := Option.some.inj he
          refine ⟨_, hgenerated, ?_⟩
          change carried P (SparkplugTopic.generateBody t).message = some c.number.toUInt64
          rw [carried_generateBody hproto (hok c hc t ht), hnumber]
        · rename_i hij
          refine holds_congr ?_ (h.holds e (List.mem_of_getElem? he))
          refine congrArg (Option.map Topic.content) (SparkplugNode.topicAt_onTopicAt_ne ?_
            SparkplugTopic.generateBody_messageType s.self)
          intro hsame
          have hlt := (List.getElem?_eq_some_iff.mp hc).1
          refine hij ((List.getElem?_inj ((List.length_map _).symm ▸ hlt) h.topics).mp ?_)
          rw [List.getElem?_map, List.getElem?_map, hc, he, Option.map_some, Option.map_some, hsame]

/-- The oldest call ends. -/
theorem Inv.ends {s t : PublishSys P} (h : s.Inv) {c : NumberedCall}
    (hcalls : s.numbered = c :: t.numbered) (hended : t.ended = s.ended + 1)
    (hnode : t.node = s.node) (hentered : t.entered = s.entered) : t.Inv := by
  have hself : t.self = s.self := congrArg NodeSys.self hnode
  have htopics := h.topics
  have hnumbers := h.numbers
  have hcounter := h.counter
  rw [hcalls] at htopics hnumbers hcounter
  refine
    { devices := by
        rw [hself]
        exact h.devices
      counter := ?_
      numbers := ?_
      topics := (List.nodup_cons.mp htopics).2
      entered := by
        rw [hentered]
        exact h.entered
      allowed := ?_
      holds := ?_ }
  · rw [hself, hcounter, hended, List.length_cons, Nat.add_assoc, Nat.add_comm 1]
  · rw [List.length_cons, List.range'_succ, List.map_cons, List.map_cons] at hnumbers
    rw [hended]
    exact (List.cons.inj hnumbers).2
  · intro d hd
    exact h.allowed d (hcalls ▸ List.mem_cons_of_mem c hd)
  · intro d hd
    rw [hself]
    exact h.holds d (hcalls ▸ List.mem_cons_of_mem c hd)

theorem numbered_cons {s : PublishSys P} {c : NumberedCall} (h : s.numbered[0]? = some c) :
    s.numbered = c :: s.numbered.eraseIdx 0 := by
  cases hnumbered : s.numbered with
  | nil =>
    rw [hnumbered] at h
    cases h
  | cons d ds =>
    rw [hnumbered] at h
    obtain rfl := Option.some.inj h
    rfl

theorem inv_send {s : PublishSys P} (h : s.Inv) {i : Nat} {accepted : Bool}
    (hok : s.Orderly (.send i accepted)) : (s.send i accepted).Inv := by
  obtain rfl : i = 0 := hok
  unfold send
  split
  · exact h
  · rename_i c hc
    have hrest := numbered_cons hc
    split
    · split
      · exact h
      · split
        · refine h.ends hrest ?_ rfl rfl
          simp only [ended, List.length_append, List.length_singleton]
          omega
        · exact h.ends hrest rfl rfl rfl
    · exact h

theorem inv_step (s : PublishSys P) (e : PublishEvent P) (h : s.Inv) (hok : s.Orderly e) :
    (s.step e).Inv := by
  cases e with
  | act a => exact inv_act h hok
  | work elapsed io => exact inv_work h elapsed io
  | stopDevice device => exact inv_stopDevice h device
  | take i => exact inv_take h hok
  | generate i => exact inv_generate h hok
  | send i accepted => exact inv_send h hok

theorem inv_init (now : UInt64) (setups : List Setup) : (init (P := P) now setups).Inv where
  devices := NodeSys.devices_configured SparkplugDevice.hasTopics_invariant now setups
  counter := sequenceNumber_configured now setups
  numbers := rfl
  topics := List.nodup_nil
  entered _ hc := absurd hc List.not_mem_nil
  allowed _ hc := absurd hc List.not_mem_nil
  holds _ hc := absurd hc List.not_mem_nil

theorem publishDevice_accepted (byWorker : Bool) (kind : MessageKind) (d : SparkplugDevice P)
    (s : PublishSys P) : (s.publishDevice byWorker kind d).accepted = s.accepted := by
  unfold publishDevice
  split
  · rfl
  · dsimp only
    split <;> rfl

theorem perform_accepted (io : Outcomes) (s : PublishSys P) (task : WorkerTask) :
    (s.perform io task).accepted = s.accepted := by
  have hnode : ∀ kind, (s.publishNode kind).accepted = s.accepted := by
    intro kind
    unfold publishNode
    split
    · split <;> rfl
    · rfl
  cases task with
  | publishNodeBirth => exact hnode _
  | publishNodeDeath => exact hnode _
  | poll key =>
    change (s.pollDevice key).accepted = s.accepted
    unfold pollDevice
    split
    · rfl
    · split
      · split
        · exact publishDevice_accepted _ _ _ s
        · rfl
      · split
        · exact publishDevice_accepted _ _ _ s
        · rfl
      · rfl
  | _ => rfl

/-- Only a message that the library takes is added to the accepted ones. -/
theorem step_accepted (s : PublishSys P) {e : PublishEvent P} (h : ∀ i, e ≠ .send i true) :
    (s.step e).accepted = s.accepted := by
  cases e with
  | act a => exact (s.act_calls a).2.2.1
  | work elapsed io =>
    change (s.work elapsed io).accepted = s.accepted
    unfold work
    split
    · rfl
    · dsimp only
      split
      · exact perform_accepted _ _ _
      · split <;> rfl
  | stopDevice device =>
    change (s.stopDevice device).accepted = s.accepted
    unfold stopDevice
    split
    · rfl
    · dsimp only
      split
      · exact publishDevice_accepted _ _ _ _
      · rfl
  | take i =>
    change (s.take i).accepted = s.accepted
    unfold take
    split
    · rfl
    · split <;> rfl
  | generate i =>
    change (s.generate i).accepted = s.accepted
    unfold generate
    split
    · rfl
    · split <;> rfl
  | send i accepted =>
    cases accepted with
    | true => exact absurd rfl (h i)
    | false =>
      change (s.send i false).accepted = s.accepted
      unfold send
      split
      · rfl
      · split
        · split <;> rfl
        · rfl

theorem gapFree_append {s t : PublishSys P} (h : s.GapFree) {m : MqttMessage}
    (ht : t.accepted = s.accepted ++ [m]) :
    t.GapFree ↔ carried P m = some (UInt64.ofNat (s.accepted.length % 256)) := by
  unfold GapFree at h ⊢
  rw [ht, List.map_append, h, List.length_append, List.length_singleton, List.range_succ,
    List.map_append, List.append_cancel_left_eq, List.map_singleton, List.map_singleton]
  exact List.singleton_inj

/-- The number of the oldest call is the next one that is expected, or it is ahead by the
refused messages. -/
theorem number_expected_iff (accepted refused : Nat) :
    (UInt8.ofNat (accepted + refused)).toUInt64 = UInt64.ofNat (accepted % 256) ↔
      256 ∣ refused := by
  rw [← UInt64.toNat_inj, UInt8.toNat_toUInt64, UInt8.toNat_ofNat', UInt64.toNat_ofNat']
  omega

/-- A message continues the count exactly if the refused ones are a multiple of 256. -/
theorem gapFree_step (s : PublishSys P) (e : PublishEvent P) (h : s.Inv) (hok : s.Orderly e)
    (hgood : s.GapFree) : (s.step e).GapFree ↔ s.InStep e := by
  by_cases hsend : ∃ i, e = .send i true
  · obtain ⟨i, rfl⟩ := hsend
    obtain rfl : i = 0 := hok
    change (s.send 0 true).GapFree ↔ (s.numbered[0]?.any NumberedCall.generated = true → _)
    unfold send
    split
    · rename_i hnone
      rw [hnone]
      exact iff_of_true hgood fun hany => absurd hany Bool.false_ne_true
    · rename_i c hc
      rw [hc, Option.any_some]
      split
      · rename_i hgenerated
        obtain ⟨t, ht, hcarried⟩ := h.holds c (List.mem_of_getElem? hc)
        rw [if_pos hgenerated] at hcarried
        have hnumber : c.number = UInt8.ofNat s.ended := by
          have hnumbers := h.numbers
          rw [numbered_cons hc, List.length_cons, List.range'_succ, List.map_cons,
            List.map_cons] at hnumbers
          exact (List.cons.inj hnumbers).1
        rw [ht]
        refine (gapFree_append hgood (m := t.message) rfl).trans ?_
        rw [hcarried, hnumber, Option.some.injEq, ended, number_expected_iff]
        exact ⟨fun h _ => h, fun h => h hgenerated⟩
      · rename_i hfresh
        exact iff_of_true hgood fun hgenerated => absurd hgenerated hfresh
  · have hsame := s.step_accepted fun i he => hsend ⟨i, he⟩
    have hstays : (s.step e).GapFree := by
      unfold GapFree
      rw [hsame]
      exact hgood
    refine iff_of_true hstays ?_
    cases e with
    | send i accepted =>
      cases accepted with
      | true => exact absurd ⟨i, rfl⟩ hsend
      | false => trivial
    | _ => trivial

/-- In the runs in which the calls keep in order, the accepted messages count from zero,
modulo 256, exactly if every message is accepted after a multiple of 256 refused ones. -/
theorem gap_free_iff (now : UInt64) (setups : List Setup) {es : List (PublishEvent P)}
    (horder : RunOk step Orderly (init now setups) es) :
    (∀ pre post, es = pre ++ post → (run step (init now setups) pre).GapFree) ↔
      RunOk step InStep (init now setups) es :=
  runOk_iff_within inv_step gapFree_step (inv_init now setups) rfl horder

end PublishSys

namespace SequenceGaps

def setups : List Setup :=
  [.group (str "G"), .name (str "N"), .createDevice (str "D") 0, .createDevice (str "E") 0]

def moves (n : Nat) : List (PublishEvent .reference) := List.replicate n (.work 0 {})

def call (accepted : Bool) : List (PublishEvent .reference) :=
  [.take 0, .generate 0, .send 0 accepted]

/-- Up to the publication of the first device. -/
def online : List (PublishEvent .reference) :=
  [.act (.event .start)] ++ moves 3 ++ [.act (.event (.link .accepted))] ++ moves 4 ++ call true ++
    moves 11

/-- The DBIRTH of one device and the DDEATH of the other, which is stopped. -/
def together : List (PublishEvent .reference) :=
  online ++ call true ++ moves 2 ++ [.stopDevice (str "D"), .take 0, .take 0]

/-- The node with two devices after a run. -/
def after (es : List (PublishEvent .reference)) : PublishSys .reference :=
  run PublishSys.step (PublishSys.init 0 setups) es

end SequenceGaps

open SequenceGaps in
theorem in_order_without_gaps :
    (after (together ++ [.generate 1, .generate 0, .send 0 true, .send 0 true])).GapFree :=
  (PublishSys.gap_free_iff 0 setups (by decide +kernel)).mpr (by decide +kernel) _ []
    (List.append_nil _).symm

open SequenceGaps in
/-- The DBIRTH of the first device is refused; the DDEATH overtakes the DBIRTH. -/
theorem numbers_are_lost_and_swapped :
    ¬ (after (online ++ call false ++ moves 2 ++ call true)).GapFree ∧
    ¬ (after (together ++
      [.generate 1, .send 1 true, .generate 0, .send 0 true])).GapFree := by
  constructor
  · decide +kernel
  · decide +kernel

end PubSub
