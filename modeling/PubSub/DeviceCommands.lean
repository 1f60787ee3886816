import PubSub.LocalDevices
import PubSub.DeviceMirror

/-!
# Commands for the devices of a node

The constructor of a device marks its topics as published, nothing takes the mark away, and
the handler of device commands passes over published topics. So a command for a device of
the node itself changes nothing; it is obeyed exactly if the device has the commanded values
and null flags.
-/

namespace PubSub
set_option autoImplicit false

namespace TopicList
variable {P : Platform}

def AllPublish (list : TopicList P) : Prop := ∀ t ∈ list, t.publish = true

theorem AllPublish.update {list : TopicList P} (h : list.AllPublish) (messageType : Str)
    {f : Topic P → Topic P} (hf : ∀ t, t.publish = true → (f t).publish = true) :
    AllPublish (list.update messageType f) := by
  intro t ht
  obtain ⟨i, hi⟩ := List.mem_iff_getElem?.mp ht
  simp only [TopicList.update, List.getElem?_modify] at hi
  obtain ⟨s, hs, hst⟩ := Option.map_eq_some_iff.mp hi
  have hpublish := h s (List.mem_of_getElem? hs)
  split at hst
  · rw [← hst]
    exact hf s hpublish
  · rw [← hst]
    exact hpublish

theorem update_id (messageType : Str) (list : TopicList P) :
    (list.update messageType fun t => t) = list := by
  unfold update
  exact List.modify_id _ _

end TopicList

namespace SparkplugDevice
variable {P : Platform}

/-- The topics of the device have the publish flag. -/
def Publishes (d : SparkplugDevice P) : Prop := TopicList.AllPublish d.topicList

theorem setTopic_publish (name : Str) (t : Topic P) : (t.setTopic name).publish = t.publish := by
  have h := Topic.assignLevels_content name 0 [] { t with topic := name }
  unfold Topic.setTopic
  dsimp only
  split
  · exact h.publish
  · exact h.publish

theorem Publishes.publishMessage {d : SparkplugDevice P} (h : d.Publishes) (messageType : Str)
    (kind : MessageKind) (parent : ParentView) (now : UInt64) (o : Outbox P) :
    (d.publishMessage messageType kind parent now o).1.Publishes := by
  unfold SparkplugDevice.publishMessage
  split
  · exact h
  · rename_i t ht
    have hsent : ((t.setTopic (d.topicPath messageType parent.name)).onPayload fun p =>
        p.setTimestamp now false).publish = true :=
      (setTopic_publish _ t).trans (h t (List.mem_of_find?_eq_some ht))
    apply TopicList.AllPublish.update h
    intro _ _
    split
    · exact (Topic.doPublish_publish o.sequenceNumber _).trans hsent
    · exact hsent

theorem Publishes.setAllMetricsInvalid {d : SparkplugDevice P} (h : d.Publishes) :
    d.setAllMetricsInvalid.Publishes := by
  intro t ht
  obtain ⟨s, hs, rfl⟩ := List.mem_map.mp ht
  split
  · exact h s hs
  · exact h s hs

theorem publishes_invariant : Invariant (P := P) Publishes where
  create parentName now _ _ t ht := (asCreated_create parentName now t ht).1
  start _ h := h.setAllMetricsInvalid
  inService _ _ h := h
  poll key parent now o d h := by
    unfold poll
    split
    · split
      · exact (h.publishMessage _ _ parent now o).setAllMetricsInvalid
      · exact h
    · split
      · exact h.publishMessage _ _ parent now o
      · exact h
    · exact h.setAllMetricsInvalid
  stop key parent now o d h := by
    unfold stop
    dsimp only
    split
    · exact h.setAllMetricsInvalid.publishMessage _ _ parent now o
    · exact h.setAllMetricsInvalid
  addMetric m _ h := TopicList.AllPublish.update h _ fun _ ht => ht
  number n d h := by
    change TopicList.AllPublish (d.topicList.assignAliasNumbers (str "DBIRTH") n).2
    unfold TopicList.assignAliasNumbers
    split
    · exact h
    · exact TopicList.AllPublish.update h _ fun _ ht => ht
  update now body d h := by
    have hsame := TopicList.receive_published h (str "DBIRTH")
      (Payload.receiveProtobuf true now body)
    exact (congrArg TopicList.AllPublish hsame).mpr h
  death now body d h := by
    have hsame := TopicList.receiveDeath_published h (str "DBIRTH") (str "DDEATH")
      (Payload.receiveProtobuf true now body)
    exact (congrArg TopicList.AllPublish hsame).mpr h

end SparkplugDevice

namespace Payload
variable {P : Platform}

def names (p : Payload P) : List Str := p.metricList.entries.map Prod.fst

/-- The metric that an entry of a message stands for, by its name or its alias. -/
def namedBy (p : Payload P) (pb : PbMetric) : Option Str :=
  (p.metricList.entries.find? fun e => PayloadHelper.entryMatches P pb e.1 e.2).map Prod.fst

def entriesFor (p : Payload P) (entries : List PbMetric) (name : Str) : List PbMetric :=
  entries.filter fun pb => p.namedBy pb == some name

/-- The last value that the entries of a message carry for a metric. -/
def commanded (p : Payload P) (entries : List PbMetric) (name : Str) : Option PbValue :=
  (((p.entriesFor entries name).filter fun pb => pb.value != .notSet).getLast?).map PbMetric.value

/-- The null flag that the last entry for a metric carries; an entry without one says that the
metric is not null. -/
def commandedNull (p : Payload P) (entries : List PbMetric) (name : Str) : Option Bool :=
  ((p.entriesFor entries name).getLast?).map fun pb => pb.isNull.getD false

/-- The metric `m`, which was `e` before, has the null flag and the value that the entries of a
message carry for it; the value is read as one of the metric's datatype. -/
structure Shows (p : Payload P) (entries : List PbMetric) (e : Str × Metric) (m : Metric) :
    Prop where
  isNull : ∀ null, p.commandedNull entries e.1 = some null → m.isNull = null
  value : ∀ v, p.commanded entries e.1 = some v →
    m.typedValue P = (PayloadHelper.parseMetricValue P v e.2).typedValue P

end Payload

/-- A DCMD for a device of the node that receives it, in any state of the node in which the
library delivers messages. -/
structure DeviceCommand (P : Platform) where
  created : UInt64
  setups : List Setup
  acts : List (NodeAct P)
  topicName : Str
  body : BodyList
  receives : Mqtt.receives (run NodeSys.act (NodeSys.init created setups) acts).handle = true
  isCommand : (Receiver.parseTopic P topicName).messageType = str "DCMD"
  ownNode : Receiver.isNodeNamed (Receiver.parseTopic P topicName).groupId
    (Receiver.parseTopic P topicName).nodeId
    (run NodeSys.act (NodeSys.init created setups) acts).self = true
  ownDevice : ((run NodeSys.act (NodeSys.init created setups) acts).self.getDevice
    (Receiver.parseTopic P topicName).deviceId).isSome = true

namespace DeviceCommand
variable {P : Platform}

def before (c : DeviceCommand P) : NodeSys P :=
  run NodeSys.act (NodeSys.init c.created c.setups) c.acts

def after (c : DeviceCommand P) : NodeSys P := c.before.step (.message c.topicName c.body)

def device (c : DeviceCommand P) : Str := (Receiver.parseTopic P c.topicName).deviceId

def entries (c : DeviceCommand P) : List PbMetric :=
  (⟨c.topicName, c.before.now, c.body⟩ : Delivery).metrics P

/-- The DBIRTH payload of the device when the command arrives. -/
def payload (c : DeviceCommand P) : Option (Payload P) :=
  ((c.before.self.getDevice c.device).bind fun d =>
    d.topicList.getTopicByMessageType (str "DBIRTH")).map Topic.payload

/-- The command sets every metric of the device that it names to the value and the null flag that
it carries. It creates no metric, and nothing else changes. -/
def Obeyed (c : DeviceCommand P) : Prop :=
  ∀ p, c.payload = some p → ∃ store : Payload P → Payload P,
    c.after.receiver = { c.before.receiver with
      self := c.before.self.onDevice c.device fun list =>
        list.update (str "DBIRTH") fun t => t.onPayload store } ∧
    (store p).names = p.names ∧
    ∀ e ∈ p.metricList.entries, ∃ m, (store p).getMetric e.1 = some m ∧ p.Shows c.entries e m

end DeviceCommand

namespace SparkplugNode
variable {P : Platform}

theorem onDevice_same {f : TopicList P → TopicList P} {n : SparkplugNode P}
    (hf : ∀ e ∈ n.deviceList.entries, f e.2.topicList = e.2.topicList) (device : Str) :
    n.onDevice device f = n := by
  have hsame : ∀ e ∈ n.deviceList.entries,
      ({ e.2 with topicList := f e.2.topicList } : SparkplugDevice P) = e.2 :=
    fun e he => by rw [hf e he]
  have hentries := Entries.map_updateFirst_of_same
    (f := fun d : SparkplugDevice P => { d with topicList := f d.topicList }) (g := fun d => d)
    hsame (Entries.sameKey P.foldKey device)
  have hlist : n.deviceList.update device (fun d => { d with topicList := f d.topicList }) =
      n.deviceList := by
    apply FoldedMap.ext
    rw [List.map_id', List.map_id'] at hentries
    exact hentries
  unfold onDevice
  split
  · rfl
  · unfold updateDevice
    rw [hlist]

theorem getDevice_onDevice (device : Str) (f : TopicList P → TopicList P) (n : SparkplugNode P) :
    (n.onDevice device f).getDevice device =
      (n.getDevice device).map fun d => d.onTopics f := by
  unfold onDevice
  split
  · rename_i hnone
    rw [hnone]
    rfl
  · unfold getDevice updateDevice
    dsimp only
    split
    · rfl
    · exact FoldedMap.get?_update_self n.deviceList device fun d => d.onTopics f

end SparkplugNode

namespace DeviceCommand
variable {P : Platform}

theorem message_deviceCommand {topicName : Str}
    (h : (Receiver.parseTopic P topicName).messageType = str "DCMD") (r : Receiver P)
    (now : UInt64) (body : BodyList) : r.message topicName now body =
      r.handleDeviceCommandMessage (Receiver.parseTopic P topicName).groupId
        (Receiver.parseTopic P topicName).nodeId (Receiver.parseTopic P topicName).deviceId
        now body := by
  unfold Receiver.message
  dsimp only
  rw [h, if_neg (by decide), if_neg (by decide), if_neg (by decide), if_neg (by decide),
    if_neg (by decide), if_neg (by decide), if_neg (by decide), if_pos rfl]

/-- The handler passes over the devices of the node itself. -/
theorem deviceUpdate_own {r : Receiver P} (hdevices : r.self.Devices SparkplugDevice.Publishes)
    {group node : Str} (hown : Receiver.isNodeNamed group node r.self = true) (device : Str)
    (now : UInt64) (body : BodyList) : r.handleDeviceUpdate group node device now body = r := by
  unfold Receiver.handleDeviceUpdate
  split
  · rfl
  · rename_i hnames
    have hfound : r.getNode group node = some .self := by
      unfold Receiver.getNode
      rw [if_neg fun h => hnames (h.imp_right .inl), if_pos hown]
    have hself : (r.self.onDevice device fun list => list.receive (str "DBIRTH")
        (Payload.receiveProtobuf true now body)) = r.self :=
      SparkplugNode.onDevice_same
        (fun e he => TopicList.receive_published (hdevices e he) _ _) device
    rw [Receiver.ensureNode_some hfound]
    unfold Receiver.onNode
    rw [hfound]
    unfold Receiver.update
    dsimp only
    rw [hself]

theorem after_receiver (c : DeviceCommand P) : c.after.receiver = c.before.receiver := by
  have hdevices : c.before.receiver.self.Devices SparkplugDevice.Publishes :=
    NodeSys.devices_run SparkplugDevice.publishes_invariant c.created c.setups c.acts
  have hreceives : Mqtt.receives c.before.handle = true := c.receives
  have hstep : c.after = { c.before with
      receiver := c.before.receiver.message c.topicName c.before.now c.body } := by
    change c.before.message c.topicName c.body = _
    unfold NodeSys.message
    rw [if_pos hreceives]
  rw [hstep, message_deviceCommand c.isCommand]
  exact deviceUpdate_own hdevices c.ownNode _ _ _

/-- A command that is obeyed finds what it carries. -/
theorem Obeyed.shows {c : DeviceCommand P} (h : c.Obeyed) {p : Payload P}
    (hp : c.payload = some p) {e : Str × Metric} (he : e ∈ p.metricList.entries) :
    p.Shows c.entries e e.2 := by
  obtain ⟨store, hreceiver, -, hmetrics⟩ := h p hp
  obtain ⟨m, hm, hshows⟩ := hmetrics e he
  have hsame : store p = p := by
    have hself : c.before.self = c.before.self.onDevice c.device fun list =>
        list.update (str "DBIRTH") fun t => t.onPayload store :=
      congrArg Receiver.self ((after_receiver c).symm.trans hreceiver)
    have hdevice := SparkplugNode.getDevice_onDevice c.device
      (fun list => list.update (str "DBIRTH") fun t => t.onPayload store) c.before.self
    rw [← hself] at hdevice
    have hstored : c.payload = c.payload.map store := by
      unfold payload
      generalize c.before.self.getDevice c.device = found at hdevice ⊢
      cases found with
      | none => rfl
      | some d =>
        have htopics := @TopicList.find_update_self P (str "DBIRTH")
          (fun t => t.onPayload store) (fun _ => rfl) d.topicList
        have hlist : d.topicList = d.topicList.update (str "DBIRTH") fun t => t.onPayload store :=
          congrArg (fun d : SparkplugDevice P => d.topicList) (Option.some.inj hdevice)
        rw [← hlist] at htopics
        refine (congrArg (Option.map Topic.payload) htopics).trans ?_
        rw [Option.bind_some, Option.map_map, Option.map_map]
        rfl
    rw [hp, Option.map_some] at hstored
    exact (Option.some.inj hstored).symm
  have hfound : p.getMetric e.1 = some e.2 := FoldedMap.get?_of_mem he rfl
  rw [hsame, hfound] at hm
  rw [← Option.some.inj hm] at hshows
  exact hshows

/-- A command is obeyed exactly if the device has the values and null flags that it carries. -/
theorem obeyed_iff (c : DeviceCommand P) :
    c.Obeyed ↔ ∀ p, c.payload = some p → ∀ e ∈ p.metricList.entries,
      p.Shows c.entries e e.2 := by
  constructor
  · intro h p hp e he
    exact h.shows hp he
  · intro h p hp
    refine ⟨fun q => q, ?_, rfl, ?_⟩
    · have hsame : (c.before.self.onDevice c.device fun list =>
          list.update (str "DBIRTH") fun t => t.onPayload fun q => q) = c.before.self :=
        SparkplugNode.onDevice_same (fun e _ => TopicList.update_id _ _) _
      rw [after_receiver, hsame]
      rfl
    · intro e he
      exact ⟨e.2, FoldedMap.get?_of_mem he rfl, h p hp e he⟩

/-- A node with one device is told to reboot the device. -/
def reboot : DeviceCommand Platform.reference where
  created := 0
  setups := [.group (str "G"), .name (str "N"), .createDevice (str "D") 0]
  acts := ([.start, .work 0 {}, .work 0 {}, .work 0 {}, .link .accepted, .callback true .mqtt311,
    .work 0 {}, .work 0 {}] : List (NodeEvent Platform.reference)).map .event
  topicName := str "spBv1.0/G/DCMD/N/D"
  body := ProtobufCodec.serialize
    { metrics := [{ name := some (str "Device Control/Reboot"), value := .booleanValue true }] }
  receives := by decide +kernel
  isCommand := by decide +kernel
  ownNode := by decide +kernel
  ownDevice := by decide +kernel

theorem reboot_is_not_obeyed : ¬ reboot.Obeyed := by
  intro h
  have hmissed : (reboot.payload.toList.any fun p => p.metricList.entries.any fun e =>
      (p.commanded reboot.entries e.1).toList.any fun v =>
        decide (e.2.typedValue Platform.reference ≠
          (PayloadHelper.parseMetricValue Platform.reference v e.2).typedValue
            Platform.reference)) = true := by decide +kernel
  obtain ⟨p, hp, hmetrics⟩ := List.any_eq_true.mp hmissed
  obtain ⟨e, he, hcommand⟩ := List.any_eq_true.mp hmetrics
  obtain ⟨v, hv, hdiffer⟩ := List.any_eq_true.mp hcommand
  exact of_decide_eq_true hdiffer
    ((h.shows (Option.mem_toList.mp hp) he).value v (Option.mem_toList.mp hv))

end DeviceCommand
end PubSub
