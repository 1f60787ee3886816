import PubSub.Mirrors
import PubSub.Reference

/-!
# Mirrored devices

The constructor of a device sets the publish flag of its topics, and the handlers of device
messages pass over topics with that flag. So the mirror of a remote device keeps the metrics
of its constructor, all of them valid, whatever is received for it.
-/

namespace PubSub
set_option autoImplicit false

structure DeviceAddress where
  group : Str
  node : Str
  device : Str

namespace Delivery

/-- The message is addressed to the device; names are compared ignoring case. -/
def Reaches (P : Platform) (a : DeviceAddress) (m : Delivery) : Prop :=
  P.iEquals (m.topic P).groupId a.group = true ∧ P.iEquals (m.topic P).nodeId a.node = true ∧
    P.iEquals (m.topic P).deviceId a.device = true

instance (P : Platform) (a : DeviceAddress) (m : Delivery) : Decidable (m.Reaches P a) :=
  inferInstanceAs (Decidable (_ ∧ _ ∧ _))

/-- The metrics that the body carries. -/
def metrics (P : Platform) (m : Delivery) : List PbMetric :=
  match P.parseFromArray m.body with
  | none => []
  | some pb => pb.metrics

end Delivery

/-- The entry gives a value to the metric with the name and the alias. -/
def PbMetric.gives (P : Platform) (name : Str) (aliasNumber : UInt64) (pb : PbMetric) : Bool :=
  pb.value != .notSet && match pb.name with
    | some other => P.iEquals other name
    | none => pb.aliasNumber == some aliasNumber

/-- A node or a host that receives messages: anything it likes, then a DBIRTH of a device of
another node, then DDATA messages of the device among messages for others, and a DDEATH. -/
structure DeviceStory (P : Platform) where
  address : DeviceAddress
  receiver : Receiver P
  fresh : receiver.nodeList = []
  isRemote : Receiver.isNodeNamed address.group address.node receiver.self = false
  before : List Delivery
  birth : Delivery
  birthType : (birth.topic P).messageType = str "DBIRTH"
  birthReaches : birth.Reaches P address
  later : List Delivery
  laterData : ∀ m ∈ later, m.Reaches P address → (m.topic P).messageType = str "DDATA"
  death : Delivery
  deathType : (death.topic P).messageType = str "DDEATH"
  deathReaches : death.Reaches P address

namespace Receiver
variable {P : Platform}

def mirroredDevice (r : Receiver P) (a : DeviceAddress) : Option (SparkplugDevice P) :=
  (r.nodeList.find? (isNodeNamed a.group a.node)).bind fun n => n.getDevice a.device

/-- The metric in the DBIRTH payload of the mirrored device. -/
def mirroredMetric (r : Receiver P) (a : DeviceAddress) (name : Str) : Option Metric :=
  ((r.mirroredDevice a).bind fun d => d.topicList.getTopicByMessageType (str "DBIRTH")).bind
    fun t => t.payload.getMetric name

end Receiver

namespace DeviceStory
variable {P : Platform}

def beforeDeath (s : DeviceStory P) : Receiver P :=
  run Receiver.deliver s.receiver (s.before ++ s.birth :: s.later)

def afterDeath (s : DeviceStory P) : Receiver P := s.beforeDeath.deliver s.death

/-- What the DBIRTH and the DDATA messages carry, in order. -/
def reported (s : DeviceStory P) : List PbMetric :=
  s.birth.metrics P ++
    (s.later.filter fun m => decide (m.Reaches P s.address)).flatMap (Delivery.metrics P)

/-- The last value that the messages give to a metric. -/
def lastValue (s : DeviceStory P) (name : Str) (aliasNumber : UInt64) : Option PbValue :=
  ((s.reported.filter (PbMetric.gives P name aliasNumber)).getLast?).map PbMetric.value

/-- The mirror holds a metric that the DBIRTH declares: the datatype, the alias and the last
value, read as a value of the datatype. -/
def Holds (s : DeviceStory P) (pb : PbMetric) (name : Str) : Prop :=
  ∃ m, s.beforeDeath.mirroredMetric s.address name = some m ∧
    m.datatype = MetricType.ofDataType (pb.datatype.getD 0) ∧
    m.aliasNumber = pb.aliasNumber.getD 0 ∧
    ∀ v, s.lastValue name m.aliasNumber = some v →
      m.typedValue P =
        (PayloadHelper.parseMetricValue P v { datatype := m.datatype }).typedValue P

def Stale (s : DeviceStory P) (name : Str) : Prop :=
  ∃ m, s.afterDeath.mirroredMetric s.address name = some m ∧ m.valid = false

/-- The mirror holds every metric that the DBIRTH names, and the DDEATH makes it invalid. -/
def Mirrored (s : DeviceStory P) : Prop :=
  ∀ pb ∈ s.birth.metrics P, ∀ name, pb.name = some name → name ≠ [] →
    s.Holds pb name ∧ s.Stale name

end DeviceStory

namespace Payload
variable {P : Platform}

/-- All the metrics are valid. -/
def AllValid (p : Payload P) : Prop := ∀ e ∈ p.metricList.entries, e.2.valid = true

theorem AllValid.withMetric {p : Payload P} (h : p.AllValid) (name : Str) {f : Metric → Metric}
    (hf : ∀ m, (f m).valid = true) : (p.withMetric name f).AllValid := by
  intro e he
  have hmem : e ∈ Entries.updateFirst (Entries.sameKey P.foldKey name) f
      (Entries.insert P.foldKey name { name := name } p.metricList.entries) := he
  have hsorted : Entries.Sorted P.foldKey
      (Entries.insert P.foldKey name ({ name := name } : Metric) p.metricList.entries) :=
    Entries.insert_sorted p.metricList.sorted
  rcases Entries.mem_updateFirst_sameKey hsorted hmem with ⟨hne, hin⟩ | ⟨m, _, heq⟩
  · rcases Entries.mem_insert_subset hin with rfl | hold
    · exact absurd rfl hne
    · exact h e hold
  · rw [heq]
    exact hf m

theorem AllValid.withHardware {p : Payload P} (h : p.AllValid) (name value : Str) :
    (p.withHardware name value).AllValid := by
  unfold Payload.withHardware
  split
  · exact h
  · exact h.withMetric name fun m => Metric.setString_valid P _ _

theorem AllValid.setTimestamp {p : Payload P} (h : p.AllValid) (now : UInt64) :
    (p.setTimestamp now true).AllValid := by
  intro e he
  simp only [Payload.setTimestamp, if_true, FoldedMap.entries_mapValues, Entries.mapValues,
    List.mem_map] at he
  obtain ⟨a, ha, rfl⟩ := he
  rcases Entries.mem_updateFirst ha with ha | ⟨m, _, heq⟩
  · exact h a ha
  · exact congrArg Metric.valid heq

end Payload

namespace SparkplugDevice
variable {P : Platform}

/-- The topics have the publish flag, and all their metrics are valid. -/
def AsCreated (d : SparkplugDevice P) : Prop :=
  ∀ t ∈ d.topicList, t.publish = true ∧ t.payload.AllValid

theorem baseTopic_payload (messageType parentName : Str) (d : SparkplugDevice P) :
    (d.baseTopic messageType parentName).payload = {} :=
  Topic.setTopic_payload _ _

theorem defaultMetrics_valid (d : SparkplugDevice P) {p : Payload P} (h : p.AllValid) :
    (d.defaultMetrics p).AllValid := by
  have hreboot := h.withMetric (str "Device Control/Reboot")
    (f := fun m => { m with datatype := .boolean }.setBool false) fun _ => rfl
  have hrebirth := hreboot.withMetric (str "Device Control/Rebirth")
    (f := fun m => { m with datatype := .boolean }.setBool false) fun _ => rfl
  have hscan := hrebirth.withMetric (str "Device Control/Scan Rate")
    (f := fun m => ({ m with datatype := .int64 }.setBool false).setUnit P (str "ms"))
    fun m => Metric.addProperty_valid P _ _
  exact (((hscan.withHardware _ _).withHardware _ _).withHardware _ _).withHardware _ _

theorem asCreated_create (parentName : Str) (now : UInt64) :
    (create (P := P) parentName now).AsCreated := by
  have hempty : ({} : Payload P).AllValid := fun e he => absurd he List.not_mem_nil
  intro t ht
  rcases List.mem_append.mp ht with ht | ht
  · have ht := TopicList.mem_deletePrevious ht
    rcases List.mem_append.mp ht with ht | ht
    · rw [TopicList.deletePrevious_nil] at ht
      cases ht
    · obtain rfl := List.mem_singleton.mp ht
      refine ⟨rfl, ?_⟩
      rw [Topic.onPayload_payload, baseTopic_payload]
      exact hempty.setTimestamp now
  · obtain rfl := List.mem_singleton.mp ht
    refine ⟨rfl, ?_⟩
    rw [Topic.onPayload_payload, baseTopic_payload]
    exact (defaultMetrics_valid _ hempty).setTimestamp now

end SparkplugDevice

namespace TopicList
variable {P : Platform}

theorem receive_published {list : TopicList P} (h : ∀ t ∈ list, t.publish = true)
    (messageType : Str) (store : Payload P → Payload P) :
    list.receive messageType store = list := by
  unfold receive
  split
  · rfl
  · rename_i t ht
    rw [if_pos (h t (List.mem_of_find?_eq_some ht))]

theorem receiveDeath_published {list : TopicList P} (h : ∀ t ∈ list, t.publish = true)
    (birthType deathType : Str) (store : Payload P → Payload P) :
    list.receiveDeath birthType deathType store = list := by
  unfold receiveDeath
  split
  · rename_i t death _ ht
    rw [if_pos (h death (List.mem_of_find?_eq_some ht))]
  · rfl

end TopicList

namespace SparkplugNode
variable {P : Platform}

/-- The devices are as their constructor made them. -/
def DevicesAsCreated (n : SparkplugNode P) : Prop :=
  ∀ e ∈ n.deviceList.entries, e.2.AsCreated

variable {Q : SparkplugDevice P → Prop}

theorem published_onDevice {n : SparkplugNode P} (h : ∀ e ∈ n.deviceList.entries, Q e.2)
    (hpublish : ∀ d, Q d → ∀ t ∈ d.topicList, t.publish = true) (device : Str)
    {f : TopicList P → TopicList P}
    (hf : ∀ list : TopicList P, (∀ t ∈ list, t.publish = true) → f list = list) :
    ∀ e ∈ (n.onDevice device f).deviceList.entries, Q e.2 := by
  unfold SparkplugNode.onDevice
  split
  · exact h
  · intro e he
    rcases Entries.mem_updateFirst he with he | ⟨d, hd, heq⟩
    · exact h e he
    · have hkept := h _ hd
      rw [heq, hf d.topicList (hpublish _ hkept)]
      exact hkept

theorem published_createDevice {n : SparkplugNode P} (h : ∀ e ∈ n.deviceList.entries, Q e.2)
    (hcreate : ∀ parentName now group name,
      Q { SparkplugDevice.create parentName now with group := group, name := name })
    (device : Str) (now : UInt64) :
    ∀ e ∈ (n.createDevice device now).deviceList.entries, Q e.2 := by
  unfold SparkplugNode.createDevice
  split
  · exact h
  · split
    · exact h
    · intro e he
      rcases Entries.mem_insert_subset he with rfl | he
      · exact hcreate n.name now n.group device
      · exact h e he

/-- What new devices have, with the publish flag on their topics, the mirrored devices have. -/
theorem published_invariant
    (hcreate : ∀ parentName now group name,
      Q { SparkplugDevice.create parentName now with group := group, name := name })
    (hpublish : ∀ d, Q d → ∀ t ∈ d.topicList, t.publish = true) :
    Receiver.MirrorInvariant (P := P) fun n => ∀ e ∈ n.deviceList.entries, Q e.2 where
  host _ _ := fun _ he => absurd he List.not_mem_nil
  node _ _ _ := fun _ he => absurd he List.not_mem_nil
  state _ _ h := h
  birth _ _ _ h := h
  death _ _ _ h := h
  data _ _ _ h := h
  deviceBirth device now _ _ h := by
    apply Receiver.deviceBirth_keeps (Q := fun n => ∀ e ∈ n.deviceList.entries, Q e.2) _ _ h
    · intro n hn
      exact published_createDevice hn hcreate device now
    · intro n hn
      exact published_onDevice hn hpublish device
        fun _ hlist => TopicList.receive_published hlist _ _
  deviceDeath device _ _ _ h := published_onDevice h hpublish device
    fun _ hlist => TopicList.receiveDeath_published hlist _ _ _
  deviceUpdate device _ _ _ h := published_onDevice h hpublish device
    fun _ hlist => TopicList.receive_published hlist _ _

theorem devicesAsCreated_invariant :
    Receiver.MirrorInvariant (P := P) SparkplugNode.DevicesAsCreated :=
  published_invariant (fun parentName now _ _ => SparkplugDevice.asCreated_create parentName now)
    fun _ h t ht => (h t ht).1

end SparkplugNode

namespace Receiver
variable {P : Platform}

/-- Whatever was received, a metric of a mirrored device is valid. -/
theorem mirroredMetric_valid {r : Receiver P} (h : r.Mirrors SparkplugNode.DevicesAsCreated)
    {a : DeviceAddress} {name : Str} {m : Metric} (hm : r.mirroredMetric a name = some m) :
    m.valid = true := by
  obtain ⟨t, ht, hmetric⟩ := Option.bind_eq_some_iff.mp hm
  obtain ⟨d, hd, hbirth⟩ := Option.bind_eq_some_iff.mp ht
  obtain ⟨n, hn, hdevice⟩ := Option.bind_eq_some_iff.mp hd
  have hdevices := h n (List.mem_of_find?_eq_some hn)
  unfold SparkplugNode.getDevice at hdevice
  split at hdevice
  · cases hdevice
  · obtain ⟨key, hkey, _⟩ := FoldedMap.get?_mem hdevice
    have hvalid := (hdevices _ hkey t (List.mem_of_find?_eq_some hbirth)).2
    obtain ⟨k, hk, _⟩ := FoldedMap.get?_mem hmetric
    exact hvalid _ hk

end Receiver

namespace DeviceStory
variable {P : Platform}

theorem not_stale (s : DeviceStory P) (name : Str) : ¬ s.Stale name := by
  rintro ⟨m, hm, hinvalid⟩
  have hfresh : s.receiver.Mirrors SparkplugNode.DevicesAsCreated := by
    intro n hn
    rw [s.fresh] at hn
    cases hn
  have hbefore := hfresh.run SparkplugNode.devicesAsCreated_invariant
    (s.before ++ s.birth :: s.later)
  have hafter := hbefore.message SparkplugNode.devicesAsCreated_invariant
    s.death.topicName s.death.now s.death.body
  rw [Receiver.mirroredMetric_valid hafter hm] at hinvalid
  cases hinvalid

end DeviceStory

/-- A device is mirrored exactly when its DBIRTH names no metric. -/
theorem device_is_mirrored_iff {P : Platform} (s : DeviceStory P) :
    s.Mirrored ↔ ∀ pb ∈ s.birth.metrics P, ∀ name, pb.name = some name → name = [] := by
  constructor
  · intro h pb hpb name hname
    by_contra hne
    exact s.not_stale name (h pb hpb name hname hne).2
  · intro h pb hpb name hname hne
    exact absurd (h pb hpb name hname) hne

/-- A DBIRTH with one metric, received by another node, and the DDEATH that follows. -/
def speedStory : DeviceStory Platform.reference where
  address := ⟨str "G", str "R", str "D"⟩
  receiver := { self := { SparkplugNode.create 0 with group := str "G", name := str "N" } }
  fresh := rfl
  isRemote := by decide +kernel
  before := []
  birth :=
    { topicName := str "spBv1.0/G/DBIRTH/R/D"
      now := 1
      body := ProtobufCodec.serialize
        { metrics :=
            [{ name := some (str "Speed")
               aliasNumber := some 5
               datatype := some 3
               value := .intValue 7 }] } }
  birthType := by decide +kernel
  birthReaches := by decide +kernel
  later := []
  laterData := by
    intro m hm
    cases hm
  death :=
    { topicName := str "spBv1.0/G/DDEATH/R/D"
      now := 2
      body := ProtobufCodec.serialize { timestamp := some 2 } }
  deathType := by decide +kernel
  deathReaches := by decide +kernel

theorem speed_is_not_mirrored : ¬ speedStory.Mirrored := by
  intro h
  have hnamed : ((speedStory.birth.metrics Platform.reference).any fun pb =>
      decide (pb.name = some (str "Speed"))) = true := by decide +kernel
  obtain ⟨pb, hpb, hname⟩ := List.any_eq_true.mp hnamed
  obtain ⟨⟨m, hm, -⟩, -⟩ := h pb hpb (str "Speed") (of_decide_eq_true hname) (by decide)
  have hnone : (speedStory.beforeDeath.mirroredMetric speedStory.address
      (str "Speed")).isSome = false := by decide +kernel
  rw [hm] at hnone
  cases hnone

end PubSub
