import PubSub.Client

/-!
# Sparkplug devices

A device belongs to a node, whose worker polls it. Its DBIRTH and DDEATH topics are
made by the constructor, with the publish flag set. Publications are collected in an
outbox in the order in which they are handed to the MQTT library.
-/

namespace PubSub
set_option autoImplicit false

inductive DeviceState where
  | idle | offline | online
  deriving DecidableEq, Repr

/-- The publications of the Sparkplug classes, by the function that publishes. -/
inductive MessageKind where
  | nodeBirth
  | nodeDeath
  | deviceBirth (device : Str)
  | deviceDeath (device : Str)
  | state
  deriving DecidableEq

/-- A topic as it was handed over: its payload holds the generated body. -/
structure Publication (P : Platform) where
  kind : MessageKind
  topic : Topic P

structure Outbox (P : Platform) where
  sequenceNumber : UInt8
  published : List (Publication P) := []

namespace Outbox
variable {P : Platform}

def publish (kind : MessageKind) (t : Topic P) (o : Outbox P) : Topic P × Outbox P :=
  let topic := SparkplugTopic.doPublish o.sequenceNumber t
  (topic,
    { sequenceNumber := SparkplugTopic.nextSequenceNumber o.sequenceNumber t
      published := o.published ++ [⟨kind, topic⟩] })

def kinds (o : Outbox P) : List MessageKind := o.published.map Publication.kind

end Outbox

namespace Payload
variable {P : Platform}

/-- `CreateMetric(name)` and the changes made through the pointer it returns. -/
def withMetric (name : Str) (f : Metric → Metric) (p : Payload P) : Payload P :=
  (p.createMetric name).updateMetric name f

theorem getMetric_withMetric {name : Str} {p : Payload P} (f : Metric → Metric)
    (h : p.getMetric name = none) :
    (p.withMetric name f).getMetric name = some (f { name := name }) := by
  have hcreated : (p.createMetric name).getMetric name = some { name := name } :=
    FoldedMap.get?_insert_self h
  have hself := FoldedMap.get?_update_self (p.createMetric name).metricList name f
  rw [Payload.getMetric] at hcreated
  rw [hcreated] at hself
  exact hself

theorem entries_withMetric_ne_nil (name : Str) (f : Metric → Metric) (p : Payload P) :
    (p.withMetric name f).metricList.entries ≠ [] := by
  have hkeys := Entries.updateFirst_keys (Entries.sameKey P.foldKey name) f
    (p.createMetric name).metricList.entries
  have hcreated : (p.createMetric name).metricList.entries ≠ [] := by
    simp only [createMetric, FoldedMap.entries_insert]
    cases p.metricList.entries with
    | nil => simp [Entries.insert]
    | cons e es =>
      simp only [Entries.insert]
      split
      · exact List.cons_ne_nil _ _
      · split <;> exact List.cons_ne_nil _ _
  intro hnil
  have hmap : (p.createMetric name).metricList.entries.map Prod.fst = [] := by
    rw [← hkeys]
    exact List.map_eq_nil_iff.mpr hnil
  exact hcreated (List.map_eq_nil_iff.mp hmap)

def withBoolean (name : Str) (p : Payload P) : Payload P :=
  p.withMetric name fun m => { m with datatype := .boolean }.setBool false

/-- The scan rate is set to `false`, which is the text of a zero. -/
def withScanRate (name : Str) (p : Payload P) : Payload P :=
  p.withMetric name fun m => ({ m with datatype := .int64 }.setBool false).setUnit P (str "ms")

def withString (name value : Str) (p : Payload P) : Payload P :=
  p.withMetric name fun m => { m with datatype := .string }.setString P value

def withHardware (name value : Str) (p : Payload P) : Payload P :=
  if value = [] then p else p.withString name value

@[simp] theorem withString_body (name value : Str) (p : Payload P) :
    (p.withString name value).body = p.body := rfl

@[simp] theorem withHardware_body (name value : Str) (p : Payload P) :
    (p.withHardware name value).body = p.body := by
  unfold withHardware
  split
  · rfl
  · rfl

end Payload

def joinLevels (levels : List Str) : Str := List.intercalate [47] levels

structure SparkplugDevice (P : Platform) extends PubSubClient P where
  deviceState : DeviceState := .idle

/-- What a device reads of its parent while it is polled. -/
structure ParentView where
  name : Str
  isOnline : Bool
  isConnected : Bool
  inService : Bool

/-- What decides about a poll on the side of the device. -/
structure DeviceStatus where
  deviceState : DeviceState
  inService : Bool
  deriving DecidableEq

namespace DeviceStatus

/-- What a poll publishes, if the parent is connected. -/
def pollMessages (key : Str) (parent : ParentView) (d : DeviceStatus) : List MessageKind :=
  match d.deviceState with
  | .online =>
    if !d.inService || !parent.isOnline || !parent.inService then [.deviceDeath key] else []
  | .offline => if d.inService || parent.isOnline then [.deviceBirth key] else []
  | .idle => []

def poll (parent : ParentView) (d : DeviceStatus) : DeviceStatus :=
  match d.deviceState with
  | .online =>
    if !d.inService || !parent.isOnline || !parent.inService then
      { d with deviceState := .offline }
    else d
  | .offline => if d.inService || parent.isOnline then { d with deviceState := .online } else d
  | .idle => { d with deviceState := .offline }

end DeviceStatus

namespace SparkplugDevice
variable {P : Platform}

def status (d : SparkplugDevice P) : DeviceStatus := ⟨d.deviceState, d.inService⟩

def topicPath (messageType parentName : Str) (d : SparkplugDevice P) : Str :=
  joinLevels [str "spvBv1.0", d.group, messageType, parentName, d.name]

def baseTopic (messageType parentName : Str) (d : SparkplugDevice P) : Topic P :=
  { SparkplugTopic.create.setTopic (d.topicPath messageType parentName) with
    nameSpace := str "spvBv1.0"
    groupId := d.group
    messageType := messageType
    nodeId := parentName
    deviceId := d.name
    publish := true
    qos := .qos0
    retained := false }

def createDeviceDeathTopic (parentName : Str) (now : UInt64) (d : SparkplugDevice P) :
    SparkplugDevice P :=
  let topic := (d.baseTopic (str "DDEATH") parentName).onPayload fun p =>
    p.setTimestamp now true
  { d with topicList := d.topicList.deletePrevious (str "DDEATH") ++ [topic] }

def defaultMetrics (d : SparkplugDevice P) (p : Payload P) : Payload P :=
  let p := p.withBoolean (str "Device Control/Reboot")
  let p := p.withBoolean (str "Device Control/Rebirth")
  let p := p.withScanRate (str "Device Control/Scan Rate")
  let p := p.withHardware (str "Properties/Hardware Make") d.hardwareMake
  let p := p.withHardware (str "Properties/Hardware Model") d.hardwareModel
  let p := p.withHardware (str "Properties/FW") d.operatingSystem
  p.withHardware (str "Properties/FW Version") d.osVersion

def createDeviceBirthTopic (parentName : Str) (now : UInt64) (d : SparkplugDevice P) :
    SparkplugDevice P :=
  let topic := (d.baseTopic (str "DBIRTH") parentName).onPayload fun p =>
    (d.defaultMetrics p).setTimestamp now true
  { d with topicList := d.topicList.deletePrevious (str "DBIRTH") ++ [topic] }

/-- The constructor, which runs before the device has a name or a group. -/
def create (parentName : Str) (now : UInt64) : SparkplugDevice P :=
  (createDeviceDeathTopic parentName now {}).createDeviceBirthTopic parentName now

def isBirth (t : Topic P) : Bool := decide (t.messageType = str "DBIRTH")

def setAllMetricsInvalid (d : SparkplugDevice P) : SparkplugDevice P :=
  { d with topicList := d.topicList.map fun t =>
      if isBirth t then t.setAllMetricsInvalid else t }

/-- The common body of `PublishDeviceBirth` and `PublishDeviceDeath`. -/
def publishMessage (messageType : Str) (kind : MessageKind) (parent : ParentView)
    (now : UInt64) (d : SparkplugDevice P) (o : Outbox P) : SparkplugDevice P × Outbox P :=
  match d.topicList.getTopicByMessageType messageType with
  | none => (d, o)
  | some t =>
    let t := (t.setTopic (d.topicPath messageType parent.name)).onPayload fun p =>
      p.setTimestamp now false
    let sent := if parent.isConnected then o.publish kind t else (t, o)
    ({ d with topicList := d.topicList.update messageType fun _ => sent.1 }, sent.2)

def publishDeviceBirth (key : Str) (parent : ParentView) (now : UInt64)
    (d : SparkplugDevice P) (o : Outbox P) : SparkplugDevice P × Outbox P :=
  d.publishMessage (str "DBIRTH") (.deviceBirth key) parent now o

def publishDeviceDeath (key : Str) (parent : ParentView) (now : UInt64)
    (d : SparkplugDevice P) (o : Outbox P) : SparkplugDevice P × Outbox P :=
  d.publishMessage (str "DDEATH") (.deviceDeath key) parent now o

/-- `key` is the device's name in the device list of the node. -/
def poll (key : Str) (parent : ParentView) (now : UInt64) (d : SparkplugDevice P)
    (o : Outbox P) : SparkplugDevice P × Outbox P :=
  match d.deviceState with
  | .online =>
    if !d.inService || !parent.isOnline || !parent.inService then
      let (d, o) := d.publishDeviceDeath key parent now o
      ({ d.setAllMetricsInvalid with deviceState := .offline }, o)
    else (d, o)
  | .offline =>
    if d.inService || parent.isOnline then
      let (d, o) := d.publishDeviceBirth key parent now o
      ({ d with deviceState := .online }, o)
    else (d, o)
  | .idle => ({ d.setAllMetricsInvalid with deviceState := .offline }, o)

def start (d : SparkplugDevice P) : SparkplugDevice P :=
  { d with deviceState := .idle }.setAllMetricsInvalid

def stop (key : Str) (parent : ParentView) (now : UInt64) (d : SparkplugDevice P)
    (o : Outbox P) : SparkplugDevice P × Outbox P :=
  let d := d.setAllMetricsInvalid
  if d.deviceState = .online ∧ parent.isOnline then d.publishDeviceDeath key parent now o
  else (d, o)

def addMetric (m : Metric) (d : SparkplugDevice P) : SparkplugDevice P :=
  { d with topicList := d.topicList.update (str "DBIRTH") fun t =>
      t.onPayload fun p => p.addMetric m }

end SparkplugDevice
end PubSub
