import PubSub.Device

/-!
# Sparkplug nodes and hosts

A host is a node with another set of topics: `isHost` is the dynamic type. Both are
used in two roles, as the client of the application and as the mirror of a remote
party; `start` is what turns the first role on.
-/

namespace PubSub
set_option autoImplicit false

structure SparkplugNode (P : Platform) extends PubSubClient P where
  isHost : Bool := false
  deviceList : FoldedMap P.foldKey (SparkplugDevice P) := FoldedMap.empty
  bdSequenceNumber : UInt64 := 0
  sequenceNumber : UInt8 := 0
  startTime : UInt64 := 0

namespace Payload
variable {P : Platform}

/-- Commands that can be written from outside. -/
def withCommand (name : Str) (p : Payload P) : Payload P :=
  p.withMetric name fun m => { { m with datatype := .boolean }.setBool false with readOnly := true }

/-- Number the metrics in name order, from `n` on. -/
def assignAliasNumbers (n : UInt64) (p : Payload P) : UInt64 × Payload P :=
  let numbered := p.metricList.mapAccum (fun n _ m => (n + 1, { m with aliasNumber := n })) n
  (numbered.1, { p with metricList := numbered.2 })

end Payload

namespace TopicList
variable {P : Platform}

def assignAliasNumbers (messageType : Str) (n : UInt64) (list : TopicList P) :
    UInt64 × TopicList P :=
  match list.getTopicByMessageType messageType with
  | none => (n, list)
  | some t =>
    let numbered := t.payload.assignAliasNumbers n
    (numbered.1, list.update messageType fun t => { t with payload := numbered.2 })

end TopicList

namespace SparkplugNode
variable {P : Platform}

def topicPath (nameSpace messageType : Str) (n : SparkplugNode P) : Str :=
  joinLevels [nameSpace, n.group, messageType, n.name]

def baseTopic (messageType : Str) (qos : QualityOfService) (n : SparkplugNode P) : Topic P :=
  { SparkplugTopic.create.setTopic (n.topicPath (str "spvBv1.0") messageType) with
    nameSpace := str "spvBv1.0"
    groupId := n.group
    messageType := messageType
    nodeId := n.name
    publish := false
    qos := qos
    retained := false }

def createNodeBirthTopic (now : UInt64) (n : SparkplugNode P) : SparkplugNode P :=
  let topic := (n.baseTopic (str "NBIRTH") .qos0).onPayload fun p => p.setTimestamp now true
  { n with topicList := n.topicList.deletePrevious (str "NBIRTH") ++ [topic] }

def withBdSeq (n : SparkplugNode P) (p : Payload P) : Payload P :=
  p.withMetric (str "bdSeq") fun m =>
    { m with datatype := .uint64 }.setInt n.bdSequenceNumber.toNat

def createNodeDeathTopic (now : UInt64) (n : SparkplugNode P) : SparkplugNode P :=
  let topic := (n.baseTopic (str "NDEATH") .qos1).onPayload fun p =>
    (n.withBdSeq p).setTimestamp now true
  { n with topicList := n.topicList.deletePrevious (str "NDEATH") ++ [topic] }

def create (now : UInt64) : SparkplugNode P :=
  (createNodeBirthTopic now {}).createNodeDeathTopic now

def addDefaultMetrics (n : SparkplugNode P) : SparkplugNode P :=
  { n with topicList := n.topicList.update (str "NBIRTH") fun t => t.onPayload fun p =>
      let p := n.withBdSeq p
      let p := p.withCommand (str "Node Control/Rebirth")
      let p := p.withCommand (str "Node Control/Reboot")
      let p := p.withCommand (str "Node Control/Next Server")
      let p := (p.withScanRate (str "Node Control/Scan Rate")).updateMetric
        (str "Node Control/Scan Rate") fun m => { m with readOnly := true }
      let p := p.withHardware (str "Properties/Hardware Make") n.hardwareMake
      let p := p.withHardware (str "Properties/Hardware Model") n.hardwareModel
      let p := p.withHardware (str "Properties/OS") n.operatingSystem
      let p := p.withHardware (str "Properties/OS Version") n.osVersion
      p.withString (str "Properties/MQTT Version") n.versionAsString }

/-- One counter runs over the NBIRTH metrics and then over the DBIRTH metrics of the
devices. -/
def assignAliasNumbers (n : SparkplugNode P) : SparkplugNode P :=
  let numbered := n.topicList.assignAliasNumbers (str "NBIRTH") 1
  let devices := n.deviceList.mapAccum
    (fun next _ d =>
      let numbered := d.topicList.assignAliasNumbers (str "DBIRTH") next
      (numbered.1, { d with topicList := numbered.2 })) numbered.1
  { n with topicList := numbered.2, deviceList := devices.2 }

def startTopics (n : SparkplugNode P) : SparkplugNode P :=
  let list := n.topicList.update (str "NBIRTH") fun t =>
    { t.setTopic (n.topicPath (str "spBv1.0") (str "NBIRTH")) with publish := true }
  { n with topicList := list.update (str "NDEATH") fun t => { t with publish := true } }

def startSubscriptions (n : SparkplugNode P) : SparkplugNode P :=
  let list := PubSubClient.addSubscriptionFront (str "spBv1.0/STATE/#") n.subscriptionList
  let commands := joinLevels [str "spBv1.0", n.group, str "NCMD", n.name, str "#"]
  { n with subscriptionList := PubSubClient.addSubscriptionFront commands list }

/-- The preparations of `Start`; without a group the node does not start. -/
def start (n : SparkplugNode P) : Option (SparkplugNode P) :=
  if n.group = [] then none
  else some n.addDefaultMetrics.startTopics.startSubscriptions.assignAliasNumbers

def getDevice (n : SparkplugNode P) (name : Str) : Option (SparkplugDevice P) :=
  if n.isHost then none else n.deviceList.get? name

def createDevice (name : Str) (now : UInt64) (n : SparkplugNode P) : SparkplugNode P :=
  if n.isHost ∨ name = [] then n
  else match n.deviceList.get? name with
    | some _ => n
    | none =>
      let device := { SparkplugDevice.create n.name now with group := n.group, name := name }
      { n with deviceList := n.deviceList.insert name device }

theorem createDevice_frame (name : Str) (now : UInt64) (n : SparkplugNode P) :
    ∃ devices, n.createDevice name now = { n with deviceList := devices } := by
  unfold createDevice
  split
  · exact ⟨n.deviceList, rfl⟩
  · split
    · exact ⟨n.deviceList, rfl⟩
    · exact ⟨_, rfl⟩

def updateDevice (name : Str) (f : SparkplugDevice P → SparkplugDevice P)
    (n : SparkplugNode P) : SparkplugNode P :=
  { n with deviceList := n.deviceList.update name f }

/-- The common body of `PublishNodeBirth` and `PublishNodeDeath`. -/
def publishMessage (messageType : Str) (kind : MessageKind) (connected : Bool) (now : UInt64)
    (n : SparkplugNode P) : SparkplugNode P × List (Publication P) :=
  if connected then
    match n.topicList.getTopicByMessageType messageType with
    | none => (n, [])
    | some t =>
      let t := t.onPayload fun p => p.setTimestamp now false
      let sent := Outbox.publish kind t { sequenceNumber := n.sequenceNumber }
      ({ n with
          topicList := n.topicList.update messageType fun _ => sent.1
          sequenceNumber := sent.2.sequenceNumber },
        sent.2.published)
  else (n, [])

theorem publishMessage_frame (messageType : Str) (kind : MessageKind) (connected : Bool)
    (now : UInt64) (n : SparkplugNode P) :
    ∃ topics number, (n.publishMessage messageType kind connected now).1 =
      { n with topicList := topics, sequenceNumber := number } := by
  unfold publishMessage
  split
  · split
    · exact ⟨n.topicList, n.sequenceNumber, rfl⟩
    · exact ⟨_, _, rfl⟩
  · exact ⟨n.topicList, n.sequenceNumber, rfl⟩

def publishNodeBirth (connected : Bool) (now : UInt64) (n : SparkplugNode P) :
    SparkplugNode P × List (Publication P) :=
  n.publishMessage (str "NBIRTH") .nodeBirth connected now

def publishNodeDeath (connected : Bool) (now : UInt64) (n : SparkplugNode P) :
    SparkplugNode P × List (Publication P) :=
  n.publishMessage (str "NDEATH") .nodeDeath connected now

def parentView (isOnline connected : Bool) (n : SparkplugNode P) : ParentView where
  name := n.name
  isOnline := isOnline
  isConnected := connected
  inService := n.inService

def pollDevices (isOnline connected : Bool) (now : UInt64) (n : SparkplugNode P) :
    SparkplugNode P × List (Publication P) :=
  let polled := n.deviceList.mapAccum
    (fun o key d =>
      let polled := d.poll key (n.parentView isOnline connected) now o
      (polled.2, polled.1)) { sequenceNumber := n.sequenceNumber }
  ({ n with deviceList := polled.2, sequenceNumber := polled.1.sequenceNumber },
    polled.1.published)

/-- The will message that `SendConnect` writes into the NDEATH payload. -/
def generateWill (now : UInt64) (n : SparkplugNode P) : SparkplugNode P :=
  { n with topicList := n.topicList.update (str "NDEATH") fun t => t.onPayload fun p =>
      let p := p.setUIntValue (str "bdSeq") n.bdSequenceNumber
      let p := p.setTimestamp now false
      Payload.generateProtobuf { p with sequenceNumber := 0 } }

theorem addDefaultMetrics_base (n : SparkplugNode P) :
    n.addDefaultMetrics = { n with topicList := n.addDefaultMetrics.topicList } := rfl

theorem startTopics_base (n : SparkplugNode P) :
    n.startTopics = { n with topicList := n.startTopics.topicList } := rfl

theorem assignAliasNumbers_base (n : SparkplugNode P) :
    n.assignAliasNumbers = { n with
      topicList := n.assignAliasNumbers.topicList
      deviceList := n.assignAliasNumbers.deviceList } := rfl

/-- `Start` changes the topics, the alias numbers of the devices and the subscriptions. -/
theorem start_base {n m : SparkplugNode P} (h : n.start = some m) :
    m = { n with
      topicList := m.topicList
      deviceList := m.deviceList
      subscriptionList := m.subscriptionList } := by
  unfold start at h
  split at h
  · cases h
  · rw [← Option.some.inj h, assignAliasNumbers_base]
    unfold startSubscriptions
    rw [startTopics_base, addDefaultMetrics_base]

theorem create_topicList (now : UInt64) : ∃ birth death : Topic P,
    (SparkplugNode.create (P := P) now).topicList = [birth, death] ∧
    birth.messageType = str "NBIRTH" ∧ death.messageType = str "NDEATH" ∧
    birth.nameSpace = str "spvBv1.0" ∧ death.nameSpace = str "spvBv1.0" ∧
    birth.publish = false ∧ death.publish = false := by
  unfold SparkplugNode.create SparkplugNode.createNodeDeathTopic SparkplugNode.createNodeBirthTopic
  dsimp only
  rw [TopicList.deletePrevious_nil, List.nil_append,
    TopicList.deletePrevious_of_none]
  · exact ⟨_, _, rfl, rfl, rfl, rfl, rfl, rfl, rfl⟩
  · rw [TopicList.find_cons_ne]
    · rfl
    · exact TopicList.hasMessageType_ne (rfl : _ = str "NBIRTH") (by decide)

theorem baseTopic_payload (messageType : Str) (qos : QualityOfService) (n : SparkplugNode P) :
    (n.baseTopic messageType qos).payload = {} := Topic.setTopic_payload _ _

/-- A new node has an NBIRTH topic without metrics that it does not publish. -/
theorem create_birth (now : UInt64) : ∃ t : Topic P,
    (SparkplugNode.create (P := P) now).topicList.getTopicByMessageType (str "NBIRTH") = some t ∧
      t.publish = false ∧ t.payload.metricList = FoldedMap.empty := by
  let birth : Topic P := (({} : SparkplugNode P).baseTopic (str "NBIRTH") .qos0).onPayload
    fun p => p.setTimestamp now true
  have hne : TopicList.getTopicByMessageType (str "NDEATH") [birth] = none := by
    rw [TopicList.find_cons_ne]
    · rfl
    · exact TopicList.hasMessageType_ne (rfl : _ = str "NBIRTH") (by decide)
  have hlist : (SparkplugNode.create (P := P) now).topicList.getTopicByMessageType
      (str "NBIRTH") = some birth := by
    unfold SparkplugNode.create SparkplugNode.createNodeDeathTopic
      SparkplugNode.createNodeBirthTopic
    dsimp only
    rw [TopicList.deletePrevious_nil, List.nil_append, TopicList.deletePrevious_of_none hne]
    exact TopicList.find_cons_self _ rfl
  refine ⟨birth, hlist, rfl, ?_⟩
  change ((({} : SparkplugNode P).baseTopic (str "NBIRTH") .qos0).payload.setTimestamp now
    true).metricList = FoldedMap.empty
  rw [baseTopic_payload]
  rfl

end SparkplugNode

namespace SparkplugHost
variable {P : Platform}

def statePath (n : SparkplugNode P) : Str := joinLevels [str "spBv1.0", str "STATE", n.name]

def createStateTopic (n : SparkplugNode P) : SparkplugNode P :=
  match n.topicList.getTopicByMessageType (str "STATE") with
  | some _ => n
  | none =>
    let topic : Topic P :=
      { SparkplugTopic.create.setTopic (statePath n) with
        nameSpace := str "spBv1.0"
        groupId := []
        messageType := str "STATE"
        nodeId := n.name
        deviceId := []
        publish := false
        qos := .qos1
        retained := true
        contentType := str "application/json" }
    let topic := topic.onPayload fun p =>
      let p := p.withBoolean (str "online")
      let p := p.withMetric (str "timestamp") fun m => { m with datatype := .uint64 }
      p.setTimestamp n.startTime false
    { n with topicList := n.topicList ++ [topic] }

/-- The constructor without a name, which drops the topics of the base class. -/
def create (now : UInt64) : SparkplugNode P :=
  createStateTopic { SparkplugNode.create now with isHost := true, topicList := [] }

/-- The constructor with a name, which keeps them. -/
def createNamed (hostName : Str) (now : UInt64) : SparkplugNode P :=
  createStateTopic { SparkplugNode.create now with isHost := true, name := hostName }

def addDefaultMetrics (n : SparkplugNode P) : SparkplugNode P :=
  { n with topicList := n.topicList.update (str "STATE") fun t => t.onPayload fun p =>
      let p := p.withHardware (str "Properties/Hardware Make") n.hardwareMake
      let p := p.withHardware (str "Properties/Hardware Model") n.hardwareModel
      let p := p.withHardware (str "Properties/OS") n.operatingSystem
      let p := p.withHardware (str "Properties/OS Version") n.osVersion
      let p := p.withString (str "Properties/Sparkplug Version") n.sparkplugVersion
      p.withString (str "Properties/MQTT Version") n.versionAsString }

def start (now : UInt64) (n : SparkplugNode P) : SparkplugNode P :=
  let n := addDefaultMetrics { n with startTime := now }
  let n := { n with topicList := n.topicList.update (str "STATE") fun t =>
    { t.setTopic (statePath n) with publish := true } }
  let list := PubSubClient.addSubscriptionFront (statePath n) n.subscriptionList
  { n with subscriptionList := PubSubClient.addSubscriptionFront (str "spBv1.0/#") list }

/-- The will message that `SendConnect` writes into the STATE payload. -/
def generateWill (n : SparkplugNode P) : SparkplugNode P :=
  { n with topicList := n.topicList.update (str "STATE") fun t => t.onPayload fun p =>
      let p := p.setTimestamp n.startTime false
      (p.setBoolValue (str "online") false).generateJson }

def publishState (online : Bool) (n : SparkplugNode P) :
    SparkplugNode P × List (Publication P) :=
  match n.topicList.getTopicByMessageType (str "STATE") with
  | none => (n, [])
  | some t =>
    let t := t.onPayload fun p => p.setBoolValue (str "online") online
    let sent := Outbox.publish .state t { sequenceNumber := n.sequenceNumber }
    ({ n with
        topicList := n.topicList.update (str "STATE") fun _ => sent.1
        sequenceNumber := sent.2.sequenceNumber },
      sent.2.published)

end SparkplugHost
end PubSub
