import PubSub.Node

/-!
# Incoming messages

A receiver is a node or a host together with its list of mirrored nodes and hosts.
Nine handlers look up the client a message is addressed to, which may be the receiver
itself, and store the message in one of the topics of that client.
-/

namespace PubSub
set_option autoImplicit false

structure Receiver (P : Platform) where
  self : SparkplugNode P
  nodeList : List (SparkplugNode P) := []

/-- The client a lookup returns: `this`, or an element of the node list. -/
inductive Target where
  | self
  | remote (index : Nat)
  deriving DecidableEq

namespace Payload
variable {P : Platform}

/-- The body is stored, and it is parsed unless it is empty. -/
def receive (parse : Payload P → Payload P) (body : BodyList) (p : Payload P) : Payload P :=
  let p := { p with body := body }
  if body = [] then p else parse p

def receiveJson (body : BodyList) (p : Payload P) : Payload P :=
  p.receive (fun p => p.parseSparkplugJson true) body

def receiveProtobuf (createMetrics : Bool) (now : UInt64) (body : BodyList) (p : Payload P) :
    Payload P :=
  p.receive (fun p => p.parseSparkplugProtobuf createMetrics now) body

theorem parseEntry_body (createMetrics : Bool) (p : Payload P) (pb : PbMetric) :
    (PayloadHelper.parseEntry createMetrics p pb).body = p.body := by
  unfold PayloadHelper.parseEntry
  split
  · rfl
  · cases pb.name with
    | none => rfl
    | some name =>
      dsimp only
      split
      · rfl
      · rfl

/-- Parsing leaves the body that was stored. -/
theorem receiveProtobuf_body (createMetrics : Bool) (now : UInt64) (body : BodyList)
    (p : Payload P) : (p.receiveProtobuf createMetrics now body).body = body := by
  have hfold : ∀ (ms : List PbMetric) (q : Payload P),
      (ms.foldl (PayloadHelper.parseEntry createMetrics) q).body = q.body := by
    intro ms
    induction ms with
    | nil => exact fun _ => rfl
    | cons m ms ih =>
      intro q
      rw [List.foldl_cons, ih, parseEntry_body]
  unfold receiveProtobuf receive
  dsimp only
  split
  · rfl
  · unfold parseSparkplugProtobuf PayloadHelper.parseProtobuf
    split
    · rfl
    · split
      · rfl
      · unfold PayloadHelper.parseMessage
        rw [hfold]
        rfl

/-- The payload when the body and the header of the message were stored. -/
def opened (now : UInt64) (body : BodyList) (pb : PbPayload) (p : Payload P) : Payload P :=
  if body = [] then { p with body := body }
  else PayloadHelper.parseHeader now pb { p with body := body }

/-- What is left in the payload when a message was received. -/
theorem receiveProtobuf_eq {body : BodyList} {pb : PbPayload}
    (hparsed : P.parseFromArray body = some pb) (hflat : pb.body = none) (createMetrics : Bool)
    (now : UInt64) (p : Payload P) :
    p.receiveProtobuf createMetrics now body =
      pb.metrics.foldl (PayloadHelper.parseEntry createMetrics) (p.opened now body pb) := by
  unfold receiveProtobuf receive opened
  dsimp only
  by_cases hbody : body = []
  · have hempty : pb = {} := by
      rw [hbody, P.parse_nil] at hparsed
      exact (Option.some.inj hparsed).symm
    rw [if_pos hbody, if_pos hbody, hempty]
    rfl
  · rw [if_neg hbody, if_neg hbody]
    unfold parseSparkplugProtobuf PayloadHelper.parseProtobuf
    rw [if_neg hbody]
    simp [hparsed, PayloadHelper.innerMessage, hflat, PayloadHelper.parseMessage]

end Payload

namespace TopicList
variable {P : Platform}

/-- A message for a topic that the client does not publish itself. -/
def receive (messageType : Str) (store : Payload P → Payload P) (list : TopicList P) :
    TopicList P :=
  match list.getTopicByMessageType messageType with
  | none => list
  | some t => if t.publish then list else list.update messageType fun t => t.onPayload store

/-- A death message: it is stored, and the metrics of the birth topic become invalid. -/
def receiveDeath (birthType deathType : Str) (store : Payload P → Payload P)
    (list : TopicList P) : TopicList P :=
  match list.getTopicByMessageType birthType, list.getTopicByMessageType deathType with
  | some _, some death =>
    if death.publish then list
    else (list.update deathType fun t => t.onPayload store).update birthType
      Topic.setAllMetricsInvalid
  | _, _ => list

end TopicList

namespace SparkplugNode
variable {P : Platform}

def onTopics (f : TopicList P → TopicList P) (n : SparkplugNode P) : SparkplugNode P :=
  { n with topicList := f n.topicList }

def onDevice (name : Str) (f : TopicList P → TopicList P) (n : SparkplugNode P) :
    SparkplugNode P :=
  match n.getDevice name with
  | none => n
  | some _ => n.updateDevice name fun d => { d with topicList := f d.topicList }

theorem onDevice_frame (name : Str) (f : TopicList P → TopicList P) (n : SparkplugNode P) :
    ∃ devices, n.onDevice name f = { n with deviceList := devices } := by
  unfold onDevice
  split
  · exact ⟨n.deviceList, rfl⟩
  · exact ⟨_, rfl⟩

end SparkplugNode

namespace Receiver
variable {P : Platform}

def get? (target : Target) (r : Receiver P) : Option (SparkplugNode P) :=
  match target with
  | .self => some r.self
  | .remote i => r.nodeList[i]?

def update (target : Target) (f : SparkplugNode P → SparkplugNode P) (r : Receiver P) :
    Receiver P :=
  match target with
  | .self => { r with self := f r.self }
  | .remote i => { r with nodeList := r.nodeList.modify i f }

def isHostNamed (hostId : Str) (n : SparkplugNode P) : Bool :=
  n.isHost && P.iEquals hostId n.name

def isNodeNamed (groupId nodeId : Str) (n : SparkplugNode P) : Bool :=
  P.iEquals groupId n.group && P.iEquals nodeId n.name

def getHost (hostId : Str) (r : Receiver P) : Option Target :=
  if isHostNamed hostId r.self then some .self
  else (r.nodeList.findIdx? (isHostNamed hostId)).map .remote

def getNode (groupId nodeId : Str) (r : Receiver P) : Option Target :=
  if groupId = [] ∨ nodeId = [] then none
  else if isNodeNamed groupId nodeId r.self then some .self
  else (r.nodeList.findIdx? (isNodeNamed groupId nodeId)).map .remote

def addRemote (n : SparkplugNode P) (r : Receiver P) : Receiver P :=
  { r with nodeList := r.nodeList ++ [n] }

def ensureHost (hostName : Str) (now : UInt64) (r : Receiver P) : Receiver P :=
  match r.getHost hostName with
  | some _ => r
  | none => r.addRemote { SparkplugHost.create now with name := hostName }

def ensureNode (groupName nodeName : Str) (now : UInt64) (r : Receiver P) : Receiver P :=
  match r.getNode groupName nodeName with
  | some _ => r
  | none =>
    r.addRemote { SparkplugNode.create now with group := groupName, name := nodeName }

/-- A change made through the pointer that `GetNode` returns, if there is one. -/
def onNode (groupName nodeName : Str) (f : SparkplugNode P → SparkplugNode P)
    (r : Receiver P) : Receiver P :=
  match r.getNode groupName nodeName with
  | none => r
  | some target => r.update target f

def handleStateMessage (hostName : Str) (now : UInt64) (body : BodyList) (r : Receiver P) :
    Receiver P :=
  if hostName = [] then r
  else
    let r := r.ensureHost hostName now
    match r.getHost hostName with
    | none => r
    | some target => r.update target fun n =>
        n.onTopics fun list => list.receive (str "STATE") (Payload.receiveJson body)

def handleNodeBirthMessage (groupName nodeName : Str) (now : UInt64) (body : BodyList)
    (r : Receiver P) : Receiver P :=
  if groupName = [] ∨ nodeName = [] then r
  else (r.ensureNode groupName nodeName now).onNode groupName nodeName fun n =>
    n.onTopics fun list => list.receive (str "NBIRTH") (Payload.receiveProtobuf true now body)

def handleNodeDeathMessage (groupName nodeName : Str) (now : UInt64) (body : BodyList)
    (r : Receiver P) : Receiver P :=
  r.onNode groupName nodeName fun n => n.onTopics fun list =>
    list.receiveDeath (str "NBIRTH") (str "NDEATH") (Payload.receiveProtobuf true now body)

/-- The node of the message must be known, but the topic is one of the receiver's own,
and it must be published. -/
def handleNodeCommandMessage (groupName nodeName : Str) (now : UInt64) (body : BodyList)
    (r : Receiver P) : Receiver P :=
  match r.getNode groupName nodeName with
  | none => r
  | some _ =>
    match r.self.topicList.getTopicByMessageType (str "NBIRTH") with
    | none => r
    | some t =>
      if t.publish then
        r.update .self fun n => n.onTopics fun list => list.update (str "NBIRTH") fun t =>
          t.onPayload (Payload.receiveProtobuf false now body)
      else r

def handleNodeDataMessage (groupName nodeName : Str) (now : UInt64) (body : BodyList)
    (r : Receiver P) : Receiver P :=
  r.onNode groupName nodeName fun n =>
    n.onTopics fun list => list.receive (str "NBIRTH") (Payload.receiveProtobuf false now body)

def deviceBirth (deviceName : Str) (now : UInt64) (body : BodyList) (n : SparkplugNode P) :
    SparkplugNode P :=
  match n.topicList.getTopicByMessageType (str "NBIRTH") with
  | none => n
  | some t =>
    if t.publish then n
    else
      let n := match n.getDevice deviceName with
        | none => n.createDevice deviceName now
        | some _ => n
      n.onDevice deviceName fun list =>
        list.receive (str "DBIRTH") (Payload.receiveProtobuf true now body)

/-- The birth of a device keeps what making the device and storing its message keep. -/
theorem deviceBirth_keeps {Q : SparkplugNode P → Prop} {deviceName : Str} {now : UInt64}
    {body : BodyList} (hcreate : ∀ n, Q n → Q (n.createDevice deviceName now))
    (hdevice : ∀ n, Q n → Q (n.onDevice deviceName fun list =>
      list.receive (str "DBIRTH") (Payload.receiveProtobuf true now body)))
    {n : SparkplugNode P} (h : Q n) : Q (deviceBirth deviceName now body n) := by
  unfold deviceBirth
  split
  · exact h
  · split
    · exact h
    · dsimp only
      split
      · exact hdevice _ (hcreate n h)
      · exact hdevice n h

theorem deviceBirth_frame (deviceName : Str) (now : UInt64) (body : BodyList)
    (n : SparkplugNode P) :
    ∃ devices, deviceBirth deviceName now body n = { n with deviceList := devices } := by
  refine deviceBirth_keeps (Q := fun m => ∃ devices, m = { n with deviceList := devices }) ?_ ?_
    ⟨n.deviceList, rfl⟩
  · rintro _ ⟨_, rfl⟩
    exact SparkplugNode.createDevice_frame deviceName now _
  · rintro _ ⟨_, rfl⟩
    exact SparkplugNode.onDevice_frame deviceName _ _

def handleDeviceBirthMessage (groupName nodeName deviceName : Str) (now : UInt64)
    (body : BodyList) (r : Receiver P) : Receiver P :=
  if groupName = [] ∨ nodeName = [] ∨ deviceName = [] then r
  else (r.ensureNode groupName nodeName now).onNode groupName nodeName
    (deviceBirth deviceName now body)

def handleDeviceDeathMessage (groupName nodeName deviceName : Str) (now : UInt64)
    (body : BodyList) (r : Receiver P) : Receiver P :=
  if groupName = [] ∨ nodeName = [] ∨ deviceName = [] then r
  else r.onNode groupName nodeName fun n => n.onDevice deviceName fun list =>
    list.receiveDeath (str "DBIRTH") (str "DDEATH") (Payload.receiveProtobuf true now body)

/-- The common body of the DCMD and DDATA handlers; both may create metrics. -/
def handleDeviceUpdate (groupName nodeName deviceName : Str) (now : UInt64)
    (body : BodyList) (r : Receiver P) : Receiver P :=
  if groupName = [] ∨ nodeName = [] ∨ deviceName = [] then r
  else (r.ensureNode groupName nodeName now).onNode groupName nodeName fun n =>
    n.onDevice deviceName fun list =>
      list.receive (str "DBIRTH") (Payload.receiveProtobuf true now body)

def handleDeviceCommandMessage (groupName nodeName deviceName : Str) (now : UInt64)
    (body : BodyList) (r : Receiver P) : Receiver P :=
  r.handleDeviceUpdate groupName nodeName deviceName now body

def handleDeviceDataMessage (groupName nodeName deviceName : Str) (now : UInt64)
    (body : BodyList) (r : Receiver P) : Receiver P :=
  r.handleDeviceUpdate groupName nodeName deviceName now body

/-- The temporary topic that `Message` uses to take the name apart. -/
def parseTopic (P : Platform) (topicName : Str) : Topic P :=
  (SparkplugTopic.create (P := P)).setTopic topicName

def message (topicName : Str) (now : UInt64) (body : BodyList) (r : Receiver P) : Receiver P :=
  let temp := parseTopic P topicName
  if temp.messageType = str "STATE" then r.handleStateMessage temp.nodeId now body
  else if temp.messageType = str "NBIRTH" then
    r.handleNodeBirthMessage temp.groupId temp.nodeId now body
  else if temp.messageType = str "NDEATH" then
    r.handleNodeDeathMessage temp.groupId temp.nodeId now body
  else if temp.messageType = str "NCMD" then
    r.handleNodeCommandMessage temp.groupId temp.nodeId now body
  else if temp.messageType = str "NDATA" then
    r.handleNodeDataMessage temp.groupId temp.nodeId now body
  else if temp.messageType = str "DBIRTH" then
    r.handleDeviceBirthMessage temp.groupId temp.nodeId temp.deviceId now body
  else if temp.messageType = str "DDEATH" then
    r.handleDeviceDeathMessage temp.groupId temp.nodeId temp.deviceId now body
  else if temp.messageType = str "DCMD" then
    r.handleDeviceCommandMessage temp.groupId temp.nodeId temp.deviceId now body
  else if temp.messageType = str "DDATA" then
    r.handleDeviceDataMessage temp.groupId temp.nodeId temp.deviceId now body
  else r

/-- The handlers that a message can reach, by the type in its name. -/
inductive Handled (r : Receiver P) (t : Topic P) (now : UInt64) (body : BodyList) :
    Receiver P → Prop
  | state : t.messageType = str "STATE" →
      Handled r t now body (r.handleStateMessage t.nodeId now body)
  | nodeBirth : t.messageType = str "NBIRTH" →
      Handled r t now body (r.handleNodeBirthMessage t.groupId t.nodeId now body)
  | nodeDeath : t.messageType = str "NDEATH" →
      Handled r t now body (r.handleNodeDeathMessage t.groupId t.nodeId now body)
  | nodeCommand : t.messageType = str "NCMD" →
      Handled r t now body (r.handleNodeCommandMessage t.groupId t.nodeId now body)
  | nodeData : t.messageType = str "NDATA" →
      Handled r t now body (r.handleNodeDataMessage t.groupId t.nodeId now body)
  | deviceBirth : t.messageType = str "DBIRTH" →
      Handled r t now body (r.handleDeviceBirthMessage t.groupId t.nodeId t.deviceId now body)
  | deviceDeath : t.messageType = str "DDEATH" →
      Handled r t now body (r.handleDeviceDeathMessage t.groupId t.nodeId t.deviceId now body)
  | deviceCommand : t.messageType = str "DCMD" →
      Handled r t now body (r.handleDeviceCommandMessage t.groupId t.nodeId t.deviceId now body)
  | deviceData : t.messageType = str "DDATA" →
      Handled r t now body (r.handleDeviceDataMessage t.groupId t.nodeId t.deviceId now body)
  | other : t.messageType ∉ [str "STATE", str "NBIRTH", str "NDEATH", str "NCMD", str "NDATA",
      str "DBIRTH", str "DDEATH", str "DCMD", str "DDATA"] → Handled r t now body r

theorem handled_message (r : Receiver P) (topicName : Str) (now : UInt64) (body : BodyList) :
    Handled r (parseTopic P topicName) now body (r.message topicName now body) := by
  unfold message
  generalize parseTopic P topicName = t
  dsimp only
  by_cases hstate : t.messageType = str "STATE"
  · rw [if_pos hstate]
    exact .state hstate
  rw [if_neg hstate]
  by_cases hnodeBirth : t.messageType = str "NBIRTH"
  · rw [if_pos hnodeBirth]
    exact .nodeBirth hnodeBirth
  rw [if_neg hnodeBirth]
  by_cases hnodeDeath : t.messageType = str "NDEATH"
  · rw [if_pos hnodeDeath]
    exact .nodeDeath hnodeDeath
  rw [if_neg hnodeDeath]
  by_cases hnodeCommand : t.messageType = str "NCMD"
  · rw [if_pos hnodeCommand]
    exact .nodeCommand hnodeCommand
  rw [if_neg hnodeCommand]
  by_cases hnodeData : t.messageType = str "NDATA"
  · rw [if_pos hnodeData]
    exact .nodeData hnodeData
  rw [if_neg hnodeData]
  by_cases hdeviceBirth : t.messageType = str "DBIRTH"
  · rw [if_pos hdeviceBirth]
    exact .deviceBirth hdeviceBirth
  rw [if_neg hdeviceBirth]
  by_cases hdeviceDeath : t.messageType = str "DDEATH"
  · rw [if_pos hdeviceDeath]
    exact .deviceDeath hdeviceDeath
  rw [if_neg hdeviceDeath]
  by_cases hdeviceCommand : t.messageType = str "DCMD"
  · rw [if_pos hdeviceCommand]
    exact .deviceCommand hdeviceCommand
  rw [if_neg hdeviceCommand]
  by_cases hdeviceData : t.messageType = str "DDATA"
  · rw [if_pos hdeviceData]
    exact .deviceData hdeviceData
  rw [if_neg hdeviceData]
  apply Handled.other
  simp only [List.mem_cons, List.not_mem_nil, or_false, not_or]
  exact ⟨hstate, hnodeBirth, hnodeDeath, hnodeCommand, hnodeData, hdeviceBirth,
    hdeviceDeath, hdeviceCommand, hdeviceData⟩

/-- The client that a message is for is made first, if need be. -/
inductive Ensured (r : Receiver P) (now : UInt64) : Receiver P → Prop
  | known : Ensured r now r
  | host {hostName : Str} : hostName ≠ [] → Ensured r now (r.ensureHost hostName now)
  | node {groupName nodeName : Str} : groupName ≠ [] → nodeName ≠ [] →
      Ensured r now (r.ensureNode groupName nodeName now)

/-- The changes that a message of a type can make to a client; a command changes the
receiver itself. -/
inductive Change (messageType : Str) (now : UInt64) (body : BodyList) :
    Target → (SparkplugNode P → SparkplugNode P) → Prop
  | state (target : Target) : messageType = str "STATE" →
      Change messageType now body target fun n =>
        n.onTopics fun list => list.receive (str "STATE") (Payload.receiveJson body)
  | birth (target : Target) : Change messageType now body target fun n =>
      n.onTopics fun list => list.receive (str "NBIRTH") (Payload.receiveProtobuf true now body)
  | death (target : Target) : Change messageType now body target fun n =>
      n.onTopics fun list =>
        list.receiveDeath (str "NBIRTH") (str "NDEATH") (Payload.receiveProtobuf true now body)
  | command : Change messageType now body .self fun n =>
      n.onTopics fun list => list.update (str "NBIRTH") fun t =>
        t.onPayload (Payload.receiveProtobuf false now body)
  | data (target : Target) : Change messageType now body target fun n =>
      n.onTopics fun list => list.receive (str "NBIRTH") (Payload.receiveProtobuf false now body)
  | deviceBirth (target : Target) (deviceName : Str) :
      Change messageType now body target (Receiver.deviceBirth deviceName now body)
  | deviceDeath (target : Target) (deviceName : Str) : Change messageType now body target fun n =>
      n.onDevice deviceName fun list =>
        list.receiveDeath (str "DBIRTH") (str "DDEATH") (Payload.receiveProtobuf true now body)
  | deviceUpdate (target : Target) (deviceName : Str) :
      Change messageType now body target fun n => n.onDevice deviceName fun list =>
        list.receive (str "DBIRTH") (Payload.receiveProtobuf true now body)

/-- What a message can do: at most one client is made, and then at most one is changed. -/
inductive Effect (r : Receiver P) (messageType : Str) (now : UInt64) (body : BodyList) :
    Receiver P → Prop
  | ensured {s : Receiver P} : Ensured r now s → Effect r messageType now body s
  | changed {s : Receiver P} {target : Target} {f : SparkplugNode P → SparkplugNode P} :
      Ensured r now s → Change messageType now body target f →
      Effect r messageType now body (s.update target f)

@[simp] theorem ensureNode_self (r : Receiver P) (g k : Str) (now : UInt64) :
    (r.ensureNode g k now).self = r.self := by
  unfold ensureNode
  split <;> rfl

@[simp] theorem ensureHost_self (r : Receiver P) (h : Str) (now : UInt64) :
    (r.ensureHost h now).self = r.self := by
  unfold ensureHost
  split <;> rfl

section Effects
variable {r s : Receiver P} {messageType : Str} {now : UInt64} {body : BodyList}

theorem Ensured.self_eq (h : Ensured r now s) : s.self = r.self := by
  cases h with
  | known => rfl
  | host _ => exact ensureHost_self r _ now
  | node _ _ => exact ensureNode_self r _ _ now

theorem effect_onNode (hs : Ensured r now s) {f : SparkplugNode P → SparkplugNode P}
    (hf : ∀ target, Change messageType now body target f) (groupName nodeName : Str) :
    Effect r messageType now body (s.onNode groupName nodeName f) := by
  unfold onNode
  split
  · exact .ensured hs
  · exact .changed hs (hf _)

theorem effect_deviceUpdate (groupName nodeName deviceName : Str) :
    Effect r messageType now body
      (r.handleDeviceUpdate groupName nodeName deviceName now body) := by
  unfold handleDeviceUpdate
  split
  · exact .ensured .known
  · rename_i hnames
    rw [not_or, not_or] at hnames
    exact effect_onNode (.node hnames.1 hnames.2.1) (.deviceUpdate · deviceName) _ _

theorem effect_message (r : Receiver P) (topicName : Str) (now : UInt64) (body : BodyList) :
    Effect r (parseTopic P topicName).messageType now body (r.message topicName now body) := by
  have hhandled := r.handled_message topicName now body
  generalize r.message topicName now body = next at hhandled ⊢
  generalize parseTopic P topicName = t at hhandled
  cases hhandled with
  | state htype =>
    unfold handleStateMessage
    split
    · exact .ensured .known
    · rename_i hname
      dsimp only
      split
      · exact .ensured (.host hname)
      · exact .changed (.host hname) (.state _ htype)
  | nodeBirth _ =>
    unfold handleNodeBirthMessage
    split
    · exact .ensured .known
    · rename_i hnames
      rw [not_or] at hnames
      exact effect_onNode (.node hnames.1 hnames.2) .birth _ _
  | nodeDeath _ => exact effect_onNode .known .death _ _
  | nodeCommand _ =>
    unfold handleNodeCommandMessage
    split
    · exact .ensured .known
    · split
      · exact .ensured .known
      · split
        · exact .changed .known .command
        · exact .ensured .known
  | nodeData _ => exact effect_onNode .known .data _ _
  | deviceBirth _ =>
    unfold handleDeviceBirthMessage
    split
    · exact .ensured .known
    · rename_i hnames
      rw [not_or, not_or] at hnames
      exact effect_onNode (.node hnames.1 hnames.2.1) (.deviceBirth · _) _ _
  | deviceDeath _ =>
    unfold handleDeviceDeathMessage
    split
    · exact .ensured .known
    · exact effect_onNode .known (.deviceDeath · _) _ _
  | deviceCommand _ => exact effect_deviceUpdate _ _ _
  | deviceData _ => exact effect_deviceUpdate _ _ _
  | other _ => exact .ensured .known

end Effects

/-- Whether some mirrored host has announced that it is online. -/
def isHostOnline (r : Receiver P) : Bool :=
  r.nodeList.any fun n =>
    n.isHost && match n.topicList.getTopicByMessageType (str "STATE") with
      | none => false
      | some t => t.payload.getBoolValue (str "online")

theorem get?_update_self {r : Receiver P} {target : Target} {n : SparkplugNode P}
    {f : SparkplugNode P → SparkplugNode P} (h : r.get? target = some n) :
    (r.update target f).get? target = some (f n) := by
  cases target with
  | self =>
    have hn : r.self = n := Option.some.inj h
    simp [get?, update, hn]
  | remote i =>
    simp only [get?] at h
    simp [get?, update, h]

theorem get?_update_ne {r : Receiver P} {target other : Target}
    {f : SparkplugNode P → SparkplugNode P} (h : other ≠ target) :
    (r.update target f).get? other = r.get? other := by
  cases target with
  | self =>
    cases other with
    | self => exact absurd rfl h
    | remote j => rfl
  | remote i =>
    cases other with
    | self => rfl
    | remote j =>
      have hne : i ≠ j := fun hij => h (hij ▸ rfl)
      simp [get?, update, hne]

theorem getHost_spec {r : Receiver P} {h : Str} {target : Target}
    (ht : r.getHost h = some target) :
    ∃ n, r.get? target = some n ∧ isHostNamed h n = true := by
  unfold getHost at ht
  split at ht
  · rename_i hself
    rw [← Option.some.inj ht]
    exact ⟨r.self, rfl, hself⟩
  · obtain ⟨i, hi, rfl⟩ := Option.map_eq_some_iff.mp ht
    obtain ⟨hlt, hnamed, _⟩ := List.findIdx?_eq_some_iff_getElem.mp hi
    exact ⟨r.nodeList[i], List.getElem?_eq_getElem hlt, hnamed⟩

theorem getNode_spec {r : Receiver P} {g k : Str} {target : Target}
    (ht : r.getNode g k = some target) :
    ∃ n, r.get? target = some n ∧ isNodeNamed g k n = true := by
  unfold getNode at ht
  split at ht
  · cases ht
  · split at ht
    · rename_i hself
      rw [← Option.some.inj ht]
      exact ⟨r.self, rfl, hself⟩
    · obtain ⟨i, hi, rfl⟩ := Option.map_eq_some_iff.mp ht
      obtain ⟨hlt, hnamed, _⟩ := List.findIdx?_eq_some_iff_getElem.mp hi
      exact ⟨r.nodeList[i], List.getElem?_eq_getElem hlt, hnamed⟩

end Receiver
end PubSub
