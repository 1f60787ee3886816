import PubSub.PayloadHelper
import Mathlib.Data.List.Infix

/-!
# Topics

A topic has a name, the parts of the name, a payload and the publish flag. The name
parser fills only the parts that are still empty, and swaps the parts of a STATE
topic. The two classes of topics differ in how they generate the body they publish.
-/

namespace PubSub
set_option autoImplicit false

inductive QualityOfService where
  | qos0 | qos1 | qos2
  deriving DecidableEq, Repr

structure Topic (P : Platform) where
  contentType : Str := []
  topic : Str := []
  nameSpace : Str := []
  groupId : Str := []
  messageType : Str := []
  nodeId : Str := []
  deviceId : Str := []
  payload : Payload P := {}
  publish : Bool := false
  qos : QualityOfService := .qos0
  retained : Bool := false

namespace Topic
variable {P : Platform}

def assignLevelName (level : Nat) (name : Str) (t : Topic P) : Topic P :=
  match level with
  | 0 => if t.nameSpace = [] then { t with nameSpace := name } else t
  | 1 => if t.groupId = [] then { t with groupId := name } else t
  | 2 => if t.messageType = [] then { t with messageType := name } else t
  | 3 => if t.nodeId = [] then { t with nodeId := name } else t
  | 4 => if t.deviceId = [] then { t with deviceId := name } else t
  | _ => t

/-- The character loop of `Topic(topic)`; `temp` is the level read so far. The text
behind the last slash counts only if there was a slash and the text is not empty. -/
def assignLevels : Str → Nat → Str → Topic P → Topic P
  | [], level, temp, t =>
    if 0 < level ∧ temp ≠ [] then t.assignLevelName level temp else t
  | c :: cs, level, temp, t =>
    if c = 47 then assignLevels cs (level + 1) [] (t.assignLevelName level temp)
    else assignLevels cs level (temp ++ [c]) t

def setTopic (name : Str) (t : Topic P) : Topic P :=
  let t := assignLevels name 0 [] { t with topic := name }
  if t.nameSpace = str "spBv1.0" ∧ t.groupId = str "STATE" then
    { t with nodeId := t.messageType, messageType := t.groupId, groupId := [] }
  else t

def topicName (t : Topic P) : Str :=
  if t.topic = [] then
    List.intercalate [47]
      ([t.nameSpace, t.groupId, t.messageType, t.nodeId, t.deviceId].filter (· ≠ []))
  else t.topic

/-- The name that `Topic() const` stores in its mutable member. -/
def cacheTopic (t : Topic P) : Topic P := { t with topic := t.topicName }

def onPayload (f : Payload P → Payload P) (t : Topic P) : Topic P :=
  { t with payload := f t.payload }

def isUpdated (t : Topic P) : Bool := t.payload.isUpdated

def resetUpdated (t : Topic P) : Topic P := t.onPayload Payload.resetUpdated

def setAllMetricsInvalid (t : Topic P) : Topic P := t.onPayload Payload.setAllMetricsInvalid

def isJson (t : Topic P) : Bool := decide (str "json" <:+: t.contentType)

def isProtobuf (t : Topic P) : Bool := decide (str "protobuf" <:+: t.contentType)

end Topic

/-- What is handed to `MQTTAsync_sendMessage`. -/
structure MqttMessage where
  topicName : Str
  body : BodyList
  qos : QualityOfService
  retained : Bool
  deriving DecidableEq

namespace Topic
variable {P : Platform}

def message (t : Topic P) : MqttMessage where
  topicName := t.topicName
  body := t.payload.body
  qos := t.qos
  retained := t.retained

end Topic

namespace MqttTopic
variable {P : Platform}

def generate (t : Topic P) : Topic P :=
  if t.isJson then t.onPayload Payload.generateJson
  else if t.isProtobuf then t.onPayload Payload.generateProtobuf
  else t.onPayload Payload.generateText

/-- The topic afterwards and the message, if one was handed over. A send that fails
at once (`sent` is false) marks the metrics invalid. -/
def doPublish (sent : Bool) (t : Topic P) : Topic P × Option MqttMessage :=
  if t.publish then
    let t := (generate t).cacheTopic
    (if sent then t else t.setAllMetricsInvalid, some t.message)
  else (t, none)

end MqttTopic

namespace SparkplugTopic
variable {P : Platform}

def isState (t : Topic P) : Bool := decide (t.messageType = str "STATE")

def generate (sequenceNumber : UInt8) (t : Topic P) : Topic P :=
  if isState t then t.onPayload Payload.generateJson
  else t.onPayload fun p =>
    Payload.generateProtobuf { p with sequenceNumber := sequenceNumber.toUInt64 }

/-- The node's next sequence number; a STATE message does not take one. -/
def nextSequenceNumber (sequenceNumber : UInt8) (t : Topic P) : UInt8 :=
  if isState t then sequenceNumber else sequenceNumber + 1

def doPublish (sequenceNumber : UInt8) (t : Topic P) : Topic P :=
  (generate sequenceNumber t).cacheTopic

def create : Topic P := { nameSpace := str "spBv1.0" }

end SparkplugTopic

namespace Topic
variable {P : Platform}

@[simp] theorem onPayload_messageType (f : Payload P → Payload P) (t : Topic P) :
    (t.onPayload f).messageType = t.messageType := rfl

@[simp] theorem onPayload_publish (f : Payload P → Payload P) (t : Topic P) :
    (t.onPayload f).publish = t.publish := rfl

@[simp] theorem onPayload_nameSpace (f : Payload P → Payload P) (t : Topic P) :
    (t.onPayload f).nameSpace = t.nameSpace := rfl

@[simp] theorem onPayload_payload (f : Payload P → Payload P) (t : Topic P) :
    (t.onPayload f).payload = f t.payload := rfl

@[simp] theorem cacheTopic_payload (t : Topic P) : t.cacheTopic.payload = t.payload := rfl

@[simp] theorem cacheTopic_messageType (t : Topic P) :
    t.cacheTopic.messageType = t.messageType := rfl

@[simp] theorem cacheTopic_publish (t : Topic P) : t.cacheTopic.publish = t.publish := rfl

@[simp] theorem cacheTopic_nameSpace (t : Topic P) :
    t.cacheTopic.nameSpace = t.nameSpace := rfl

@[simp] theorem doPublish_messageType (sequenceNumber : UInt8) (t : Topic P) :
    (SparkplugTopic.doPublish sequenceNumber t).messageType = t.messageType := by
  unfold SparkplugTopic.doPublish SparkplugTopic.generate
  split <;> rfl

@[simp] theorem doPublish_nameSpace (sequenceNumber : UInt8) (t : Topic P) :
    (SparkplugTopic.doPublish sequenceNumber t).nameSpace = t.nameSpace := by
  unfold SparkplugTopic.doPublish SparkplugTopic.generate
  split <;> rfl

@[simp] theorem doPublish_publish (sequenceNumber : UInt8) (t : Topic P) :
    (SparkplugTopic.doPublish sequenceNumber t).publish = t.publish := by
  unfold SparkplugTopic.doPublish SparkplugTopic.generate
  split <;> rfl

/-- What the name parser leaves alone: the payload, the publish flag, and the namespace
and message type once they are set. -/
structure SameContent (s t : Topic P) : Prop where
  payload : s.payload = t.payload
  publish : s.publish = t.publish
  nameSpace : t.nameSpace ≠ [] → s.nameSpace = t.nameSpace
  messageType : t.messageType ≠ [] → s.messageType = t.messageType

theorem SameContent.refl (t : Topic P) : SameContent t t :=
  ⟨rfl, rfl, fun _ => rfl, fun _ => rfl⟩

theorem SameContent.trans {r s t : Topic P} (hrs : SameContent r s) (hst : SameContent s t) :
    SameContent r t where
  payload := hrs.payload.trans hst.payload
  publish := hrs.publish.trans hst.publish
  nameSpace h := by
    have hs := hst.nameSpace h
    exact (hrs.nameSpace (hs ▸ h)).trans hs
  messageType h := by
    have hs := hst.messageType h
    exact (hrs.messageType (hs ▸ h)).trans hs

theorem assignLevelName_content (level : Nat) (name : Str) (t : Topic P) :
    SameContent (t.assignLevelName level name) t := by
  unfold assignLevelName
  split <;> (try split) <;> constructor <;> simp_all

theorem assignLevels_content (cs : Str) (level : Nat) (temp : Str) (t : Topic P) :
    SameContent (assignLevels cs level temp t) t := by
  induction cs generalizing level temp t with
  | nil =>
    simp only [assignLevels]
    split
    · exact assignLevelName_content level temp t
    · exact .refl t
  | cons c cs ih =>
    simp only [assignLevels]
    split
    · exact (ih _ _ _).trans (assignLevelName_content level temp t)
    · exact ih _ _ _

theorem setTopic_payload (name : Str) (t : Topic P) : (t.setTopic name).payload = t.payload := by
  have h := assignLevels_content name 0 [] { t with topic := name }
  unfold setTopic
  dsimp only
  split
  · exact h.payload
  · exact h.payload

theorem setTopic_nameSpace {name : Str} {t : Topic P} (ht : t.nameSpace ≠ []) :
    (t.setTopic name).nameSpace = t.nameSpace := by
  have h := assignLevels_content name 0 [] { t with topic := name }
  unfold setTopic
  dsimp only
  split
  · exact h.nameSpace ht
  · exact h.nameSpace ht

/-- A message type that is set stays, unless the name turns the topic into a STATE one. -/
theorem setTopic_messageType {name : Str} {t : Topic P} (ht : t.messageType ≠ [])
    (hs : t.messageType = str "STATE" ∨ (t.nameSpace ≠ [] ∧ t.nameSpace ≠ str "spBv1.0")) :
    (t.setTopic name).messageType = t.messageType := by
  have h := assignLevels_content name 0 [] { t with topic := name }
  unfold setTopic
  dsimp only
  split
  · rename_i hstate
    rcases hs with hs | ⟨hne, hns⟩
    · exact hstate.2.trans hs.symm
    · exact absurd ((h.nameSpace hne).symm.trans hstate.1) hns
  · exact h.messageType ht

theorem assignLevelName_topic (level : Nat) (part : Str) (t : Topic P) :
    (t.assignLevelName level part).topic = t.topic := by
  unfold assignLevelName
  split <;> (try split) <;> rfl

theorem assignLevels_topic (cs : Str) (level : Nat) (temp : Str) (t : Topic P) :
    (assignLevels cs level temp t).topic = t.topic := by
  induction cs generalizing level temp t with
  | nil =>
    simp only [assignLevels]
    split
    · exact assignLevelName_topic level temp t
    · rfl
  | cons c cs ih =>
    simp only [assignLevels]
    split
    · exact (ih _ _ _).trans (assignLevelName_topic level temp t)
    · exact ih _ _ _

theorem setTopic_topic (name : Str) (t : Topic P) : (t.setTopic name).topic = name := by
  have h := assignLevels_topic name 0 [] { t with topic := name }
  unfold setTopic
  dsimp only
  split
  · exact h
  · exact h

theorem topicName_of_topic {t : Topic P} {name : Str} (h : t.topic = name) (hne : name ≠ []) :
    t.topicName = name := by
  unfold topicName
  rw [if_neg (h ▸ hne)]
  exact h

theorem topicName_cacheTopic (t : Topic P) : t.cacheTopic.topicName = t.topicName := by
  by_cases h : t.topicName = []
  · have htopic : t.topic = [] := by
      by_contra hne
      unfold topicName at h
      exact hne ((if_neg hne).symm.trans h)
    unfold cacheTopic
    rw [h, ← htopic]
    exact h.trans htopic.symm
  · exact topicName_of_topic rfl h

end Topic
end PubSub
