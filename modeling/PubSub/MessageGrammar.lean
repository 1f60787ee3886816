import PubSub.TopicLevels
import PubSub.Reference

/-!
# The names that messages are accepted under

`Message` chooses a handler by the third level of the name, or by the second one for a STATE
message. The first level and surplus levels are never looked at, and missing levels reach the
handlers as empty names. So the grammar of Sparkplug names is kept exactly by the names that
belong to it and by those without a message type in its place.
-/

namespace PubSub
set_option autoImplicit false

inductive NodeMessageType where
  | birth | death | command | data
  deriving DecidableEq

inductive DeviceMessageType where
  | birth | death | command | data
  deriving DecidableEq

def NodeMessageType.text : NodeMessageType → Str
  | .birth => str "NBIRTH"
  | .death => str "NDEATH"
  | .command => str "NCMD"
  | .data => str "NDATA"

def DeviceMessageType.text : DeviceMessageType → Str
  | .birth => str "DBIRTH"
  | .death => str "DDEATH"
  | .command => str "DCMD"
  | .data => str "DDATA"

/-- A call of a handler, with the names it gets. -/
inductive HandlerCall where
  | state (host : Str)
  | node (type : NodeMessageType) (group node : Str)
  | device (type : DeviceMessageType) (group node device : Str)
  deriving DecidableEq

namespace Receiver
variable {P : Platform}

def handle (c : HandlerCall) (now : UInt64) (body : BodyList) (r : Receiver P) : Receiver P :=
  match c with
  | .state h => r.handleStateMessage h now body
  | .node .birth g n => r.handleNodeBirthMessage g n now body
  | .node .death g n => r.handleNodeDeathMessage g n now body
  | .node .command g n => r.handleNodeCommandMessage g n now body
  | .node .data g n => r.handleNodeDataMessage g n now body
  | .device .birth g n d => r.handleDeviceBirthMessage g n d now body
  | .device .death g n d => r.handleDeviceDeathMessage g n d now body
  | .device .command g n d => r.handleDeviceCommandMessage g n d now body
  | .device .data g n d => r.handleDeviceDataMessage g n d now body

/-- The call for a message type and the names beside it. -/
def callOf (messageType group node device : Str) : Option HandlerCall :=
  if messageType = str "STATE" then some (.state node)
  else if messageType = str "NBIRTH" then some (.node .birth group node)
  else if messageType = str "NDEATH" then some (.node .death group node)
  else if messageType = str "NCMD" then some (.node .command group node)
  else if messageType = str "NDATA" then some (.node .data group node)
  else if messageType = str "DBIRTH" then some (.device .birth group node device)
  else if messageType = str "DDEATH" then some (.device .death group node device)
  else if messageType = str "DCMD" then some (.device .command group node device)
  else if messageType = str "DDATA" then some (.device .data group node device)
  else none

/-- The call that `Message` makes for a name. -/
def handlerCall (P : Platform) (topicName : Str) : Option HandlerCall :=
  let temp := parseTopic P topicName
  callOf temp.messageType temp.groupId temp.nodeId temp.deviceId

def messageTypes : List Str :=
  [str "STATE", str "NBIRTH", str "NDEATH", str "NCMD", str "NDATA", str "DBIRTH",
    str "DDEATH", str "DCMD", str "DDATA"]

theorem callOf_eq_none {messageType : Str} (group node device : Str) :
    callOf messageType group node device = none ↔ messageType ∉ messageTypes := by
  have hchoose : ∀ (p : Prop) [Decidable p] (c : HandlerCall) (rest : Option HandlerCall),
      (if p then some c else rest) = none ↔ ¬ p ∧ rest = none := by
    intro p _ c rest
    split <;> simp_all
  simp only [callOf, hchoose, messageTypes, List.mem_cons, List.not_mem_nil, or_false, not_or,
    and_true]

/-- A message is handled by the call for its name, or not at all. -/
theorem message_eq (r : Receiver P) (topicName : Str) (now : UInt64) (body : BodyList) :
    r.message topicName now body =
      match handlerCall P topicName with
      | none => r
      | some c => r.handle c now body := by
  have hhandled := r.handled_message topicName now body
  unfold handlerCall
  dsimp only
  generalize r.message topicName now body = next at hhandled ⊢
  generalize parseTopic P topicName = t at hhandled ⊢
  cases hhandled with
  | state htype | nodeBirth htype | nodeDeath htype | nodeCommand htype | nodeData htype
  | deviceBirth htype | deviceDeath htype | deviceCommand htype | deviceData htype =>
    rw [htype]
    rfl
  | other htype => rw [(callOf_eq_none _ _ _).mpr htype]

theorem handlerCall_state {name : Str} (h : level 1 name = str "STATE") :
    handlerCall P name = some (.state (level 2 name)) := by
  unfold handlerCall
  rw [parseTopic_state h]
  exact if_pos rfl

theorem handlerCall_other {name : Str} (h : level 1 name ≠ str "STATE") :
    handlerCall P name = callOf (level 2 name) (level 1 name) (level 3 name) (level 4 name) := by
  unfold handlerCall
  rw [parseTopic_other h]
  rfl

end Receiver

/-- A name without a slash in it. -/
def IsName (s : Str) : Prop := s ≠ [] ∧ 47 ∉ s

/-- The names of Sparkplug messages and the calls they stand for. -/
inductive SparkplugName : Str → HandlerCall → Prop
  | state {h : Str} : IsName h →
    SparkplugName (joinLevels [str "spBv1.0", str "STATE", h]) (.state h)
  | node (type : NodeMessageType) {g n : Str} : IsName g → g ≠ str "STATE" → IsName n →
    SparkplugName (joinLevels [str "spBv1.0", g, type.text, n]) (.node type g n)
  | device (type : DeviceMessageType) {g n d : Str} : IsName g → g ≠ str "STATE" → IsName n →
    IsName d →
    SparkplugName (joinLevels [str "spBv1.0", g, type.text, n, d]) (.device type g n d)

namespace Receiver
variable {P : Platform}

theorem levels_state {h : Str} (hh : IsName h) :
    levels (joinLevels [str "spBv1.0", str "STATE", h]) = [str "spBv1.0", str "STATE", h] := by
  apply levels_joinLevels (List.cons_ne_nil _ _)
  simp only [List.forall_mem_cons]
  exact ⟨by decide, by decide, hh.2, nofun⟩

theorem levels_node (type : NodeMessageType) {g n : Str} (hg : IsName g) (hn : IsName n) :
    levels (joinLevels [str "spBv1.0", g, type.text, n]) =
      [str "spBv1.0", g, type.text, n] := by
  apply levels_joinLevels (List.cons_ne_nil _ _)
  simp only [List.forall_mem_cons]
  refine ⟨by decide, hg.2, ?_, hn.2, nofun⟩
  cases type <;> decide

theorem levels_device (type : DeviceMessageType) {g n d : Str} (hg : IsName g) (hn : IsName n)
    (hd : IsName d) : levels (joinLevels [str "spBv1.0", g, type.text, n, d]) =
      [str "spBv1.0", g, type.text, n, d] := by
  apply levels_joinLevels (List.cons_ne_nil _ _)
  simp only [List.forall_mem_cons]
  refine ⟨by decide, hg.2, ?_, hn.2, hd.2, nofun⟩
  cases type <;> decide

theorem firstLevel_of_name {name : Str} {c : HandlerCall} (h : SparkplugName name c) :
    level 0 name = str "spBv1.0" := by
  cases h with
  | state hh => rw [level, levels_state hh, List.getD_cons_zero]
  | node type hg _ hn => rw [level, levels_node type hg hn, List.getD_cons_zero]
  | device type hg _ hn hd => rw [level, levels_device type hg hn hd, List.getD_cons_zero]

theorem handlerCall_of_name {name : Str} {c : HandlerCall} (h : SparkplugName name c) :
    handlerCall P name = some c := by
  cases h with
  | state hh =>
    have hlevels := levels_state hh
    rw [handlerCall_state (by rw [level, hlevels]; rfl), level, hlevels]
    rfl
  | node type hg hne hn =>
    have hlevels := levels_node type hg hn
    rw [handlerCall_other (by rw [level, hlevels]; exact hne)]
    simp only [level, hlevels]
    cases type <;> rfl
  | device type hg hne hn hd =>
    have hlevels := levels_device type hg hn hd
    rw [handlerCall_other (by rw [level, hlevels]; exact hne)]
    simp only [level, hlevels]
    cases type <;> rfl

/-- No handler is called exactly when no message type stands in its place. -/
theorem handlerCall_eq_none (name : Str) : handlerCall P name = none ↔
    level 1 name ≠ str "STATE" ∧ level 2 name ∉ messageTypes := by
  by_cases h : level 1 name = str "STATE"
  · rw [handlerCall_state h]
    exact ⟨nofun, fun hs => absurd h hs.1⟩
  · rw [handlerCall_other h, callOf_eq_none]
    exact ⟨fun hs => ⟨h, hs⟩, fun hs => hs.2⟩

/-- The name is handled as the grammar says: by its call when it has one, and without any
effect when it has none. -/
structure KeepsGrammar (P : Platform) (name : Str) : Prop where
  calls : ∀ c, handlerCall P name = some c ↔ SparkplugName name c
  ignored : (∀ c, ¬ SparkplugName name c) → ∀ (r : Receiver P) (now : UInt64) (body : BodyList),
    r.message name now body = r

/-- The grammar is kept by its own names, and by the names that have neither STATE as their
second level nor a message type as their third. -/
theorem keepsGrammar_iff (P : Platform) (name : Str) : KeepsGrammar P name ↔
    (∃ c, SparkplugName name c) ∨
      (level 1 name ≠ str "STATE" ∧ level 2 name ∉ messageTypes) := by
  rw [← handlerCall_eq_none (P := P)]
  constructor
  · intro h
    cases hcall : handlerCall P name with
    | none => exact .inr rfl
    | some c => exact .inl ⟨c, (h.calls c).mp hcall⟩
  · rintro (⟨c, hc⟩ | hnone)
    · have hcall := handlerCall_of_name (P := P) hc
      refine ⟨fun d => ⟨fun hd => ?_, handlerCall_of_name⟩, fun hnot => absurd hc (hnot c)⟩
      rw [hcall] at hd
      rw [← Option.some.inj hd]
      exact hc
    · refine ⟨fun d => ⟨fun hd => ?_, handlerCall_of_name⟩, fun _ r now body => ?_⟩
      · rw [hnone] at hd
        cases hd
      · rw [message_eq, hnone]

/-- A birth under a foreign namespace makes a mirror. -/
theorem foreign_birth_is_handled :
    ¬ KeepsGrammar Platform.reference (str "foo/G/NBIRTH/N") ∧
      ((({ self := SparkplugNode.create 0 } : Receiver Platform.reference).message
        (str "foo/G/NBIRTH/N") 0 []).nodeList.length = 1 ∧
      ∀ c, ¬ SparkplugName (str "foo/G/NBIRTH/N") c) := by
  have hlevels : levels (str "foo/G/NBIRTH/N") = [str "foo", str "G", str "NBIRTH", str "N"] := by
    decide +kernel
  have hnot : ∀ c, ¬ SparkplugName (str "foo/G/NBIRTH/N") c := by
    intro c hc
    have hfirst := firstLevel_of_name hc
    rw [level, hlevels] at hfirst
    exact absurd hfirst (by decide)
  have hcall : handlerCall Platform.reference (str "foo/G/NBIRTH/N") =
      some (.node .birth (str "G") (str "N")) := by
    decide +kernel
  exact ⟨fun h => hnot _ ((h.calls _).mp hcall), by decide +kernel, hnot⟩

end Receiver
end PubSub
