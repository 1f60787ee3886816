import PubSub.MessageGrammar
import PubSub.Node

/-!
# The five fields of a topic

`Topic(topic)` fills the fields that are still empty from the components of the name, and then
moves the fields of a STATE name. What it leaves behind depends on what was there before, so a
second call with the same name gives the same fields only where the first one did not move
them, or where the moved fields move back to themselves.
-/

namespace PubSub
set_option autoImplicit false

/-- The components of a name. A name without a slash has none. -/
def components (name : Str) : List Str := if 47 ∈ name then levels name else []

def component (i : Nat) (name : Str) : Str := (components name).getD i []

structure TopicFields where
  nameSpace : Str := []
  groupId : Str := []
  messageType : Str := []
  nodeId : Str := []
  deviceId : Str := []
  deriving DecidableEq

/-- Only an empty field takes a part of the name. -/
def fillField (field part : Str) : Str := if field = [] then part else field

theorem fillField_fillField (field part : Str) :
    fillField (fillField field part) part = fillField field part := by
  unfold fillField
  by_cases h : field = []
  · rw [if_pos h]
    by_cases hp : part = []
    · rw [if_pos hp]
    · rw [if_neg hp]
  · rw [if_neg h, if_neg h]

theorem fillField_nil (part : Str) : fillField [] part = part := if_pos rfl

theorem fillField_of_ne {field : Str} (h : field ≠ []) (part : Str) :
    fillField field part = field := if_neg h

namespace TopicFields

def assign : Nat → Str → TopicFields → TopicFields
  | 0, part, f => { f with nameSpace := fillField f.nameSpace part }
  | 1, part, f => { f with groupId := fillField f.groupId part }
  | 2, part, f => { f with messageType := fillField f.messageType part }
  | 3, part, f => { f with nodeId := fillField f.nodeId part }
  | 4, part, f => { f with deviceId := fillField f.deviceId part }
  | _, _, f => f

def assignParts : List Str → Nat → TopicFields → TopicFields
  | [], _, f => f
  | part :: parts, level, f => assignParts parts (level + 1) (f.assign level part)

/-- The fields after the character loop: each one that was empty is the component of its
place. -/
def fill (name : Str) (f : TopicFields) : TopicFields where
  nameSpace := fillField f.nameSpace (component 0 name)
  groupId := fillField f.groupId (component 1 name)
  messageType := fillField f.messageType (component 2 name)
  nodeId := fillField f.nodeId (component 3 name)
  deviceId := fillField f.deviceId (component 4 name)

def IsState (f : TopicFields) : Prop :=
  f.nameSpace = str "spBv1.0" ∧ f.groupId = str "STATE"

instance (f : TopicFields) : Decidable f.IsState :=
  inferInstanceAs (Decidable (_ ∧ _))

/-- The shift of a STATE name. -/
def shift (f : TopicFields) : TopicFields :=
  if f.IsState then
    { f with nodeId := f.messageType, messageType := f.groupId, groupId := [] }
  else f

theorem assignParts_surplus (parts : List Str) {level : Nat} (h : 5 ≤ level)
    (f : TopicFields) : f.assignParts parts level = f := by
  induction parts generalizing level f with
  | nil => rfl
  | cons part parts ih =>
    obtain ⟨k, rfl⟩ := Nat.exists_eq_add_of_le' h
    exact ih (Nat.le_succ_of_le h) f

/-- The parts of a name fill the fields in order. Surplus parts are ignored. -/
theorem assignParts_eq (parts : List Str) (f : TopicFields) :
    f.assignParts parts 0 =
      { nameSpace := fillField f.nameSpace (parts.getD 0 [])
        groupId := fillField f.groupId (parts.getD 1 [])
        messageType := fillField f.messageType (parts.getD 2 [])
        nodeId := fillField f.nodeId (parts.getD 3 [])
        deviceId := fillField f.deviceId (parts.getD 4 []) } := by
  have hnone : ∀ field : Str, fillField field [] = field := by
    intro field
    unfold fillField
    split
    · exact (‹field = []›).symm
    · rfl
  rcases parts with _ | ⟨a, _ | ⟨b, _ | ⟨c, _ | ⟨d, _ | ⟨e, parts⟩⟩⟩⟩⟩
  all_goals simp only [List.getD_cons_zero, List.getD_cons_succ, List.getD_nil, hnone]
  iterate 5 rfl
  exact assignParts_surplus parts (Nat.le_refl 5) _

theorem fill_fill (name : Str) (f : TopicFields) : (f.fill name).fill name = f.fill name := by
  unfold fill
  simp only [fillField_fillField]

theorem shift_of_isState {f : TopicFields} (h : f.IsState) :
    f.shift = ⟨str "spBv1.0", [], str "STATE", f.messageType, f.deviceId⟩ := by
  unfold shift
  rw [if_pos h, h.1, h.2]

theorem shift_of_not_isState {f : TopicFields} (h : ¬ f.IsState) : f.shift = f := if_neg h

end TopicFields

namespace Topic
variable {P : Platform}

def fields (t : Topic P) : TopicFields where
  nameSpace := t.nameSpace
  groupId := t.groupId
  messageType := t.messageType
  nodeId := t.nodeId
  deviceId := t.deviceId

theorem fields_assignLevelName (level : Nat) (part : Str) (t : Topic P) :
    (t.assignLevelName level part).fields = t.fields.assign level part := by
  have hassign : ∀ {field : Str} {changed same : TopicFields} (value : Str → TopicFields),
      changed = value part → same = value field →
      (if field = [] then changed else same) = value (fillField field part) := by
    intro field changed same value hchanged hsame
    unfold fillField
    split
    · exact hchanged
    · exact hsame
  match level with
  | 0 =>
    rw [assignLevelName, apply_ite fields]
    exact hassign (fun s => { t.fields with nameSpace := s }) rfl rfl
  | 1 =>
    rw [assignLevelName, apply_ite fields]
    exact hassign (fun s => { t.fields with groupId := s }) rfl rfl
  | 2 =>
    rw [assignLevelName, apply_ite fields]
    exact hassign (fun s => { t.fields with messageType := s }) rfl rfl
  | 3 =>
    rw [assignLevelName, apply_ite fields]
    exact hassign (fun s => { t.fields with nodeId := s }) rfl rfl
  | 4 =>
    rw [assignLevelName, apply_ite fields]
    exact hassign (fun s => { t.fields with deviceId := s }) rfl rfl
  | level + 5 => rfl

theorem fields_assignParts (parts : List Str) (level : Nat) (t : Topic P) :
    (assignParts parts level t).fields = t.fields.assignParts parts level := by
  induction parts generalizing level t with
  | nil => rfl
  | cons part parts ih =>
    unfold assignParts TopicFields.assignParts
    rw [ih, fields_assignLevelName]

theorem fields_assignLevels (name : Str) (t : Topic P) :
    (assignLevels name 0 [] t).fields = t.fields.fill name := by
  rw [assignLevels_parts]
  unfold TopicFields.fill component components
  have hparts : (name.splitOn 47).modifyHead ([] ++ ·) = levels name := by
    unfold levels
    cases name.splitOn 47 <;> rfl
  by_cases hslash : 47 ∈ name
  · rw [if_neg (fun h => h.2 hslash), if_pos hslash, hparts]
    exact (fields_assignParts (levels name) 0 t).trans (t.fields.assignParts_eq (levels name))
  · rw [if_pos ⟨rfl, hslash⟩, if_neg hslash]
    exact t.fields.assignParts_eq []

/-- `Topic(topic)` fills the empty fields and shifts those of a STATE name. -/
theorem fields_setTopic (name : Str) (t : Topic P) :
    (t.setTopic name).fields = (t.fields.fill name).shift := by
  have hfill := fields_assignLevels name { t with topic := name }
  have hshift : ∀ s : Topic P,
      (if s.nameSpace = str "spBv1.0" ∧ s.groupId = str "STATE" then
        { s with nodeId := s.messageType, messageType := s.groupId, groupId := [] }
      else s).fields = s.fields.shift := by
    intro s
    exact apply_ite fields _ _ _
  exact (hshift _).trans (congrArg TopicFields.shift hfill)

end Topic

/-- When a second call with the name leaves the fields of the first one: they were not moved,
or they move back to themselves. -/
def TopicFields.Settled (f : TopicFields) (name : Str) : Prop :=
  (f.fill name).IsState →
    if component 1 name = str "STATE" then (f.fill name).messageType = str "STATE"
    else component 1 name = [] ∧ ((f.fill name).messageType ≠ [] ∨ component 3 name = [])

namespace TopicFields

theorem fillField_eq_self (field part : Str) :
    fillField field part = field ↔ field ≠ [] ∨ part = [] := by
  unfold fillField
  by_cases h : field = []
  · rw [if_pos h, h]
    simp
  · rw [if_neg h]
    simp [h]

theorem fill_shift (f : TopicFields) (name : Str) (h : (f.fill name).IsState) :
    (f.fill name).shift.fill name =
      ⟨str "spBv1.0", component 1 name, str "STATE",
        fillField (f.fill name).messageType (component 3 name), (f.fill name).deviceId⟩ := by
  have hspace : str "spBv1.0" ≠ [] := by decide
  have hstate : str "STATE" ≠ [] := by decide
  have hdevice : fillField (f.fill name).deviceId (component 4 name) = (f.fill name).deviceId :=
    fillField_fillField _ _
  rw [shift_of_isState h]
  change TopicFields.mk _ _ _ _ _ = _
  dsimp only
  rw [fillField_of_ne hspace, fillField_of_ne hstate, fillField_nil, hdevice]

/-- Filling and shifting is idempotent exactly for the settled fields. -/
theorem fill_shift_idem_iff (f : TopicFields) (name : Str) :
    ((f.fill name).shift.fill name).shift = (f.fill name).shift ↔ f.Settled name := by
  by_cases h : (f.fill name).IsState
  · have hsettled : f.Settled name ↔ _ := imp_iff_right h
    rw [hsettled, f.fill_shift name h, shift_of_isState h]
    by_cases hgroup : component 1 name = str "STATE"
    · rw [if_pos hgroup, shift_of_isState ⟨rfl, hgroup⟩, TopicFields.mk.injEq]
      simp only [true_and, and_true]
      exact eq_comm
    · rw [if_neg hgroup, shift_of_not_isState (fun hs => hgroup hs.2), TopicFields.mk.injEq]
      simp only [true_and, and_true]
      rw [fillField_eq_self]
  · have hsettled : f.Settled name := fun hs => absurd hs h
    rw [shift_of_not_isState h, fill_fill, shift_of_not_isState h]
    exact iff_of_true rfl hsettled

end TopicFields

theorem component_state {h : Str} (hh : IsName h) (i : Nat) :
    component i (joinLevels [str "spBv1.0", str "STATE", h]) =
      [str "spBv1.0", str "STATE", h].getD i [] := by
  have hslash : 47 ∈ joinLevels [str "spBv1.0", str "STATE", h] :=
    List.mem_append_right (str "spBv1.0") List.mem_cons_self
  unfold component components
  rw [if_pos hslash, Receiver.levels_state hh]

namespace SparkplugHost
variable {P : Platform}

/-- A host whose STATE topic was made under one name is started under another one. -/
def startAs (h : Str) (now : UInt64) (n : SparkplugNode P) : SparkplugNode P :=
  start now { createStateTopic n with name := h }

/-- `Start` sets the name on a topic whose node field is taken, so that the component STATE
is all that is moved into it. -/
theorem stateFields_startAs {n : SparkplugNode P} {h : Str} (now : UInt64)
    (hnone : n.topicList.getTopicByMessageType (str "STATE") = none) (hh : IsName h) :
    ∃ t, (startAs h now n).topicList.getTopicByMessageType (str "STATE") = some t ∧
      t.fields = ⟨str "spBv1.0", [], str "STATE", str "STATE", []⟩ := by
  have hother : ∀ t ∈ n.topicList, TopicList.hasMessageType (str "STATE") t = false := by
    intro t ht
    exact Bool.eq_false_iff.mpr (List.find?_eq_none.mp hnone t ht)
  have hspace : str "spBv1.0" ≠ [] := by decide
  have hstate : str "STATE" ≠ [] := by decide
  have hshifted : ∀ s : Topic P, s.nameSpace = str "spBv1.0" → s.groupId = [] →
      s.messageType = str "STATE" → s.deviceId = [] →
      (s.setTopic (joinLevels [str "spBv1.0", str "STATE", h])).fields =
        ⟨str "spBv1.0", [], str "STATE", str "STATE", []⟩ := by
    intro s hns hg hmt hd
    have hfill : s.fields.fill (joinLevels [str "spBv1.0", str "STATE", h]) =
        ⟨str "spBv1.0", str "STATE", str "STATE", fillField s.nodeId [], []⟩ := by
      unfold TopicFields.fill
      simp only [component_state hh, Topic.fields, hns, hg, hmt, hd, fillField_nil]
      rw [fillField_of_ne hspace, fillField_of_ne hstate]
      rfl
    rw [Topic.fields_setTopic, hfill]
    exact TopicFields.shift_of_isState ⟨rfl, rfl⟩
  unfold startAs start addDefaultMetrics createStateTopic
  rw [hnone]
  dsimp only [statePath]
  rw [TopicList.update_append_ne _ _ hother, TopicList.update_cons_self _ _ (by rfl),
    TopicList.update_append_ne _ _ hother, TopicList.update_cons_self _ _ (by rfl),
    TopicList.find_append_ne _ hother]
  refine ⟨_, TopicList.find_cons_self _ ?_, ?_⟩
  · exact congrArg TopicFields.messageType (hshifted _ rfl rfl rfl rfl)
  · exact hshifted _ rfl rfl rfl rfl

end SparkplugHost

variable {P : Platform}

/-- Setting a name twice gives the fields of setting it once exactly where they are settled,
and a started host keeps its name in the node field only if that name is STATE. -/
theorem setTopic_fields_idempotent_iff (P : Platform) :
    (∀ (t : Topic P) (name : Str),
      ((t.setTopic name).setTopic name).fields = (t.setTopic name).fields ↔
        t.fields.Settled name) ∧
    ∀ (n : SparkplugNode P) (h : Str) (now : UInt64),
      n.topicList.getTopicByMessageType (str "STATE") = none → IsName h →
      ∃ t, (SparkplugHost.startAs h now n).topicList.getTopicByMessageType (str "STATE") = some t ∧
        (t.nodeId = h ∧ t.messageType = str "STATE" ∧ t.groupId = [] ↔ h = str "STATE") := by
  constructor
  · intro t name
    rw [Topic.fields_setTopic, Topic.fields_setTopic]
    exact TopicFields.fill_shift_idem_iff t.fields name
  · intro n h now hnone hh
    obtain ⟨t, hfound, hfields⟩ := SparkplugHost.stateFields_startAs now hnone hh
    refine ⟨t, hfound, ?_⟩
    have hnode : t.nodeId = str "STATE" := congrArg TopicFields.nodeId hfields
    have htype : t.messageType = str "STATE" := congrArg TopicFields.messageType hfields
    have hgroup : t.groupId = [] := congrArg TopicFields.groupId hfields
    rw [hnode]
    constructor
    · exact fun hkept => hkept.1.symm
    · exact fun hstate => ⟨hstate.symm, htype, hgroup⟩

/-- The second call takes the fields of a fresh topic apart again, and a host that is created
without a name and started as `h` loses its name. -/
theorem state_name_is_lost :
    (let name := str "spBv1.0/STATE/h"
      let once := ({} : Topic Platform.reference).setTopic name
      once.nodeId = str "h" ∧ (once.setTopic name).nodeId = str "STATE") ∧
    let n : SparkplugNode Platform.reference :=
      { SparkplugNode.create 0 with isHost := true, topicList := [] }
    ((SparkplugHost.startAs (str "h") 1 n).topicList.getTopicByMessageType
      (str "STATE")).map Topic.nodeId = some (str "STATE") := by
  decide +kernel

theorem setTopic_fields_idempotent_iff_holds :
    let fresh : Topic Platform.reference := {}
    let n : SparkplugNode Platform.reference :=
      { SparkplugNode.create 0 with isHost := true, topicList := [] }
    (((fresh.setTopic (str "a/b")).setTopic (str "a/b")).fields =
      (fresh.setTopic (str "a/b")).fields ↔ fresh.fields.Settled (str "a/b")) ∧
    ∃ t, (SparkplugHost.startAs (str "h") 1 n).topicList.getTopicByMessageType (str "STATE") =
        some t ∧
      (t.nodeId = str "h" ∧ t.messageType = str "STATE" ∧ t.groupId = [] ↔
        str "h" = str "STATE") :=
  ⟨(setTopic_fields_idempotent_iff Platform.reference).1 _ _,
    (setTopic_fields_idempotent_iff Platform.reference).2 _ _ 1 rfl ⟨by decide, by decide⟩⟩

/-- The fields of a Sparkplug address: four names and a device that may be missing. -/
def TopicFields.IsAddress (f : TopicFields) : Prop :=
  IsName f.nameSpace ∧ IsName f.groupId ∧ IsName f.messageType ∧ IsName f.nodeId ∧
    47 ∉ f.deviceId ∧ f.groupId ≠ str "STATE"

/-- The fields of a STATE topic. -/
def TopicFields.IsStateAddress (f : TopicFields) : Prop :=
  f.nameSpace = str "spBv1.0" ∧ f.groupId = [] ∧ f.messageType = str "STATE" ∧
    IsName f.nodeId ∧ f.deviceId = []

namespace TopicFields

/-- The name that is generated from the fields. -/
def name (f : TopicFields) : Str :=
  joinLevels ([f.nameSpace, f.groupId, f.messageType, f.nodeId, f.deviceId].filter (· ≠ []))

theorem fill_fresh (name : Str) :
    ({} : TopicFields).fill name =
      ⟨component 0 name, component 1 name, component 2 name, component 3 name,
        component 4 name⟩ := by
  unfold fill
  simp only [fillField_nil]

/-- Two names at least are joined by a slash. -/
theorem components_joinLevels {a b : Str} {parts : List Str}
    (h : ∀ p ∈ a :: b :: parts, 47 ∉ p) :
    components (joinLevels (a :: b :: parts)) = a :: b :: parts := by
  have hslash : 47 ∈ joinLevels (a :: b :: parts) := by
    apply List.mem_append_right a
    exact List.mem_cons_self
  unfold components
  rw [if_pos hslash, levels_joinLevels (List.cons_ne_nil _ _) h]

theorem shift_fill_name_of_isAddress {f : TopicFields} (h : f.IsAddress) :
    (({} : TopicFields).fill f.name).shift = f := by
  obtain ⟨hns, hgroup, htype, hnode, hdevice, hstate⟩ := h
  have hname : f.name = joinLevels (f.nameSpace :: f.groupId :: f.messageType :: f.nodeId ::
      if f.deviceId = [] then [] else [f.deviceId]) := by
    unfold name
    simp only [List.filter_cons, hns.1, hgroup.1, htype.1, hnode.1, ne_eq, not_false_eq_true,
      decide_true, if_true, List.filter_nil]
    by_cases hd : f.deviceId = []
    · simp [hd]
    · simp [hd]
  have hparts : components f.name = f.nameSpace :: f.groupId :: f.messageType :: f.nodeId ::
      if f.deviceId = [] then [] else [f.deviceId] := by
    rw [hname]
    apply components_joinLevels
    simp only [List.forall_mem_cons]
    refine ⟨hns.2, hgroup.2, htype.2, hnode.2, ?_⟩
    split
    · exact nofun
    · simpa using hdevice
  have hlast : component 4 f.name = f.deviceId := by
    unfold component
    rw [hparts]
    by_cases hd : f.deviceId = []
    · rw [if_pos hd, hd]
      rfl
    · rw [if_neg hd]
      rfl
  have hfill : ({} : TopicFields).fill f.name = f := by
    rw [fill_fresh, hlast]
    unfold component
    rw [hparts]
    rfl
  rw [hfill]
  exact shift_of_not_isState fun hs => hstate hs.2

theorem shift_fill_name_of_isStateAddress {f : TopicFields} (h : f.IsStateAddress) :
    (({} : TopicFields).fill f.name).shift = f := by
  obtain ⟨nameSpace, groupId, messageType, nodeId, deviceId⟩ := f
  obtain ⟨hns, hgroup, htype, hnode, hdevice⟩ := h
  dsimp only at hns hgroup htype hnode hdevice
  subst hns hgroup htype hdevice
  have hname : name ⟨str "spBv1.0", [], str "STATE", nodeId, []⟩ =
      joinLevels [str "spBv1.0", str "STATE", nodeId] := by
    have hkept : [nodeId, []].filter (· ≠ []) = [nodeId] := by simp [hnode.1]
    change joinLevels (str "spBv1.0" :: str "STATE" :: [nodeId, []].filter (· ≠ [])) = _
    rw [hkept]
  rw [hname, fill_fresh]
  simp only [component_state hnode]
  exact shift_of_isState ⟨rfl, rfl⟩

end TopicFields

/-- A generated name gives a fresh topic the fields it was generated from, and every name gives
it the components of the name, up to the shift of a STATE name. -/
theorem topicName_parses_back (P : Platform) :
    (∀ t fresh : Topic P, t.topic = [] → fresh.fields = {} →
      t.fields.IsAddress ∨ t.fields.IsStateAddress →
      (fresh.setTopic t.topicName).fields = t.fields) ∧
    ∀ (fresh : Topic P) (name : Str), fresh.fields = {} →
      (Topic.assignLevels name 0 [] { fresh with topic := name }).fields =
        ⟨component 0 name, component 1 name, component 2 name, component 3 name,
          component 4 name⟩ ∧
      (fresh.setTopic name).fields =
        (Topic.assignLevels name 0 [] { fresh with topic := name }).fields.shift := by
  constructor
  · intro t fresh htopic hfresh h
    have hname : t.topicName = t.fields.name := by
      unfold Topic.topicName
      rw [if_pos htopic]
      rfl
    rw [hname, Topic.fields_setTopic, hfresh]
    rcases h with h | h
    · exact TopicFields.shift_fill_name_of_isAddress h
    · exact TopicFields.shift_fill_name_of_isStateAddress h
  · intro fresh name hfresh
    have hloop : (Topic.assignLevels name 0 [] { fresh with topic := name }).fields =
        fresh.fields.fill name := Topic.fields_assignLevels name _
    rw [hloop, Topic.fields_setTopic, hfresh]
    exact ⟨TopicFields.fill_fresh name, rfl⟩

theorem topicName_parses_back_holds :
    let t : Topic Platform.reference :=
      { nameSpace := str "spBv1.0", groupId := str "g", messageType := str "DBIRTH"
        nodeId := str "n", deviceId := str "d" }
    let fresh : Topic Platform.reference := {}
    (fresh.setTopic t.topicName).fields = t.fields ∧
      (fresh.setTopic (str "a/b")).fields =
        (Topic.assignLevels (str "a/b") 0 [] { fresh with topic := str "a/b" }).fields.shift :=
  ⟨(topicName_parses_back Platform.reference).1 _ _ rfl rfl
      (Or.inl (by unfold TopicFields.IsAddress IsName; decide)),
    ((topicName_parses_back Platform.reference).2 _ _ rfl).2⟩

end PubSub
