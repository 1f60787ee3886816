import PubSub.Receiver

/-!
# The levels of a topic name

The character loop of the name parser assigns the parts between the slashes, one level after
the other. For the temporary topic of a message, whose namespace is set beforehand, the parts
are the second to the fifth level, with the shift of a STATE name.
-/

namespace PubSub
set_option autoImplicit false

def levels (name : Str) : List Str := name.splitOn 47

/-- A level that is missing counts as empty. -/
def level (i : Nat) (name : Str) : Str := (levels name).getD i []

theorem levels_joinLevels {parts : List Str} (hne : parts ≠ []) (h : ∀ p ∈ parts, 47 ∉ p) :
    levels (joinLevels parts) = parts := List.splitOn_intercalate 47 h hne

namespace Topic
variable {P : Platform}

/-- One part after the other, from a level on. -/
def assignParts : List Str → Nat → Topic P → Topic P
  | [], _, t => t
  | part :: parts, level, t => assignParts parts (level + 1) (t.assignLevelName level part)

theorem assignLevelName_nil (level : Nat) (t : Topic P) : t.assignLevelName level [] = t := by
  have hsame : ∀ {field : Str} {changed : Topic P}, (field = [] → changed = t) →
      (if field = [] then changed else t) = t := by
    intro field changed h
    split
    · exact h ‹_›
    · rfl
  unfold assignLevelName
  split
  · exact hsame fun h => by rw [← h]
  · exact hsame fun h => by rw [← h]
  · exact hsame fun h => by rw [← h]
  · exact hsame fun h => by rw [← h]
  · exact hsame fun h => by rw [← h]
  · rfl

/-- The character loop assigns the parts of the text, and no part at all of a text without
a slash. -/
theorem assignLevels_parts (cs : Str) (level : Nat) (temp : Str) (t : Topic P) :
    assignLevels cs level temp t =
      if level = 0 ∧ 47 ∉ cs then t
      else assignParts ((cs.splitOn 47).modifyHead (temp ++ ·)) level t := by
  induction cs generalizing level temp t with
  | nil =>
    rw [List.splitOn_nil, List.modifyHead_cons, List.append_nil]
    change (if 0 < level ∧ temp ≠ [] then t.assignLevelName level temp else t) =
      if level = 0 ∧ 47 ∉ [] then t else t.assignLevelName level temp
    by_cases hlevel : level = 0
    · have hlow : ¬ (0 < level ∧ temp ≠ []) := fun h => h.1.ne' hlevel
      rw [if_neg hlow, if_pos ⟨hlevel, List.not_mem_nil⟩]
    · have hhigh : ¬ (level = 0 ∧ (47 : UInt8) ∉ []) := fun h => hlevel h.1
      rw [if_neg hhigh]
      by_cases htemp : temp = []
      · rw [if_neg (fun h => h.2 htemp), htemp, assignLevelName_nil]
      · exact if_pos ⟨Nat.pos_of_ne_zero hlevel, htemp⟩
  | cons c cs ih =>
    rw [List.splitOn_cons_eq_if_modifyHead]
    unfold assignLevels
    by_cases hc : c = 47
    · rw [if_pos hc, if_pos (beq_iff_eq.mpr hc), List.modifyHead_cons, List.append_nil,
        ih (level + 1) [], if_neg (fun h => Nat.succ_ne_zero level h.1),
        if_neg (fun h => h.2 (hc ▸ List.mem_cons_self))]
      have hsame : (cs.splitOn 47).modifyHead ([] ++ ·) = cs.splitOn 47 := by
        cases cs.splitOn 47 <;> rfl
      rw [hsame]
      rfl
    · have hmem : 47 ∈ c :: cs ↔ 47 ∈ cs := by
        simp [Ne.symm hc]
      have hjoin : ((temp ++ [c] ++ ·) : Str → Str) = (temp ++ ·) ∘ (List.cons c) := by
        funext part
        simp
      rw [if_neg hc, if_neg (fun he => hc (beq_iff_eq.mp he)), ih level (temp ++ [c]),
        List.modifyHead_modifyHead, hjoin]
      simp only [hmem]

theorem assignLevels_eq (cs : Str) (level : Nat) (temp : Str) {t : Topic P}
    (h : t.nameSpace ≠ []) : assignLevels cs level temp t =
      assignParts ((cs.splitOn 47).modifyHead (temp ++ ·)) level t := by
  rw [assignLevels_parts]
  split
  · rename_i hnone
    obtain ⟨rfl, hslash⟩ := hnone
    rw [List.splitOn_eq_singleton hslash]
    exact (if_neg h).symm
  · rfl

theorem assignParts_surplus (parts : List Str) {level : Nat} (h : 5 ≤ level) (t : Topic P) :
    assignParts parts level t = t := by
  induction parts generalizing level t with
  | nil => rfl
  | cons part parts ih =>
    obtain ⟨k, rfl⟩ := Nat.exists_eq_add_of_le' h
    exact ih (Nat.le_succ_of_le h) t

end Topic

namespace Receiver
variable {P : Platform}

/-- The fields of the temporary topic before the shift of a STATE name. -/
def unshifted (P : Platform) (name : Str) : Topic P where
  nameSpace := str "spBv1.0"
  topic := name
  groupId := level 1 name
  messageType := level 2 name
  nodeId := level 3 name
  deviceId := level 4 name

theorem assignLevels_create (name : Str) :
    Topic.assignLevels name 0 [] { SparkplugTopic.create (P := P) with topic := name } =
      unshifted P name := by
  have hspace : ({ SparkplugTopic.create (P := P) with topic := name }).nameSpace ≠ [] :=
    (by decide : str "spBv1.0" ≠ [])
  have hparts : (name.splitOn 47).modifyHead ([] ++ ·) = levels name := by
    unfold levels
    cases name.splitOn 47 <;> rfl
  rw [Topic.assignLevels_eq name 0 [] hspace, hparts, unshifted]
  unfold level
  generalize levels name = parts
  rcases parts with _ | ⟨a, _ | ⟨b, _ | ⟨c, _ | ⟨d, _ | ⟨e, parts⟩⟩⟩⟩⟩
  · rfl
  · rfl
  · rfl
  · rfl
  · rfl
  · exact Topic.assignParts_surplus parts (Nat.le_refl 5) _

/-- A STATE name gives its third level as the host. -/
theorem parseTopic_state {name : Str} (h : level 1 name = str "STATE") :
    parseTopic P name = { unshifted P name with
      nodeId := level 2 name
      messageType := str "STATE"
      groupId := [] } := by
  unfold parseTopic Topic.setTopic
  dsimp only
  rw [assignLevels_create]
  rw [if_pos ⟨rfl, h⟩]
  unfold unshifted
  dsimp only
  rw [h]

theorem parseTopic_other {name : Str} (h : level 1 name ≠ str "STATE") :
    parseTopic P name = unshifted P name := by
  unfold parseTopic Topic.setTopic
  dsimp only
  rw [assignLevels_create]
  exact if_neg fun hs => h hs.2

end Receiver
end PubSub
