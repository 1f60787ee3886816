import Mathlib.Data.List.Basic
import Mathlib.Data.List.Lex
import Mathlib.Order.Lattice

/-!
# Sorted maps whose keys are compared through a fold

An ordered map compares its keys with a function `fold` into a linear order, so
two keys with one fold are one key. The entries are kept in strictly increasing
order of the folds, and every value of the type carries that proof. Insertion
never overwrites; an update touches the first entry that matches.
-/

namespace PubSub
set_option autoImplicit false

universe u v w

namespace Entries
variable {α : Type u} {β : Type v} {κ : Type w} [LinearOrder κ] (fold : α → κ)

def findFirst? (p : α → β → Bool) (es : List (α × β)) : Option β :=
  (es.find? fun e => p e.1 e.2).map Prod.snd

def sameKey (k : α) : α → β → Bool := fun a _ => decide (fold a = fold k)

def get? (k : α) (es : List (α × β)) : Option β := findFirst? (sameKey fold k) es

/-- Insert unless the key is there; an existing entry keeps its value. -/
def insert (k : α) (v : β) : List (α × β) → List (α × β)
  | [] => [(k, v)]
  | e :: es =>
    if fold k < fold e.1 then (k, v) :: e :: es
    else if fold k = fold e.1 then e :: es
    else e :: insert k v es

def updateFirst (p : α → β → Bool) (f : β → β) : List (α × β) → List (α × β)
  | [] => []
  | e :: es => if p e.1 e.2 then (e.1, f e.2) :: es else e :: updateFirst p f es

def mapValues (f : α → β → β) (es : List (α × β)) : List (α × β) :=
  es.map fun e => (e.1, f e.1 e.2)

def eraseFirst (p : α → β → Bool) : List (α × β) → List (α × β)
  | [] => []
  | e :: es => if p e.1 e.2 then es else e :: eraseFirst p es

/-- Walk over the entries with an accumulator that every step reads and replaces. -/
def mapAccum {σ : Type*} (f : σ → α → β → σ × β) : σ → List (α × β) → σ × List (α × β)
  | s, [] => (s, [])
  | s, e :: es =>
    let first := f s e.1 e.2
    let rest := mapAccum f first.1 es
    (rest.1, (e.1, first.2) :: rest.2)

def Sorted (es : List (α × β)) : Prop := es.Pairwise fun a b => fold a.1 < fold b.1

variable {fold}

theorem sameKey_iff {k a : α} (v : β) : sameKey fold k a v = true ↔ fold a = fold k :=
  decide_eq_true_iff

theorem sameKey_eq_false {k a : α} (h : fold a ≠ fold k) (v : β) : sameKey fold k a v = false :=
  decide_eq_false h

theorem mem_insert_subset {k : α} {v : β} {es : List (α × β)} {e : α × β}
    (h : e ∈ insert fold k v es) : e = (k, v) ∨ e ∈ es := by
  induction es with
  | nil => exact .inl (List.mem_singleton.mp h)
  | cons a es ih =>
    simp only [insert] at h
    split at h
    · exact List.mem_cons.mp h
    · split at h
      · exact .inr h
      · rcases List.mem_cons.mp h with rfl | h
        · exact .inr List.mem_cons_self
        · exact (ih h).imp_right (List.mem_cons_of_mem a)

theorem insert_sorted {k : α} {v : β} {es : List (α × β)} (h : Sorted fold es) :
    Sorted fold (insert fold k v es) := by
  induction es with
  | nil => exact List.pairwise_singleton _ _
  | cons a es ih =>
    obtain ⟨ha, hes⟩ := List.pairwise_cons.mp h
    simp only [insert]
    split
    · rename_i hlt
      refine List.pairwise_cons.mpr ⟨?_, h⟩
      intro b hb
      rcases List.mem_cons.mp hb with rfl | hb
      · exact hlt
      · exact hlt.trans (ha b hb)
    · rename_i hnlt
      split
      · exact h
      · rename_i hne
        refine List.pairwise_cons.mpr ⟨?_, ih hes⟩
        intro b hb
        rcases mem_insert_subset hb with rfl | hb
        · exact lt_of_le_of_ne (not_lt.mp hnlt) (Ne.symm hne)
        · exact ha b hb

theorem updateFirst_keys (p : α → β → Bool) (f : β → β) (es : List (α × β)) :
    (updateFirst p f es).map Prod.fst = es.map Prod.fst := by
  induction es with
  | nil => rfl
  | cons a es ih =>
    simp only [updateFirst]
    split
    · rfl
    · simp only [List.map_cons, ih]

theorem mapValues_keys (f : α → β → β) (es : List (α × β)) :
    (mapValues f es).map Prod.fst = es.map Prod.fst := by
  simp [mapValues]

theorem mapAccum_keys {σ : Type*} (f : σ → α → β → σ × β) (s : σ) (es : List (α × β)) :
    (mapAccum f s es).2.map Prod.fst = es.map Prod.fst := by
  induction es generalizing s with
  | nil => rfl
  | cons e es ih => simp only [mapAccum, List.map_cons, ih]

theorem mem_mapAccum {σ : Type*} {f : σ → α → β → σ × β} {s : σ} {es : List (α × β)} {e : α × β}
    (h : e ∈ (mapAccum f s es).2) : ∃ t v, (e.1, v) ∈ es ∧ e.2 = (f t e.1 v).2 := by
  induction es generalizing s with
  | nil => cases h
  | cons a es ih =>
    simp only [mapAccum] at h
    rcases List.mem_cons.mp h with rfl | h
    · exact ⟨s, a.2, List.mem_cons_self, rfl⟩
    · obtain ⟨t, v, hv, he⟩ := ih h
      exact ⟨t, v, List.mem_cons_of_mem a hv, he⟩

theorem mem_updateFirst {p : α → β → Bool} {f : β → β} {es : List (α × β)} {e : α × β}
    (h : e ∈ updateFirst p f es) : e ∈ es ∨ ∃ v, (e.1, v) ∈ es ∧ e.2 = f v := by
  induction es with
  | nil => cases h
  | cons a es ih =>
    simp only [updateFirst] at h
    split at h
    · rcases List.mem_cons.mp h with rfl | h
      · exact .inr ⟨a.2, List.mem_cons_self, rfl⟩
      · exact .inl (List.mem_cons_of_mem a h)
    · rcases List.mem_cons.mp h with rfl | h
      · exact .inl List.mem_cons_self
      · rcases ih h with h | ⟨v, hv, he⟩
        · exact .inl (List.mem_cons_of_mem a h)
        · exact .inr ⟨v, List.mem_cons_of_mem a hv, he⟩

/-- An update commutes with a view of the values. -/
theorem map_updateFirst {γ : Type*} {g : β → γ} {f : β → β} {f2 : γ → γ}
    (hf : ∀ v, g (f v) = f2 (g v)) (k : α) (es : List (α × β)) :
    (updateFirst (sameKey fold k) f es).map (fun e => (e.1, g e.2)) =
      updateFirst (sameKey fold k) f2 (es.map fun e => (e.1, g e.2)) := by
  induction es with
  | nil => rfl
  | cons a es ih =>
    by_cases ha : fold a.1 = fold k
    · simp [updateFirst, sameKey, ha, hf]
    · simpa [updateFirst, sameKey, ha] using ih

theorem sorted_iff_keys (es : List (α × β)) :
    Sorted fold es ↔ (es.map Prod.fst).Pairwise fun a b => fold a < fold b := by
  rw [Sorted, List.pairwise_map]

theorem sorted_of_keys {es ds : List (α × β)} (h : ds.map Prod.fst = es.map Prod.fst)
    (hs : Sorted fold es) : Sorted fold ds := by
  rw [sorted_iff_keys, h]
  exact (sorted_iff_keys es).mp hs

theorem eraseFirst_sublist (p : α → β → Bool) (es : List (α × β)) :
    (eraseFirst p es).Sublist es := by
  induction es with
  | nil => exact .slnil
  | cons a es ih =>
    simp only [eraseFirst]
    split
    · exact List.sublist_cons_self a es
    · exact ih.cons_cons a

/-- In a sorted list a key has one entry. -/
theorem eq_of_sameKey {es : List (α × β)} (h : Sorted fold es) {a b : α × β}
    (ha : a ∈ es) (hb : b ∈ es) (hab : fold a.1 = fold b.1) : a = b := by
  induction es with
  | nil => simp at ha
  | cons e es ih =>
    obtain ⟨he, hes⟩ := List.pairwise_cons.mp h
    rcases List.mem_cons.mp ha with hae | ha' <;> rcases List.mem_cons.mp hb with hbe | hb'
    · rw [hae, hbe]
    · subst hae
      exact absurd hab (ne_of_lt (he b hb'))
    · subst hbe
      exact absurd hab.symm (ne_of_lt (he a ha'))
    · exact ih hes ha' hb'

/-- After the update of a key, the entry of that key holds the new value. -/
theorem mem_updateFirst_sameKey {k : α} {f : β → β} {es : List (α × β)} (hs : Sorted fold es)
    {e : α × β} (h : e ∈ updateFirst (sameKey fold k) f es) :
    (fold e.1 ≠ fold k ∧ e ∈ es) ∨ ∃ v, (e.1, v) ∈ es ∧ e.2 = f v := by
  induction es with
  | nil => cases h
  | cons a es ih =>
    obtain ⟨ha, hes⟩ := List.pairwise_cons.mp hs
    by_cases hk : fold a.1 = fold k
    · simp only [updateFirst, sameKey, hk, decide_true, if_true] at h
      rcases List.mem_cons.mp h with rfl | h
      · exact .inr ⟨a.2, List.mem_cons_self, rfl⟩
      · have hlt : fold k < fold e.1 := hk ▸ ha e h
        exact .inl ⟨(ne_of_lt hlt).symm, List.mem_cons_of_mem a h⟩
    · simp only [updateFirst, sameKey, hk, decide_false, Bool.false_eq_true, if_false] at h
      rcases List.mem_cons.mp h with rfl | h
      · exact .inl ⟨hk, List.mem_cons_self⟩
      · rcases ih hes h with ⟨hne, hin⟩ | ⟨v, hv, he⟩
        · exact .inl ⟨hne, List.mem_cons_of_mem a hin⟩
        · exact .inr ⟨v, List.mem_cons_of_mem a hv, he⟩

theorem findFirst?_eq_none {p : α → β → Bool} {es : List (α × β)} :
    findFirst? p es = none ↔ ∀ e ∈ es, p e.1 e.2 = false := by
  simp [findFirst?, List.find?_eq_none]

theorem get?_eq_none {k : α} {es : List (α × β)} :
    get? fold k es = none ↔ ∀ e ∈ es, fold e.1 ≠ fold k := by
  simp [get?, findFirst?_eq_none, sameKey]

theorem get?_mem {k : α} {es : List (α × β)} {v : β} (h : get? fold k es = some v) :
    ∃ a, (a, v) ∈ es ∧ fold a = fold k := by
  obtain ⟨e, he, rfl⟩ := Option.map_eq_some_iff.mp h
  have hp := List.find?_some he
  exact ⟨e.1, List.mem_of_find?_eq_some he, by simpa [sameKey] using hp⟩

theorem get?_of_mem {k a : α} {es : List (α × β)} {v : β} (hs : Sorted fold es)
    (h : (a, v) ∈ es) (ha : fold a = fold k) : get? fold k es = some v := by
  cases hg : get? fold k es with
  | none => exact absurd ha (get?_eq_none.mp hg (a, v) h)
  | some u =>
    obtain ⟨b, hb, hbk⟩ := get?_mem hg
    have heq := eq_of_sameKey hs h hb (ha.trans hbk.symm)
    rw [(Prod.mk.inj heq).2]

theorem mem_insert_of_mem {k : α} {v : β} {es : List (α × β)} {e : α × β} (h : e ∈ es) :
    e ∈ insert fold k v es := by
  induction es with
  | nil => simp at h
  | cons a es ih =>
    simp only [insert]
    split
    · exact List.mem_cons_of_mem _ h
    · split
      · exact h
      · rcases List.mem_cons.mp h with rfl | h
        · exact List.mem_cons_self
        · exact List.mem_cons_of_mem a (ih h)

theorem mem_insert_self {k : α} {v : β} {es : List (α × β)} (hs : Sorted fold es)
    (h : get? fold k es = none) : (k, v) ∈ insert fold k v es := by
  induction es with
  | nil => exact List.mem_singleton.mpr rfl
  | cons a es ih =>
    have hk := get?_eq_none.mp h
    simp only [insert]
    split
    · exact List.mem_cons_self
    · rw [if_neg fun he => hk a List.mem_cons_self he.symm]
      refine List.mem_cons_of_mem a (ih (List.pairwise_cons.mp hs).2 ?_)
      exact get?_eq_none.mpr fun e he => hk e (List.mem_cons_of_mem a he)

theorem insert_perm {k : α} (v : β) {es : List (α × β)} (h : get? fold k es = none) :
    (insert fold k v es).Perm ((k, v) :: es) := by
  induction es with
  | nil => exact .refl _
  | cons a es ih =>
    have hk := get?_eq_none.mp h
    simp only [insert]
    split
    · exact .refl _
    · rw [if_neg fun he => hk a List.mem_cons_self he.symm]
      have hrest : get? fold k es = none :=
        get?_eq_none.mpr fun e he => hk e (List.mem_cons_of_mem a he)
      exact ((ih hrest).cons a).trans (.swap (k, v) a es)

/-- What an update of the first match leaves: the entry it changed, and every other. -/
theorem updateFirst_split (p : α → β → Bool) (f : β → β) (es : List (α × β)) :
    (findFirst? p es = none ∧ updateFirst p f es = es) ∨
    (∃ pre k v post, es = pre ++ (k, v) :: post ∧ (∀ e ∈ pre, p e.1 e.2 = false) ∧
      p k v = true ∧ findFirst? p es = some v ∧
      updateFirst p f es = pre ++ (k, f v) :: post) := by
  induction es with
  | nil => exact .inl ⟨rfl, rfl⟩
  | cons a es ih =>
    by_cases hp : p a.1 a.2 = true
    · refine .inr ⟨[], a.1, a.2, es, rfl, by simp, hp, ?_, ?_⟩
      · simp [findFirst?, hp]
      · simp [updateFirst, hp]
    · have hpf : p a.1 a.2 = false := by simpa using hp
      rcases ih with ⟨hn, hu⟩ | ⟨pre, k, v, post, rfl, hpre, hkv, hf, hu⟩
      · refine .inl ⟨?_, ?_⟩
        · simpa [findFirst?, hpf] using hn
        · simp [updateFirst, hpf, hu]
      · refine .inr ⟨a :: pre, k, v, post, rfl, ?_, hkv, ?_, ?_⟩
        · intro e he
          rcases List.mem_cons.mp he with rfl | he
          · exact hpf
          · exact hpre e he
        · simpa [findFirst?, hpf] using hf
        · simp [updateFirst, hpf, hu]

/-- The update of a key reaches the entries of that key, and no other. -/
theorem mem_update_key {k : α} {f : β → β} {es : List (α × β)} (hs : Sorted fold es) {e : α × β}
    (h : e ∈ updateFirst (sameKey fold k) f es) :
    (fold e.1 ≠ fold k ∧ e ∈ es) ∨ (fold e.1 = fold k ∧ ∃ v, (e.1, v) ∈ es ∧ e.2 = f v) := by
  by_cases hkey : fold e.1 = fold k
  · refine .inr ⟨hkey, ?_⟩
    rcases mem_updateFirst_sameKey hs h with ⟨hne, -⟩ | hchanged
    · exact absurd hkey hne
    · exact hchanged
  · refine .inl ⟨hkey, ?_⟩
    rcases updateFirst_split (sameKey fold k) f es with ⟨-, hsame⟩ | ⟨pre, a, v, post, rfl, -, ha,
      -, hupdated⟩
    · exact hsame ▸ h
    · rw [hupdated] at h
      rcases List.mem_append.mp h with hpre | hrest
      · exact List.mem_append_left _ hpre
      rcases List.mem_cons.mp hrest with rfl | hpost
      · exact absurd (of_decide_eq_true ha) hkey
      · exact List.mem_append_right _ (List.mem_cons_of_mem _ hpost)

/-- An update that meets no entry changes nothing. -/
theorem updateFirst_of_none {p : α → β → Bool} {es : List (α × β)}
    (h : findFirst? p es = none) (f : β → β) : updateFirst p f es = es := by
  rcases updateFirst_split p f es with ⟨_, hsame⟩ | ⟨_, _, _, _, _, _, _, hsome, _⟩
  · exact hsame
  · rw [h] at hsome
    cases hsome

theorem get?_insert_of_some {k key : α} {u v : β} {es : List (α × β)} (hs : Sorted fold es)
    (h : get? fold key es = some u) : get? fold key (insert fold k v es) = some u := by
  obtain ⟨a, ha, hak⟩ := get?_mem h
  exact get?_of_mem (insert_sorted hs) (mem_insert_of_mem ha) hak

theorem get?_insert_ne_none (k : α) (v : β) (es : List (α × β)) :
    get? fold k (insert fold k v es) ≠ none := by
  intro hnone
  rw [get?_eq_none] at hnone
  induction es with
  | nil => exact hnone (k, v) List.mem_cons_self rfl
  | cons e es ih =>
    unfold insert at hnone
    split at hnone
    · exact hnone (k, v) List.mem_cons_self rfl
    · split at hnone
      · rename_i heq
        exact hnone e List.mem_cons_self heq.symm
      · exact ih fun d hd => hnone d (List.mem_cons_of_mem e hd)

theorem get?_insert_self {k : α} {v : β} {es : List (α × β)} (h : get? fold k es = none) :
    get? fold k (insert fold k v es) = some v := by
  cases hget : get? fold k (insert fold k v es) with
  | none => exact absurd hget (get?_insert_ne_none k v es)
  | some u =>
    obtain ⟨a, hmem, hkey⟩ := get?_mem hget
    rcases mem_insert_subset hmem with hnew | hold
    · rw [(Prod.mk.inj hnew).2]
    · exact absurd hkey (get?_eq_none.mp h _ hold)

theorem get?_congr {k key : α} (h : fold key = fold k) (es : List (α × β)) :
    get? fold key es = get? fold k es := by
  unfold get? sameKey
  rw [h]

theorem get?_singleton (k key : α) (v : β) :
    get? fold key [(k, v)] = if fold k = fold key then some v else none := by
  by_cases h : fold k = fold key
  · simp [get?, findFirst?, sameKey, h]
  · simp [get?, findFirst?, sameKey, h]

theorem get?_insert_ne {k key : α} (v : β) {es : List (α × β)} (h : fold key ≠ fold k) :
    get? fold key (insert fold k v es) = get? fold key es := by
  have hcons : ∀ ds : List (α × β), get? fold key ((k, v) :: ds) = get? fold key ds := by
    intro ds
    simp [get?, findFirst?, sameKey, Ne.symm h]
  induction es with
  | nil => exact hcons []
  | cons a es ih =>
    simp only [insert]
    split
    · exact hcons _
    · split
      · rfl
      · by_cases ha : sameKey fold key a.1 a.2 = true
        · simp [get?, findFirst?, ha]
        · have hne : sameKey fold key a.1 a.2 = false := by simpa using ha
          simpa [get?, findFirst?, hne] using ih

theorem get?_updateFirst_self (k : α) (f : β → β) (es : List (α × β)) :
    get? fold k (updateFirst (sameKey fold k) f es) = (get? fold k es).map f := by
  induction es with
  | nil => rfl
  | cons e es ih =>
    by_cases he : sameKey fold k e.1 e.2 = true
    · have hkey : sameKey fold k e.1 (f e.2) = true := he
      simp [updateFirst, get?, findFirst?, he, hkey]
    · have hne : sameKey fold k e.1 e.2 = false := by simpa using he
      simpa [updateFirst, get?, findFirst?, hne] using ih

theorem updateFirst_updateFirst (k : α) (f g : β → β) (es : List (α × β)) :
    updateFirst (sameKey fold k) g (updateFirst (sameKey fold k) f es) =
      updateFirst (sameKey fold k) (g ∘ f) es := by
  induction es with
  | nil => rfl
  | cons e es ih =>
    by_cases he : sameKey fold k e.1 e.2 = true
    · have hkey : sameKey fold k e.1 (f e.2) = true := he
      simp [updateFirst, he, hkey]
    · simp [updateFirst, he, ih]

theorem get?_updateFirst_ne {k key : α} (f : β → β) {es : List (α × β)}
    (h : fold key ≠ fold k) :
    get? fold key (updateFirst (sameKey fold k) f es) = get? fold key es := by
  induction es with
  | nil => rfl
  | cons e es ih =>
    by_cases he : sameKey fold k e.1 e.2 = true
    · have hk : fold e.1 = fold k := by simpa [sameKey] using he
      have hkey : ¬ fold e.1 = fold key := fun hkey => h (hkey.symm.trans hk)
      simp [updateFirst, get?, findFirst?, sameKey, hk, hk ▸ hkey]
    · have hne : sameKey fold k e.1 e.2 = false := by simpa using he
      simp only [updateFirst, hne]
      by_cases hkey : sameKey fold key e.1 e.2 = true
      · simp [get?, findFirst?, hkey]
      · have hkey' : sameKey fold key e.1 e.2 = false := by simpa using hkey
        simpa [get?, findFirst?, hkey'] using ih

theorem insert_of_get?_some {k : α} {u v : β} {es : List (α × β)} (hs : Sorted fold es)
    (h : get? fold k es = some v) : insert fold k u es = es := by
  induction es with
  | nil => cases h
  | cons a es ih =>
    obtain ⟨ha, hes⟩ := List.pairwise_cons.mp hs
    by_cases hk : fold k = fold a.1
    · simp [insert, hk]
    · have hrest : get? fold k es = some v := by
        have hne : sameKey fold k a.1 a.2 = false := by simpa [sameKey] using Ne.symm hk
        simpa [get?, findFirst?, hne] using h
      obtain ⟨b, hb, hbk⟩ := get?_mem hrest
      have hlt : ¬ fold k < fold a.1 := by
        rw [← hbk]
        exact not_lt.mpr (le_of_lt (ha _ hb))
      simp only [insert, if_neg hlt, if_neg hk, ih hes hrest]

section View
variable {γ : Type*}

theorem map_insert (g : β → γ) (k : α) (v : β) (es : List (α × β)) :
    (insert fold k v es).map (fun e => (e.1, g e.2)) =
      insert fold k (g v) (es.map fun e => (e.1, g e.2)) := by
  induction es with
  | nil => rfl
  | cons a es ih =>
    simp only [insert, List.map_cons]
    split
    · rfl
    · split
      · rfl
      · rw [List.map_cons, ih]

theorem map_updateFirst_of_same {g : β → γ} {f : β → β} {es : List (α × β)}
    (hf : ∀ e ∈ es, g (f e.2) = g e.2) (p : α → β → Bool) :
    (updateFirst p f es).map (fun e => (e.1, g e.2)) = es.map fun e => (e.1, g e.2) := by
  induction es with
  | nil => rfl
  | cons a es ih =>
    simp only [updateFirst]
    split
    · simp only [List.map_cons, hf a List.mem_cons_self]
    · simp only [List.map_cons, ih fun e he => hf e (List.mem_cons_of_mem a he)]

theorem map_mapAccum_of_same {σ : Type*} {g : β → γ} {f : σ → α → β → σ × β}
    {es : List (α × β)} (hf : ∀ s k, ∀ e ∈ es, g (f s k e.2).2 = g e.2) (s : σ) :
    (mapAccum f s es).2.map (fun e => (e.1, g e.2)) = es.map fun e => (e.1, g e.2) := by
  induction es generalizing s with
  | nil => rfl
  | cons a es ih =>
    have hrest : ∀ s k, ∀ e ∈ es, g (f s k e.2).2 = g e.2 :=
      fun s k e he => hf s k e (List.mem_cons_of_mem a he)
    simp only [mapAccum, List.map_cons, hf s a.1 a List.mem_cons_self, ih hrest]

end View

/-- An update of the first match is an update of its key. -/
theorem updateFirst_eq_key {p : α → β → Bool} {es : List (α × β)} {e : α × β}
    (hs : Sorted fold es) (h : es.find? (fun e => p e.1 e.2) = some e) (f : β → β) :
    updateFirst p f es = updateFirst (sameKey fold e.1) f es := by
  induction es with
  | nil => cases h
  | cons a es ih =>
    obtain ⟨ha, hes⟩ := List.pairwise_cons.mp hs
    rw [List.find?_cons] at h
    by_cases hp : p a.1 a.2 = true
    · rw [hp] at h
      obtain rfl := Option.some.inj h
      simp [updateFirst, hp, sameKey]
    · simp only [Bool.not_eq_true] at hp
      rw [hp] at h
      have hne : fold a.1 ≠ fold e.1 := ne_of_lt (ha e (List.mem_of_find?_eq_some h))
      simp [updateFirst, hp, sameKey, hne, ih hes h]

theorem eraseFirst_congr {p q : α → β → Bool} {es : List (α × β)}
    (h : ∀ e ∈ es, p e.1 e.2 = q e.1 e.2) : eraseFirst p es = eraseFirst q es := by
  induction es with
  | nil => rfl
  | cons a es ih =>
    have hrest := ih fun e he => h e (List.mem_cons_of_mem a he)
    simp only [eraseFirst, h a List.mem_cons_self, hrest]

theorem map_eraseFirst {γ : Type*} (g : β → γ) (p : α → γ → Bool) (es : List (α × β)) :
    (eraseFirst (fun a v => p a (g v)) es).map (fun e => (e.1, g e.2)) =
      eraseFirst p (es.map fun e => (e.1, g e.2)) := by
  induction es with
  | nil => rfl
  | cons a es ih =>
    simp only [eraseFirst, List.map_cons]
    split
    · rfl
    · rw [List.map_cons, ih]

theorem mem_eraseFirst_of_false {p : α → β → Bool} {es : List (α × β)} {e : α × β} (h : e ∈ es)
    (hp : p e.1 e.2 = false) : e ∈ eraseFirst p es := by
  induction es with
  | nil => cases h
  | cons a es ih =>
    unfold eraseFirst
    rcases List.mem_cons.mp h with rfl | h
    · rw [if_neg (by simp [hp])]
      exact List.mem_cons_self
    · split
      · exact h
      · exact List.mem_cons_of_mem a (ih h)

theorem mem_eraseFirst_sameKey {k : α} {es : List (α × β)} (hs : Sorted fold es) {e : α × β}
    (h : e ∈ eraseFirst (sameKey fold k) es) : fold e.1 ≠ fold k := by
  induction es with
  | nil => cases h
  | cons a es ih =>
    obtain ⟨ha, hes⟩ := List.pairwise_cons.mp hs
    unfold eraseFirst at h
    split at h
    · rename_i hk
      have hkey := (sameKey_iff a.2).mp hk
      exact (ne_of_lt (hkey ▸ ha e h)).symm
    · rename_i hk
      rcases List.mem_cons.mp h with rfl | h
      · exact fun hkey => hk ((sameKey_iff e.2).mpr hkey)
      · exact ih hes h

theorem get?_eraseFirst_self {es : List (α × β)} (hs : Sorted fold es) (k : α) :
    get? fold k (eraseFirst (sameKey fold k) es) = none :=
  get?_eq_none.mpr fun _ he => mem_eraseFirst_sameKey hs he

theorem get?_eraseFirst_ne {k key : α} {es : List (α × β)} (hs : Sorted fold es)
    (h : fold key ≠ fold k) : get? fold key (eraseFirst (sameKey fold k) es) =
      get? fold key es := by
  have herased : Sorted fold (eraseFirst (sameKey fold k) es) :=
    hs.sublist (eraseFirst_sublist _ es)
  cases hget : get? fold key es with
  | none =>
    exact get?_eq_none.mpr fun e he => get?_eq_none.mp hget e ((eraseFirst_sublist _ es).mem he)
  | some v =>
    obtain ⟨a, hmem, ha⟩ := get?_mem hget
    have hother : sameKey fold k a v = false := sameKey_eq_false (fun hk => h (ha.symm.trans hk)) v
    exact get?_of_mem herased (mem_eraseFirst_of_false hmem hother) ha

end Entries

/-- A map sorted by the folds of its keys; the order is part of the value. -/
structure FoldedMap {α : Type u} {κ : Type w} [LinearOrder κ] (fold : α → κ) (β : Type v) where
  entries : List (α × β)
  sorted : Entries.Sorted fold entries

namespace FoldedMap
variable {α : Type u} {β : Type v} {κ : Type w} [LinearOrder κ] {fold : α → κ}

def empty : FoldedMap fold β := ⟨[], List.Pairwise.nil⟩

def get? (m : FoldedMap fold β) (k : α) : Option β := Entries.get? fold k m.entries

def findFirst? (m : FoldedMap fold β) (p : α → β → Bool) : Option β :=
  Entries.findFirst? p m.entries

def insert (m : FoldedMap fold β) (k : α) (v : β) : FoldedMap fold β :=
  ⟨Entries.insert fold k v m.entries, Entries.insert_sorted m.sorted⟩

def updateFirst (m : FoldedMap fold β) (p : α → β → Bool) (f : β → β) : FoldedMap fold β :=
  ⟨Entries.updateFirst p f m.entries,
    Entries.sorted_of_keys (Entries.updateFirst_keys p f m.entries) m.sorted⟩

def update (m : FoldedMap fold β) (k : α) (f : β → β) : FoldedMap fold β :=
  m.updateFirst (Entries.sameKey fold k) f

def mapValues (m : FoldedMap fold β) (f : α → β → β) : FoldedMap fold β :=
  ⟨Entries.mapValues f m.entries,
    Entries.sorted_of_keys (Entries.mapValues_keys f m.entries) m.sorted⟩

def mapAccum {σ : Type*} (m : FoldedMap fold β) (f : σ → α → β → σ × β) (s : σ) :
    σ × FoldedMap fold β :=
  ((Entries.mapAccum f s m.entries).1,
    ⟨(Entries.mapAccum f s m.entries).2,
      Entries.sorted_of_keys (Entries.mapAccum_keys f s m.entries) m.sorted⟩)

def eraseFirst (m : FoldedMap fold β) (p : α → β → Bool) : FoldedMap fold β :=
  ⟨Entries.eraseFirst p m.entries, m.sorted.sublist (Entries.eraseFirst_sublist p m.entries)⟩

/-- The map with another view of its values. -/
def view {γ : Type*} (m : FoldedMap fold β) (g : β → γ) : FoldedMap fold γ :=
  ⟨m.entries.map fun e => (e.1, g e.2), by
    rw [Entries.sorted_iff_keys, List.map_map]
    exact (Entries.sorted_iff_keys m.entries).mp m.sorted⟩

@[ext] theorem ext {m n : FoldedMap fold β} (h : m.entries = n.entries) : m = n := by
  cases m
  cases n
  congr

@[simp] theorem entries_empty : (empty : FoldedMap fold β).entries = [] := rfl

@[simp] theorem entries_insert (m : FoldedMap fold β) (k : α) (v : β) :
    (m.insert k v).entries = Entries.insert fold k v m.entries := rfl

@[simp] theorem entries_updateFirst (m : FoldedMap fold β) (p : α → β → Bool) (f : β → β) :
    (m.updateFirst p f).entries = Entries.updateFirst p f m.entries := rfl

@[simp] theorem entries_mapValues (m : FoldedMap fold β) (f : α → β → β) :
    (m.mapValues f).entries = Entries.mapValues f m.entries := rfl

@[simp] theorem entries_mapAccum {σ : Type*} (m : FoldedMap fold β)
    (f : σ → α → β → σ × β) (s : σ) :
    (m.mapAccum f s).2.entries = (Entries.mapAccum f s m.entries).2 := rfl

theorem get?_mem {m : FoldedMap fold β} {k : α} {v : β} (h : m.get? k = some v) :
    ∃ a, (a, v) ∈ m.entries ∧ fold a = fold k := Entries.get?_mem h

theorem get?_of_mem {m : FoldedMap fold β} {k a : α} {v : β} (h : (a, v) ∈ m.entries)
    (ha : fold a = fold k) : m.get? k = some v := Entries.get?_of_mem m.sorted h ha

theorem get?_mapValues {m : FoldedMap fold β} {k : α} {v : β} (h : m.get? k = some v)
    (f : α → β → β) :
    ∃ a, (a, v) ∈ m.entries ∧ fold a = fold k ∧ (m.mapValues f).get? k = some (f a v) := by
  obtain ⟨a, hmem, ha⟩ := get?_mem h
  refine ⟨a, hmem, ha, get?_of_mem (a := a) ?_ ha⟩
  exact List.mem_map.mpr ⟨(a, v), hmem, rfl⟩

theorem get?_insert_of_some {m : FoldedMap fold β} {k key : α} {u v : β}
    (h : m.get? key = some u) : (m.insert k v).get? key = some u :=
  Entries.get?_insert_of_some m.sorted h

theorem get?_insert_self {m : FoldedMap fold β} {k : α} {v : β} (h : m.get? k = none) :
    (m.insert k v).get? k = some v := Entries.get?_insert_self h

theorem get?_insert_ne (m : FoldedMap fold β) {k key : α} (v : β) (h : fold key ≠ fold k) :
    (m.insert k v).get? key = m.get? key := Entries.get?_insert_ne v h

theorem get?_update_self (m : FoldedMap fold β) (k : α) (f : β → β) :
    (m.update k f).get? k = (m.get? k).map f := Entries.get?_updateFirst_self k f m.entries

theorem update_update (m : FoldedMap fold β) (k : α) (f g : β → β) :
    (m.update k f).update k g = m.update k (g ∘ f) :=
  ext (Entries.updateFirst_updateFirst k f g m.entries)

theorem get?_update_ne (m : FoldedMap fold β) {k key : α} (f : β → β)
    (h : fold key ≠ fold k) : (m.update k f).get? key = m.get? key :=
  Entries.get?_updateFirst_ne f h

theorem get?_congr (m : FoldedMap fold β) {k key : α} (h : fold key = fold k) :
    m.get? key = m.get? k := Entries.get?_congr h m.entries

/-- What an update leaves under a key, which it meets or not. -/
theorem get?_update (m : FoldedMap fold β) (k key : α) (f : β → β) :
    (m.update k f).get? key =
      if fold key = fold k then (m.get? key).map f else m.get? key := by
  split
  · rename_i h
    rw [get?_congr _ h, get?_congr m h, get?_update_self]
  · rename_i h
    exact get?_update_ne m f h

theorem get?_eq_none {m : FoldedMap fold β} {k : α} :
    m.get? k = none ↔ ∀ e ∈ m.entries, fold e.1 ≠ fold k := Entries.get?_eq_none

theorem insert_of_get?_some {m : FoldedMap fold β} {k : α} {u v : β} (h : m.get? k = some v) :
    m.insert k u = m := ext (Entries.insert_of_get?_some m.sorted h)

section View
variable {γ : Type*} (m : FoldedMap fold β) (g : β → γ)

@[simp] theorem entries_view : (m.view g).entries = m.entries.map fun e => (e.1, g e.2) := rfl

theorem view_insert (k : α) (v : β) : (m.insert k v).view g = (m.view g).insert k (g v) :=
  ext (Entries.map_insert g k v m.entries)

theorem get?_view (k : α) : (m.view g).get? k = (m.get? k).map g := by
  simp only [get?, Entries.get?, Entries.findFirst?, entries_view, List.find?_map,
    Option.map_map]
  rfl

theorem get?_mapValues_all (g : β → β) (k : α) :
    (m.mapValues fun _ v => g v).get? k = (m.get? k).map g := get?_view m g k

variable {m g}

theorem view_updateFirst_of_same {f : β → β} (hf : ∀ e ∈ m.entries, g (f e.2) = g e.2)
    (p : α → β → Bool) : (m.updateFirst p f).view g = m.view g :=
  ext (Entries.map_updateFirst_of_same hf p)

end View

theorem view_congr {γ : Type*} {m : FoldedMap fold β} {g h : β → γ}
    (hsame : ∀ e ∈ m.entries, g e.2 = h e.2) : m.view g = m.view h :=
  ext (List.map_congr_left fun e he => congrArg (Prod.mk e.1) (hsame e he))

section Named
variable (m : FoldedMap fold β) (name : β → α)

/-- The erasure by a name that the values have of their own. -/
def eraseNamed (k : α) : FoldedMap fold β :=
  m.eraseFirst fun _ v => decide (fold k = fold (name v))

/-- Every value is kept under its own name. -/
def KeyedBy : Prop := ∀ e ∈ m.entries, fold e.1 = fold (name e.2)

/-- The erasure takes the name out of the map, and no other name. -/
def ErasesExactly (k : α) : Prop :=
  (m.eraseNamed name k).get? k = none ∧
    ∀ key, fold key ≠ fold k → (m.eraseNamed name k).get? key = m.get? key

variable {m name}

theorem eraseNamed_of_keyedBy (h : m.KeyedBy name) (k : α) :
    m.eraseNamed name k = m.eraseFirst (Entries.sameKey fold k) := by
  refine ext (Entries.eraseFirst_congr fun e he => ?_)
  rw [Entries.sameKey, h e he]
  exact decide_eq_decide.mpr eq_comm

theorem view_eraseNamed {γ : Type*} (m : FoldedMap fold β) (g : β → γ) (name : γ → α) (k : α) :
    (m.eraseNamed (fun v => name (g v)) k).view g = (m.view g).eraseNamed name k :=
  ext (Entries.map_eraseFirst g (fun _ v => decide (fold k = fold (name v))) m.entries)

/-- Erasures by name are exact for all names exactly where the map is keyed by name. -/
theorem erasesExactly_iff_keyedBy : (∀ k, m.ErasesExactly name k) ↔ m.KeyedBy name := by
  constructor
  · intro h e he
    by_contra hne
    -- the erasure of the key passes the entry over
    have hkept : e ∈ (m.eraseNamed name e.1).entries :=
      Entries.mem_eraseFirst_of_false he (decide_eq_false hne)
    exact get?_eq_none.mp (h e.1).1 e hkept rfl
  · intro h k
    rw [ErasesExactly, eraseNamed_of_keyedBy h]
    exact ⟨Entries.get?_eraseFirst_self m.sorted k, fun key =>
      Entries.get?_eraseFirst_ne m.sorted⟩

end Named

/-- An update of the first match is an update of its key. -/
theorem updateFirst_eq_update {m : FoldedMap fold β} {p : α → β → Bool} {e : α × β}
    (h : m.entries.find? (fun e => p e.1 e.2) = some e) (f : β → β) :
    m.updateFirst p f = m.update e.1 f := ext (Entries.updateFirst_eq_key m.sorted h f)

end FoldedMap
end PubSub
