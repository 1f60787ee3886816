import Mathlib.Data.List.Nodup

/-!
# Lists with keys

A list whose elements have keys of their own. It is searched for an exact key, and an
element is erased by a coarser test, which takes the first element that passes.
-/

namespace PubSub
set_option autoImplicit false

universe u v
variable {α : Type u} {κ : Type v} [DecidableEq κ]

namespace KeyedList

def lookup (key : α → κ) (k : κ) (list : List α) : Option α :=
  list.find? fun a => decide (k = key a)

variable {key : α → κ} {k : κ} {list : List α}

theorem lookup_eq_none : lookup key k list = none ↔ k ∉ list.map key := by
  rw [lookup, List.find?_eq_none, List.mem_map]
  constructor
  · rintro h ⟨a, ha, hkey⟩
    exact h a ha (decide_eq_true hkey.symm)
  · intro h a ha hkey
    exact h ⟨a, ha, (of_decide_eq_true hkey).symm⟩

theorem lookup_of_mem (hkeys : (list.map key).Nodup) {a : α} (ha : a ∈ list) :
    lookup key (key a) list = some a := by
  cases hfound : lookup key (key a) list with
  | none => exact absurd (List.mem_map_of_mem ha) (lookup_eq_none.mp hfound)
  | some b =>
    have hb : b ∈ list := List.mem_of_find?_eq_some hfound
    have htest := List.find?_some hfound
    have hkey : key a = key b := of_decide_eq_true htest
    rw [List.inj_on_of_nodup_map hkeys ha hb hkey]

theorem lookup_append_cons_ne {as bs : List α} {a : α} (h : k ≠ key a) :
    lookup key k (as ++ a :: bs) = lookup key k (as ++ bs) := by
  unfold lookup
  rw [List.find?_append, List.find?_append, List.find?_cons_of_neg]
  exact fun heq => h (of_decide_eq_true heq)

/-- The list is an exact map again after an erasure. -/
def ErasesExactly (key : α → κ) (k : κ) (list erased : List α) : Prop :=
  lookup key k erased = none ∧ ∀ j, j ≠ k → lookup key j erased = lookup key j list

/-- With distinct keys an erasure is exact when the element that it takes has the key. -/
theorem erasesExactly_iff {p : α → Bool} (hkeys : (list.map key).Nodup)
    (hp : ∀ a, key a = k → p a = true) :
    ErasesExactly key k list (list.eraseP p) ↔ ∀ a, list.find? p = some a → key a = k := by
  cases hfind : list.find? p with
  | none =>
    have hnone : ∀ a ∈ list, ¬ p a = true := List.find?_eq_none.mp hfind
    rw [List.eraseP_of_forall_not hnone]
    refine ⟨fun _ a ha => (nomatch ha), fun _ => ⟨?_, fun _ _ => rfl⟩⟩
    rw [lookup_eq_none, List.mem_map]
    rintro ⟨a, ha, hkey⟩
    exact hnone a ha (hp a hkey)
  | some a =>
    obtain ⟨hpa, as, bs, rfl, has⟩ := List.find?_eq_some_iff_append.mp hfind
    have herase : (as ++ a :: bs).eraseP p = as ++ bs := by
      rw [List.eraseP_append_right _ (fun b hb => by simpa using has b hb),
        List.eraseP_cons_of_pos hpa]
    have hgone : key a ∉ (as ++ bs).map key := by
      rw [List.map_append, List.map_cons, List.nodup_middle] at hkeys
      rw [List.map_append]
      exact (List.nodup_cons.mp hkeys).1
    rw [herase]
    constructor
    · rintro ⟨_, hkept⟩ b hb
      obtain rfl := Option.some.inj hb
      by_contra hne
      have hlost := hkept (key a) hne
      rw [lookup_eq_none.mpr hgone] at hlost
      exact lookup_eq_none.mp hlost.symm (by simp)
    · intro hexact
      have hkey : key a = k := hexact a rfl
      refine ⟨lookup_eq_none.mpr (hkey ▸ hgone), fun j hj => ?_⟩
      exact (lookup_append_cons_ne (hkey ▸ hj)).symm

theorem lookup_append_singleton (list : List α) (a : α) :
    lookup key k (list ++ [a]) =
      (lookup key k list).or (if k = key a then some a else none) := by
  unfold lookup
  rw [List.find?_append, List.find?_singleton]
  simp only [decide_eq_true_eq]

/-- A change of the first element with a key, which keeps the key. -/
theorem lookup_modify {i : Nat} {f : α → α} (hf : ∀ a, key (f a) = key a)
    (hi : list.findIdx? (fun a => decide (k = key a)) = some i) (j : κ) :
    lookup key j (list.modify i f) =
      if j = k then (lookup key j list).map f else lookup key j list := by
  unfold lookup
  induction list generalizing i with
  | nil => cases hi
  | cons a list ih =>
    rw [List.findIdx?_cons] at hi
    by_cases hk : k = key a
    · rw [if_pos (decide_eq_true hk)] at hi
      obtain rfl := Option.some.inj hi
      rw [List.modify_zero_cons, List.find?_cons, List.find?_cons, hf, ← hk]
      by_cases hj : j = k
      · simp [hj]
      · simp [hj]
    · rw [if_neg (fun h => hk (of_decide_eq_true h))] at hi
      obtain ⟨n, hn, rfl⟩ := Option.map_eq_some_iff.mp hi
      rw [List.modify_succ_cons, List.find?_cons, List.find?_cons]
      by_cases hj : j = key a
      · have hjk : ¬ j = k := fun h => hk (h ▸ hj)
        simp [hj, if_neg (hj ▸ hjk)]
      · simp only [hj, decide_false]
        exact ih hn

/-- Lists with distinct keys in which every key finds the same differ only in the order. -/
theorem perm_of_lookup {as bs : List α} (has : (as.map key).Nodup) (hbs : (bs.map key).Nodup)
    (h : ∀ k, lookup key k as = lookup key k bs) : as.Perm bs := by
  have hmem : ∀ {cs ds : List α}, (cs.map key).Nodup →
      (∀ k, lookup key k cs = lookup key k ds) → ∀ a ∈ cs, a ∈ ds := by
    intro cs ds hcs hsame a ha
    have hfound := lookup_of_mem hcs ha
    rw [hsame] at hfound
    exact List.mem_of_find?_eq_some hfound
  rw [List.perm_ext_iff_of_nodup has.of_map hbs.of_map]
  exact fun a => ⟨hmem has h a, hmem hbs (fun k => (h k).symm) a⟩

end KeyedList
end PubSub
