import PubSub.Shared.FoldedMap
import Mathlib.Data.List.Forall2

/-!
# Related entry lists

A map that follows another one has the same keys, and values that are related. The relation
survives changes on one side, and a batch of updates by content changes each value by the
entry beside it when the contents tell the entries apart. A map that extends another one has
its keys among others.
-/

namespace PubSub
set_option autoImplicit false

universe u v w

namespace Entries
variable {α : Type u} {β : Type v} {κ : Type w} [LinearOrder κ] {fold : α → κ}

theorem insert_last {k : α} {v : β} {es : List (α × β)} (h : ∀ e ∈ es, fold e.1 < fold k) :
    insert fold k v es = es ++ [(k, v)] := by
  induction es with
  | nil => rfl
  | cons e es ih =>
    have he := h e List.mem_cons_self
    rw [insert, if_neg (not_lt.mpr he.le), if_neg he.ne',
      ih fun d hd => h d (List.mem_cons_of_mem e hd)]
    rfl

theorem updateFirst_append {p : α → β → Bool} {es : List (α × β)}
    (h : ∀ e ∈ es, p e.1 e.2 = false) (f : β → β) (ds : List (α × β)) :
    updateFirst p f (es ++ ds) = es ++ updateFirst p f ds := by
  induction es with
  | nil => rfl
  | cons e es ih =>
    have hne : ¬ p e.1 e.2 = true := by simp [h e List.mem_cons_self]
    rw [List.cons_append, updateFirst, if_neg hne, ih fun d hd => h d (List.mem_cons_of_mem e hd)]
    rfl

/-- An update of the first match changes a value that the test accepts. -/
theorem forall_updateFirst {Q : β → Prop} {p : α → β → Bool} {f : β → β} {es : List (α × β)}
    (h : ∀ e ∈ es, Q e.2) (hf : ∀ e ∈ es, p e.1 e.2 = true → Q (f e.2)) :
    ∀ e ∈ updateFirst p f es, Q e.2 := by
  rcases updateFirst_split p f es with ⟨-, hsame⟩ | ⟨pre, k, v, post, hes, -, hp, -, hupdated⟩
  · rw [hsame]
    exact h
  · rw [hupdated]
    intro e he
    have hold : ∀ d, d ∈ pre ∨ d ∈ post → Q d.2 := by
      intro d hd
      refine h d ?_
      rw [hes]
      rcases hd with hd | hd
      · exact List.mem_append_left _ hd
      · exact List.mem_append_right _ (List.mem_cons_of_mem _ hd)
    rcases List.mem_append.mp he with he | he
    · exact hold e (.inl he)
    · rcases List.mem_cons.mp he with rfl | he
      · refine hf (k, v) ?_ hp
        rw [hes]
        exact List.mem_append_right _ List.mem_cons_self
      · exact hold e (.inr he)

section Aligned
variable {γ : Type*}

theorem forall₂_updateFirst {rel : α × β → α × γ → Prop} {es : List (α × β)}
    {ds : List (α × γ)} (h : List.Forall₂ rel es ds) {p : α → γ → Bool} {f : γ → γ}
    (hf : ∀ e d, d ∈ ds → p d.1 d.2 = true → rel e d → rel e (d.1, f d.2)) :
    List.Forall₂ rel es (updateFirst p f ds) := by
  induction h with
  | nil => exact .nil
  | @cons e d es ds hed hrest ih =>
    unfold Entries.updateFirst
    split
    · rename_i hp
      exact .cons (hf e d List.mem_cons_self hp hed) hrest
    · exact .cons hed (ih fun a c hc => hf a c (List.mem_cons_of_mem _ hc))

/-- The lists have the same keys, and the values of a key are related. -/
def Aligned (rel : β → γ → Prop) (es : List (α × β)) (ds : List (α × γ)) : Prop :=
  List.Forall₂ (fun e d => e.1 = d.1 ∧ rel e.2 d.2) es ds

variable {rel last : β → γ → Prop} {es : List (α × β)} {ds : List (α × γ)}

theorem Aligned.mapValues (h : Aligned rel es ds) {f : α → γ → γ}
    (hf : ∀ a d, d ∈ ds → rel a d.2 → last a (f d.1 d.2)) :
    Aligned last es (mapValues f ds) := by
  induction h with
  | nil => exact .nil
  | cons hed _ ih =>
    have hhead := hf _ _ List.mem_cons_self hed.2
    exact .cons ⟨hed.1, hhead⟩ (ih fun a d hd => hf a d (List.mem_cons_of_mem _ hd))

theorem Aligned.updateFirst (h : Aligned rel es ds) {p : α → γ → Bool} {f : γ → γ}
    (hf : ∀ a d, d ∈ ds → p d.1 d.2 = true → rel a d.2 → rel a (f d.2)) :
    Aligned rel es (updateFirst p f ds) :=
  forall₂_updateFirst h fun _ d hd hp hed => ⟨hed.1, hf _ d hd hp hed.2⟩

theorem Aligned.keys (h : Aligned rel es ds) : es.map Prod.fst = ds.map Prod.fst := by
  induction h with
  | nil => rfl
  | cons hed _ ih => rw [List.map_cons, List.map_cons, ih, hed.1]

theorem Aligned.map_eq (h : Aligned rel es ds) {δ : Type*} {f : β → δ} {g : γ → δ}
    (hfg : ∀ a c, rel a c → f a = g c) :
    es.map (fun e => (e.1, f e.2)) = ds.map fun d => (d.1, g d.2) := by
  induction h with
  | nil => rfl
  | cons hed _ ih => rw [List.map_cons, List.map_cons, ih, hed.1, hfg _ _ hed.2]

variable (test : γ → β → Bool) (f : γ → β → β)

/-- Every entry of `ds` updates the first value that its test finds. -/
def updateAll (ds : List (α × γ)) (es : List (α × β)) : List (α × β) :=
  ds.foldl (fun es d => Entries.updateFirst (fun _ => test d.2) (f d.2) es) es

variable {test f}

theorem updateAll_cons {e : α × β} (h : ∀ d ∈ ds, test d.2 e.2 = false) :
    updateAll test f ds (e :: es) = e :: updateAll test f ds es := by
  induction ds generalizing es with
  | nil => rfl
  | cons d ds ih =>
    have hne : ¬ test d.2 e.2 = true := by simp [h d List.mem_cons_self]
    change updateAll test f ds (Entries.updateFirst _ _ (e :: es)) = _
    rw [Entries.updateFirst, if_neg hne, ih fun c hc => h c (List.mem_cons_of_mem d hc)]
    rfl

/-- When a test finds the value beside its entry and no other one, every value changes by the
entry beside it, if that is among the chosen ones. -/
theorem Aligned.updateAll (h : Aligned rel es ds) {chosen : α × γ → Bool}
    (hself : ∀ a c, rel a c → test c a = true)
    (hother : ds.Pairwise fun d c => ∀ a, rel a d.2 →
      test c.2 a = false ∧ test c.2 (f d.2 a) = false)
    (hrel : ∀ a d, d ∈ ds → rel a d.2 → last (if chosen d then f d.2 a else a) d.2) :
    Aligned last (updateAll test f (ds.filter chosen) es) ds := by
  induction h with
  | nil => exact .nil
  | @cons e d es ds hed hrest ih =>
    obtain ⟨hhead, htail⟩ := List.pairwise_cons.mp hother
    have hnext := ih htail fun a c hc => hrel a c (List.mem_cons_of_mem d hc)
    have hlast := hrel e.2 d List.mem_cons_self hed.2
    cases hchosen : chosen d with
    | true =>
      rw [hchosen, if_pos rfl] at hlast
      have hskip : ∀ c ∈ ds.filter chosen, test c.2 (f d.2 e.2) = false := by
        intro c hc
        exact (hhead c (List.mem_filter.mp hc).1 e.2 hed.2).2
      rw [List.filter_cons_of_pos hchosen]
      change Aligned last (Entries.updateAll test f (ds.filter chosen)
        (Entries.updateFirst _ _ (e :: es))) (d :: ds)
      rw [Entries.updateFirst, if_pos (hself _ _ hed.2), updateAll_cons hskip]
      exact .cons ⟨hed.1, hlast⟩ hnext
    | false =>
      have hskip : ∀ c ∈ ds.filter chosen, test c.2 e.2 = false := by
        intro c hc
        exact (hhead c (List.mem_filter.mp hc).1 e.2 hed.2).1
      simp only [hchosen, Bool.false_eq_true, if_false] at hlast
      rw [List.filter_cons_of_neg (by simp [hchosen]), updateAll_cons hskip]
      exact .cons ⟨hed.1, hlast⟩ hnext

end Aligned

section Extends
variable {rel : β → β → Prop} {es ds cs : List (α × β)}

/-- Every entry of `es` is in `ds`, with a value that is related. -/
def Extends (rel : β → β → Prop) (es ds : List (α × β)) : Prop :=
  ∀ e ∈ es, ∃ v, (e.1, v) ∈ ds ∧ rel e.2 v

theorem Extends.refl (hrefl : ∀ v, rel v v) (es : List (α × β)) : Extends rel es es :=
  fun e he => ⟨e.2, he, hrefl e.2⟩

theorem Extends.trans (htrans : ∀ u v w, rel u v → rel v w → rel u w) (hes : Extends rel es ds)
    (hds : Extends rel ds cs) : Extends rel es cs := by
  intro e he
  obtain ⟨v, hv, hev⟩ := hes e he
  obtain ⟨w, hw, hvw⟩ := hds (e.1, v) hv
  exact ⟨w, hw, htrans _ _ _ hev hvw⟩

theorem extends_insert (hrefl : ∀ v, rel v v) (k : α) (v : β) (es : List (α × β)) :
    Extends rel es (insert fold k v es) :=
  fun e he => ⟨e.2, mem_insert_of_mem he, hrefl e.2⟩

theorem extends_updateFirst (hrefl : ∀ v, rel v v) {f : β → β} (hf : ∀ v, rel v (f v))
    (p : α → β → Bool) (es : List (α × β)) : Extends rel es (updateFirst p f es) := by
  intro e he
  rcases updateFirst_split p f es with ⟨_, hsame⟩ | ⟨pre, k, v, post, hsplit, _, _, _, hupdated⟩
  · rw [hsame]
    exact ⟨e.2, he, hrefl e.2⟩
  · rw [hupdated]
    rw [hsplit] at he
    rcases List.mem_append.mp he with hpre | htail
    · exact ⟨e.2, List.mem_append_left _ hpre, hrefl e.2⟩
    · rcases List.mem_cons.mp htail with rfl | hpost
      · exact ⟨f v, List.mem_append_right _ List.mem_cons_self, hf v⟩
      · exact ⟨e.2, List.mem_append_right _ (List.mem_cons_of_mem _ hpost), hrefl e.2⟩

end Extends
end Entries
end PubSub
