import PubSub.Shared.FoldedMap

/-!
# Filling a sorted map from a list of keys and a list of values

A loop runs over the indices of the keys, passes over the keys that it skips and those without
a value, and puts the others into a map. With checked reads it never fails, and it is the walk
over the pairs. Where the keys are distinct, every pair is found under its key afterwards.
-/

namespace PubSub
set_option autoImplicit false

universe u v w x

section Loop
variable {σ : Type u} {α : Type v} {γ : Type w} {δ : Type x}

/-- The pairs of the two lists whose key is not skipped. -/
def keptPairs (skip : α → Bool) (keys : List α) (values : List γ) : List (α × γ) :=
  (keys.zip values).filter fun e => !skip e.1

theorem keptPairs_keys (skip : α → Bool) (keys : List α) (values : List γ) :
    ((keptPairs skip keys values).map Prod.fst).Sublist (keys.filter fun key => !skip key) := by
  induction keys generalizing values with
  | nil => exact .slnil
  | cons key keys ih =>
    cases values with
    | nil => exact List.nil_sublist _
    | cons value values =>
      unfold keptPairs at ih ⊢
      rw [List.zip_cons_cons]
      cases hkey : skip key with
      | true =>
        rw [List.filter_cons_of_neg (by simp [hkey]), List.filter_cons_of_neg (by simp [hkey])]
        exact ih values
      | false =>
        rw [List.filter_cons_of_pos (by simp [hkey]), List.filter_cons_of_pos (by simp [hkey]),
          List.map_cons]
        exact (ih values).cons_cons key

def indexTurn (skip : α → Bool) (body : σ → α → γ → Option σ) (keys : List α)
    (values : List γ) (s : σ) (i : Nat) : Option σ :=
  (keys[i]?).bind fun key =>
    if skip key = true ∨ values.length ≤ i then some s
    else (values[i]?).bind fun value => body s key value

/-- The loop over the indices of the keys. -/
def indexLoop (skip : α → Bool) (body : σ → α → γ → Option σ) (keys : List α) (values : List γ)
    (s : σ) : Option σ :=
  (List.range keys.length).foldlM (indexTurn skip body keys values) s

theorem indexTurn_succ (skip : α → Bool) (body : σ → α → γ → Option σ) (key : α) (keys : List α)
    (values : List γ) (s : σ) (i : Nat) :
    indexTurn skip body (key :: keys) values s (i + 1) =
      indexTurn skip body keys values.tail s i := by
  unfold indexTurn
  rw [List.getElem?_cons_succ]
  cases keys[i]? with
  | none => rfl
  | some k =>
    cases values with
    | nil => simp
    | cons value values =>
      rw [Option.bind_some, Option.bind_some, List.getElem?_cons_succ, List.length_cons,
        List.tail_cons]
      by_cases hlen : values.length ≤ i
      · rw [if_pos (Or.inr (Nat.succ_le_succ hlen)), if_pos (Or.inr hlen)]
      · simp only [hlen, or_false, Nat.add_le_add_iff_right]

theorem indexLoop_cons (skip : α → Bool) (body : σ → α → γ → Option σ) (key : α) (keys : List α)
    (values : List γ) (s : σ) :
    indexLoop skip body (key :: keys) values s =
      (indexTurn skip body (key :: keys) values s 0).bind
        (indexLoop skip body keys values.tail) := by
  unfold indexLoop
  rw [List.length_cons, List.range_succ_eq_map, List.foldlM_cons]
  apply congrArg (Option.bind _)
  funext t
  rw [List.foldlM_map]
  apply congrArg (fun turn => List.foldlM turn t (List.range keys.length))
  funext u i
  exact indexTurn_succ skip body key keys values u i

/-- No read of the loop fails, and it takes the kept pairs in order. -/
theorem indexLoop_eq (skip : α → Bool) {body : σ → α → γ → Option σ} (step : σ → α → γ → σ)
    (keys : List α) {values : List γ} (s : σ)
    (h : ∀ value ∈ values, ∀ s key, skip key = false →
      body s key value = some (step s key value)) :
    indexLoop skip body keys values s =
      some ((keptPairs skip keys values).foldl (fun s e => step s e.1 e.2) s) := by
  induction keys generalizing values s with
  | nil => rfl
  | cons key keys ih =>
    rw [indexLoop_cons]
    cases values with
    | nil =>
      have hskip : indexTurn skip body (key :: keys) [] s 0 = some s := by simp [indexTurn]
      rw [hskip, Option.bind_some, List.tail_nil, ih s fun _ hv => absurd hv List.not_mem_nil]
      unfold keptPairs
      rw [List.zip_nil_right, List.zip_nil_right]
    | cons value values =>
      have hrest : ∀ t, indexLoop skip body keys values t = _ :=
        fun t => ih t fun v hv => h v (List.mem_cons_of_mem value hv)
      rw [List.tail_cons]
      unfold keptPairs
      rw [List.zip_cons_cons]
      cases hkey : skip key with
      | true =>
        have hskip : indexTurn skip body (key :: keys) (value :: values) s 0 = some s := by
          simp [indexTurn, hkey]
        rw [hskip, Option.bind_some, hrest, List.filter_cons_of_neg (by simp [hkey])]
        rfl
      | false =>
        have hbody : indexTurn skip body (key :: keys) (value :: values) s 0 =
            some (step s key value) := by
          simp [indexTurn, hkey, h value List.mem_cons_self s key hkey]
        rw [hbody, Option.bind_some, hrest, List.filter_cons_of_pos (by simp [hkey]),
          List.foldl_cons]
        rfl

end Loop

section Fill
variable {α : Type u} {β : Type v} {γ : Type w} {κ : Type x} [LinearOrder κ]

/-- A step that puts a value under a key: it depends on the pair and on what is under the key,
and every other key keeps its value. -/
structure Puts (fold : α → κ) (put : List (α × β) → α × γ → List (α × β))
    (value : α × γ → Option β → β) : Prop where
  sorted : ∀ {es e}, Entries.Sorted fold es → Entries.Sorted fold (put es e)
  get?_put : ∀ {es e} key, Entries.Sorted fold es → Entries.get? fold key (put es e) =
    if fold key = fold e.1 then some (value e (Entries.get? fold e.1 es))
    else Entries.get? fold key es

namespace Puts
variable {fold : α → κ} {put : List (α × β) → α × γ → List (α × β)}
variable {value : α × γ → Option β → β}

theorem sorted_fill (h : Puts fold put value) {es : List (α × β)} (hs : Entries.Sorted fold es)
    (pairs : List (α × γ)) : Entries.Sorted fold (pairs.foldl put es) := by
  induction pairs generalizing es with
  | nil => exact hs
  | cons e pairs ih => exact ih (h.sorted hs)

theorem get?_fill_ne (h : Puts fold put value) {es : List (α × β)} (hs : Entries.Sorted fold es)
    {pairs : List (α × γ)} {key : α} (hne : ∀ e ∈ pairs, fold key ≠ fold e.1) :
    Entries.get? fold key (pairs.foldl put es) = Entries.get? fold key es := by
  induction pairs generalizing es with
  | nil => rfl
  | cons e pairs ih =>
    rw [List.foldl_cons, ih (h.sorted hs) fun d hd => hne d (List.mem_cons_of_mem e hd),
      h.get?_put key hs, if_neg (hne e List.mem_cons_self)]

theorem get?_fill_mem (h : Puts fold put value) {es : List (α × β)} (hs : Entries.Sorted fold es)
    {pairs : List (α × γ)} (hnodup : (pairs.map fun e => fold e.1).Nodup) {e : α × γ}
    (he : e ∈ pairs) : Entries.get? fold e.1 (pairs.foldl put es) =
      some (value e (Entries.get? fold e.1 es)) := by
  induction pairs generalizing es with
  | nil => cases he
  | cons d pairs ih =>
    obtain ⟨hd, hrest⟩ := List.nodup_cons.mp hnodup
    have hother : ∀ c ∈ pairs, fold d.1 ≠ fold c.1 :=
      fun c hc heq => hd (List.mem_map.mpr ⟨c, hc, heq.symm⟩)
    rw [List.foldl_cons]
    rcases List.mem_cons.mp he with rfl | hmem
    · rw [h.get?_fill_ne (h.sorted hs) hother, h.get?_put _ hs, if_pos rfl]
    · rw [ih (h.sorted hs) hrest hmem, h.get?_put _ hs, if_neg (Ne.symm (hother e hmem))]

theorem fill_keys (h : Puts fold put value) {es : List (α × β)} (hs : Entries.Sorted fold es)
    {pairs : List (α × γ)} {key : α}
    (hkey : Entries.get? fold key (pairs.foldl put es) ≠ none) :
    Entries.get? fold key es ≠ none ∨ ∃ e ∈ pairs, fold key = fold e.1 := by
  by_contra hnone
  rw [not_or, not_not] at hnone
  apply hkey
  rw [h.get?_fill_ne hs fun e he heq => hnone.2 ⟨e, he, heq⟩]
  exact hnone.1

end Puts
end Fill
end PubSub
