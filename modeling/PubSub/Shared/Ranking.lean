import PubSub.Shared.Run

/-!
# Ranks and deadlines of runs

A rank that the moves of one party lower, and that nothing else raises, is zero after as many
moves as it counted at first, whatever happens between them. A deadline that is set when a
state is entered, and that nothing puts off, is met by the first turn after it.
-/

namespace PubSub
set_option autoImplicit false

universe u v
variable {σ : Type u} {ε : Type v}

/-- Until the rank is zero a move lowers it, and the other events do not raise it. -/
structure Ranked (step : σ → ε → σ) (isMove : ε → Bool) (Inv : σ → Prop) (rank : σ → Nat) :
    Prop where
  kept : ∀ s e, Inv s → 0 < rank s → Inv (step s e)
  falls : ∀ s e, Inv s → 0 < rank s → isMove e = true → rank (step s e) < rank s
  stays : ∀ s e, Inv s → 0 < rank s → isMove e = false → rank (step s e) ≤ rank s

theorem Ranked.reaches_zero {step : σ → ε → σ} {isMove : ε → Bool} {Inv : σ → Prop}
    {rank : σ → Nat} (h : Ranked step isMove Inv rank) {s : σ} {es : List ε} (hs : Inv s)
    (hmoves : rank s ≤ es.countP isMove) :
    ∃ pre post, es = pre ++ post ∧ Inv (run step s pre) ∧ rank (run step s pre) = 0 := by
  induction es generalizing s with
  | nil => exact ⟨[], [], rfl, hs, Nat.le_zero.mp hmoves⟩
  | cons e es ih =>
    rcases Nat.eq_zero_or_pos (rank s) with hzero | hpos
    · exact ⟨[], e :: es, rfl, hs, hzero⟩
    · have hrest : rank (step s e) ≤ es.countP isMove := by
        rw [List.countP_cons] at hmoves
        cases hmove : isMove e with
        | true =>
          have hlt := h.falls s e hs hpos hmove
          rw [hmove, if_pos rfl] at hmoves
          omega
        | false =>
          have hle := h.stays s e hs hpos hmove
          rw [hmove, if_neg Bool.false_ne_true] at hmoves
          omega
      obtain ⟨pre, post, rfl, hinv, hzero⟩ := ih (h.kept s e hs hpos) hrest
      exact ⟨e :: pre, post, rfl, hinv, hzero⟩

/-- A state that is entered with a deadline, which the turns of its party obey. -/
structure Deadline (step : σ → ε → σ) (waits : σ → Prop) (turn : σ → ε → Prop)
    (clock timer : σ → Nat) (limit : Nat) : Prop where
  entered : ∀ s e, ¬ waits s → waits (step s e) → timer (step s e) ≤ clock (step s e) + limit
  held : ∀ s e, waits s → waits (step s e) → timer (step s e) ≤ timer s
  due : ∀ s e, waits s → turn s e → timer s ≤ clock (step s e) → ¬ waits (step s e)

def Throughout (step : σ → ε → σ) (waits : σ → Prop) (s : σ) (es : List ε) : Prop :=
  ∀ pre post, es = pre ++ post → waits (run step s pre)

theorem throughout_nil {step : σ → ε → σ} {waits : σ → Prop} {s : σ} (hs : waits s) :
    Throughout step waits s [] := by
  intro pre post hsplit
  obtain ⟨rfl, rfl⟩ := List.append_eq_nil_iff.mp hsplit.symm
  exact hs

theorem throughout_cons {step : σ → ε → σ} {waits : σ → Prop} {s : σ} {e : ε} {es : List ε}
    (hs : waits s) (hes : Throughout step waits (step s e) es) :
    Throughout step waits s (e :: es) := by
  intro pre post hsplit
  cases pre with
  | nil => exact hs
  | cons d pre =>
    obtain ⟨rfl, hrest⟩ := List.cons.inj hsplit
    exact hes pre post hrest

section Waiting
variable {step : σ → ε → σ} {waits : σ → Prop} {turn : σ → ε → Prop} {clock timer : σ → Nat}
  {limit : Nat}

theorem Deadline.timer_le (h : Deadline step waits turn clock timer limit) {s : σ} {es : List ε}
    (hes : Throughout step waits s es) : timer (run step s es) ≤ timer s := by
  induction es generalizing s with
  | nil => exact Nat.le_refl _
  | cons e es ih =>
    have hfirst : waits s := hes [] (e :: es) rfl
    have hsecond : waits (step s e) := hes [e] es rfl
    have hrest : Throughout step waits (step s e) es :=
      fun pre post hsplit => hes (e :: pre) post (congrArg (e :: ·) hsplit)
    exact Nat.le_trans (ih hrest) (h.held s e hfirst hsecond)

theorem Deadline.turn_before (h : Deadline step waits turn clock timer limit) {s : σ} {e : ε}
    (hs : ¬ waits s) {es : List ε} (hes : Throughout step waits (step s e) es) {pre : List ε}
    {d : ε} {post : List ε} (hsplit : es = pre ++ d :: post)
    (hturn : turn (run step (step s e) pre) d) :
    clock (step (run step (step s e) pre) d) < clock (step s e) + limit := by
  have hbefore : Throughout step waits (step s e) pre := by
    intro first rest hfirst
    exact hes first (rest ++ d :: post) (by rw [hsplit, hfirst, List.append_assoc])
  have hwaits : waits (run step (step s e) pre) := hes pre (d :: post) hsplit
  have hafter : waits (step (run step (step s e) pre) d) := by
    have hall := hes (pre ++ [d]) post (by rw [hsplit, List.append_assoc, List.singleton_append])
    rw [run_append] at hall
    exact hall
  have hset := h.entered s e hs (hes [] es rfl)
  have hheld := h.timer_le hbefore
  by_contra hlate
  exact h.due _ d hwaits hturn (by omega) hafter

/-- A wait is a value of the state. A turn that ends in it either stays there before the
deadline or sets the deadline; the other events do neither. -/
theorem Deadline.of_states {τ : Type u} {state : σ → τ} {w : τ}
    (hturn : ∀ s e, turn s e → state (step s e) = w →
      state s = w ∧ clock (step s e) < timer s ∧ timer (step s e) = timer s ∨
        state s ≠ w ∧ timer (step s e) = clock (step s e) + limit)
    (hrest : ∀ s e, ¬ turn s e → state (step s e) = w →
      state s = w ∧ timer (step s e) ≤ timer s) :
    Deadline step (fun s => state s = w) turn clock timer limit := by
  constructor
  · intro s e hs hafter
    by_cases he : turn s e
    · rcases hturn s e he hafter with ⟨hbefore, _⟩ | ⟨_, hset⟩
      · exact absurd hbefore hs
      · exact Nat.le_of_eq hset
    · exact absurd (hrest s e he hafter).1 hs
  · intro s e hs hafter
    by_cases he : turn s e
    · rcases hturn s e he hafter with ⟨_, _, hsame⟩ | ⟨hother, _⟩
      · exact Nat.le_of_eq hsame
      · exact absurd hs hother
    · exact (hrest s e he hafter).2
  · intro s e hs he hlate hafter
    rcases hturn s e he hafter with ⟨_, hearly, _⟩ | ⟨hother, _⟩
    · exact absurd hlate (Nat.not_le_of_lt hearly)
    · exact hother hs

end Waiting

end PubSub
