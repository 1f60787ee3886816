import PubSub.Shared.Run

/-!
# Fair rounds

At every moment one party is due. Its move lowers a rank, and what the others do meanwhile
either lowers the rank as well or leaves the same party due. A run in whose every round each
party moves once is then through after as many rounds as the rank counted at first.
-/

namespace PubSub
set_option autoImplicit false

universe u v w
variable {σ : Type u} {ε : Type v} {ι : Type w}

/-- `party e` moves in `e`, if any does, and `due s` is the one that others wait for. -/
structure FairlyRanked (step : σ → ε → σ) (party : ε → Option ι) (due : σ → ι) (Inv : σ → Prop)
    (rank : σ → Nat) : Prop where
  kept : ∀ s e, Inv s → Inv (step s e)
  falls : ∀ s e, Inv s → 0 < rank s → party e = some (due s) → rank (step s e) < rank s
  waits : ∀ s e, Inv s → 0 < rank s → party e ≠ some (due s) →
    rank (step s e) < rank s ∨ rank (step s e) = rank s ∧ due (step s e) = due s
  ended : ∀ s e, Inv s → rank s = 0 → rank (step s e) = 0

/-- Every party moves in the round. -/
def IsRound (party : ε → Option ι) (round : List ε) : Prop :=
  ∀ i, ∃ e ∈ round, party e = some i

namespace FairlyRanked
variable {step : σ → ε → σ} {party : ε → Option ι} {due : σ → ι} {Inv : σ → Prop}
  {rank : σ → Nat}

theorem step_le (h : FairlyRanked step party due Inv rank) {s : σ} (hs : Inv s) (e : ε) :
    rank (step s e) ≤ rank s := by
  rcases Nat.eq_zero_or_pos (rank s) with hzero | hpos
  · rw [h.ended s e hs hzero]
    exact Nat.zero_le _
  · by_cases hdue : party e = some (due s)
    · exact Nat.le_of_lt (h.falls s e hs hpos hdue)
    · rcases h.waits s e hs hpos hdue with hlt | ⟨heq, _⟩
      · exact Nat.le_of_lt hlt
      · exact Nat.le_of_eq heq

theorem run_le (h : FairlyRanked step party due Inv rank) {s : σ} (hs : Inv s) (es : List ε) :
    rank (run step s es) ≤ rank s := by
  induction es generalizing s with
  | nil => exact Nat.le_refl _
  | cons e es ih => exact Nat.le_trans (ih (h.kept s e hs)) (h.step_le hs e)

/-- Until the due party moves the rank has fallen, or that party is still due. -/
theorem run_falls (h : FairlyRanked step party due Inv rank) {s : σ} {es : List ε} (hs : Inv s)
    (hpos : 0 < rank s) (hmoves : ∃ e ∈ es, party e = some (due s)) :
    rank (run step s es) < rank s := by
  induction es generalizing s with
  | nil =>
    obtain ⟨e, he, _⟩ := hmoves
    cases he
  | cons e es ih =>
    have hnext := h.kept s e hs
    by_cases hdue : party e = some (due s)
    · exact Nat.lt_of_le_of_lt (h.run_le hnext es) (h.falls s e hs hpos hdue)
    · rcases h.waits s e hs hpos hdue with hlt | ⟨hrank, hsame⟩
      · exact Nat.lt_of_le_of_lt (h.run_le hnext es) hlt
      · obtain ⟨d, hd, hparty⟩ := hmoves
        have hrest : ∃ d ∈ es, party d = some (due (step s e)) := by
          rcases List.mem_cons.mp hd with rfl | hd
          · exact absurd hparty hdue
          · exact ⟨d, hd, hparty.trans (congrArg some hsame.symm)⟩
        rw [← hrank]
        exact ih hnext (hrank ▸ hpos) hrest

theorem rounds_end (h : FairlyRanked step party due Inv rank) {s : σ} {rounds : List (List ε)}
    (hs : Inv s) (hrounds : ∀ r ∈ rounds, IsRound party r) (hlong : rank s ≤ rounds.length) :
    rank (run step s rounds.flatten) = 0 := by
  induction rounds generalizing s with
  | nil => exact Nat.le_zero.mp hlong
  | cons r rounds ih =>
    rw [List.flatten_cons, run_append]
    have hnext : Inv (run step s r) := run_preserves h.kept r hs
    refine ih hnext (fun q hq => hrounds q (List.mem_cons_of_mem r hq)) ?_
    rcases Nat.eq_zero_or_pos (rank s) with hzero | hpos
    · have hle := h.run_le hs r
      omega
    · have hlt := h.run_falls hs hpos (hrounds r List.mem_cons_self (due s))
      rw [List.length_cons] at hlong
      omega

end FairlyRanked
end PubSub
