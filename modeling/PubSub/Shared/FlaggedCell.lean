import PubSub.Shared.Run

/-!
# Cells with an update flag

A writer stores a value into a cell and raises the flag of the cell in a later step, if it
changed the value. A reader copies the value and lowers the flag. The last value of a cell is
covered as long as the flag is up, or some writer or the reader still has to act on it, or the
last copy is the value itself. Only a flag that is lowered and a copy that is thrown away can
uncover a cell.
-/

namespace PubSub
set_option autoImplicit false

universe u v w x

/-- `pending` tells that a writer has changed the value and has not raised the flag yet, `due`
that the reader is bound to copy the value, and `copy` is the last copy. -/
structure Cell (V : Type u) where
  value : V
  flagged : Bool
  pending : Bool
  due : Bool
  copy : Option V

namespace Cell
variable {V : Type u}

def Covered (c : Cell V) : Prop :=
  c.flagged = true ∨ c.pending = true ∨ c.due = true ∨ c.copy = some c.value

inductive Step : Cell V → Cell V → Prop where
  | stay (c : Cell V) : Step c c
  | store (c : Cell V) (v : V) : Step c { c with value := v, pending := true }
  | raise (c : Cell V) (pending : Bool) : Step c { c with flagged := true, pending := pending }
  | promise (c : Cell V) : Step c { c with due := true }
  | read (c : Cell V) : Step c { c with due := false, copy := some c.value }
  | lower (c : Cell V) (h : Covered { c with flagged := false }) :
      Step c { c with flagged := false }
  | forget (c : Cell V) (due : Bool) (copy : Option V)
      (h : Covered { c with due := due, copy := copy }) :
      Step c { c with due := due, copy := copy }

theorem Step.covered {c d : Cell V} (h : Step c d) (hc : c.Covered) : d.Covered := by
  cases h with
  | stay => exact hc
  | store v => exact .inr (.inl rfl)
  | raise pending => exact .inl rfl
  | promise => exact .inr (.inr (.inl rfl))
  | read => exact .inr (.inr (.inr rfl))
  | lower h => exact h
  | forget due copy h => exact h

section Runs
variable {σ : Type v} {ε : Type w} {ι : Type x} {step : σ → ε → σ} {ok : σ → ε → Prop}
variable {cell : σ → ι → Cell V} {Inv : σ → Prop}

theorem covered_run (hinv : ∀ s e, Inv s → Inv (step s e))
    (hstep : ∀ s e i, Inv s → ok s e → Step (cell s i) (cell (step s e) i)) {s : σ} {es : List ε}
    (hs : Inv s) (hok : RunOk step ok s es) {i : ι} (hc : (cell s i).Covered) :
    (cell (run step s es) i).Covered := by
  have hboth : ∀ s e, (Inv s ∧ (cell s i).Covered) → ok s e →
      Inv (step s e) ∧ (cell (step s e) i).Covered := by
    rintro s e ⟨hs, hc⟩ hok
    exact ⟨hinv s e hs, (hstep s e i hs hok).covered hc⟩
  exact (run_invariant hboth ⟨hs, hc⟩ hok).2

theorem covered_after (hinv : ∀ s e, Inv s → Inv (step s e))
    (hstep : ∀ s e i, Inv s → ok s e → Step (cell s i) (cell (step s e) i)) {s : σ}
    {pre post : List ε} {e : ε} (hs : Inv s) (hok : RunOk step ok s (pre ++ e :: post)) {i : ι}
    (hc : (cell (step (run step s pre) e) i).Covered) :
    (cell (run step s (pre ++ e :: post)) i).Covered := by
  have hpre := run_preserves hinv pre hs
  have hpost := (runOk_append.mp hok).2
  rw [run_append]
  exact covered_run hinv hstep (hinv _ e hpre) hpost.2 hc

end Runs
end Cell

section Tracking
variable {σ : Type v} {ε : Type w} {V : Type u} [DecidableEq V]

/-- Every event that stores a value raises the flag if the value is another one, and no other
event touches the value or the flag. -/
structure Tracks (step : σ → ε → σ) (Inv : σ → Prop) (stores : ε → Option V) (value : σ → V)
    (flag : σ → Bool) : Prop where
  inv_step : ∀ s e, Inv s → Inv (step s e)
  value_step : ∀ s e, Inv s → value (step s e) = (stores e).getD (value s)
  flag_step : ∀ s e, Inv s →
    flag (step s e) = (flag s || decide ((stores e).getD (value s) ≠ value s))

namespace Tracks
variable {step : σ → ε → σ} {Inv : σ → Prop} {stores : ε → Option V} {value : σ → V}
variable {flag : σ → Bool}

/-- After a run the flag tells whether a value other than the first one was stored. -/
theorem flag_run (h : Tracks step Inv stores value flag) {s : σ} (hs : Inv s) (es : List ε) :
    flag (run step s es) = true ↔
      flag s = true ∨ ∃ v ∈ es.filterMap stores, v ≠ value s := by
  induction es generalizing s with
  | nil => simp
  | cons e es ih =>
    rw [run_cons, ih (h.inv_step s e hs), h.flag_step s e hs, h.value_step s e hs]
    cases hstores : stores e with
    | none =>
      rw [List.filterMap_cons_none hstores]
      simp
    | some v =>
      rw [List.filterMap_cons_some hstores]
      by_cases hv : v = value s
      · simp [hv]
      · simp [hv]

theorem value_run (h : Tracks step Inv stores value flag) {s : σ} (hs : Inv s) {es : List ε}
    (hflag : flag (run step s es) = false) : value (run step s es) = value s := by
  induction es generalizing s with
  | nil => rfl
  | cons e es ih =>
    have hnext : flag (step s e) = false := by
      apply Bool.eq_false_iff.mpr
      intro hraised
      have hrun := (h.flag_run (h.inv_step s e hs) es).mpr (Or.inl hraised)
      exact Bool.false_ne_true (hflag.symm.trans hrun)
    rw [h.flag_step s e hs, Bool.or_eq_false_iff, decide_eq_false_iff_not, not_not] at hnext
    rw [run_cons, ih (h.inv_step s e hs) hflag, h.value_step s e hs, hnext.2]

end Tracks
end Tracking
end PubSub
