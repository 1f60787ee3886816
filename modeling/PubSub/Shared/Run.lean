import Mathlib.Data.List.Basic

/-!
# Runs of a step function

A system is a state type and a total step function; an event that is not enabled
leaves the state as it is. `RunOk` carries a condition on every step of a run, and
an invariant needs only to survive the steps that meet the condition.
-/

namespace PubSub
set_option autoImplicit false

universe u v
variable {σ : Type u} {ε : Type v}

def run (step : σ → ε → σ) (s : σ) (es : List ε) : σ := es.foldl step s

/-- Every event of the run meets `ok` in the state in which it is taken. -/
def RunOk (step : σ → ε → σ) (ok : σ → ε → Prop) : σ → List ε → Prop
  | _, [] => True
  | s, e :: es => ok s e ∧ RunOk step ok (step s e) es

instance RunOk.decidable (step : σ → ε → σ) (ok : σ → ε → Prop)
    [∀ s e, Decidable (ok s e)] : ∀ s es, Decidable (RunOk step ok s es)
  | _, [] => .isTrue trivial
  | s, e :: es =>
    have := RunOk.decidable step ok (step s e) es
    inferInstanceAs (Decidable (ok s e ∧ RunOk step ok (step s e) es))

variable {step : σ → ε → σ} {ok : σ → ε → Prop}

@[simp] theorem run_nil (s : σ) : run step s [] = s := rfl

@[simp] theorem run_cons (s : σ) (e : ε) (es : List ε) :
    run step s (e :: es) = run step (step s e) es := rfl

theorem run_append (s : σ) (es ds : List ε) :
    run step s (es ++ ds) = run step (run step s es) ds := by
  simp [run, List.foldl_append]

theorem runOk_append {s : σ} {es ds : List ε} :
    RunOk step ok s (es ++ ds) ↔ RunOk step ok s es ∧ RunOk step ok (run step s es) ds := by
  induction es generalizing s with
  | nil => simp [RunOk]
  | cons e es ih => simp [RunOk, ih, and_assoc]

theorem RunOk.of_forall (h : ∀ s e, ok s e) (s : σ) (es : List ε) : RunOk step ok s es := by
  induction es generalizing s with
  | nil => trivial
  | cons e es ih => exact ⟨h s e, ih _⟩

theorem RunOk.mono {weaker : σ → ε → Prop} (h : ∀ s e, ok s e → weaker s e) {s : σ} {es : List ε}
    (hes : RunOk step ok s es) : RunOk step weaker s es := by
  induction es generalizing s with
  | nil => trivial
  | cons e es ih => exact ⟨h s e hes.1, ih hes.2⟩

/-- The event after a prefix of the run meets the condition. -/
theorem RunOk.at {s : σ} {pre post : List ε} {e : ε}
    (h : RunOk step ok s (pre ++ e :: post)) : ok (run step s pre) e :=
  (runOk_append.mp h).2.1

theorem runOk_iff_forall {s : σ} {es : List ε} :
    RunOk step ok s es ↔ ∀ pre e post, es = pre ++ e :: post → ok (run step s pre) e := by
  constructor
  · rintro h pre e post rfl
    exact h.at
  · intro h
    induction es generalizing s with
    | nil => trivial
    | cons e es ih =>
      refine ⟨h [] e es rfl, ih ?_⟩
      intro pre d post hsplit
      exact h (e :: pre) d post (congrArg (e :: ·) hsplit)

theorem run_invariant {Inv : σ → Prop}
    (preserved : ∀ s e, Inv s → ok s e → Inv (step s e)) {s : σ} {es : List ε}
    (hs : Inv s) (hok : RunOk step ok s es) : Inv (run step s es) := by
  induction es generalizing s with
  | nil => exact hs
  | cons e es ih => exact ih (preserved s e hs hok.1) hok.2

/-- An invariant of every step holds after every run. -/
theorem run_preserves {Inv : σ → Prop} (preserved : ∀ s e, Inv s → Inv (step s e))
    {s : σ} (es : List ε) (hs : Inv s) : Inv (run step s es) := by
  induction es generalizing s with
  | nil => exact hs
  | cons e es ih => exact ih (preserved s e hs)

/-- Conditions that agree under an invariant agree along a run. -/
theorem runOk_congr {Inv : σ → Prop} {p q : σ → ε → Prop}
    (preserved : ∀ s e, Inv s → Inv (step s e)) (h : ∀ s e, Inv s → (p s e ↔ q s e)) {s : σ}
    {es : List ε} (hs : Inv s) : RunOk step p s es ↔ RunOk step q s es := by
  induction es generalizing s with
  | nil => exact Iff.rfl
  | cons e es ih => exact and_congr (h s e hs) (ih (preserved s e hs))

/-- A property that one step keeps exactly when it meets the condition holds all along a
run exactly when all steps meet the condition, in the runs that keep within a bound. -/
theorem runOk_iff_within {Inv Good : σ → Prop} {within : σ → ε → Prop}
    (preserved : ∀ s e, Inv s → within s e → Inv (step s e))
    (kept : ∀ s e, Inv s → within s e → Good s → (Good (step s e) ↔ ok s e)) {s : σ} {es : List ε}
    (hs : Inv s) (hgood : Good s) (hwithin : RunOk step within s es) :
    (∀ pre post, es = pre ++ post → Good (run step s pre)) ↔ RunOk step ok s es := by
  induction es generalizing s with
  | nil =>
    refine ⟨fun _ => trivial, fun _ pre post hsplit => ?_⟩
    obtain ⟨rfl, _⟩ := List.append_eq_nil_iff.mp hsplit.symm
    exact hgood
  | cons e es ih =>
    have hinv := preserved s e hs hwithin.1
    constructor
    · intro h
      have hnext : Good (step s e) := h [e] es rfl
      refine ⟨(kept s e hs hwithin.1 hgood).mp hnext, ?_⟩
      apply (ih hinv hnext hwithin.2).mp
      intro pre post hsplit
      exact h (e :: pre) post (congrArg (e :: ·) hsplit)
    · intro hok pre post hsplit
      cases pre with
      | nil => exact hgood
      | cons d pre =>
        obtain ⟨rfl, hrest⟩ := List.cons.inj hsplit
        have hnext := (kept s e hs hwithin.1 hgood).mpr hok.1
        exact (ih hinv hnext hwithin.2).mpr hok.2 pre post hrest

theorem runOk_iff {Inv Good : σ → Prop} (preserved : ∀ s e, Inv s → Inv (step s e))
    (kept : ∀ s e, Inv s → Good s → (Good (step s e) ↔ ok s e)) {s : σ} {es : List ε}
    (hs : Inv s) (hgood : Good s) :
    (∀ pre post, es = pre ++ post → Good (run step s pre)) ↔ RunOk step ok s es :=
  runOk_iff_within (fun s e h _ => preserved s e h) (fun s e h _ => kept s e h) hs hgood
    (.of_forall (fun _ _ => trivial) s es)

/-- Some event of the run was taken in a state that it meets the condition in. -/
def Happened (step : σ → ε → σ) (what : σ → ε → Prop) (s : σ) (es : List ε) : Prop :=
  ∃ pre e post, es = pre ++ e :: post ∧ what (run step s pre) e

theorem Happened.later {what : σ → ε → Prop} {s : σ} {es : List ε}
    (h : Happened step what s es) (ds : List ε) : Happened step what s (es ++ ds) := by
  obtain ⟨pre, e, post, rfl, hwhat⟩ := h
  exact ⟨pre, e, post ++ ds, by rw [List.append_assoc, List.cons_append], hwhat⟩

theorem Happened.last {what : σ → ε → Prop} {s : σ} {es : List ε} {e : ε}
    (h : what (run step s es) e) : Happened step what s (es ++ [e]) :=
  ⟨es, e, [], rfl, h⟩

end PubSub
