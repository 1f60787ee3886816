import PubSub.Shared.Run

/-!
# Systems of independent parts

A part of a state takes a step of its own at the events that are for it, and it rests at all
the others. What a run makes of the part is then a run of the part alone, over its own events
in their order, and two runs that agree on these events make the same of it. The condition on
the steps and the invariant are those of the whole system.
-/

namespace PubSub
set_option autoImplicit false

universe u v w x
variable {σ : Type u} {ε : Type v} {τ : Type w} {δ : Type x}

/-- The part steps with the system at the events in which `mine` sees one of its own, and it
rests at the others. -/
structure IsPart (step : σ → ε → σ) (Inv : σ → Prop) (ok : σ → ε → Prop) (part : σ → τ)
    (mine : ε → Option δ) (own : τ → δ → τ) : Prop where
  kept : ∀ s e, Inv s → ok s e → Inv (step s e)
  moves : ∀ s e d, Inv s → ok s e → mine e = some d → part (step s e) = own (part s) d
  rests : ∀ s e, Inv s → ok s e → mine e = none → part (step s e) = part s

namespace IsPart
variable {step : σ → ε → σ} {Inv : σ → Prop} {ok : σ → ε → Prop} {part : σ → τ}
  {mine : ε → Option δ} {own : τ → δ → τ}

theorem part_run (h : IsPart step Inv ok part mine own) {s : σ} {es : List ε} (hs : Inv s)
    (hok : RunOk step ok s es) :
    part (run step s es) = run own (part s) (es.filterMap mine) := by
  induction es generalizing s with
  | nil => rfl
  | cons e es ih =>
    rw [run_cons, ih (h.kept s e hs hok.1) hok.2]
    cases hmine : mine e with
    | some d =>
      rw [List.filterMap_cons_some hmine, run_cons, h.moves s e d hs hok.1 hmine]
    | none => rw [List.filterMap_cons_none hmine, h.rests s e hs hok.1 hmine]

/-- What happens to the rest of the system, and when, does not matter to the part. -/
theorem part_eq_of_filterMap (h : IsPart step Inv ok part mine own) {s t : σ} {es ds : List ε}
    (hs : Inv s) (ht : Inv t) (hes : RunOk step ok s es) (hds : RunOk step ok t ds)
    (hpart : part s = part t) (hsame : es.filterMap mine = ds.filterMap mine) :
    part (run step s es) = part (run step t ds) := by
  rw [h.part_run hs hes, h.part_run ht hds, hpart, hsame]

end IsPart

end PubSub
