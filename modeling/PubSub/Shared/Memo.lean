import PubSub.Shared.Run

/-!
# Values that are kept at the first reading

A reader keeps the value that it finds at its first reading, if that is not blank, and gives it
to all later readings. The value itself may change in between, so what is read at the end is
the last value only if that first one was the last value already.
-/

namespace PubSub
set_option autoImplicit false

universe u v w
variable {σ : Type u} {ε : Type v} {V : Type w} [DecidableEq V]

def readValues (step : σ → ε → σ) (reads : σ → ε → Bool) (value : σ → V) : σ → List ε → List V
  | _, [] => []
  | s, e :: es =>
    let later := readValues step reads value (step s e) es
    if reads s e then value s :: later else later

/-- A reading keeps the value of the moment unless a value is kept, and nothing else changes
what is kept. -/
structure Memoizes (step : σ → ε → σ) (reads : σ → ε → Bool) (value kept : σ → V) (blank : V)
    (ok : σ → ε → Prop) : Prop where
  read : ∀ s e, ok s e → reads s e = true →
    kept (step s e) = if kept s = blank then value s else kept s
  other : ∀ s e, ok s e → reads s e = false → kept (step s e) = kept s

namespace Memoizes
variable {step : σ → ε → σ} {reads : σ → ε → Bool} {value kept : σ → V} {blank : V}
variable {ok : σ → ε → Prop}

theorem kept_of_ne (h : Memoizes step reads value kept blank ok) {s : σ} {es : List ε}
    (hok : RunOk step ok s es) (hkept : kept s ≠ blank) : kept (run step s es) = kept s := by
  induction es generalizing s with
  | nil => rfl
  | cons e es ih =>
    have hnext : kept (step s e) = kept s := by
      cases hreads : reads s e with
      | true => rw [h.read s e hok.1 hreads, if_neg hkept]
      | false => exact h.other s e hok.1 hreads
    rw [run_cons, ih hok.2 (hnext ▸ hkept), hnext]

theorem kept_run (h : Memoizes step reads value kept blank ok) {s : σ} {es : List ε}
    (hok : RunOk step ok s es) (hblank : kept s = blank) :
    kept (run step s es) =
      ((readValues step reads value s es).find? (· ≠ blank)).getD blank := by
  induction es generalizing s with
  | nil => exact hblank
  | cons e es ih =>
    unfold readValues
    cases hreads : reads s e with
    | false =>
      have hnext := h.other s e hok.1 hreads
      exact ih hok.2 (hnext.trans hblank)
    | true =>
      have hnext : kept (step s e) = value s := by
        rw [h.read s e hok.1 hreads, if_pos hblank]
      dsimp only
      rw [if_pos rfl, run_cons]
      by_cases hvalue : value s = blank
      · rw [List.find?_cons_of_neg (by simpa using hvalue)]
        exact ih hok.2 (hnext.trans hvalue)
      · rw [List.find?_cons_of_pos (by simpa using hvalue),
          h.kept_of_ne hok.2 (hnext ▸ hvalue), hnext]
        rfl

/-- What the reader gives at the end is the last value exactly where the first value that was
kept is that one. -/
theorem shown_eq_iff (h : Memoizes step reads value kept blank ok) {s : σ} {es : List ε}
    (hok : RunOk step ok s es) (hblank : kept s = blank) (last : V) :
    (if kept (run step s es) = blank then last else kept (run step s es)) = last ↔
      ∀ v, (readValues step reads value s es).find? (· ≠ blank) = some v → v = last := by
  rw [h.kept_run hok hblank]
  cases hfirst : (readValues step reads value s es).find? (· ≠ blank) with
  | none => simp
  | some v =>
    have hv : v ≠ blank := by simpa using List.find?_some hfirst
    simp [hv]

end Memoizes
end PubSub
