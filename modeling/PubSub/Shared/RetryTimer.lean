import PubSub.Shared.Run

/-!
# Retry timers

A worker has one timer beside its clock, and it makes an attempt only in its idle state,
once the timer has run out. The timer serves other states in between with other delays.
Two attempts are a full delay apart all the same, when every way back to the idle state
sets the timer anew.
-/

namespace PubSub
set_option autoImplicit false

universe u v
variable {σ : Type u} {ε : Type v}

/-- `resets` are the steps that begin another life of the worker, with its timer run out. -/
structure RetryTimer (step : σ → ε → σ) (attempts resets : σ → ε → Prop) where
  delay : Nat
  clock : σ → Nat
  timer : σ → Nat
  idle : σ → Prop
  clock_le : ∀ s e, clock s ≤ clock (step s e)
  attempt_due : ∀ {s e}, attempts s e → idle s ∧ timer s ≤ clock (step s e)
  attempt_armed : ∀ {s e}, attempts s e → idle (step s e) →
    clock (step s e) + delay ≤ timer (step s e)
  idle_armed : ∀ {s e}, ¬ resets s e → idle (step s e) →
    idle s ∧ timer s ≤ timer (step s e) ∨ clock (step s e) + delay ≤ timer (step s e)

namespace RetryTimer
variable {step : σ → ε → σ} {attempts resets : σ → ε → Prop}

/-- The worker makes no attempt before a delay has passed since `t`. -/
def Held (r : RetryTimer step attempts resets) (t : Nat) (s : σ) : Prop :=
  t ≤ r.clock s ∧ (r.idle s → t + r.delay ≤ r.timer s)

theorem held_attempt (r : RetryTimer step attempts resets) {s : σ} {e : ε}
    (h : attempts s e) : r.Held (r.clock (step s e)) (step s e) :=
  ⟨Nat.le_refl _, r.attempt_armed h⟩

theorem held_step (r : RetryTimer step attempts resets) {t : Nat} (s : σ) (e : ε)
    (hs : r.Held t s) (hkept : ¬ resets s e) : r.Held t (step s e) := by
  have hclock : t ≤ r.clock (step s e) := Nat.le_trans hs.1 (r.clock_le s e)
  refine ⟨hclock, fun hidle => ?_⟩
  rcases r.idle_armed hkept hidle with ⟨hbefore, htimer⟩ | harmed
  · exact Nat.le_trans (hs.2 hbefore) htimer
  · exact Nat.le_trans (Nat.add_le_add_right hclock r.delay) harmed

theorem attempts_apart (r : RetryTimer step attempts resets) {s : σ} {first second : ε}
    {between : List ε} (hfirst : attempts s first)
    (hlife : RunOk step (fun s e => ¬ resets s e) (step s first) between)
    (hsecond : attempts (run step (step s first) between) second) :
    r.clock (step s first) + r.delay ≤
      r.clock (step (run step (step s first) between) second) := by
  have hheld := run_invariant r.held_step (r.held_attempt hfirst) hlife
  obtain ⟨hidle, hdue⟩ := r.attempt_due hsecond
  exact Nat.le_trans (hheld.2 hidle) hdue

end RetryTimer
end PubSub
