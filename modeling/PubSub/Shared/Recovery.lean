import PubSub.Shared.Run

/-!
# Recovery and traps

A state recovers if some run of the events that count leads from it to the goal. A trap is kept
by all of these events and has no goal state in it, so nothing in a trap recovers.
-/

namespace PubSub
set_option autoImplicit false

universe u v
variable {σ : Type u} {ε : Type v} {step : σ → ε → σ} {counts : ε → Prop} {goal : σ → Prop}

/-- Some run of events that count ends in the goal. -/
def Recovers (step : σ → ε → σ) (counts : ε → Prop) (goal : σ → Prop) (s : σ) : Prop :=
  ∃ es, (∀ e ∈ es, counts e) ∧ goal (run step s es)

theorem Recovers.here {s : σ} (h : goal s) : Recovers step counts goal s :=
  ⟨[], fun _ he => absurd he List.not_mem_nil, h⟩

theorem Recovers.after {s : σ} (e : ε) (he : counts e)
    (h : Recovers step counts goal (step s e)) : Recovers step counts goal s := by
  obtain ⟨es, hes, hgoal⟩ := h
  refine ⟨e :: es, fun d hd => ?_, hgoal⟩
  rcases List.mem_cons.mp hd with rfl | hd
  · exact he
  · exact hes d hd

/-- No event that counts leads out of the trap, and the goal is outside. -/
structure IsTrap (step : σ → ε → σ) (counts : ε → Prop) (goal trap : σ → Prop) : Prop where
  kept : ∀ s e, trap s → counts e → trap (step s e)
  apart : ∀ s, trap s → ¬ goal s

theorem IsTrap.not_recovers {trap : σ → Prop} (h : IsTrap step counts goal trap) {s : σ}
    (hs : trap s) : ¬ Recovers step counts goal s := by
  rintro ⟨es, hes, hgoal⟩
  refine h.apart _ ?_ hgoal
  clear hgoal
  induction es generalizing s with
  | nil => exact hs
  | cons e es ih =>
    have hnext := h.kept s e hs (hes e List.mem_cons_self)
    exact ih hnext fun d hd => hes d (List.mem_cons_of_mem e hd)

/-- What recovers unless it is trapped recovers exactly if it is not. -/
theorem IsTrap.recovers_iff {trap : σ → Prop} (h : IsTrap step counts goal trap) {s : σ}
    (hs : ¬ trap s → Recovers step counts goal s) : Recovers step counts goal s ↔ ¬ trap s :=
  ⟨fun hrecovers htrap => h.not_recovers htrap hrecovers, hs⟩

end PubSub
