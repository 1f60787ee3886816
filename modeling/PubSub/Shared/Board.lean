import PubSub.Shared.Run

/-!
# A notice board

A board keeps the last notice. A reader that begins to listen is sent the notice that hangs
there, and from then on every new one, in order. Readers come and go, and notices are slow, but
a reader that listens and has nothing on its way knows the notice that hangs there.
-/

namespace PubSub
set_option autoImplicit false

universe u v w
variable {σ : Type u} {ε : Type v} {β : Type w}

/-- What a board and one reader look like. The reader knows `unknown` as long as it has not
read anything. -/
structure Board (σ : Type u) (β : Type w) where
  unknown : β
  posted : σ → Option β
  listens : σ → Bool
  queue : σ → List β
  known : σ → β

namespace Board

inductive Move (b : Board σ β) (s t : σ) : Prop
  | post (notices : List β) : b.posted t = notices.getLast?.or (b.posted s) →
      b.listens t = b.listens s →
      b.queue t = (if b.listens s then b.queue s ++ notices else []) →
      b.known t = b.known s → Move b s t
  | join : b.posted t = b.posted s → b.listens t = true →
      b.queue t = (b.posted s).toList → b.known t = b.known s → Move b s t
  | leave : b.posted t = b.posted s → b.listens t = false → b.queue t = [] →
      b.known t = b.known s → Move b s t
  | pass : b.posted t = b.posted s → b.listens t = b.listens s → b.queue t = b.queue s →
      b.known t = b.known s → Move b s t
  | read : b.posted t = b.posted s → b.listens t = b.listens s →
      b.queue s = b.known t :: b.queue t → Move b s t

def told (b : Board σ β) (s : σ) : β := (b.queue s).getLastD (b.known s)

/-- A reader that listens is told the last notice, and before the first one nobody knows
anything. -/
structure Informed (b : Board σ β) (s : σ) : Prop where
  told : b.listens s = true → b.told s = (b.posted s).getD b.unknown
  absent : b.listens s = false → b.queue s = []
  silent : b.posted s = none → b.queue s = [] ∧ b.known s = b.unknown

theorem Informed.move {b : Board σ β} {s t : σ} (h : b.Informed s) (hmove : b.Move s t) :
    b.Informed t := by
  cases hmove with
  | post notices hposted hlistens hqueue hknown =>
    refine ⟨fun hl => ?_, fun hl => ?_, fun hnone => ?_⟩
    · rw [hlistens] at hl
      have hbefore := h.told hl
      rw [hl, if_pos rfl] at hqueue
      unfold Board.told at hbefore ⊢
      rw [hqueue, hknown, hposted, List.getLastD_eq_getLast?, List.getLast?_append]
      cases hlast : notices.getLast? with
      | none =>
        rw [Option.none_or, Option.none_or, ← List.getLastD_eq_getLast?]
        exact hbefore
      | some notice => rfl
    · rw [hlistens] at hl
      rw [hqueue, hl]
      rfl
    · rw [hposted] at hnone
      obtain ⟨hlast, hbefore⟩ := Option.or_eq_none_iff.mp hnone
      obtain ⟨hempty, hunknown⟩ := h.silent hbefore
      rw [hqueue, hknown, List.getLast?_eq_none_iff.mp hlast, hempty]
      exact ⟨ite_self _, hunknown⟩
  | join hposted hlistens hqueue hknown =>
    refine ⟨fun _ => ?_, fun hl => ?_, fun hnone => ?_⟩
    · unfold Board.told
      rw [hqueue, hknown, hposted]
      cases hnotice : b.posted s with
      | none => exact (h.silent hnotice).2
      | some notice => rfl
    · exact absurd (hl.symm.trans hlistens) Bool.false_ne_true
    · rw [hposted] at hnone
      rw [hqueue, hknown, hnone]
      exact ⟨rfl, (h.silent hnone).2⟩
  | leave hposted hlistens hqueue hknown =>
    refine ⟨fun hl => ?_, fun _ => hqueue, fun hnone => ⟨hqueue, ?_⟩⟩
    · exact absurd (hlistens.symm.trans hl) Bool.false_ne_true
    · rw [hposted] at hnone
      rw [hknown]
      exact (h.silent hnone).2
  | pass hposted hlistens hqueue hknown =>
    refine ⟨fun hl => ?_, fun hl => ?_, fun hnone => ?_⟩
    · have hbefore := h.told (hlistens ▸ hl)
      unfold Board.told at hbefore ⊢
      rw [hqueue, hknown, hposted]
      exact hbefore
    · exact hqueue.trans (h.absent (hlistens ▸ hl))
    · rw [hposted] at hnone
      rw [hqueue, hknown]
      exact h.silent hnone
  | read hposted hlistens hqueue =>
    refine ⟨fun hl => ?_, fun hl => ?_, fun hnone => ?_⟩
    · have hbefore := h.told (hlistens ▸ hl)
      unfold Board.told at hbefore ⊢
      rw [hqueue, List.getLastD_cons] at hbefore
      rw [hposted]
      exact hbefore
    · rw [hlistens] at hl
      rw [h.absent hl] at hqueue
      cases hqueue
    · rw [hposted] at hnone
      rw [(h.silent hnone).1] at hqueue
      cases hqueue

/-- A reader that has read everything knows the notice that hangs there. -/
theorem Informed.knows {b : Board σ β} {s : σ} (h : b.Informed s) (hlistens : b.listens s = true)
    (hqueue : b.queue s = []) : b.known s = (b.posted s).getD b.unknown := by
  have htold := h.told hlistens
  unfold Board.told at htold
  rw [hqueue] at htold
  exact htold

theorem informed_run {b : Board σ β} {step : σ → ε → σ} {ok : σ → ε → Prop} {Inv : σ → Prop}
    (kept : ∀ s e, Inv s → ok s e → Inv (step s e))
    (moves : ∀ s e, Inv s → ok s e → b.Move s (step s e)) {s : σ} {es : List ε} (hs : Inv s)
    (hinformed : b.Informed s) (hok : RunOk step ok s es) : b.Informed (run step s es) := by
  have hstep : ∀ s e, Inv s ∧ b.Informed s → ok s e → Inv (step s e) ∧ b.Informed (step s e) :=
    fun s e h he => ⟨kept s e h.1 he, h.2.move (moves s e h.1 he)⟩
  exact (run_invariant hstep ⟨hs, hinformed⟩ hok).2

end Board
end PubSub
