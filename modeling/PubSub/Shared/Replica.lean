import PubSub.Shared.Run
import Mathlib.Data.List.Forall2
import Mathlib.Data.List.Induction

/-!
# Replicas behind queues

An owner flags every change of its value. When it is told to, it puts the value into a queue
and lowers the flag, and a replica takes the values from the queue in their order. The replica
then shows the values of the owner in their order, and it shows the current one once the flag
is down and the queue is empty. What it shows before it has taken anything is its own.
-/

namespace PubSub
set_option autoImplicit false

universe u v w
variable {σ : Type u} {ε : Type v} {α : Type w}

/-- What the owner of a value and one replica of it look like. -/
structure Replica (σ : Type u) (α : Type w) where
  value : σ → α
  flag : σ → Bool
  queue : σ → List α
  shown : σ → α

namespace Replica

inductive Move (r : Replica σ α) (s t : σ) : Prop
  | change : r.queue t = r.queue s → r.shown t = r.shown s →
      r.flag t = true ∨ r.flag t = r.flag s ∧ r.value t = r.value s → Move r s t
  | tell : r.queue t = r.queue s ++ [r.value s] → r.shown t = r.shown s →
      r.value t = r.value s → Move r s t
  | take : r.queue s = r.shown t :: r.queue t → r.value t = r.value s →
      r.flag t = r.flag s → Move r s t

def told (r : Replica σ α) (s : σ) : α := (r.queue s).getLastD (r.shown s)

/-- A value that is not flagged has been told. -/
def Current (r : Replica σ α) (s : σ) : Prop := r.flag s = false → r.told s = r.value s

theorem Current.move {r : Replica σ α} {s t : σ} (h : r.Current s) (hmove : r.Move s t) :
    r.Current t := by
  intro hflag
  cases hmove with
  | change hqueue hshown hvalue =>
    rcases hvalue with hraised | ⟨hsame, hvalue⟩
    · exact absurd (hflag.symm.trans hraised) Bool.false_ne_true
    · rw [told, hqueue, hshown, hvalue]
      exact h (hsame.symm.trans hflag)
  | tell hqueue _ hvalue =>
    rw [told, hqueue, List.getLastD_eq_getLast?, List.getLast?_append]
    exact hvalue.symm
  | take hqueue hvalue hsame =>
    have htold := h (hsame.symm.trans hflag)
    rw [told, hqueue] at htold
    rw [hvalue, ← htold, List.getLastD_cons]
    rfl

variable {step : σ → ε → σ} {ok : σ → ε → Prop} {Inv : σ → Prop}

/-- What the replica began with, and then the owner's values after each number of events. -/
def history (r : Replica σ α) (step : σ → ε → σ) (s : σ) (es : List ε) : Nat → α
  | 0 => r.shown s
  | n + 1 => r.value (run step s (es.take n))

/-- The replica shows what it began with, and then the owner's values in their order: what it
shows after `i` events is at the place `seen i` of the history. -/
def SeesInOrder (r : Replica σ α) (step : σ → ε → σ) (s : σ) (es : List ε) : Prop :=
  ∃ seen : Nat → Nat, ∀ i ≤ es.length, seen i ≤ i + 1 ∧ (∀ j ≤ i, seen j ≤ seen i) ∧
    r.shown (run step s (es.take i)) = r.history step s es (seen i)

/-- The places in the history of the values that are in the queue. -/
structure Stamped (r : Replica σ α) (step : σ → ε → σ) (s : σ) (es : List ε)
    (seen : Nat → Nat) (stamps : List Nat) : Prop where
  shows : ∀ i ≤ es.length, seen i ≤ i + 1 ∧ (∀ j ≤ i, seen j ≤ seen i) ∧
    r.shown (run step s (es.take i)) = r.history step s es (seen i)
  queued : List.Forall₂ (fun v τ => τ ≤ es.length + 1 ∧ v = r.history step s es τ)
    (r.queue (run step s es)) stamps
  sorted : (seen es.length :: stamps).Pairwise (· ≤ ·)

variable {r : Replica σ α} {s : σ} {es : List ε} {seen : Nat → Nat} {stamps : List Nat}

theorem run_past {i : Nat} (hi : i ≤ es.length) (e : ε) :
    run step s ((es ++ [e]).take i) = run step s (es.take i) := by
  rw [List.take_append_of_le_length hi]

theorem history_past {τ : Nat} (hτ : τ ≤ es.length + 1) (e : ε) :
    r.history step s (es ++ [e]) τ = r.history step s es τ := by
  cases τ with
  | zero => rfl
  | succ n => exact congrArg r.value (run_past (Nat.le_of_succ_le_succ hτ) e)

theorem history_now (r : Replica σ α) (step : σ → ε → σ) (s : σ) (es : List ε) :
    r.history step s es (es.length + 1) = r.value (run step s es) := by
  change r.value (run step s (es.take es.length)) = _
  rw [List.take_length]

theorem Stamped.extend (h : Stamped r step s es seen stamps) {e : ε} {x : Nat}
    {after : List Nat} (hseen : seen es.length ≤ x) (hx : x ≤ es.length + 1)
    (hshown : r.shown (run step s (es ++ [e])) = r.history step s es x)
    (hqueue : List.Forall₂ (fun v τ => τ ≤ es.length + 1 ∧ v = r.history step s es τ)
      (r.queue (run step s (es ++ [e]))) after)
    (hsorted : (x :: after).Pairwise (· ≤ ·)) :
    ∃ seen, Stamped r step s (es ++ [e]) seen after := by
  have hlength : (es ++ [e]).length = es.length + 1 := List.length_append
  refine ⟨fun i => if i ≤ es.length then seen i else x, ?_, ?_, ?_⟩
  · intro i hi
    rw [hlength] at hi
    rcases Nat.lt_or_eq_of_le hi with hi | rfl
    · have hi : i ≤ es.length := Nat.le_of_lt_succ hi
      obtain ⟨hle, hmono, hshows⟩ := h.shows i hi
      rw [if_pos hi]
      refine ⟨hle, fun j hj => ?_, ?_⟩
      · rw [if_pos (Nat.le_trans hj hi)]
        exact hmono j hj
      · rw [run_past hi, history_past (Nat.le_trans hle (Nat.succ_le_succ hi)), hshows]
    · have hlast : ¬ es.length + 1 ≤ es.length := Nat.not_succ_le_self _
      rw [if_neg hlast]
      refine ⟨Nat.le_succ_of_le hx, fun j _ => ?_, ?_⟩
      · split
        · rename_i hj
          exact Nat.le_trans ((h.shows es.length (Nat.le_refl _)).2.1 j hj) hseen
        · exact Nat.le_refl _
      · rw [← hlength, List.take_length, history_past hx, hshown]
  · refine hqueue.imp fun v τ hv => ?_
    rw [hlength, history_past hv.1]
    exact ⟨Nat.le_succ_of_le hv.1, hv.2⟩
  · rw [hlength, if_neg (Nat.not_succ_le_self _)]
    exact hsorted

theorem Stamped.move (h : Stamped r step s es seen stamps) {e : ε}
    (hmove : r.Move (run step s es) (step (run step s es) e)) :
    ∃ seen stamps, Stamped r step s (es ++ [e]) seen stamps := by
  have hnow : run step s (es ++ [e]) = step (run step s es) e := by
    rw [run_append, run_cons, run_nil]
  obtain ⟨hle, -, hshows⟩ := h.shows es.length (Nat.le_refl _)
  rw [List.take_length] at hshows
  cases hmove with
  | change hqueue hshown _ =>
    obtain ⟨seen, hextended⟩ := h.extend (Nat.le_refl _) hle (by rw [hnow, hshown, hshows])
      (by rw [hnow, hqueue]; exact h.queued) h.sorted
    exact ⟨seen, stamps, hextended⟩
  | tell hqueue hshown hvalue =>
    -- the value that is told has the place of the turn
    have htold : List.Forall₂
        (fun v τ => τ ≤ es.length + 1 ∧ v = r.history step s es τ)
        (r.queue (run step s (es ++ [e]))) (stamps ++ [es.length + 1]) := by
      rw [hnow, hqueue]
      exact List.rel_append h.queued (.cons ⟨Nat.le_refl _, (history_now r step s es).symm⟩ .nil)
    have hbefore : ∀ τ ∈ stamps, τ ≤ es.length + 1 := by
      intro τ hτ
      obtain ⟨i, hi, rfl⟩ := List.getElem_of_mem hτ
      have hsame := h.queued.length_eq
      exact (h.queued.get (hsame ▸ hi) hi).1
    obtain ⟨seen, hextended⟩ := h.extend (Nat.le_refl _) hle (by rw [hnow, hshown, hshows]) htold
      (by
        rw [← List.cons_append, List.pairwise_append]
        refine ⟨h.sorted, List.pairwise_singleton _ _, ?_⟩
        intro τ hτ last hlast
        obtain rfl := List.mem_singleton.mp hlast
        rcases List.mem_cons.mp hτ with rfl | hτ
        · exact hle
        · exact hbefore τ hτ)
    exact ⟨seen, stamps ++ [es.length + 1], hextended⟩
  | take hqueue _ _ =>
    have hqueued := h.queued
    rw [hqueue] at hqueued
    obtain ⟨τ, rest, ⟨hτ, hvalue⟩, hrest, rfl⟩ := List.forall₂_cons_left_iff.mp hqueued
    have hsorted := List.pairwise_cons.mp h.sorted
    obtain ⟨seen, hextended⟩ := h.extend (hsorted.1 τ List.mem_cons_self) hτ
      (by rw [hnow, hvalue]) (by rw [hnow]; exact hrest) hsorted.2
    exact ⟨seen, rest, hextended⟩

structure Follows (r : Replica σ α) (step : σ → ε → σ) (Inv : σ → Prop) (ok : σ → ε → Prop) :
    Prop where
  kept : ∀ s e, Inv s → ok s e → Inv (step s e)
  moves : ∀ s e, Inv s → ok s e → r.Move s (step s e)

/-- Nothing has been told yet, and a value that the replica does not show is flagged. -/
structure Fresh (r : Replica σ α) (s : σ) : Prop where
  queue : r.queue s = []
  shown : r.flag s = false → r.shown s = r.value s

theorem Follows.seesInOrder (h : r.Follows step Inv ok) (hs : Inv s) (hfresh : r.Fresh s)
    (hok : RunOk step ok s es) : r.SeesInOrder step s es := by
  have hstamped : ∃ seen stamps, Stamped r step s es seen stamps := by
    induction es using List.reverseRecOn with
    | nil =>
      refine ⟨fun _ => 0, [], ?_, ?_, List.pairwise_singleton _ _⟩
      · intro i hi
        obtain rfl := Nat.le_zero.mp hi
        exact ⟨Nat.zero_le _, fun _ _ => Nat.le_refl _, rfl⟩
      · rw [run_nil, hfresh.queue]
        exact .nil
    | append_singleton es e ih =>
      obtain ⟨hbefore, hlast, -⟩ := runOk_append.mp hok
      obtain ⟨seen, stamps, hstamped⟩ := ih hbefore
      exact hstamped.move (h.moves _ e (run_invariant h.kept hs hbefore) hlast)
  obtain ⟨seen, _, hstamped⟩ := hstamped
  exact ⟨seen, hstamped.shows⟩

theorem Follows.current (h : r.Follows step Inv ok) (hs : Inv s) (hfresh : r.Fresh s)
    (hok : RunOk step ok s es) : r.Current (run step s es) := by
  have hstart : r.Current s := by
    intro hflag
    rw [told, hfresh.queue]
    exact hfresh.shown hflag
  have hboth : ∀ s e, Inv s ∧ r.Current s → ok s e → Inv (step s e) ∧ r.Current (step s e) :=
    fun s e hs hok => ⟨h.kept s e hs.1 hok, hs.2.move (h.moves s e hs.1 hok)⟩
  exact (run_invariant hboth ⟨hs, hstart⟩ hok).2

/-- Once everything is told and taken, the replica shows the owner's value. -/
theorem Follows.converges (h : r.Follows step Inv ok) (hs : Inv s) (hfresh : r.Fresh s)
    (hok : RunOk step ok s es) (hflag : r.flag (run step s es) = false)
    (hqueue : r.queue (run step s es) = []) :
    r.shown (run step s es) = r.value (run step s es) := by
  have htold := h.current hs hfresh hok hflag
  rw [told, hqueue] at htold
  exact htold

end Replica
end PubSub
