import PubSub.Shared.Run

/-!
# Workers that may lose their connection

A worker thread takes its steps while its connection may be lost between any two of
them. A run remembers an unanswered loss, and an invariant of such runs gives that the
worker is not online after the step that follows the loss, nor once it was stopped.
-/

namespace PubSub
set_option autoImplicit false

universe u v

/-- A worker as far as the connection is concerned. `stays` tells that the next state
function keeps the client online, or puts it online, without a look at the link. -/
structure Worker (σ : Type u) (ε : Type v) where
  step : σ → ε → σ
  isOnline : σ → Bool
  isConnected : σ → Bool
  isLoss : ε → Bool
  stateStep : σ → ε → Bool
  loopEnds : σ → ε → Bool
  stopReturned : σ → Bool
  stays : σ → Bool

namespace Worker
variable {σ : Type u} {ε : Type v} (W : Worker σ ε)

/-- The flag is up from a loss of the connection to the next worker step. -/
def track (t : σ × Bool) (e : ε) : σ × Bool :=
  (W.step t.1 e,
    if W.stateStep t.1 e then false else t.2 || (W.isLoss e && W.isConnected t.1))

def OnlineMeansConnected (s : σ) (es : List ε) : Prop :=
  (∀ pre post, es = pre ++ post →
    W.stopReturned (run W.track (s, false) pre).1 = true →
      W.isOnline (run W.track (s, false) pre).1 = false) ∧
  (∀ pre e post, es = pre ++ e :: post →
    (run W.track (s, false) pre).2 = true →
    W.stateStep (run W.track (s, false) pre).1 e = true →
      W.isOnline (W.step (run W.track (s, false) pre).1 e) = false)

/-- The condition on one event: a worker step after a loss leaves the online state for
another reason, and the loop does not end in that state. -/
def Leaves (t : σ × Bool) (e : ε) : Prop :=
  (t.2 = true → W.stateStep t.1 e = true → W.stays t.1 = false) ∧
    (W.loopEnds t.1 e = true → W.isOnline t.1 = false)

instance (t : σ × Bool) (e : ε) : Decidable (W.Leaves t e) :=
  inferInstanceAs (Decidable (_ ∧ _))

variable {W}

/-- What a worker has to satisfy: between two worker steps a lost link stays down, the
client is not online outside its loop unless the loop ended so, and a worker step
without a link leaves the online state unless it stays. -/
structure Laws (W : Worker σ ε) (Down Inside : σ → Prop) : Prop where
  step_down : ∀ {s e}, W.stateStep s e = false → Down s → Down (W.step s e)
  loss_down : ∀ {s e}, W.isLoss e = true → W.isConnected s = true → Down (W.step s e)
  step_outside : ∀ {s e}, (¬ Inside s → W.isOnline s = false) →
    (W.loopEnds s e = true → W.isOnline s = false) →
    ¬ Inside (W.step s e) → W.isOnline (W.step s e) = false
  stopped_outside : ∀ {s}, W.stopReturned s = true → ¬ Inside s
  reacts : ∀ {s e}, Down s → W.stateStep s e = true → W.stays s = false →
    W.isOnline (W.step s e) = false

/-- The invariant of tracked runs. -/
structure Apart (W : Worker σ ε) (Down Inside : σ → Prop) (t : σ × Bool) : Prop where
  down : t.2 = true → Down t.1
  outside : ¬ Inside t.1 → W.isOnline t.1 = false

variable {Down Inside : σ → Prop}

theorem Laws.preserved (laws : W.Laws Down Inside) (t : σ × Bool) (e : ε)
    (ht : W.Apart Down Inside t) (hok : W.Leaves t e) : W.Apart Down Inside (W.track t e) := by
  constructor
  · intro hlost
    simp only [track] at hlost ⊢
    split at hlost
    · cases hlost
    · rename_i hstep
      have hstep' : W.stateStep t.1 e = false := by simpa using hstep
      rcases Bool.or_eq_true_iff.mp hlost with hlost | hloss
      · exact laws.step_down hstep' (ht.down hlost)
      · obtain ⟨hloss, hconn⟩ := Bool.and_eq_true_iff.mp hloss
        exact laws.loss_down hloss hconn
  · exact laws.step_outside ht.outside hok.2

theorem Laws.onlineMeansConnected (laws : W.Laws Down Inside) {s : σ} {es : List ε}
    (hs : ¬ Inside s → W.isOnline s = false) (hok : RunOk W.track W.Leaves (s, false) es) :
    W.OnlineMeansConnected s es := by
  have hinit : W.Apart Down Inside (s, false) := by
    refine ⟨?_, hs⟩
    intro h
    cases h
  constructor
  · rintro pre post rfl hstop
    have hinv := run_invariant laws.preserved hinit (runOk_append.mp hok).1
    exact hinv.outside (laws.stopped_outside hstop)
  · rintro pre e post rfl hlost hstep
    have hinv := run_invariant laws.preserved hinit (runOk_append.mp hok).1
    exact laws.reacts (hinv.down hlost) hstep (hok.at.1 hlost hstep)

end Worker

end PubSub
