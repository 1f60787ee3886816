import PubSub.OnlineConnected
import PubSub.Shared.Ranking

/-!
# Stop ends the workers

The join in `Stop` waits for a worker that polls for the end of its disconnect. Whatever the
broker and the application do meanwhile, the worker has left its task after a fixed number of
its own moves.
-/

namespace PubSub
set_option autoImplicit false

universe u v

namespace Phase

/-- The moves of a worker that was told to stop; it polls at most `limit` times. -/
inductive Ends (limit : Nat) : Phase → Phase → Prop
  | entered : Ends limit .entry .check
  | turned : Ends limit .body .check
  | drains : Ends limit .check (.draining 0)
  | leaves : Ends limit .check .exited
  | polls {n : Nat} : n < limit → Ends limit (.draining n) (.draining (n + 1))
  | drained {n : Nat} : Ends limit (.draining n) .exited

/-- The number of moves that a worker may still make. -/
def movesLeft (limit : Nat) : Phase → Nat
  | .entry | .body => limit + 3
  | .check => limit + 2
  | .draining n => limit - n + 1
  | .exited | .joined => 0

theorem movesLeft_le (limit : Nat) (p : Phase) : p.movesLeft limit ≤ limit + 3 := by
  unfold movesLeft
  split <;> omega

theorem movesLeft_eq_zero {limit : Nat} {p : Phase} :
    p.movesLeft limit = 0 ↔ p.isRunning = false := by
  cases p <;> simp [movesLeft, isRunning]

theorem Ends.falls {limit : Nat} {p q : Phase} (h : Ends limit p q) :
    q.movesLeft limit < p.movesLeft limit := by
  cases h with
  | polls hn =>
    simp only [movesLeft]
    omega
  | _ => simp [movesLeft]

end Phase

/-- What a worker that was told to stop does: its moves lead to the end, and no other event
stirs it. -/
structure Stopping {σ : Type u} {ε : Type v} (step : σ → ε → σ) (isWork : ε → Bool)
    (phase : σ → Phase) (stop : σ → Bool) (limit : Nat) : Prop where
  moves : ∀ s e, stop s = true → (phase s).isRunning = true → isWork e = true →
    (phase s).Ends limit (phase (step s e)) ∧ stop (step s e) = true
  rests : ∀ s e, stop s = true → (phase s).isRunning = true → isWork e = false →
    phase (step s e) = phase s ∧ stop (step s e) = true

namespace Stopping
variable {σ : Type u} {ε : Type v} {step : σ → ε → σ} {isWork : ε → Bool} {phase : σ → Phase}
  {stop : σ → Bool} {limit : Nat}

theorem ranked (h : Stopping step isWork phase stop limit) :
    Ranked step isWork (fun s => stop s = true) fun s => (phase s).movesLeft limit := by
  have hrunning : ∀ {s}, 0 < (phase s).movesLeft limit → (phase s).isRunning = true := by
    intro s hpos
    by_contra hended
    rw [Phase.movesLeft_eq_zero.mpr (Bool.not_eq_true _ ▸ hended)] at hpos
    exact Nat.lt_irrefl 0 hpos
  constructor
  · intro s e hstop hpos
    cases hwork : isWork e with
    | true => exact (h.moves s e hstop (hrunning hpos) hwork).2
    | false => exact (h.rests s e hstop (hrunning hpos) hwork).2
  · intro s e hstop hpos hwork
    exact (h.moves s e hstop (hrunning hpos) hwork).1.falls
  · intro s e hstop hpos hwork
    rw [(h.rests s e hstop (hrunning hpos) hwork).1]

/-- The worker has left its task after `limit + 3` moves, whatever happens between them. -/
theorem ends (h : Stopping step isWork phase stop limit) {s : σ} {es : List ε}
    (hstop : stop s = true) (hmoves : limit + 3 ≤ es.countP isWork) :
    ∃ pre post, es = pre ++ post ∧ stop (run step s pre) = true ∧
      (phase (run step s pre)).isRunning = false := by
  have hrank := Nat.le_trans ((phase s).movesLeft_le limit) hmoves
  obtain ⟨pre, post, hsplit, hkept, hzero⟩ := h.ranked.reaches_zero hstop hrank
  exact ⟨pre, post, hsplit, hkept, Phase.movesLeft_eq_zero.mp hzero⟩

end Stopping

def NodeEvent.isWork {P : Platform} : NodeEvent P → Bool
  | .work _ _ => true
  | _ => false

def HostEvent.isWork : HostEvent → Bool
  | .work _ _ => true
  | _ => false

def ClientEvent.isWork : ClientEvent → Bool
  | .work _ _ _ => true
  | _ => false

namespace NodeSys
variable {P : Platform}

theorem ends_leaveLoop (io : Outcomes) (s : NodeSys P) :
    ((s.leaveLoop io).phase = .draining 0 ∨ (s.leaveLoop io).phase = .exited) ∧
      (s.leaveLoop io).stopNodeTask = s.stopNodeTask := by
  unfold leaveLoop
  split
  · refine ⟨.inl rfl, ?_⟩
    dsimp only
    split
    · rcases s.sendDisconnect_cases io with ⟨_, h⟩ | h <;> rw [h]
    · rfl
  · exact ⟨.inr rfl, rfl⟩

theorem stateStep_stop (io : Outcomes) (s : NodeSys P) :
    (s.stateStep io).stopNodeTask = s.stopNodeTask := by
  unfold stateStep
  split
  · rcases doIdle_cases io s with ⟨n, timer, handle, _, _, hs⟩ | ⟨_, hs⟩
    · rw [hs]
      rfl
    · rw [hs]
      rfl
  · rcases doWaitOnConnect_cases s with ⟨_, hs | hs⟩ | ⟨_, hs⟩
    · rw [hs]
    · rw [hs]
    · rw [hs]
      rfl
  · unfold doOnline
    split
    · change (s.pollDevices.publishNodeDeath.sendDisconnect io).stopNodeTask = _
      rcases s.pollDevices.publishNodeDeath.sendDisconnect_cases io with ⟨_, h⟩ | h
      · rw [h]
        rfl
      · rw [h]
        rfl
    · rfl
  · unfold doWaitOnDisconnect
    split <;> rfl

theorem ends_work {s : NodeSys P} (hstop : s.stopNodeTask = true)
    (hrunning : s.phase.isRunning = true) (io : Outcomes) :
    s.phase.Ends 500 (s.work io).phase ∧ (s.work io).stopNodeTask = true := by
  cases hphase : s.phase with
  | entry =>
    rw [work_entry io hphase]
    exact ⟨.entered, hstop⟩
  | check =>
    rw [work_check io hphase, if_pos hstop]
    obtain ⟨hnext, hsame⟩ := s.ends_leaveLoop io
    refine ⟨?_, hsame.trans hstop⟩
    rcases hnext with hnext | hnext
    · rw [hnext]
      exact .drains
    · rw [hnext]
      exact .leaves
  | body =>
    rw [work_body io hphase]
    exact ⟨.turned, (s.stateStep_stop io).trans hstop⟩
  | draining n =>
    rw [work_draining io hphase]
    split
    · rename_i hwait
      exact ⟨.polls (of_decide_eq_true (Bool.and_eq_true_iff.mp hwait).2), hstop⟩
    · exact ⟨.drained, hstop⟩
  | exited | joined =>
    rw [hphase] at hrunning
    cases hrunning

theorem stopping : Stopping (step (P := P)) NodeEvent.isWork (·.phase) (·.stopNodeTask) 500 where
  moves := by
    intro s e hstop hrunning hwork
    cases e with
    | work elapsed io => exact ends_work (s := s.tick elapsed) hstop hrunning io
    | _ => cases hwork
  rests := by
    intro s e hstop hrunning hwork
    cases e with
    | work _ _ => cases hwork
    | start =>
      -- a start does nothing while the worker runs
      have hsame : s.step .start = s := if_pos hrunning
      rw [hsame]
      exact ⟨rfl, hstop⟩
    | stop => exact ⟨rfl, rfl⟩
    | stopReturns =>
      have hsame : s.step .stopReturns = s := by
        change s.stopReturns = s
        unfold stopReturns
        rw [hrunning, Bool.not_true, Bool.and_false, if_neg Bool.false_ne_true]
      rw [hsame]
      exact ⟨rfl, hstop⟩
    | _ =>
      exact (fun h => ⟨SameControl.phase h, h.stopNodeTask.trans hstop⟩) (quiet_control rfl)

/-- The end of `Stop`, once the worker has left its task. -/
theorem stopReturns_joined {s : NodeSys P} (hstop : s.stopNodeTask = true)
    (hended : s.phase.isRunning = false) :
    s.stopReturns.phase = .joined ∧ s.stopReturns.handle = none := by
  unfold stopReturns
  rw [hstop, hended, Bool.not_false, Bool.and_true, if_pos rfl]
  exact ⟨rfl, rfl⟩

end NodeSys

namespace HostSys
variable {P : Platform}

theorem sendDisconnect_stop (io : Outcomes) (s : HostSys P) :
    (s.sendDisconnect io).stopWorkTask = s.stopWorkTask ∧
      (s.sendDisconnect io).phase = s.phase := by
  rcases s.sendDisconnect_cases io with ⟨_, h⟩ | h <;> rw [h] <;> exact ⟨rfl, rfl⟩

theorem ends_leaveLoop (io : Outcomes) (s : HostSys P) :
    ((s.leaveLoop io).phase = .draining 0 ∨ (s.leaveLoop io).phase = .exited) ∧
      (s.leaveLoop io).stopWorkTask = s.stopWorkTask := by
  unfold leaveLoop
  split
  · refine ⟨.inl rfl, ?_⟩
    dsimp only
    split
    · exact (s.sendDisconnect_stop io).1
    · rfl
  · exact ⟨.inr rfl, rfl⟩

theorem sendConnect_stop (io : Outcomes) (s : HostSys P) :
    (sendConnect io s).1.stopWorkTask = s.stopWorkTask := by
  unfold sendConnect
  split
  · rfl
  · dsimp only
    split <;> rfl

theorem stateStep_stop (io : Outcomes) (s : HostSys P) :
    (s.stateStep io).stopWorkTask = s.stopWorkTask := by
  unfold stateStep
  split
  · unfold doIdle
    split
    · rfl
    · dsimp only
      split <;> exact sendConnect_stop io _
  · unfold doWaitOnConnect
    split
    · rfl
    · split
      · rfl
      · split
        · rfl
        · dsimp only
          split <;> rfl
  · unfold doOnline
    split
    · exact (sendDisconnect_stop io _).1
    · split <;> rfl
  · unfold doOffline
    split
    · exact (sendDisconnect_stop io _).1
    · split <;> rfl
  · unfold doWaitOnDisconnect
    split <;> rfl

theorem ends_work {s : HostSys P} (hstop : s.stopWorkTask = true)
    (hrunning : s.phase.isRunning = true) (io : Outcomes) :
    s.phase.Ends 1000 (s.work io).phase ∧ (s.work io).stopWorkTask = true := by
  cases hphase : s.phase with
  | entry =>
    rw [work_entry io hphase]
    exact ⟨.entered, hstop⟩
  | check =>
    rw [work_check io hphase, if_pos hstop]
    obtain ⟨hnext, hsame⟩ := s.ends_leaveLoop io
    refine ⟨?_, hsame.trans hstop⟩
    rcases hnext with hnext | hnext
    · rw [hnext]
      exact .drains
    · rw [hnext]
      exact .leaves
  | body =>
    rw [work_body io hphase]
    exact ⟨.turned, (s.stateStep_stop io).trans hstop⟩
  | draining n =>
    rw [work_draining io hphase]
    split
    · rename_i hwait
      exact ⟨.polls (of_decide_eq_true (Bool.and_eq_true_iff.mp hwait).2), hstop⟩
    · exact ⟨.drained, hstop⟩
  | exited | joined =>
    rw [hphase] at hrunning
    cases hrunning

theorem stopping : Stopping (step (P := P)) HostEvent.isWork (·.phase) (·.stopWorkTask) 1000 where
  moves := by
    intro s e hstop hrunning hwork
    cases e with
    | work elapsed io => exact ends_work (s := s.tick elapsed) hstop hrunning io
    | _ => cases hwork
  rests := by
    intro s e hstop hrunning hwork
    cases e with
    | work _ _ => cases hwork
    | start io =>
      -- a start does nothing while the worker runs
      have hsame : s.step (.start io) = s := if_pos hrunning
      rw [hsame]
      exact ⟨rfl, hstop⟩
    | stop => exact ⟨rfl, rfl⟩
    | stopReturns =>
      have hsame : s.step .stopReturns = s := by
        change s.stopReturns = s
        unfold stopReturns
        rw [hrunning, Bool.not_true, Bool.and_false, if_neg Bool.false_ne_true]
      rw [hsame]
      exact ⟨rfl, hstop⟩
    | _ =>
      exact (fun h => ⟨SameControl.phase h, h.stopWorkTask.trans hstop⟩) (quiet_control rfl)

/-- The end of `Stop`, once the worker has left its task. -/
theorem stopReturns_joined {s : HostSys P} (hstop : s.stopWorkTask = true)
    (hended : s.phase.isRunning = false) :
    s.stopReturns.phase = .joined ∧ s.stopReturns.handle = none := by
  unfold stopReturns
  rw [hstop, hended, Bool.not_false, Bool.and_true, if_pos rfl]
  exact ⟨rfl, rfl⟩

end HostSys

namespace ClientSys
variable {P : Platform}

theorem sendDisconnect_stop (io : Outcomes) (s : ClientSys P) :
    (s.sendDisconnect io).stopClientTask = s.stopClientTask := by
  unfold sendDisconnect
  dsimp only
  split <;> rfl

theorem ends_leaveLoop (io : Outcomes) (s : ClientSys P) :
    ((s.leaveLoop io).phase = .draining 0 ∨ (s.leaveLoop io).phase = .exited) ∧
      (s.leaveLoop io).stopClientTask = s.stopClientTask := by
  unfold leaveLoop
  split
  · refine ⟨.inl rfl, ?_⟩
    dsimp only
    split
    · exact s.sendDisconnect_stop io
    · rfl
  · exact ⟨.inr rfl, rfl⟩

theorem sendConnect_stop (io : Outcomes) (s : ClientSys P) :
    (sendConnect io s).1.stopClientTask = s.stopClientTask := by
  unfold sendConnect
  dsimp only
  split <;> rfl

theorem stateStep_stop (io : Outcomes) (sent : List Bool) (s : ClientSys P) :
    (s.stateStep io sent).stopClientTask = s.stopClientTask := by
  unfold stateStep
  split
  · unfold doIdle
    dsimp only
    split
    · rfl
    · split
      · rfl
      · split
        · rfl
        · rfl
        · split <;> exact sendConnect_stop io _
  · unfold doWaitOnConnect
    split
    · rfl
    · split <;> rfl
  · unfold doOnline
    split
    · exact s.sendDisconnect_stop io
    · rfl
  · unfold doWaitOnDisconnect
    split <;> rfl

theorem ends_work {s : ClientSys P} (hstop : s.stopClientTask = true)
    (hrunning : s.phase.isRunning = true) (io : Outcomes) (sent : List Bool) :
    s.phase.Ends 50 (s.work io sent).phase ∧ (s.work io sent).stopClientTask = true := by
  cases hphase : s.phase with
  | entry =>
    rw [work_entry io sent hphase]
    exact ⟨.entered, hstop⟩
  | check =>
    rw [work_check io sent hphase, if_pos hstop]
    obtain ⟨hnext, hsame⟩ := s.ends_leaveLoop io
    refine ⟨?_, hsame.trans hstop⟩
    rcases hnext with hnext | hnext
    · rw [hnext]
      exact .drains
    · rw [hnext]
      exact .leaves
  | body =>
    rw [work_body io sent hphase]
    exact ⟨.turned, (s.stateStep_stop io sent).trans hstop⟩
  | draining n =>
    rw [work_draining io sent hphase]
    split
    · rename_i hwait
      exact ⟨.polls (of_decide_eq_true (Bool.and_eq_true_iff.mp hwait).2), hstop⟩
    · exact ⟨.drained, hstop⟩
  | exited | joined =>
    rw [hphase] at hrunning
    cases hrunning

theorem stopping :
    Stopping (step (P := P)) ClientEvent.isWork (·.phase) (·.stopClientTask) 50 where
  moves := by
    intro s e hstop hrunning hwork
    cases e with
    | work elapsed io sent => exact ends_work (s := s.tick elapsed) hstop hrunning io sent
    | _ => cases hwork
  rests := by
    intro s e hstop hrunning hwork
    cases e with
    | work _ _ _ => cases hwork
    | start =>
      -- a start asks a running worker to stop
      have hsame : s.step .start = { s with stopClientTask := true } := if_pos hrunning
      rw [hsame]
      exact ⟨rfl, rfl⟩
    | stop => exact ⟨rfl, rfl⟩
    | stopReturns =>
      have hsame : s.step .stopReturns = s := by
        change s.stopReturns = s
        unfold stopReturns
        rw [hrunning, Bool.not_true, Bool.and_false, if_neg Bool.false_ne_true]
      rw [hsame]
      exact ⟨rfl, hstop⟩
    | _ =>
      exact (fun h => ⟨SameControl.phase h, h.stopClientTask.trans hstop⟩) (quiet_control rfl)

/-- The end of `Stop`, once the worker has left its task. -/
theorem stopReturns_joined {s : ClientSys P} (hstop : s.stopClientTask = true)
    (hended : s.phase.isRunning = false) :
    s.stopReturns.phase = .joined ∧ s.stopReturns.handle = none := by
  unfold stopReturns
  rw [hstop, hended, Bool.not_false, Bool.and_true, if_pos rfl]
  exact ⟨rfl, rfl⟩

end ClientSys

/-- `Stop` returns without a worker and without a connection handle: its join waits for at
most 503 moves of the worker of a node, 1003 of a host's and 53 of a plain client's, whatever
the broker, the library and the application do between them. -/
theorem stop_joins (P : Platform) :
    (∀ (s : NodeSys P) (es : List (NodeEvent P)), 503 ≤ es.countP NodeEvent.isWork →
      ∃ pre post, es = pre ++ post ∧
        (run NodeSys.step s (.stop :: pre ++ [.stopReturns])).phase = .joined ∧
        (run NodeSys.step s (.stop :: pre ++ [.stopReturns])).handle = none) ∧
    (∀ (s : HostSys P) (es : List HostEvent), 1003 ≤ es.countP HostEvent.isWork →
      ∃ pre post, es = pre ++ post ∧
        (run HostSys.step s (.stop :: pre ++ [.stopReturns])).phase = .joined ∧
        (run HostSys.step s (.stop :: pre ++ [.stopReturns])).handle = none) ∧
    ∀ (s : ClientSys P) (es : List ClientEvent), 53 ≤ es.countP ClientEvent.isWork →
      ∃ pre post, es = pre ++ post ∧
        (run ClientSys.step s (.stop :: pre ++ [.stopReturns])).phase = .joined ∧
        (run ClientSys.step s (.stop :: pre ++ [.stopReturns])).handle = none := by
  refine ⟨fun s es hmoves => ?_, fun s es hmoves => ?_, fun s es hmoves => ?_⟩
  · obtain ⟨pre, post, hsplit, hstop, hended⟩ :=
      NodeSys.stopping.ends (s := s.step .stop) rfl hmoves
    refine ⟨pre, post, hsplit, ?_⟩
    rw [run_append]
    exact NodeSys.stopReturns_joined hstop hended
  · obtain ⟨pre, post, hsplit, hstop, hended⟩ :=
      HostSys.stopping.ends (s := s.step .stop) rfl hmoves
    refine ⟨pre, post, hsplit, ?_⟩
    rw [run_append]
    exact HostSys.stopReturns_joined hstop hended
  · obtain ⟨pre, post, hsplit, hstop, hended⟩ :=
      ClientSys.stopping.ends (s := s.step .stop) rfl hmoves
    refine ⟨pre, post, hsplit, ?_⟩
    rw [run_append]
    exact ClientSys.stopReturns_joined hstop hended

open OnlineConnected in
/-- The three are stopped while they are online. -/
theorem online_stop_joins :
    (∃ pre post, List.replicate 503 (NodeEvent.work (P := .reference) 10 {}) = pre ++ post ∧
      (run NodeSys.step (run NodeSys.step (NodeSys.init 0 nodeSetup) nodeGoesOnline)
        (.stop :: pre ++ [.stopReturns])).phase = .joined ∧
      (run NodeSys.step (run NodeSys.step (NodeSys.init 0 nodeSetup) nodeGoesOnline)
        (.stop :: pre ++ [.stopReturns])).handle = none) ∧
    (∃ pre post, List.replicate 1003 (HostEvent.work 10 {}) = pre ++ post ∧
      (run HostSys.step (run HostSys.step
        (HostSys.init (P := .reference) none 0 [.name (str "H")]) hostGoesOnline)
        (.stop :: pre ++ [.stopReturns])).phase = .joined ∧
      (run HostSys.step (run HostSys.step
        (HostSys.init (P := .reference) none 0 [.name (str "H")]) hostGoesOnline)
        (.stop :: pre ++ [.stopReturns])).handle = none) ∧
    ∃ pre post, List.replicate 53 (ClientEvent.work 100 {} []) = pre ++ post ∧
      (run ClientSys.step (run ClientSys.step (ClientSys.init (P := .reference) {})
        clientGoesOnline) (.stop :: pre ++ [.stopReturns])).phase = .joined ∧
      (run ClientSys.step (run ClientSys.step (ClientSys.init (P := .reference) {})
        clientGoesOnline) (.stop :: pre ++ [.stopReturns])).handle = none := by
  have h := stop_joins .reference
  exact ⟨h.1 _ _ (by rw [List.countP_replicate]; rfl), h.2.1 _ _ (by rw [List.countP_replicate]; rfl),
    h.2.2 _ _ (by rw [List.countP_replicate]; rfl)⟩

end PubSub
