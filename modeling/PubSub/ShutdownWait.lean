import PubSub.OnlineConnected

/-!
# The wait for the disconnect at the end of a worker

Behind its loop a worker that has a connection waits for its disconnect. The workers of a
node and of a host poll the delivered flag. The worker of a plain client polls the lost
flag, which the send of the disconnect has just reset.
-/

namespace PubSub
set_option autoImplicit false

universe u v

/-- What the end of a worker looks at. `pollsOn` is the flag of the wait loop, and `limit`
the full number of its polls. -/
structure ExitWait (σ : Type u) (ε : Type v) where
  step : σ → ε → σ
  isWork : ε → Bool
  loopEnds : σ → ε → Bool
  phase : σ → Phase
  isIdle : σ → Bool
  handle : σ → Option MqttHandle
  delivered : σ → Bool
  pollsOn : σ → Bool
  limit : Nat

namespace ExitWait
variable {σ : Type u} {ε : Type v}

def isWaiting (w : ExitWait σ ε) (s : σ) : Prop := ∃ polls, w.phase s = .draining polls

/-- A worker with a connection goes into the wait, unless the disconnect has been reported
before, and the wait and its handle last until it has been reported or all polls have been
made. -/
structure Waits (w : ExitWait σ ε) (s : σ) (e : ε) : Prop where
  enters : w.loopEnds s e = true → Mqtt.isConnected (w.handle s) = true →
    w.isWaiting (w.step s e) ∨ w.delivered s = true
  lasts : ∀ polls, w.phase s = .draining polls →
    w.isWaiting (w.step s e) ∧ (w.handle (w.step s e)).isSome = (w.handle s).isSome ∨
      w.delivered s = true ∨ w.limit ≤ polls

def WaitsInRun (w : ExitWait σ ε) (s : σ) (es : List ε) : Prop :=
  ∀ pre e post, es = pre ++ e :: post → w.Waits (run w.step s pre) e

/-- The loop does not end in the idle state with a connection whose disconnect has not been
reported. -/
def ExitsBusy (w : ExitWait σ ε) (s : σ) (e : ε) : Prop :=
  w.loopEnds s e = true → Mqtt.isConnected (w.handle s) = true →
    w.isIdle s = false ∨ w.delivered s = true

/-- A poll that is not the last one finds the flag of the loop up, or the disconnect
reported. -/
def PollsInTime (w : ExitWait σ ε) (s : σ) (e : ε) : Prop :=
  w.isWork e = true → ∀ polls, w.phase s = .draining polls → polls < w.limit →
    w.pollsOn s = true ∨ w.delivered s = true

/-- How the three workers end. -/
structure Laws (w : ExitWait σ ε) : Prop where
  quiet_ends : ∀ {s e}, w.isWork e = false → w.loopEnds s e = false
  quiet_wait : ∀ {s e polls}, w.isWork e = false → w.phase s = .draining polls →
    w.phase (w.step s e) = .draining polls ∧
      (w.handle (w.step s e)).isSome = (w.handle s).isSome
  leaves : ∀ {s e}, w.loopEnds s e = true → Mqtt.isConnected (w.handle s) = true →
    (w.isWaiting (w.step s e) ↔ w.isIdle s = false)
  polls : ∀ {s e polls}, w.isWork e = true → w.phase s = .draining polls →
    (w.isWaiting (w.step s e) ∧ (w.handle (w.step s e)).isSome = (w.handle s).isSome ↔
      w.pollsOn s = true ∧ polls < w.limit)

theorem Laws.waits_iff {w : ExitWait σ ε} (laws : w.Laws) (s : σ) (e : ε) :
    w.Waits s e ↔ w.ExitsBusy s e ∧ w.PollsInTime s e := by
  constructor
  · intro h
    refine ⟨fun hends hconnected => ?_, fun hwork polls hphase hlimit => ?_⟩
    · exact (h.enters hends hconnected).imp_left (laws.leaves hends hconnected).mp
    · rcases h.lasts polls hphase with hwaiting | hdelivered | hlast
      · exact .inl ((laws.polls hwork hphase).mp hwaiting).1
      · exact .inr hdelivered
      · exact absurd hlimit (Nat.not_lt_of_le hlast)
  · rintro ⟨hbusy, htime⟩
    constructor
    · intro hends hconnected
      exact (hbusy hends hconnected).imp_left (laws.leaves hends hconnected).mpr
    · intro polls hphase
      cases hwork : w.isWork e with
      | false =>
        obtain ⟨hkept, hhandle⟩ := laws.quiet_wait hwork hphase
        exact .inl ⟨⟨polls, hkept⟩, hhandle⟩
      | true =>
        by_cases hlimit : polls < w.limit
        · rcases htime hwork polls hphase hlimit with hon | hdelivered
          · exact .inl ((laws.polls hwork hphase).mpr ⟨hon, hlimit⟩)
          · exact .inr (.inl hdelivered)
        · exact .inr (.inr (Nat.le_of_not_lt hlimit))

theorem Laws.waitsInRun_iff {w : ExitWait σ ε} (laws : w.Laws) (s : σ) (es : List ε) :
    w.WaitsInRun s es ↔ RunOk w.step (fun s e => w.ExitsBusy s e ∧ w.PollsInTime s e) s es := by
  rw [runOk_iff_forall]
  constructor
  · intro hrun pre e post hsplit
    exact (laws.waits_iff _ e).mp (hrun pre e post hsplit)
  · intro hok pre e post hsplit
    exact (laws.waits_iff _ e).mpr (hok pre e post hsplit)

/-- A loop that polls the delivered flag itself is always in time. -/
theorem pollsInTime_of_delivered {w : ExitWait σ ε} (h : ∀ s, w.pollsOn s = !w.delivered s)
    (s : σ) (e : ε) : w.PollsInTime s e := by
  intro _ polls _ _
  cases hdelivered : w.delivered s with
  | true => exact .inr rfl
  | false =>
    refine .inl ?_
    rw [h, hdelivered]
    rfl

theorem Laws.waitsInRun_delivered {w : ExitWait σ ε} (laws : w.Laws)
    (h : ∀ s, w.pollsOn s = !w.delivered s) (s : σ) (es : List ε) :
    w.WaitsInRun s es ↔ RunOk w.step w.ExitsBusy s es := by
  rw [laws.waitsInRun_iff, runOk_iff_forall, runOk_iff_forall]
  constructor
  · intro hrun pre e post hsplit
    exact (hrun pre e post hsplit).1
  · intro hrun pre e post hsplit
    exact ⟨hrun pre e post hsplit, pollsInTime_of_delivered h _ e⟩

end ExitWait

namespace NodeSys
variable {P : Platform}

def exitWait (P : Platform) : ExitWait (NodeSys P) (NodeEvent P) where
  step := step
  isWork e := match e with
    | .work _ _ => true
    | _ => false
  loopEnds := loopEnds
  phase := phase
  isIdle s := decide (s.nodeState = .idle)
  handle := handle
  delivered := delivered
  pollsOn s := !s.delivered
  limit := 500

theorem wait_kept {s : NodeSys P} {e : NodeEvent P} (h : (exitWait P).isWork e = false)
    {polls : Nat} (hphase : s.phase = .draining polls) :
    (s.step e).phase = .draining polls ∧ (s.step e).handle.isSome = s.handle.isSome := by
  have hrunning : s.phase.isRunning = true := by
    rw [hphase]
    rfl
  cases e with
  | work elapsed io => cases h
  | link event => exact ⟨hphase, Option.isSome_map⟩
  | connectionLost =>
    dsimp only [step]
    unfold connectionLost
    split
    · exact ⟨hphase, Option.isSome_map⟩
    · exact ⟨hphase, rfl⟩
  | callback hasResponse version =>
    dsimp only [step]
    unfold callback
    split
    · exact ⟨hphase, rfl⟩
    · dsimp only
      split
      · exact ⟨hphase, Option.isSome_map⟩
      · exact ⟨hphase, Option.isSome_map⟩
  | message topicName body =>
    dsimp only [step]
    unfold message
    split
    · exact ⟨hphase, rfl⟩
    · exact ⟨hphase, rfl⟩
  | start =>
    dsimp only [step]
    unfold start
    rw [if_pos hrunning]
    exact ⟨hphase, rfl⟩
  | stopReturns =>
    dsimp only [step]
    unfold stopReturns
    rw [if_neg (by simp [hrunning])]
    exact ⟨hphase, rfl⟩
  | _ => exact ⟨hphase, rfl⟩

theorem leaveLoop_waits (io : Outcomes) {s : NodeSys P} (hconnected : s.isConnected = true) :
    (∃ polls, (s.leaveLoop io).phase = .draining polls) ↔ s.nodeState ≠ .idle := by
  unfold leaveLoop
  by_cases hidle : s.nodeState = .idle
  · rw [if_neg (fun h => h.1 hidle)]
    exact ⟨fun ⟨_, h⟩ => (nomatch h), fun h => absurd hidle h⟩
  · rw [if_pos ⟨hidle, hconnected⟩]
    exact ⟨fun _ => hidle, fun _ => ⟨0, rfl⟩⟩

theorem poll_waits (io : Outcomes) {s : NodeSys P} {polls : Nat}
    (hphase : s.phase = .draining polls) :
    ((∃ polls, (s.work io).phase = .draining polls) ∧
      (s.work io).handle.isSome = s.handle.isSome) ↔ (!s.delivered) = true ∧ polls < 500 := by
  rw [work_draining io hphase]
  split
  · rename_i hon
    simp only [Bool.and_eq_true, decide_eq_true_eq] at hon
    exact ⟨fun _ => hon, fun _ => ⟨⟨polls + 1, rfl⟩, rfl⟩⟩
  · rename_i hlast
    simp only [Bool.and_eq_true, decide_eq_true_eq] at hlast
    exact ⟨fun ⟨⟨_, h⟩, _⟩ => (nomatch h), fun h => absurd h hlast⟩

theorem exitWait_laws (P : Platform) : (exitWait P).Laws where
  quiet_ends := by
    intro s e hquiet
    cases e with
    | work elapsed io => cases hquiet
    | _ => rfl
  quiet_wait hquiet := wait_kept hquiet
  leaves := by
    intro s e hends hconnected
    cases e with
    | work elapsed io =>
      simp only [exitWait, loopEnds, Bool.and_eq_true, decide_eq_true_eq] at hends
      have hstep : (exitWait P).step s (.work elapsed io) = (s.tick elapsed).leaveLoop io := by
        change (s.tick elapsed).work io = _
        rw [work_check (s := s.tick elapsed) io hends.1, tick_stopNodeTask, if_pos hends.2]
      rw [hstep]
      exact (leaveLoop_waits io (s := s.tick elapsed) hconnected).trans
        decide_eq_false_iff_not.symm
    | _ => cases hends
  polls := by
    intro s e polls hwork hphase
    cases e with
    | work elapsed io => exact poll_waits io (s := s.tick elapsed) hphase
    | _ => cases hwork

end NodeSys

namespace HostSys
variable {P : Platform}

def exitWait (P : Platform) : ExitWait (HostSys P) (HostEvent) where
  step := step
  isWork e := match e with
    | .work _ _ => true
    | _ => false
  loopEnds := loopEnds
  phase := phase
  isIdle s := decide (s.workState = .idle)
  handle := handle
  delivered := delivered
  pollsOn s := !s.delivered
  limit := 1000

theorem wait_kept {s : HostSys P} {e : HostEvent} (h : (exitWait P).isWork e = false)
    {polls : Nat} (hphase : s.phase = .draining polls) :
    (s.step e).phase = .draining polls ∧ (s.step e).handle.isSome = s.handle.isSome := by
  have hrunning : s.phase.isRunning = true := by
    rw [hphase]
    rfl
  cases e with
  | work elapsed io => cases h
  | link event => exact ⟨hphase, Option.isSome_map⟩
  | connectionLost =>
    dsimp only [step]
    unfold connectionLost
    split
    · exact ⟨hphase, Option.isSome_map⟩
    · exact ⟨hphase, rfl⟩
  | callback hasResponse version =>
    dsimp only [step]
    unfold callback
    split
    · exact ⟨hphase, rfl⟩
    · dsimp only
      split
      · exact ⟨hphase, Option.isSome_map⟩
      · exact ⟨hphase, Option.isSome_map⟩
  | message topicName body =>
    dsimp only [step]
    unfold message
    split
    · exact ⟨hphase, rfl⟩
    · exact ⟨hphase, rfl⟩
  | start io =>
    dsimp only [step]
    unfold start
    rw [if_pos hrunning]
    exact ⟨hphase, rfl⟩
  | stopReturns =>
    dsimp only [step]
    unfold stopReturns
    rw [if_neg (by simp [hrunning])]
    exact ⟨hphase, rfl⟩
  | _ => exact ⟨hphase, rfl⟩

theorem leaveLoop_waits (io : Outcomes) {s : HostSys P} (hconnected : s.isConnected = true) :
    (∃ polls, (s.leaveLoop io).phase = .draining polls) ↔ s.workState ≠ .idle := by
  unfold leaveLoop
  by_cases hidle : s.workState = .idle
  · rw [if_neg (fun h => h.1 hidle)]
    exact ⟨fun ⟨_, h⟩ => (nomatch h), fun h => absurd hidle h⟩
  · rw [if_pos ⟨hidle, hconnected⟩]
    exact ⟨fun _ => hidle, fun _ => ⟨0, rfl⟩⟩

theorem poll_waits (io : Outcomes) {s : HostSys P} {polls : Nat}
    (hphase : s.phase = .draining polls) :
    ((∃ polls, (s.work io).phase = .draining polls) ∧
      (s.work io).handle.isSome = s.handle.isSome) ↔ (!s.delivered) = true ∧ polls < 1000 := by
  rw [work_draining io hphase]
  split
  · rename_i hon
    simp only [Bool.and_eq_true, decide_eq_true_eq] at hon
    exact ⟨fun _ => hon, fun _ => ⟨⟨polls + 1, rfl⟩, rfl⟩⟩
  · rename_i hlast
    simp only [Bool.and_eq_true, decide_eq_true_eq] at hlast
    exact ⟨fun ⟨⟨_, h⟩, _⟩ => (nomatch h), fun h => absurd h hlast⟩

theorem exitWait_laws (P : Platform) : (exitWait P).Laws where
  quiet_ends := by
    intro s e hquiet
    cases e with
    | work elapsed io => cases hquiet
    | _ => rfl
  quiet_wait hquiet := wait_kept hquiet
  leaves := by
    intro s e hends hconnected
    cases e with
    | work elapsed io =>
      simp only [exitWait, loopEnds, Bool.and_eq_true, decide_eq_true_eq] at hends
      have hstep : (exitWait P).step s (.work elapsed io) = (s.tick elapsed).leaveLoop io := by
        change (s.tick elapsed).work io = _
        rw [work_check (s := s.tick elapsed) io hends.1, tick_stopWorkTask, if_pos hends.2]
      rw [hstep]
      exact (leaveLoop_waits io (s := s.tick elapsed) hconnected).trans
        decide_eq_false_iff_not.symm
    | _ => cases hends
  polls := by
    intro s e polls hwork hphase
    cases e with
    | work elapsed io => exact poll_waits io (s := s.tick elapsed) hphase
    | _ => cases hwork

end HostSys

namespace ClientSys
variable {P : Platform}

def exitWait (P : Platform) : ExitWait (ClientSys P) (ClientEvent) where
  step := step
  isWork e := match e with
    | .work _ _ _ => true
    | _ => false
  loopEnds := loopEnds
  phase := phase
  isIdle s := decide (s.clientState = .idle)
  handle := handle
  delivered := delivered
  pollsOn s := s.client.connectionLost
  limit := 50

theorem wait_kept {s : ClientSys P} {e : ClientEvent} (h : (exitWait P).isWork e = false)
    {polls : Nat} (hphase : s.phase = .draining polls) :
    (s.step e).phase = .draining polls ∧ (s.step e).handle.isSome = s.handle.isSome := by
  have hrunning : s.phase.isRunning = true := by
    rw [hphase]
    rfl
  cases e with
  | work elapsed io sent => cases h
  | link event => exact ⟨hphase, Option.isSome_map⟩
  | connectionLost =>
    dsimp only [step]
    unfold connectionLost
    split
    · exact ⟨hphase, Option.isSome_map⟩
    · exact ⟨hphase, rfl⟩
  | callback hasResponse serverUri version =>
    dsimp only [step]
    unfold callback
    split
    · exact ⟨hphase, rfl⟩
    · dsimp only
      split
      · split
        · exact ⟨hphase, Option.isSome_map⟩
        · exact ⟨hphase, Option.isSome_map⟩
      · exact ⟨hphase, Option.isSome_map⟩
      · exact ⟨hphase, Option.isSome_map⟩
  | message topicName body =>
    dsimp only [step]
    unfold message
    split
    · exact ⟨hphase, rfl⟩
    · exact ⟨hphase, rfl⟩
  | start =>
    dsimp only [step]
    unfold start
    rw [if_pos hrunning]
    exact ⟨hphase, rfl⟩
  | stopReturns =>
    dsimp only [step]
    unfold stopReturns
    rw [if_neg (by simp [hrunning])]
    exact ⟨hphase, rfl⟩
  | _ => exact ⟨hphase, rfl⟩

theorem leaveLoop_waits (io : Outcomes) {s : ClientSys P} (hconnected : s.isConnected = true) :
    (∃ polls, (s.leaveLoop io).phase = .draining polls) ↔ s.clientState ≠ .idle := by
  unfold leaveLoop
  by_cases hidle : s.clientState = .idle
  · rw [if_neg (fun h => h.1 hidle)]
    exact ⟨fun ⟨_, h⟩ => (nomatch h), fun h => absurd hidle h⟩
  · rw [if_pos ⟨hidle, hconnected⟩]
    exact ⟨fun _ => hidle, fun _ => ⟨0, rfl⟩⟩

theorem poll_waits (io : Outcomes) (sent : List Bool) {s : ClientSys P} {polls : Nat}
    (hphase : s.phase = .draining polls) :
    ((∃ polls, (s.work io sent).phase = .draining polls) ∧
      (s.work io sent).handle.isSome = s.handle.isSome) ↔
        s.client.connectionLost = true ∧ polls < 50 := by
  rw [work_draining io sent hphase]
  split
  · rename_i hon
    simp only [Bool.and_eq_true, decide_eq_true_eq] at hon
    exact ⟨fun _ => hon, fun _ => ⟨⟨polls + 1, rfl⟩, rfl⟩⟩
  · rename_i hlast
    simp only [Bool.and_eq_true, decide_eq_true_eq] at hlast
    exact ⟨fun ⟨⟨_, h⟩, _⟩ => (nomatch h), fun h => absurd h hlast⟩

theorem exitWait_laws (P : Platform) : (exitWait P).Laws where
  quiet_ends := by
    intro s e hquiet
    cases e with
    | work elapsed io sent => cases hquiet
    | _ => rfl
  quiet_wait hquiet := wait_kept hquiet
  leaves := by
    intro s e hends hconnected
    cases e with
    | work elapsed io sent =>
      simp only [exitWait, loopEnds, Bool.and_eq_true, decide_eq_true_eq] at hends
      have hstep : (exitWait P).step s (.work elapsed io sent) = (s.tick elapsed).leaveLoop io := by
        change (s.tick elapsed).work io sent = _
        rw [work_check (s := s.tick elapsed) io sent hends.1, tick_stopClientTask, if_pos hends.2]
      rw [hstep]
      exact (leaveLoop_waits io (s := s.tick elapsed) hconnected).trans
        decide_eq_false_iff_not.symm
    | _ => cases hends
  polls := by
    intro s e polls hwork hphase
    cases e with
    | work elapsed io sent => exact poll_waits io sent (s := s.tick elapsed) hphase
    | _ => cases hwork

/-- On the normal path the first poll ends the worker and destroys the handle, with the
disconnect still under way. -/
theorem exit_waits_not (elapsed later : Nat) (io again : Outcomes) (sent resent : List Bool)
    {s : ClientSys P} (hphase : s.phase = .check) (hstop : s.stopClientTask = true)
    (hconnected : s.isConnected = true) (hidle : s.clientState ≠ .idle)
    (hsends : s.clientState ≠ .waitOnDisconnect) :
    let t := run step s [.work elapsed io sent, .work later again resent]
    t.phase = .exited ∧ t.handle = none ∧ t.delivered = false := by
  have hexit : s.step (.work elapsed io sent) =
      { (s.tick elapsed).sendDisconnect io with phase := .draining 0 } := by
    change (s.tick elapsed).work io sent = _
    rw [work_check (s := s.tick elapsed) io sent hphase, tick_stopClientTask, if_pos hstop]
    unfold leaveLoop
    rw [if_pos ⟨hidle, hconnected⟩]
    dsimp only
    rw [if_pos (show (s.tick elapsed).clientState ≠ .waitOnDisconnect from hsends)]
  have hflags : ((s.tick elapsed).sendDisconnect io).delivered = false ∧
      ((s.tick elapsed).sendDisconnect io).client.connectionLost = false := by
    unfold sendDisconnect
    dsimp only
    split
    · exact ⟨rfl, rfl⟩
    · exact ⟨rfl, rfl⟩
  dsimp only [run_cons, run_nil]
  rw [hexit]
  generalize (s.tick elapsed).sendDisconnect io = d at hflags
  change let t := (tick later { d with phase := .draining 0 }).work again resent
    t.phase = .exited ∧ t.handle = none ∧ t.delivered = false
  rw [@work_draining P _ again resent 0 rfl, if_neg (by simp [tick, hflags.2])]
  exact ⟨rfl, rfl, hflags.1⟩

end ClientSys

/-- Every end of a worker waits for its disconnect exactly when no loop ends in the idle
state with a connection and without the report and, for a plain client, every poll but the last
one finds the lost flag up or the disconnect reported. -/
theorem shutdown_waits (P : Platform) :
    (∀ (s : NodeSys P) es, (NodeSys.exitWait P).WaitsInRun s es ↔
      RunOk NodeSys.step (NodeSys.exitWait P).ExitsBusy s es) ∧
    (∀ (s : HostSys P) es, (HostSys.exitWait P).WaitsInRun s es ↔
      RunOk HostSys.step (HostSys.exitWait P).ExitsBusy s es) ∧
    (∀ (s : ClientSys P) es, (ClientSys.exitWait P).WaitsInRun s es ↔
      RunOk ClientSys.step (fun s e => (ClientSys.exitWait P).ExitsBusy s e ∧
        (ClientSys.exitWait P).PollsInTime s e) s es) := by
  refine ⟨?_, ?_, ?_⟩
  · intro s es
    exact (NodeSys.exitWait_laws P).waitsInRun_delivered (fun _ => rfl) s es
  · intro s es
    exact (HostSys.exitWait_laws P).waitsInRun_delivered (fun _ => rfl) s es
  · intro s es
    exact (ClientSys.exitWait_laws P).waitsInRun_iff s es

open OnlineConnected in
/-- A client that is online is stopped, and no callback comes before its first poll. -/
theorem stop_waits_not :
    ¬ (ClientSys.exitWait .reference).WaitsInRun (ClientSys.init {})
      (clientGoesOnline ++ [.stop, .work 0 {} []] ++ .work 0 {} [] :: []) := by
  intro h
  rcases (h _ _ _ rfl).lasts 0 (by decide +kernel) with ⟨⟨polls, hwaiting⟩, _⟩ | hreported
  · have hended : (run ClientSys.step (ClientSys.init (P := .reference) {})
        (clientGoesOnline ++ [.stop, .work 0 {} []] ++ [.work 0 {} []])).phase = .exited := by
      decide +kernel
    rw [run_append] at hended
    exact Phase.noConfusion (hended.symm.trans hwaiting)
  · revert hreported
    decide +kernel

end PubSub
