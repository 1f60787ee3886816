import PubSub.HostTask
import PubSub.NodeTask
import PubSub.Reference
import PubSub.Shared.RetryTimer

/-!
# The rate of connect attempts

One timer serves all states of a worker: ten seconds between attempts, five seconds for a
connect reply or a disconnect. `Armed` is what a step owes to the idle state, and with it
the worker of a node and the worker of a host are retry timers.
-/

namespace PubSub
set_option autoImplicit false

namespace NodeSys
variable {P : Platform}

/-- The steps of `DoIdle` that call `SendConnect`. -/
def callsSendConnect (s : NodeSys P) : NodeEvent P → Prop
  | .work elapsed io => s.phase = .body ∧ s.nodeState = .idle ∧
      (s.tick elapsed).mayConnect = true ∧ io.create = .created
  | _ => False

/-- The steps with which `NodeTask` begins. -/
def entersTask (s : NodeSys P) : NodeEvent P → Prop
  | .work _ _ => s.phase = .entry
  | _ => False

instance (s : NodeSys P) : ∀ e, Decidable (s.callsSendConnect e)
  | .work _ _ => inferInstanceAs (Decidable (_ ∧ _ ∧ _ ∧ _))
  | .link _ | .connectionLost | .callback _ _ | .message _ _ | .start | .stop | .stopReturns
  | .inService _ | .waitOnHostOnline _ | .deviceInService _ _ | .deviceStart _ | .deviceStop _
  | .addBirthMetric _ | .editMetric _ _ => .isFalse id

instance (s : NodeSys P) : ∀ e, Decidable (s.entersTask e)
  | .work _ _ => inferInstanceAs (Decidable (_ = _))
  | .link _ | .connectionLost | .callback _ _ | .message _ _ | .start | .stop | .stopReturns
  | .inService _ | .waitOnHostOnline _ | .deviceInService _ _ | .deviceStart _ | .deviceStop _
  | .addBirthMetric _ | .editMetric _ _ => .isFalse id

theorem doIdle_calls {io : Outcomes} {s : NodeSys P} (hmay : s.mayConnect = true)
    (hcreate : io.create = .created) : s.doIdle io =
      let connect := sendConnect io { s with handle := some {} }
      if connect.2 then
        { connect.1 with nodeTimer := s.clock + 5000, nodeState := .waitOnConnect }
      else { connect.1 with nodeTimer := s.clock + 10000 } := by
  simp only [mayConnect, Bool.and_eq_true, Bool.not_eq_true'] at hmay
  obtain ⟨⟨htimeout, hservice⟩, hgate⟩ := hmay
  simp only [self] at hservice hgate
  simp only [doIdle, self, htimeout, hservice, hgate, hcreate, Bool.not_true,
    Bool.false_eq_true, if_false]

/-- Any other step of `DoIdle` only drops the handle, or makes one that it cannot use. -/
theorem doIdle_calls_not {io : Outcomes} {s : NodeSys P}
    (h : ¬ (s.mayConnect = true ∧ io.create = .created)) :
    ∃ timer handle, (timer = s.nodeTimer ∨ s.timeout = true ∧ timer = s.clock + 10000) ∧
      s.doIdle io = { s with nodeTimer := timer, handle := handle } := by
  unfold doIdle
  dsimp only
  split
  · exact ⟨_, _, .inl rfl, rfl⟩
  · rename_i htimeout
    simp only [Bool.not_eq_true', Bool.not_eq_false] at htimeout
    split
    · exact ⟨_, _, .inl rfl, rfl⟩
    · rename_i hservice
      split
      · exact ⟨_, _, .inl rfl, rfl⟩
      · rename_i hgate
        cases hcreate : io.create with
        | failed => exact ⟨_, _, .inr ⟨htimeout, rfl⟩, rfl⟩
        | noCallbacks => exact ⟨_, _, .inr ⟨htimeout, rfl⟩, rfl⟩
        | created =>
          have hmay : s.mayConnect = true := by
            simp only [self, Bool.not_eq_true', Bool.not_eq_false, Bool.not_eq_true]
              at hservice hgate
            simp only [mayConnect, self, htimeout, hservice, hgate, Bool.and_self, Bool.not_false]
          exact absurd ⟨hmay, hcreate⟩ h

/-- A step that leads to the idle state has kept the timer, or set it to the next attempt. -/
def Armed (s t : NodeSys P) : Prop :=
  s.nodeState = .idle ∧ s.nodeTimer ≤ t.nodeTimer ∨ t.clock + 10000 ≤ t.nodeTimer

theorem sendDisconnect_time (io : Outcomes) (s : NodeSys P) :
    (s.sendDisconnect io).clock = s.clock ∧ (s.sendDisconnect io).nodeTimer = s.nodeTimer := by
  rcases s.sendDisconnect_cases io with ⟨_, h⟩ | h
  · rw [h]
    exact ⟨rfl, rfl⟩
  · rw [h]
    exact ⟨rfl, rfl⟩

theorem leaveLoop_time (io : Outcomes) (s : NodeSys P) :
    (s.leaveLoop io).clock = s.clock ∧ (s.leaveLoop io).nodeTimer = s.nodeTimer := by
  unfold leaveLoop
  split
  · dsimp only
    split
    · exact s.sendDisconnect_time io
    · exact ⟨rfl, rfl⟩
  · exact ⟨rfl, rfl⟩

theorem doIdle_clock (io : Outcomes) (s : NodeSys P) : (s.doIdle io).clock = s.clock := by
  rcases s.doIdle_cases io with ⟨n, timer, handle, _, _, h⟩ | ⟨_, h⟩
  · rw [h]
    rfl
  · rw [h]
    rfl

/-- An attempt that leaves the worker idle keeps it so for ten seconds. -/
theorem doIdle_attempt {io : Outcomes} {s : NodeSys P} (hmay : s.mayConnect = true)
    (hcreate : io.create = .created) (hidle : (s.doIdle io).nodeState = .idle) :
    (s.doIdle io).nodeTimer = s.clock + 10000 := by
  rw [doIdle_calls hmay hcreate] at hidle ⊢
  dsimp only at hidle ⊢
  split at hidle
  · cases hidle
  · rename_i hfailed
    rw [if_neg hfailed]

theorem doIdle_armed (io : Outcomes) {s : NodeSys P} (hs : s.nodeState = .idle)
    (hidle : (s.doIdle io).nodeState = .idle) : Armed s (s.doIdle io) := by
  by_cases hcalls : s.mayConnect = true ∧ io.create = .created
  · refine .inr ?_
    rw [doIdle_attempt hcalls.1 hcalls.2 hidle, doIdle_clock]
  · obtain ⟨timer, handle, htimer, h⟩ := doIdle_calls_not hcalls
    rw [h]
    refine .inl ⟨hs, ?_⟩
    rcases htimer with rfl | ⟨htimeout, rfl⟩
    · exact Nat.le_refl _
    · exact Nat.le_add_right_of_le (of_decide_eq_true htimeout)

theorem doWaitOnConnect_armed {s : NodeSys P} (hs : s.nodeState = .waitOnConnect) :
    s.doWaitOnConnect.nodeState = .idle → Armed s s.doWaitOnConnect := by
  unfold doWaitOnConnect
  split
  · intro _
    exact .inr (Nat.le_refl _)
  · split
    · intro hidle
      exact absurd (hs.symm.trans hidle) (by decide)
    · intro hidle
      cases hidle

theorem doWaitOnDisconnect_armed {s : NodeSys P} (hs : s.nodeState = .waitOnDisconnect) :
    s.doWaitOnDisconnect.nodeState = .idle → Armed s s.doWaitOnDisconnect := by
  unfold doWaitOnDisconnect
  split
  · intro _
    exact .inr (Nat.le_refl _)
  · intro hidle
    exact absurd (hs.symm.trans hidle) (by decide)

theorem doOnline_nodeState {s : NodeSys P} (hs : s.nodeState = .online) (io : Outcomes) :
    (s.doOnline io).nodeState ≠ .idle := by
  unfold doOnline
  split
  · simp
  · simp [hs]

theorem stateStep_armed (io : Outcomes) (s : NodeSys P) :
    (s.stateStep io).nodeState = .idle → Armed s (s.stateStep io) := by
  unfold stateStep
  split
  · rename_i hs
    exact doIdle_armed io hs
  · rename_i hs
    exact doWaitOnConnect_armed hs
  · rename_i hs
    exact fun hidle => absurd hidle (doOnline_nodeState hs io)
  · rename_i hs
    exact doWaitOnDisconnect_armed hs

theorem stateStep_clock (io : Outcomes) (s : NodeSys P) : (s.stateStep io).clock = s.clock := by
  unfold stateStep
  split
  · exact s.doIdle_clock io
  · unfold doWaitOnConnect
    split
    · rfl
    · split
      · rfl
      · rfl
  · unfold doOnline
    split
    · exact (sendDisconnect_time io s.pollDevices.publishNodeDeath).1
    · rfl
  · unfold doWaitOnDisconnect
    split
    · rfl
    · rfl

theorem work_clock (io : Outcomes) (s : NodeSys P) : (s.work io).clock = s.clock := by
  cases hphase : s.phase with
  | entry => rw [work_entry io hphase]
  | check =>
    rw [work_check io hphase]
    split
    · exact (s.leaveLoop_time io).1
    · rfl
  | body =>
    rw [work_body io hphase]
    exact s.stateStep_clock io
  | draining polls =>
    rw [work_draining io hphase]
    split
    · rfl
    · rfl
  | exited => rw [work_exited io hphase]
  | joined => rw [work_joined io hphase]

theorem work_armed (io : Outcomes) {s : NodeSys P} (hphase : s.phase ≠ .entry) :
    (s.work io).nodeState = .idle → Armed s (s.work io) := by
  have hkept : ∀ {t : NodeSys P}, t.nodeState = s.nodeState → t.nodeTimer = s.nodeTimer →
      t.nodeState = .idle → Armed s t :=
    fun hstate htimer hidle => .inl ⟨hstate.symm.trans hidle, Nat.le_of_eq htimer.symm⟩
  cases hp : s.phase with
  | entry => exact absurd hp hphase
  | check =>
    rw [work_check io hp]
    split
    · exact hkept (s.leaveLoop_nodeState io) (s.leaveLoop_time io).2
    · exact hkept rfl rfl
  | body =>
    rw [work_body io hp]
    exact stateStep_armed io s
  | draining polls =>
    rw [work_draining io hp]
    split
    · exact hkept rfl rfl
    · exact hkept rfl rfl
  | exited =>
    rw [work_exited io hp]
    exact hkept rfl rfl
  | joined =>
    rw [work_joined io hp]
    exact hkept rfl rfl

theorem start_control (s : NodeSys P) :
    s.start.nodeState = s.nodeState ∧ s.start.nodeTimer = s.nodeTimer ∧
      s.start.clock = s.clock := by
  unfold start
  split
  · exact ⟨rfl, rfl, rfl⟩
  · split
    · exact ⟨rfl, rfl, rfl⟩
    · exact ⟨rfl, rfl, rfl⟩

theorem stopReturns_control (s : NodeSys P) :
    s.stopReturns.nodeState = s.nodeState ∧ s.stopReturns.nodeTimer = s.nodeTimer ∧
      s.stopReturns.clock = s.clock := by
  unfold stopReturns
  split
  · exact ⟨rfl, rfl, rfl⟩
  · exact ⟨rfl, rfl, rfl⟩

/-- Only the worker moves the state, the timer and the clock. -/
theorem step_cases (s : NodeSys P) (e : NodeEvent P) :
    (∃ elapsed io, e = .work elapsed io) ∨
    ((s.step e).nodeState = s.nodeState ∧ (s.step e).nodeTimer = s.nodeTimer ∧
      (s.step e).clock = s.clock) := by
  by_cases hcontrol : e.isControl = false
  · have hsame := quiet_control (s := s) hcontrol
    exact .inr ⟨hsame.nodeState, hsame.nodeTimer, hsame.clock⟩
  · cases e with
    | work elapsed io => exact .inl ⟨elapsed, io, rfl⟩
    | start => exact .inr s.start_control
    | stop => exact .inr ⟨rfl, rfl, rfl⟩
    | stopReturns => exact .inr s.stopReturns_control
    | _ => exact absurd rfl hcontrol

theorem step_clock_le (s : NodeSys P) (e : NodeEvent P) : s.clock ≤ (s.step e).clock := by
  rcases s.step_cases e with ⟨elapsed, io, rfl⟩ | ⟨_, _, hclock⟩
  · change s.clock ≤ ((s.tick elapsed).work io).clock
    rw [work_clock]
    exact Nat.le_add_right _ _
  · exact Nat.le_of_eq hclock.symm

theorem step_armed {s : NodeSys P} {e : NodeEvent P} (hlife : ¬ s.entersTask e)
    (hidle : (s.step e).nodeState = .idle) : Armed s (s.step e) := by
  rcases s.step_cases e with ⟨elapsed, io, rfl⟩ | ⟨hstate, htimer, _⟩
  · exact work_armed (s := s.tick elapsed) io hlife hidle
  · exact .inl ⟨hstate.symm.trans hidle, Nat.le_of_eq htimer.symm⟩

def retryTimer : RetryTimer (step (P := P)) callsSendConnect entersTask where
  delay := 10000
  clock := clock
  timer := nodeTimer
  idle s := s.nodeState = .idle
  clock_le := step_clock_le
  attempt_due := by
    intro s e h
    cases e with
    | work elapsed io =>
      obtain ⟨hphase, hidle, hmay, hcreate⟩ := h
      refine ⟨hidle, ?_⟩
      change s.nodeTimer ≤ ((s.tick elapsed).work io).clock
      rw [work_clock]
      simp only [mayConnect, Bool.and_eq_true] at hmay
      exact of_decide_eq_true hmay.1.1
    | _ => cases h
  attempt_armed := by
    intro s e h hidle
    cases e with
    | work elapsed io =>
      obtain ⟨hphase, hstate, hmay, hcreate⟩ := h
      have hstep : s.step (.work elapsed io) =
          { (s.tick elapsed).doIdle io with phase := .check } := by
        change (s.tick elapsed).work io = _
        rw [work_body (s := s.tick elapsed) io hphase, stateStep, tick_nodeState, hstate]
      rw [hstep] at hidle ⊢
      change _ ≤ ((s.tick elapsed).doIdle io).nodeTimer
      rw [doIdle_attempt hmay hcreate hidle]
      exact Nat.le_of_eq (congrArg (· + 10000) (doIdle_clock io _))
    | _ => cases h
  idle_armed := step_armed

end NodeSys

namespace HostSys
variable {P : Platform}

/-- The steps of `DoIdle` that call `SendConnect`. -/
def callsSendConnect (s : HostSys P) : HostEvent → Prop
  | .work elapsed _ => s.phase = .body ∧ s.workState = .idle ∧ (s.tick elapsed).timeout = true
  | _ => False

/-- The steps with which `HostTask` begins. -/
def entersTask (s : HostSys P) : HostEvent → Prop
  | .work _ _ => s.phase = .entry
  | _ => False

instance (s : HostSys P) : ∀ e, Decidable (s.callsSendConnect e)
  | .work _ _ => inferInstanceAs (Decidable (_ ∧ _ ∧ _))
  | .link _ | .connectionLost | .callback _ _ | .message _ _ | .start _ | .stop | .stopReturns
  | .inService _ => .isFalse id

instance (s : HostSys P) : ∀ e, Decidable (s.entersTask e)
  | .work _ _ => inferInstanceAs (Decidable (_ = _))
  | .link _ | .connectionLost | .callback _ _ | .message _ _ | .start _ | .stop | .stopReturns
  | .inService _ => .isFalse id

theorem doIdle_calls {s : HostSys P} (htimeout : s.timeout = true) (io : Outcomes) :
    s.doIdle io =
      let connect :=
        sendConnect io { s with hostTimer := s.clock + 10000, workState := .waitOnConnect }
      if connect.2 then connect.1 else { connect.1 with workState := .idle } := by
  simp only [doIdle, htimeout, Bool.not_true, Bool.false_eq_true, if_false]

theorem doIdle_calls_not {s : HostSys P} (htimeout : s.timeout = false) (io : Outcomes) :
    s.doIdle io = s := by
  simp only [doIdle, htimeout, Bool.not_false, if_true]

/-- A step that leads to the idle state has kept the timer, or set it to the next attempt. -/
def Armed (s t : HostSys P) : Prop :=
  s.workState = .idle ∧ s.hostTimer ≤ t.hostTimer ∨ t.clock + 10000 ≤ t.hostTimer

theorem sendDisconnect_time (io : Outcomes) (s : HostSys P) :
    (s.sendDisconnect io).clock = s.clock ∧ (s.sendDisconnect io).hostTimer = s.hostTimer := by
  rcases s.sendDisconnect_cases io with ⟨_, h⟩ | h
  · rw [h]
    exact ⟨rfl, rfl⟩
  · rw [h]
    exact ⟨rfl, rfl⟩

theorem sendConnect_time (io : Outcomes) (s : HostSys P) :
    (sendConnect io s).1.clock = s.clock ∧ (sendConnect io s).1.hostTimer = s.hostTimer := by
  unfold sendConnect
  split
  · exact ⟨rfl, rfl⟩
  · dsimp only
    split
    · exact ⟨rfl, rfl⟩
    · exact ⟨rfl, rfl⟩

theorem leaveLoop_time (io : Outcomes) (s : HostSys P) :
    (s.leaveLoop io).clock = s.clock ∧ (s.leaveLoop io).hostTimer = s.hostTimer := by
  unfold leaveLoop
  split
  · dsimp only
    split
    · exact s.sendDisconnect_time io
    · exact ⟨rfl, rfl⟩
  · exact ⟨rfl, rfl⟩

/-- The timer of an attempt is set before `SendConnect`, whatever comes of it. -/
theorem doIdle_attempt {s : HostSys P} (htimeout : s.timeout = true) (io : Outcomes) :
    (s.doIdle io).clock = s.clock ∧ (s.doIdle io).hostTimer = s.clock + 10000 := by
  have htime := sendConnect_time io
    { s with hostTimer := s.clock + 10000, workState := .waitOnConnect }
  rw [doIdle_calls htimeout]
  dsimp only
  split
  · exact htime
  · exact htime

theorem doWaitOnConnect_armed {s : HostSys P} (hs : s.workState = .waitOnConnect) :
    s.doWaitOnConnect.workState = .idle → Armed s s.doWaitOnConnect := by
  unfold doWaitOnConnect
  split
  · intro _
    exact .inr (Nat.le_refl _)
  · split
    · intro hidle
      exact absurd (hs.symm.trans hidle) (by decide)
    · split
      · intro _
        exact .inr (Nat.le_refl _)
      · dsimp only
        split
        · intro hidle
          cases hidle
        · intro hidle
          cases hidle

theorem doWaitOnDisconnect_armed {s : HostSys P} (hs : s.workState = .waitOnDisconnect) :
    s.doWaitOnDisconnect.workState = .idle → Armed s s.doWaitOnDisconnect := by
  unfold doWaitOnDisconnect
  split
  · intro _
    exact .inr (Nat.le_refl _)
  · intro hidle
    exact absurd (hs.symm.trans hidle) (by decide)

theorem doOnline_workState {s : HostSys P} (hs : s.workState = .online) (io : Outcomes) :
    (s.doOnline io).workState ≠ .idle := by
  unfold doOnline
  split
  · simp
  · split
    · simp
    · simp [hs]

theorem doOffline_workState {s : HostSys P} (hs : s.workState = .offline) (io : Outcomes) :
    (s.doOffline io).workState ≠ .idle := by
  unfold doOffline
  split
  · simp
  · split
    · simp
    · simp [hs]

theorem stateStep_armed (io : Outcomes) (s : HostSys P) :
    (s.stateStep io).workState = .idle → Armed s (s.stateStep io) := by
  unfold stateStep
  split
  · rename_i hs
    intro _
    cases htimeout : s.timeout with
    | true =>
      obtain ⟨hclock, htimer⟩ := doIdle_attempt htimeout io
      exact .inr (by rw [hclock, htimer])
    | false =>
      rw [doIdle_calls_not htimeout]
      exact .inl ⟨hs, Nat.le_refl _⟩
  · rename_i hs
    exact doWaitOnConnect_armed hs
  · rename_i hs
    exact fun hidle => absurd hidle (doOnline_workState hs io)
  · rename_i hs
    exact fun hidle => absurd hidle (doOffline_workState hs io)
  · rename_i hs
    exact doWaitOnDisconnect_armed hs

theorem doWaitOnConnect_clock (s : HostSys P) : s.doWaitOnConnect.clock = s.clock := by
  unfold doWaitOnConnect
  split
  · rfl
  · split
    · rfl
    · split
      · rfl
      · dsimp only
        split
        · rfl
        · rfl

theorem stateStep_clock (io : Outcomes) (s : HostSys P) : (s.stateStep io).clock = s.clock := by
  unfold stateStep
  split
  · cases htimeout : s.timeout with
    | true => exact (doIdle_attempt htimeout io).1
    | false => rw [doIdle_calls_not htimeout]
  · exact s.doWaitOnConnect_clock
  · unfold doOnline
    split
    · exact (sendDisconnect_time io _).1
    · split
      · rfl
      · rfl
  · unfold doOffline
    split
    · exact (sendDisconnect_time io _).1
    · split
      · rfl
      · rfl
  · unfold doWaitOnDisconnect
    split
    · rfl
    · rfl

theorem work_clock (io : Outcomes) (s : HostSys P) : (s.work io).clock = s.clock := by
  cases hphase : s.phase with
  | entry => rw [work_entry io hphase]
  | check =>
    rw [work_check io hphase]
    split
    · exact (s.leaveLoop_time io).1
    · rfl
  | body =>
    rw [work_body io hphase]
    exact s.stateStep_clock io
  | draining polls =>
    rw [work_draining io hphase]
    split
    · rfl
    · rfl
  | exited => rw [work_exited io hphase]
  | joined => rw [work_joined io hphase]

theorem work_armed (io : Outcomes) {s : HostSys P} (hphase : s.phase ≠ .entry) :
    (s.work io).workState = .idle → Armed s (s.work io) := by
  have hkept : ∀ {t : HostSys P}, t.workState = s.workState → t.hostTimer = s.hostTimer →
      t.workState = .idle → Armed s t :=
    fun hstate htimer hidle => .inl ⟨hstate.symm.trans hidle, Nat.le_of_eq htimer.symm⟩
  cases hp : s.phase with
  | entry => exact absurd hp hphase
  | check =>
    rw [work_check io hp]
    split
    · exact hkept (s.leaveLoop_workState io) (s.leaveLoop_time io).2
    · exact hkept rfl rfl
  | body =>
    rw [work_body io hp]
    exact stateStep_armed io s
  | draining polls =>
    rw [work_draining io hp]
    split
    · exact hkept rfl rfl
    · exact hkept rfl rfl
  | exited =>
    rw [work_exited io hp]
    exact hkept rfl rfl
  | joined =>
    rw [work_joined io hp]
    exact hkept rfl rfl

theorem start_control (io : Outcomes) (s : HostSys P) :
    (s.start io).workState = s.workState ∧ (s.start io).hostTimer = s.hostTimer ∧
      (s.start io).clock = s.clock := by
  unfold start
  split
  · exact ⟨rfl, rfl, rfl⟩
  · dsimp only
    split
    · exact ⟨rfl, rfl, rfl⟩
    · exact ⟨rfl, rfl, rfl⟩
    · exact ⟨rfl, rfl, rfl⟩

theorem stopReturns_control (s : HostSys P) :
    s.stopReturns.workState = s.workState ∧ s.stopReturns.hostTimer = s.hostTimer ∧
      s.stopReturns.clock = s.clock := by
  unfold stopReturns
  split
  · exact ⟨rfl, rfl, rfl⟩
  · exact ⟨rfl, rfl, rfl⟩

/-- Only the worker moves the state, the timer and the clock. -/
theorem step_cases (s : HostSys P) (e : HostEvent) :
    (∃ elapsed io, e = .work elapsed io) ∨
    ((s.step e).workState = s.workState ∧ (s.step e).hostTimer = s.hostTimer ∧
      (s.step e).clock = s.clock) := by
  by_cases hcontrol : e.isControl = false
  · have hsame := quiet_control (s := s) hcontrol
    exact .inr ⟨hsame.workState, hsame.hostTimer, hsame.clock⟩
  · cases e with
    | work elapsed io => exact .inl ⟨elapsed, io, rfl⟩
    | start io => exact .inr (s.start_control io)
    | stop => exact .inr ⟨rfl, rfl, rfl⟩
    | stopReturns => exact .inr s.stopReturns_control
    | _ => exact absurd rfl hcontrol

theorem step_clock_le (s : HostSys P) (e : HostEvent) : s.clock ≤ (s.step e).clock := by
  rcases s.step_cases e with ⟨elapsed, io, rfl⟩ | ⟨_, _, hclock⟩
  · change s.clock ≤ ((s.tick elapsed).work io).clock
    rw [work_clock]
    exact Nat.le_add_right _ _
  · exact Nat.le_of_eq hclock.symm

theorem step_armed {s : HostSys P} {e : HostEvent} (hlife : ¬ s.entersTask e)
    (hidle : (s.step e).workState = .idle) : Armed s (s.step e) := by
  rcases s.step_cases e with ⟨elapsed, io, rfl⟩ | ⟨hstate, htimer, _⟩
  · exact work_armed (s := s.tick elapsed) io hlife hidle
  · exact .inl ⟨hstate.symm.trans hidle, Nat.le_of_eq htimer.symm⟩

def retryTimer : RetryTimer (step (P := P)) callsSendConnect entersTask where
  delay := 10000
  clock := clock
  timer := hostTimer
  idle s := s.workState = .idle
  clock_le := step_clock_le
  attempt_due := by
    intro s e h
    cases e with
    | work elapsed io =>
      obtain ⟨hphase, hidle, htimeout⟩ := h
      refine ⟨hidle, ?_⟩
      change s.hostTimer ≤ ((s.tick elapsed).work io).clock
      rw [work_clock]
      exact of_decide_eq_true htimeout
    | _ => cases h
  attempt_armed := by
    intro s e h _
    cases e with
    | work elapsed io =>
      obtain ⟨hphase, hstate, htimeout⟩ := h
      have hstep : s.step (.work elapsed io) =
          { (s.tick elapsed).doIdle io with phase := .check } := by
        change (s.tick elapsed).work io = _
        rw [work_body (s := s.tick elapsed) io hphase, stateStep, tick_workState, hstate]
      obtain ⟨hclock, htimer⟩ := doIdle_attempt htimeout io
      rw [hstep]
      change ((s.tick elapsed).doIdle io).clock + 10000 ≤ ((s.tick elapsed).doIdle io).hostTimer
      rw [hclock, htimer]
    | _ => cases h
  idle_armed := step_armed

end HostSys

/-- The clock after a step is the one the step has read. Two connect attempts within one
run of `NodeTask`, or of `HostTask`, are ten seconds apart. -/
theorem connects_apart {P : Platform} :
    (∀ (s : NodeSys P) (first second : NodeEvent P) (between : List (NodeEvent P)),
      s.callsSendConnect first →
      RunOk NodeSys.step (fun s e => ¬ s.entersTask e) (s.step first) between →
      (run NodeSys.step (s.step first) between).callsSendConnect second →
      (s.step first).clock + 10000 ≤
        ((run NodeSys.step (s.step first) between).step second).clock) ∧
    (∀ (s : HostSys P) (first second : HostEvent) (between : List HostEvent),
      s.callsSendConnect first →
      RunOk HostSys.step (fun s e => ¬ s.entersTask e) (s.step first) between →
      (run HostSys.step (s.step first) between).callsSendConnect second →
      (s.step first).clock + 10000 ≤
        ((run HostSys.step (s.step first) between).step second).clock) := by
  refine ⟨?_, ?_⟩
  · intro s first second between hfirst hlife hsecond
    exact NodeSys.retryTimer.attempts_apart hfirst hlife hsecond
  · intro s first second between hfirst hlife hsecond
    exact HostSys.retryTimer.attempts_apart hfirst hlife hsecond

namespace ConnectRate

/-- A node whose worker stands in front of its first `DoIdle`. -/
def startedNode : NodeSys Platform.reference :=
  run NodeSys.step (.init 0 [.group (str "G"), .name (str "N")]) [.start, .work 0 {}, .work 0 {}]

def startedHost : HostSys Platform.reference :=
  run HostSys.step (.init none 0 [.name (str "H")]) [.start {}, .work 0 {}, .work 0 {}]

end ConnectRate

open ConnectRate in
/-- The node's first connect fails at once; the one of the host gets no reply. -/
theorem retry_is_ten_seconds_later :
    10000 ≤ ((run NodeSys.step (startedNode.step (.work 0 { connect := false }))
      [.work 9999 {}, .work 0 {}, .work 0 {}]).step (.work 1 {})).clock ∧
    10000 ≤ ((run HostSys.step (startedHost.step (.work 0 {}))
      [.work 10000 {}, .work 0 {}, .work 10000 {}]).step (.work 0 {})).clock := by
  refine ⟨?_, ?_⟩
  · exact connects_apart.1 startedNode (.work 0 { connect := false }) (.work 1 {})
      [.work 9999 {}, .work 0 {}, .work 0 {}] (by decide +kernel) (by decide +kernel)
      (by decide +kernel)
  · exact connects_apart.2 startedHost (.work 0 {}) (.work 0 {})
      [.work 10000 {}, .work 0 {}, .work 10000 {}] (by decide +kernel) (by decide +kernel)
      (by decide +kernel)

end PubSub
