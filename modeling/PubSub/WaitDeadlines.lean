import PubSub.ConnectRate
import PubSub.OnlineConnected
import PubSub.Shared.Ranking

/-!
# The deadlines of the waits

A worker that waits for a connect reply or for its disconnect has set its timer on the way
in. It does not stay longer than that, whatever is reported to it and however often it is
started and stopped: its first turn behind the deadline leaves the state.
-/

namespace PubSub
set_option autoImplicit false

universe u v

/-- All turns that a party takes while it waits come before the deadline. -/
def WaitsAtMost {σ : Type u} {ε : Type v} (step : σ → ε → σ) (waits : σ → Prop)
    (turn : σ → ε → Prop) (clock : σ → Nat) (limit : Nat) : Prop :=
  ∀ s e es, ¬ waits s → Throughout step waits (step s e) es →
    ∀ pre d post, es = pre ++ d :: post → turn (run step (step s e) pre) d →
      clock (step (run step (step s e) pre) d) < clock (step s e) + limit

theorem WaitsAtMost.of_deadline {σ : Type u} {ε : Type v} {step : σ → ε → σ} {waits : σ → Prop}
    {turn : σ → ε → Prop} {clock timer : σ → Nat} {limit : Nat}
    (h : Deadline step waits turn clock timer limit) : WaitsAtMost step waits turn clock limit :=
  fun _ _ _ hs hes _ _ _ hsplit hturn => h.turn_before hs hes hsplit hturn

namespace NodeState

/-- How long the worker of a node waits in a state, where it looks at its timer. -/
def waitLimit : NodeState → Option Nat
  | .waitOnConnect | .waitOnDisconnect => some 5000
  | .idle | .online => none

end NodeState

namespace NodeSys
variable {P : Platform}

/-- The events with which the worker steps its state machine. -/
def turns (s : NodeSys P) : NodeEvent P → Prop
  | .work _ _ => s.phase = .body
  | _ => False

theorem stateStep_waits (io : Outcomes) (s : NodeSys P) {w : NodeState} {n : Nat}
    (hw : w.waitLimit = some n) (h : (s.stateStep io).nodeState = w) :
    s.nodeState = w ∧ s.clock < s.nodeTimer ∧ (s.stateStep io).nodeTimer = s.nodeTimer ∨
      s.nodeState ≠ w ∧ (s.stateStep io).nodeTimer = s.clock + n := by
  unfold stateStep at h ⊢
  split at h
  · rename_i hidle
    rcases s.doIdle_cases io with ⟨node, timer, handle, _, _, hs⟩ | ⟨_, hs⟩
    · rw [hs] at h
      obtain rfl : w = .idle := h.symm.trans hidle
      cases hw
    · rw [hs] at h ⊢
      subst w
      cases hw
      refine .inr ⟨?_, rfl⟩
      rw [hidle]
      exact NodeState.noConfusion
  · rename_i hwait
    unfold doWaitOnConnect at h ⊢
    split at h
    · subst w
      cases hw
    · rename_i htimer
      split at h
      · rename_i hconnected
        refine .inl ⟨h, ?_, ?_⟩
        · rw [hconnected, Bool.and_true] at htimer
          exact Nat.lt_of_not_le (of_decide_eq_false (Bool.eq_false_iff.mpr htimer))
        · rw [if_neg htimer, if_pos hconnected]
      · subst w
        cases hw
  · rename_i honline
    unfold doOnline at h ⊢
    split at h
    · rename_i hleaves
      subst w
      cases hw
      rw [if_pos hleaves]
      refine .inr ⟨?_, ?_⟩
      · rw [honline]
        exact NodeState.noConfusion
      · exact congrArg (· + 5000) (s.pollDevices.publishNodeDeath.sendDisconnect_time io).1
    · obtain rfl : w = .online := h.symm.trans honline
      cases hw
  · rename_i hwait
    unfold doWaitOnDisconnect at h ⊢
    split at h
    · subst w
      cases hw
    · rename_i htimer
      rw [if_neg htimer]
      refine .inl ⟨h, ?_, rfl⟩
      rw [Bool.or_eq_true, not_or] at htimer
      exact Nat.lt_of_not_le (of_decide_eq_false (Bool.eq_false_iff.mpr htimer.1))

theorem rest_waits {s : NodeSys P} {e : NodeEvent P} (he : ¬ s.turns e) {w : NodeState}
    {n : Nat} (hw : w.waitLimit = some n) (h : (s.step e).nodeState = w) :
    s.nodeState = w ∧ (s.step e).nodeTimer ≤ s.nodeTimer := by
  rcases s.step_cases e with ⟨elapsed, io, rfl⟩ | ⟨hstate, htimer, _⟩
  · change ((s.tick elapsed).work io).nodeState = w at h
    change s.nodeState = w ∧ ((s.tick elapsed).work io).nodeTimer ≤ s.nodeTimer
    have hkept : ∀ {t : NodeSys P}, t.nodeState = s.nodeState → t.nodeTimer = s.nodeTimer →
        t.nodeState = w → s.nodeState = w ∧ t.nodeTimer ≤ s.nodeTimer :=
      fun hstate htimer h => ⟨hstate.symm.trans h, Nat.le_of_eq htimer⟩
    cases hphase : (s.tick elapsed).phase with
    | entry =>
      -- the task begins in the idle state
      rw [work_entry io hphase] at h
      subst w
      cases hw
    | check =>
      rw [work_check io hphase] at h ⊢
      split at h
      · rename_i hstop
        rw [if_pos hstop]
        exact hkept ((s.tick elapsed).leaveLoop_nodeState io)
          ((s.tick elapsed).leaveLoop_time io).2 h
      · rename_i hstop
        rw [if_neg hstop]
        exact hkept rfl rfl h
    | body => exact absurd hphase he
    | draining polls =>
      rw [work_draining io hphase] at h ⊢
      split at h
      · rename_i hpolls
        rw [if_pos hpolls]
        exact hkept rfl rfl h
      · rename_i hpolls
        rw [if_neg hpolls]
        exact hkept rfl rfl h
    | exited =>
      rw [work_exited io hphase] at h ⊢
      exact hkept rfl rfl h
    | joined =>
      rw [work_joined io hphase] at h ⊢
      exact hkept rfl rfl h
  · exact ⟨hstate.symm.trans h, Nat.le_of_eq htimer⟩

theorem waitDeadline {w : NodeState} {n : Nat} (hw : w.waitLimit = some n) :
    Deadline (step (P := P)) (·.nodeState = w) turns clock nodeTimer n := by
  refine Deadline.of_states (fun s e he hafter => ?_) fun s e he hafter =>
    rest_waits he hw hafter
  cases e with
  | work elapsed io =>
    change s.phase = .body at he
    have hclock : (s.step (.work elapsed io)).clock = s.clock + elapsed :=
      (s.tick elapsed).work_clock io
    have hstep : s.step (.work elapsed io) =
        { (s.tick elapsed).stateStep io with phase := .check } :=
      work_body (s := s.tick elapsed) io he
    rw [hclock]
    rw [hstep] at hafter ⊢
    exact stateStep_waits (s := s.tick elapsed) io hw hafter
  | _ => cases he

end NodeSys
namespace WorkState

/-- How long the worker of a host waits in a state, where it looks at its timer. -/
def waitLimit : WorkState → Option Nat
  | .waitOnConnect => some 10000
  | .waitOnDisconnect => some 5000
  | .idle | .online | .offline => none

end WorkState

namespace HostSys
variable {P : Platform}

/-- The events with which the worker steps its state machine. -/
def turns (s : HostSys P) : HostEvent → Prop
  | .work _ _ => s.phase = .body
  | _ => False

theorem sendConnect_workState (io : Outcomes) (s : HostSys P) :
    (sendConnect io s).1.workState = s.workState := by
  unfold sendConnect
  split
  · rfl
  · dsimp only
    split <;> rfl

/-- What an attempt makes of the state. -/
theorem doIdle_next {s : HostSys P} (htimeout : s.timeout = true) (io : Outcomes) :
    (s.doIdle io).workState = .waitOnConnect ∨ (s.doIdle io).workState = .idle := by
  rw [doIdle_calls htimeout]
  dsimp only
  split
  · exact .inl (sendConnect_workState io _)
  · exact .inr rfl

theorem doWaitOnConnect_next (s : HostSys P) :
    s.doWaitOnConnect = s ∧ s.clock < s.hostTimer ∨
      s.doWaitOnConnect.workState.waitLimit = none := by
  unfold doWaitOnConnect
  split
  · exact .inr rfl
  · rename_i htimer
    split
    · exact .inl ⟨rfl, Nat.lt_of_not_le (of_decide_eq_false (Bool.eq_false_iff.mpr htimer))⟩
    · split
      · exact .inr rfl
      · dsimp only
        split <;> exact .inr rfl

theorem stateStep_waits (io : Outcomes) (s : HostSys P) {w : WorkState} {n : Nat}
    (hw : w.waitLimit = some n) (h : (s.stateStep io).workState = w) :
    s.workState = w ∧ s.clock < s.hostTimer ∧ (s.stateStep io).hostTimer = s.hostTimer ∨
      s.workState ≠ w ∧ (s.stateStep io).hostTimer = s.clock + n := by
  unfold stateStep at h ⊢
  split at h
  · rename_i hidle
    cases htimeout : s.timeout with
    | false =>
      rw [doIdle_calls_not htimeout] at h
      obtain rfl : w = .idle := h.symm.trans hidle
      cases hw
    | true =>
      rcases doIdle_next htimeout io with hnext | hnext
      · obtain rfl : w = .waitOnConnect := h.symm.trans hnext
        cases hw
        refine .inr ⟨?_, (doIdle_attempt htimeout io).2⟩
        rw [hidle]
        exact WorkState.noConfusion
      · obtain rfl : w = .idle := h.symm.trans hnext
        cases hw
  · rename_i hwait
    rcases s.doWaitOnConnect_next with ⟨hsame, hearly⟩ | hnone
    · rw [hsame] at h ⊢
      exact .inl ⟨h, hearly, rfl⟩
    · rw [h, hw] at hnone
      cases hnone
  · rename_i honline
    unfold doOnline at h ⊢
    split at h
    · rename_i hstop
      obtain rfl : w = .waitOnDisconnect := h.symm
      cases hw
      rw [if_pos hstop]
      refine .inr ⟨?_, (sendDisconnect_time io _).2⟩
      rw [honline]
      exact WorkState.noConfusion
    · split at h
      · subst w
        cases hw
      · obtain rfl : w = .online := h.symm.trans honline
        cases hw
  · rename_i hoffline
    unfold doOffline at h ⊢
    split at h
    · rename_i hstop
      obtain rfl : w = .waitOnDisconnect := h.symm
      cases hw
      rw [if_pos hstop]
      refine .inr ⟨?_, (sendDisconnect_time io _).2⟩
      rw [hoffline]
      exact WorkState.noConfusion
    · split at h
      · subst w
        cases hw
      · obtain rfl : w = .offline := h.symm.trans hoffline
        cases hw
  · rename_i hwait
    unfold doWaitOnDisconnect at h ⊢
    split at h
    · subst w
      cases hw
    · rename_i htimer
      rw [if_neg htimer]
      refine .inl ⟨h, ?_, rfl⟩
      rw [Bool.or_eq_true, not_or] at htimer
      exact Nat.lt_of_not_le (of_decide_eq_false (Bool.eq_false_iff.mpr htimer.1))

theorem rest_waits {s : HostSys P} {e : HostEvent} (he : ¬ s.turns e) {w : WorkState}
    {n : Nat} (hw : w.waitLimit = some n) (h : (s.step e).workState = w) :
    s.workState = w ∧ (s.step e).hostTimer ≤ s.hostTimer := by
  rcases s.step_cases e with ⟨elapsed, io, rfl⟩ | ⟨hstate, htimer, _⟩
  · change ((s.tick elapsed).work io).workState = w at h
    change s.workState = w ∧ ((s.tick elapsed).work io).hostTimer ≤ s.hostTimer
    have hkept : ∀ {t : HostSys P}, t.workState = s.workState → t.hostTimer = s.hostTimer →
        t.workState = w → s.workState = w ∧ t.hostTimer ≤ s.hostTimer :=
      fun hstate htimer h => ⟨hstate.symm.trans h, Nat.le_of_eq htimer⟩
    cases hphase : (s.tick elapsed).phase with
    | entry =>
      -- the task begins in the idle state
      rw [work_entry io hphase] at h
      subst w
      cases hw
    | check =>
      rw [work_check io hphase] at h ⊢
      split at h
      · rename_i hstop
        rw [if_pos hstop]
        exact hkept ((s.tick elapsed).leaveLoop_workState io)
          ((s.tick elapsed).leaveLoop_time io).2 h
      · rename_i hstop
        rw [if_neg hstop]
        exact hkept rfl rfl h
    | body => exact absurd hphase he
    | draining polls =>
      rw [work_draining io hphase] at h ⊢
      split at h
      · rename_i hpolls
        rw [if_pos hpolls]
        exact hkept rfl rfl h
      · rename_i hpolls
        rw [if_neg hpolls]
        exact hkept rfl rfl h
    | exited =>
      rw [work_exited io hphase] at h ⊢
      exact hkept rfl rfl h
    | joined =>
      rw [work_joined io hphase] at h ⊢
      exact hkept rfl rfl h
  · exact ⟨hstate.symm.trans h, Nat.le_of_eq htimer⟩

theorem waitDeadline {w : WorkState} {n : Nat} (hw : w.waitLimit = some n) :
    Deadline (step (P := P)) (·.workState = w) turns clock hostTimer n := by
  refine Deadline.of_states (fun s e he hafter => ?_) fun s e he hafter =>
    rest_waits he hw hafter
  cases e with
  | work elapsed io =>
    change s.phase = .body at he
    have hclock : (s.step (.work elapsed io)).clock = s.clock + elapsed :=
      (s.tick elapsed).work_clock io
    have hstep : s.step (.work elapsed io) =
        { (s.tick elapsed).stateStep io with phase := .check } :=
      work_body (s := s.tick elapsed) io he
    rw [hclock]
    rw [hstep] at hafter ⊢
    exact stateStep_waits (s := s.tick elapsed) io hw hafter
  | _ => cases he

end HostSys

namespace ClientState

/-- How long the worker of a plain client waits in a state, where it looks at its timer. -/
def waitLimit : ClientState → Option Nat
  | .waitOnConnect | .waitOnDisconnect => some 5000
  | .idle | .online => none

end ClientState

namespace ClientSys
variable {P : Platform}

/-- The events with which the worker steps its state machine. -/
def turns (s : ClientSys P) : ClientEvent → Prop
  | .work _ _ _ => s.phase = .body
  | _ => False

theorem sendDisconnect_time (io : Outcomes) (s : ClientSys P) :
    (s.sendDisconnect io).clock = s.clock ∧ (s.sendDisconnect io).clientTimer = s.clientTimer := by
  unfold sendDisconnect
  dsimp only
  split <;> exact ⟨rfl, rfl⟩

theorem sendConnect_time (io : Outcomes) (s : ClientSys P) :
    (sendConnect io s).1.clock = s.clock ∧
      (sendConnect io s).1.clientState = s.clientState := by
  unfold sendConnect
  dsimp only
  split <;> exact ⟨rfl, rfl⟩

theorem leaveLoop_time (io : Outcomes) (s : ClientSys P) :
    (s.leaveLoop io).clock = s.clock ∧ (s.leaveLoop io).clientTimer = s.clientTimer := by
  unfold leaveLoop
  split
  · dsimp only
    split
    · exact s.sendDisconnect_time io
    · exact ⟨rfl, rfl⟩
  · exact ⟨rfl, rfl⟩

/-- The worker stays idle, or it waits for the reply to the connect it has sent. -/
theorem doIdle_next {s : ClientSys P} (hs : s.clientState = .idle) (io : Outcomes) :
    (s.doIdle io).clock = s.clock ∧ ((s.doIdle io).clientState = .idle ∨
      (s.doIdle io).clientState = .waitOnConnect ∧ (s.doIdle io).clientTimer = s.clock + 5000) := by
  unfold doIdle
  dsimp only
  split
  · exact ⟨rfl, .inl hs⟩
  · split
    · exact ⟨rfl, .inl hs⟩
    · split
      · exact ⟨rfl, .inl hs⟩
      · exact ⟨rfl, .inl hs⟩
      · have htime := sendConnect_time io { s with handle := some {} }
        split
        · exact ⟨htime.1, .inr ⟨rfl, rfl⟩⟩
        · exact ⟨htime.1, .inl (htime.2.trans hs)⟩

theorem stateStep_clock (io : Outcomes) (sent : List Bool) (s : ClientSys P) :
    (s.stateStep io sent).clock = s.clock := by
  unfold stateStep
  split
  · rename_i hidle
    exact (doIdle_next hidle io).1
  · unfold doWaitOnConnect
    split
    · rfl
    · split <;> rfl
  · unfold doOnline
    split
    · exact (s.sendDisconnect_time io).1
    · rfl
  · unfold doWaitOnDisconnect
    split <;> rfl

theorem stateStep_waits (io : Outcomes) (sent : List Bool) (s : ClientSys P) {w : ClientState}
    {n : Nat} (hw : w.waitLimit = some n) (h : (s.stateStep io sent).clientState = w) :
    s.clientState = w ∧ s.clock < s.clientTimer ∧
        (s.stateStep io sent).clientTimer = s.clientTimer ∨
      s.clientState ≠ w ∧ (s.stateStep io sent).clientTimer = s.clock + n := by
  unfold stateStep at h ⊢
  split at h
  · rename_i hidle
    rcases (doIdle_next hidle io).2 with hnext | ⟨hnext, htimer⟩
    · obtain rfl : w = .idle := h.symm.trans hnext
      cases hw
    · obtain rfl : w = .waitOnConnect := h.symm.trans hnext
      cases hw
      refine .inr ⟨?_, htimer⟩
      rw [hidle]
      exact ClientState.noConfusion
  · rename_i hwait
    unfold doWaitOnConnect at h ⊢
    split at h
    · subst w
      cases hw
    · rename_i htimer
      split at h
      · rename_i hopen
        rw [if_neg htimer, if_pos hopen]
        exact .inl ⟨h, Nat.lt_of_not_le (of_decide_eq_false (Bool.eq_false_iff.mpr htimer)), rfl⟩
      · subst w
        cases hw
  · rename_i honline
    unfold doOnline at h ⊢
    split at h
    · rename_i hleaves
      obtain rfl : w = .waitOnDisconnect := h.symm
      cases hw
      rw [if_pos hleaves]
      refine .inr ⟨?_, rfl⟩
      rw [honline]
      exact ClientState.noConfusion
    · obtain rfl : w = .online := h.symm.trans honline
      cases hw
  · rename_i hwait
    unfold doWaitOnDisconnect at h ⊢
    split at h
    · subst w
      cases hw
    · rename_i htimer
      rw [if_neg htimer]
      refine .inl ⟨h, ?_, rfl⟩
      rw [Bool.or_eq_true, not_or] at htimer
      exact Nat.lt_of_not_le (of_decide_eq_false (Bool.eq_false_iff.mpr htimer.1))

theorem rest_waits {s : ClientSys P} {e : ClientEvent} (he : ¬ s.turns e) {w : ClientState}
    {n : Nat} (hw : w.waitLimit = some n) (h : (s.step e).clientState = w) :
    s.clientState = w ∧ (s.step e).clientTimer ≤ s.clientTimer := by
  have hkept : ∀ {t : ClientSys P}, t.clientState = s.clientState →
      t.clientTimer = s.clientTimer → t.clientState = w →
      s.clientState = w ∧ t.clientTimer ≤ s.clientTimer :=
    fun hstate htimer h => ⟨hstate.symm.trans h, Nat.le_of_eq htimer⟩
  by_cases hcontrol : isControl e = false
  · have hsame := quiet_control (s := s) hcontrol
    exact hkept hsame.clientState hsame.clientTimer h
  · cases e with
    | work elapsed io sent =>
      change ((s.tick elapsed).work io sent).clientState = w at h
      change s.clientState = w ∧ ((s.tick elapsed).work io sent).clientTimer ≤ s.clientTimer
      cases hphase : (s.tick elapsed).phase with
      | entry =>
        -- the task begins in the idle state
        rw [work_entry io sent hphase] at h
        subst w
        cases hw
      | check =>
        rw [work_check io sent hphase] at h ⊢
        split at h
        · rename_i hstop
          rw [if_pos hstop]
          exact hkept ((s.tick elapsed).leaveLoop_clientState io)
            ((s.tick elapsed).leaveLoop_time io).2 h
        · rename_i hstop
          rw [if_neg hstop]
          exact hkept rfl rfl h
      | body => exact absurd hphase he
      | draining polls =>
        rw [work_draining io sent hphase] at h ⊢
        split at h
        · rename_i hpolls
          rw [if_pos hpolls]
          exact hkept rfl rfl h
        · rename_i hpolls
          rw [if_neg hpolls]
          exact hkept rfl rfl h
      | exited =>
        rw [work_exited io sent hphase] at h ⊢
        exact hkept rfl rfl h
      | joined =>
        rw [work_joined io sent hphase] at h ⊢
        exact hkept rfl rfl h
    | start =>
      -- a new worker finds a timer that has run out
      change s.start.clientState = w at h
      change s.clientState = w ∧ s.start.clientTimer ≤ s.clientTimer
      unfold start at h ⊢
      split at h
      · rename_i hrunning
        rw [if_pos hrunning]
        exact ⟨h, Nat.le_refl _⟩
      · rename_i hrunning
        rw [if_neg hrunning]
        exact ⟨h, Nat.zero_le _⟩
    | stop => exact hkept rfl rfl h
    | stopReturns =>
      change s.stopReturns.clientState = w at h
      change s.clientState = w ∧ s.stopReturns.clientTimer ≤ s.clientTimer
      unfold stopReturns at h ⊢
      split at h
      · rename_i hjoined
        rw [if_pos hjoined]
        exact ⟨h, Nat.le_refl _⟩
      · rename_i hjoined
        rw [if_neg hjoined]
        exact ⟨h, Nat.le_refl _⟩
    | _ => exact absurd rfl hcontrol

theorem waitDeadline {w : ClientState} {n : Nat} (hw : w.waitLimit = some n) :
    Deadline (step (P := P)) (·.clientState = w) turns clock clientTimer n := by
  refine Deadline.of_states (fun s e he hafter => ?_) fun s e he hafter =>
    rest_waits he hw hafter
  cases e with
  | work elapsed io sent =>
    change s.phase = .body at he
    have hstep : s.step (.work elapsed io sent) =
        { (s.tick elapsed).stateStep io sent with phase := .check } :=
      work_body (s := s.tick elapsed) io sent he
    have hclock : (s.step (.work elapsed io sent)).clock = s.clock + elapsed := by
      rw [hstep]
      exact stateStep_clock io sent _
    rw [hclock]
    rw [hstep] at hafter ⊢
    exact stateStep_waits (s := s.tick elapsed) io sent hw hafter
  | _ => cases he

end ClientSys

/-- No worker outstays the deadline of a wait: five seconds for a reply or a disconnect, ten
for the connect reply of a host. -/
theorem waits_meet_deadlines (P : Platform) :
    (∀ w n, NodeState.waitLimit w = some n →
      WaitsAtMost (NodeSys.step (P := P)) (·.nodeState = w) NodeSys.turns NodeSys.clock n) ∧
    (∀ w n, WorkState.waitLimit w = some n →
      WaitsAtMost (HostSys.step (P := P)) (·.workState = w) HostSys.turns HostSys.clock n) ∧
    ∀ w n, ClientState.waitLimit w = some n →
      WaitsAtMost (ClientSys.step (P := P)) (·.clientState = w) ClientSys.turns
        ClientSys.clock n :=
  ⟨fun _ _ hw => .of_deadline (NodeSys.waitDeadline hw),
    fun _ _ hw => .of_deadline (HostSys.waitDeadline hw),
    fun _ _ hw => .of_deadline (ClientSys.waitDeadline hw)⟩

namespace WaitDeadlines

def idleNode : NodeSys Platform.reference :=
  run NodeSys.step (NodeSys.init 0 OnlineConnected.nodeSetup) [.start, .work 0 {}, .work 0 {}]

def idleHost : HostSys Platform.reference :=
  run HostSys.step (HostSys.init none 0 [.name (str "H")]) [.start {}, .work 0 {}, .work 0 {}]

def idleClient : ClientSys Platform.reference :=
  run ClientSys.step (ClientSys.init {}) [.start, .work 0 {} [], .work 0 {} []]

end WaitDeadlines

open WaitDeadlines in
/-- Each of the three waits for a connect reply that does not come; one hundred milliseconds
before the deadline its worker still waits. -/
theorem silent_broker_waits :
    (run NodeSys.step idleNode [.work 0 {}, .work 2000 {}, .work 2900 {}]).clock <
        (idleNode.step (.work 0 {})).clock + 5000 ∧
    (run HostSys.step idleHost [.work 0 {}, .work 2000 {}, .work 7900 {}]).clock <
        (idleHost.step (.work 0 {})).clock + 10000 ∧
    (run ClientSys.step idleClient [.work 0 {} [], .work 2000 {} [], .work 2900 {} []]).clock <
        (idleClient.step (.work 0 {} [])).clock + 5000 := by
  have h := waits_meet_deadlines .reference
  refine ⟨?_, ?_, ?_⟩
  · have hbody : (run NodeSys.step (idleNode.step (.work 0 {})) [.work 2000 {}]).phase = .body := by
      decide +kernel
    refine h.1 .waitOnConnect 5000 rfl idleNode (.work 0 {}) [.work 2000 {}, .work 2900 {}]
      (by decide +kernel) ?_ [.work 2000 {}] (.work 2900 {}) [] rfl hbody
    exact throughout_cons (by decide +kernel)
      (throughout_cons (by decide +kernel) (throughout_nil (by decide +kernel)))
  · have hbody : (run HostSys.step (idleHost.step (.work 0 {})) [.work 2000 {}]).phase = .body := by
      decide +kernel
    refine h.2.1 .waitOnConnect 10000 rfl idleHost (.work 0 {}) [.work 2000 {}, .work 7900 {}]
      (by decide +kernel) ?_ [.work 2000 {}] (.work 7900 {}) [] rfl hbody
    exact throughout_cons (by decide +kernel)
      (throughout_cons (by decide +kernel) (throughout_nil (by decide +kernel)))
  · have hbody : (run ClientSys.step (idleClient.step (.work 0 {} []))
        [.work 2000 {} []]).phase = .body := by
      decide +kernel
    refine h.2.2 .waitOnConnect 5000 rfl idleClient (.work 0 {} [])
      [.work 2000 {} [], .work 2900 {} []]
      (by decide +kernel) ?_ [.work 2000 {} []] (.work 2900 {} []) [] rfl hbody
    exact throughout_cons (by decide +kernel)
      (throughout_cons (by decide +kernel) (throughout_nil (by decide +kernel)))

end PubSub
