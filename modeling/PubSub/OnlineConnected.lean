import PubSub.NodeTask
import PubSub.HostTask
import PubSub.ClientTask
import PubSub.Shared.Worker
import PubSub.Reference

/-!
# Online and connected

The three workers after a loss of the connection and after a stop. None of the state
functions looks at the link while its client is online, and the code behind the loops
leaves the state as it is; the condition on a run speaks about the other reasons to
leave the online state.
-/

namespace PubSub
set_option autoImplicit false

namespace NodeSys
variable {P : Platform}

def isTurn (s : NodeSys P) : NodeEvent P → Bool
  | .work _ _ => decide (s.phase = .body)
  | _ => false

def loopEnds (s : NodeSys P) : NodeEvent P → Bool
  | .work _ _ => decide (s.phase = .check) && s.stopNodeTask
  | _ => false

def worker (P : Platform) : Worker (NodeSys P) (NodeEvent P) where
  step := step
  isOnline := isOnline
  isConnected := isConnected
  isLoss e := match e with
    | .connectionLost => true
    | _ => false
  stateStep := isTurn
  loopEnds := loopEnds
  stopReturned s := decide (s.phase = .joined)
  stays s := s.isOnline && !s.leaves

theorem disconnect_down (io : Outcomes) {s : NodeSys P} (h : Mqtt.isDown s.handle) :
    Mqtt.isDown (s.sendDisconnect io).handle := by
  rcases s.sendDisconnect_cases io with ⟨_, hs⟩ | hs
  · rw [hs]
    exact Mqtt.isDown_map (fun _ => .inl rfl) h
  · rw [hs]
    exact h

theorem leaveLoop_down (io : Outcomes) {s : NodeSys P} (h : Mqtt.isDown s.handle) :
    Mqtt.isDown (s.leaveLoop io).handle := by
  unfold leaveLoop
  split
  · dsimp only
    split
    · exact disconnect_down io h
    · exact h
  · exact Mqtt.isDown_none

theorem work_down (io : Outcomes) {s : NodeSys P} (hturn : s.phase ≠ .body)
    (h : Mqtt.isDown s.handle) : Mqtt.isDown (s.work io).handle := by
  cases hphase : s.phase with
  | entry =>
    rw [work_entry io hphase]
    exact Mqtt.isDown_none
  | check =>
    rw [work_check io hphase]
    split
    · exact leaveLoop_down io h
    · exact h
  | body => exact absurd hphase hturn
  | draining polls =>
    rw [work_draining io hphase]
    split
    · exact h
    · exact Mqtt.isDown_none
  | exited =>
    rw [work_exited io hphase]
    exact h
  | joined =>
    rw [work_joined io hphase]
    exact h

/-- Between two worker steps nothing brings the link up again. -/
theorem step_down {s : NodeSys P} {e : NodeEvent P} (hturn : s.isTurn e = false)
    (h : Mqtt.isDown s.handle) : Mqtt.isDown (s.step e).handle := by
  cases e with
  | work elapsed io => exact work_down io (s := s.tick elapsed) (by simpa [isTurn] using hturn) h
  | link event => exact Mqtt.isDown_link event h
  | connectionLost =>
    simp only [step, connectionLost]
    split
    · exact Mqtt.isDown_lose _
    · exact h
  | callback hasResponse version =>
    have hpop := Mqtt.isDown_map
      (f := fun g => { g with callbacks := g.callbacks.tail }) (fun _ => .inl rfl) h
    simp only [step, callback]
    split
    · exact h
    · split
      · exact hpop
      · exact hpop
  | message topicName body =>
    simp only [step, message]
    split
    · exact h
    · exact h
  | start =>
    simp only [step, start]
    split
    · exact h
    · split
      · exact h
      · exact h
  | stopReturns =>
    simp only [step, stopReturns]
    split
    · exact Mqtt.isDown_none
    · exact h
  | _ => exact h

theorem connectionLost_down {s : NodeSys P} (h : s.isConnected = true) :
    Mqtt.isDown s.connectionLost.handle := by
  simp only [connectionLost, h, if_true]
  exact Mqtt.isDown_lose _

theorem work_outside (io : Outcomes) {s : NodeSys P}
    (houtside : ¬ s.phase.inLoop = true → s.isOnline = false)
    (hends : s.phase = .check → s.stopNodeTask = true → s.isOnline = false)
    (hafter : ¬ (s.work io).phase.inLoop = true) : (s.work io).isOnline = false := by
  cases hphase : s.phase with
  | entry =>
    rw [work_entry io hphase]
    rfl
  | check =>
    rw [work_check io hphase] at hafter ⊢
    split
    · rename_i hstop
      have hoff := hends hphase hstop
      simpa [isOnline, leaveLoop_nodeState] using hoff
    · rename_i hstop
      rw [if_neg hstop] at hafter
      exact absurd rfl hafter
  | body =>
    rw [work_body io hphase] at hafter
    exact absurd rfl hafter
  | draining polls =>
    have hoff := houtside (Phase.not_inLoop_of_eq hphase rfl)
    rw [work_draining io hphase]
    split
    · exact hoff
    · exact hoff
  | exited =>
    rw [work_exited io hphase]
    exact houtside (Phase.not_inLoop_of_eq hphase rfl)
  | joined =>
    rw [work_joined io hphase]
    exact houtside (Phase.not_inLoop_of_eq hphase rfl)

/-- Outside the loop the node does not become online, and the loop ends in the state
that its condition saw. -/
theorem step_outside {s : NodeSys P} {e : NodeEvent P}
    (houtside : ¬ s.phase.inLoop = true → s.isOnline = false)
    (hends : s.loopEnds e = true → s.isOnline = false)
    (hafter : ¬ (s.step e).phase.inLoop = true) : (s.step e).isOnline = false := by
  cases hctl : e.isControl with
  | false =>
    have hsame := quiet_control (s := s) hctl
    rw [hsame.phase] at hafter
    rw [isOnline, hsame.nodeState]
    exact houtside hafter
  | true =>
    cases e with
    | work elapsed io =>
      apply work_outside io (s := s.tick elapsed) houtside ?_ hafter
      intro hphase hstop
      exact hends (by simpa [loopEnds] using And.intro hphase hstop)
    | start =>
      simp only [step, start] at hafter ⊢
      split
      · rename_i hrun
        rw [if_pos hrun] at hafter
        exact houtside hafter
      · rename_i hrun
        have hoff := houtside (Phase.not_inLoop (by simpa using hrun))
        split
        · exact hoff
        · exact hoff
    | stop => exact houtside hafter
    | stopReturns =>
      simp only [step, stopReturns] at hafter ⊢
      split
      · rename_i hstop
        have hoff := houtside (Phase.not_inLoop (by simp_all))
        exact hoff
      · rename_i hstop
        rw [if_neg hstop] at hafter
        exact houtside hafter
    | _ => cases hctl

/-- A worker step without a connection ends outside the online state, unless it is the
step of an online node that has no other reason to leave. -/
theorem stateStep_reacts (io : Outcomes) {s : NodeSys P} (hdown : s.isConnected = false)
    (hleaves : (s.isOnline && !s.leaves) = false) : (s.stateStep io).nodeState ≠ .online := by
  unfold stateStep
  split <;> rename_i hstate
  · rcases doIdle_cases io s with ⟨n, timer, handle, _, _, hs⟩ | ⟨_, hs⟩
    · rw [hs]
      simp [hstate]
    · rw [hs]
      simp
  · rcases doWaitOnConnect_cases s with ⟨_, hs | hs⟩ | ⟨hc, _⟩
    · rw [hs]
      simp [hstate]
    · rw [hs]
      simp
    · exact absurd (hdown.symm.trans hc) (by simp)
  · have hout : s.leaves = true := by simpa [isOnline, hstate] using hleaves
    simp [doOnline, hout]
  · unfold doWaitOnDisconnect
    split
    · simp
    · simp [hstate]

theorem worker_laws (P : Platform) :
    (worker P).Laws (fun s => Mqtt.isDown s.handle) (fun s => s.phase.inLoop = true) where
  step_down := step_down
  loss_down := by
    intro s e hloss hconn
    cases e with
    | connectionLost => exact connectionLost_down hconn
    | _ => cases hloss
  step_outside := step_outside
  stopped_outside := by
    intro s hstop
    have hphase : s.phase = .joined := by simpa [worker] using hstop
    simp [hphase, Phase.inLoop]
  reacts := by
    intro s e hdown hturn hleaves
    cases e with
    | work elapsed io =>
      have hphase : (s.tick elapsed).phase = .body := by simpa [worker, isTurn] using hturn
      have hstate := stateStep_reacts (s := s.tick elapsed) io
        (Mqtt.isConnected_of_isDown hdown) hleaves
      change ((s.tick elapsed).work io).isOnline = false
      rw [work_body io hphase]
      simpa [isOnline] using hstate
    | _ => cases hturn

end NodeSys

namespace HostSys
variable {P : Platform}

def isTurn (s : HostSys P) : HostEvent → Bool
  | .work _ _ => decide (s.phase = .body)
  | _ => false

def loopEnds (s : HostSys P) : HostEvent → Bool
  | .work _ _ => decide (s.phase = .check) && s.stopWorkTask
  | _ => false

/-- The state functions of the online and the offline state keep to the service flag. -/
def stays (s : HostSys P) : Bool :=
  (decide (s.workState = .online) || decide (s.workState = .offline)) &&
    !s.stopWorkTask && s.self.inService

def worker (P : Platform) : Worker (HostSys P) (HostEvent) where
  step := step
  isOnline := isOnline
  isConnected := isConnected
  isLoss e := match e with
    | .connectionLost => true
    | _ => false
  stateStep := isTurn
  loopEnds := loopEnds
  stopReturned s := decide (s.phase = .joined)
  stays := stays

theorem disconnect_down (io : Outcomes) {s : HostSys P} (h : Mqtt.isDown s.handle) :
    Mqtt.isDown (s.sendDisconnect io).handle := by
  rcases s.sendDisconnect_cases io with ⟨_, hs⟩ | hs
  · rw [hs]
    exact Mqtt.isDown_map (fun _ => .inl rfl) h
  · rw [hs]
    exact h

theorem leaveLoop_down (io : Outcomes) {s : HostSys P} (h : Mqtt.isDown s.handle) :
    Mqtt.isDown (s.leaveLoop io).handle := by
  unfold leaveLoop
  split
  · dsimp only
    split
    · exact disconnect_down io h
    · exact h
  · exact h

theorem work_down (io : Outcomes) {s : HostSys P} (hturn : s.phase ≠ .body)
    (h : Mqtt.isDown s.handle) : Mqtt.isDown (s.work io).handle := by
  cases hphase : s.phase with
  | entry =>
    rw [work_entry io hphase]
    exact h
  | check =>
    rw [work_check io hphase]
    split
    · exact leaveLoop_down io h
    · exact h
  | body => exact absurd hphase hturn
  | draining polls =>
    rw [work_draining io hphase]
    split
    · exact h
    · exact h
  | exited =>
    rw [work_exited io hphase]
    exact h
  | joined =>
    rw [work_joined io hphase]
    exact h

/-- Between two worker steps nothing brings the link up again. -/
theorem step_down {s : HostSys P} {e : HostEvent} (hturn : s.isTurn e = false)
    (h : Mqtt.isDown s.handle) : Mqtt.isDown (s.step e).handle := by
  cases e with
  | work elapsed io => exact work_down io (s := s.tick elapsed) (by simpa [isTurn] using hturn) h
  | link event => exact Mqtt.isDown_link event h
  | connectionLost =>
    simp only [step, connectionLost]
    split
    · exact Mqtt.isDown_lose _
    · exact h
  | callback hasResponse version =>
    have hpop := Mqtt.isDown_map
      (f := fun g => { g with callbacks := g.callbacks.tail }) (fun _ => .inl rfl) h
    simp only [step, callback]
    split
    · exact h
    · split
      · exact hpop
      · exact hpop
  | message topicName body =>
    simp only [step, message]
    split
    · exact h
    · exact h
  | start io =>
    simp only [step, start]
    split
    · exact h
    · split
      · exact h
      · exact Mqtt.isDown_fresh
      · exact Mqtt.isDown_fresh
  | stopReturns =>
    simp only [step, stopReturns]
    split
    · exact Mqtt.isDown_none
    · exact h
  | _ => exact h

theorem connectionLost_down {s : HostSys P} (h : s.isConnected = true) :
    Mqtt.isDown s.connectionLost.handle := by
  simp only [connectionLost, h, if_true]
  exact Mqtt.isDown_lose _

theorem work_outside (io : Outcomes) {s : HostSys P}
    (houtside : ¬ s.phase.inLoop = true → s.isOnline = false)
    (hends : s.phase = .check → s.stopWorkTask = true → s.isOnline = false)
    (hafter : ¬ (s.work io).phase.inLoop = true) : (s.work io).isOnline = false := by
  cases hphase : s.phase with
  | entry =>
    rw [work_entry io hphase]
    rfl
  | check =>
    rw [work_check io hphase] at hafter ⊢
    split
    · rename_i hstop
      have hoff := hends hphase hstop
      simpa [isOnline, leaveLoop_workState] using hoff
    · rename_i hstop
      rw [if_neg hstop] at hafter
      exact absurd rfl hafter
  | body =>
    rw [work_body io hphase] at hafter
    exact absurd rfl hafter
  | draining polls =>
    have hoff := houtside (Phase.not_inLoop_of_eq hphase rfl)
    rw [work_draining io hphase]
    split
    · exact hoff
    · exact hoff
  | exited =>
    rw [work_exited io hphase]
    exact houtside (Phase.not_inLoop_of_eq hphase rfl)
  | joined =>
    rw [work_joined io hphase]
    exact houtside (Phase.not_inLoop_of_eq hphase rfl)

/-- Outside the loop the host does not become online, and the loop ends in the state
that its condition saw. -/
theorem step_outside {s : HostSys P} {e : HostEvent}
    (houtside : ¬ s.phase.inLoop = true → s.isOnline = false)
    (hends : s.loopEnds e = true → s.isOnline = false)
    (hafter : ¬ (s.step e).phase.inLoop = true) : (s.step e).isOnline = false := by
  cases hctl : e.isControl with
  | false =>
    have hsame := quiet_control (s := s) hctl
    rw [hsame.phase] at hafter
    rw [isOnline, hsame.workState]
    exact houtside hafter
  | true =>
    cases e with
    | work elapsed io =>
      apply work_outside io (s := s.tick elapsed) houtside ?_ hafter
      intro hphase hstop
      exact hends (by simpa [loopEnds] using And.intro hphase hstop)
    | start io =>
      simp only [step, start] at hafter ⊢
      split
      · rename_i hrun
        rw [if_pos hrun] at hafter
        exact houtside hafter
      · rename_i hrun
        have hoff := houtside (Phase.not_inLoop (by simpa using hrun))
        split
        · exact hoff
        · exact hoff
        · exact hoff
    | stop => exact houtside hafter
    | stopReturns =>
      simp only [step, stopReturns] at hafter ⊢
      split
      · rename_i hstop
        have hoff := houtside (Phase.not_inLoop (by simp_all))
        exact hoff
      · rename_i hstop
        rw [if_neg hstop] at hafter
        exact houtside hafter
    | _ => cases hctl

/-- A worker step without a connection ends outside the online state, unless the host is
online or offline, is not stopped and is in service. -/
theorem stateStep_reacts (io : Outcomes) {s : HostSys P} (hdown : s.isConnected = false)
    (hleaves : s.stays = false) : (s.stateStep io).workState ≠ .online := by
  unfold stateStep
  split <;> rename_i hstate
  · exact doIdle_workState io s hstate
  · unfold doWaitOnConnect
    split
    · simp
    · simp [hdown, hstate]
  · unfold doOnline
    split
    · simp
    · split
      · simp
      · simp_all [stays]
  · unfold doOffline
    split
    · simp
    · split
      · simp_all [stays]
      · simp [hstate]
  · unfold doWaitOnDisconnect
    split
    · simp
    · simp [hstate]

theorem worker_laws (P : Platform) :
    (worker P).Laws (fun s => Mqtt.isDown s.handle) (fun s => s.phase.inLoop = true) where
  step_down := step_down
  loss_down := by
    intro s e hloss hconn
    cases e with
    | connectionLost => exact connectionLost_down hconn
    | _ => cases hloss
  step_outside := step_outside
  stopped_outside := by
    intro s hstop
    have hphase : s.phase = .joined := by simpa [worker] using hstop
    simp [hphase, Phase.inLoop]
  reacts := by
    intro s e hdown hturn hleaves
    cases e with
    | work elapsed io =>
      have hphase : (s.tick elapsed).phase = .body := by simpa [worker, isTurn] using hturn
      have hstate := stateStep_reacts (s := s.tick elapsed) io
        (Mqtt.isConnected_of_isDown hdown) hleaves
      change ((s.tick elapsed).work io).isOnline = false
      rw [work_body io hphase]
      simpa [isOnline] using hstate
    | _ => cases hturn

end HostSys

namespace ClientSys
variable {P : Platform}

def isTurn (s : ClientSys P) : ClientEvent → Bool
  | .work _ _ _ => decide (s.phase = .body)
  | _ => false

def loopEnds (s : ClientSys P) : ClientEvent → Bool
  | .work _ _ _ => decide (s.phase = .check) && s.stopClientTask
  | _ => false

/-- An online client looks at the stop flag and at the service flag only. -/
def stays (s : ClientSys P) : Bool :=
  s.isOnline && !(s.stopClientTask || !s.client.inService)

def worker (P : Platform) : Worker (ClientSys P) (ClientEvent) where
  step := step
  isOnline := isOnline
  isConnected := isConnected
  isLoss e := match e with
    | .connectionLost => true
    | _ => false
  stateStep := isTurn
  loopEnds := loopEnds
  stopReturned s := decide (s.phase = .joined)
  stays := stays

theorem disconnect_down (io : Outcomes) {s : ClientSys P} (h : Mqtt.isDown s.handle) :
    Mqtt.isDown (s.sendDisconnect io).handle := by
  rcases s.sendDisconnect_handle io with hs | hs
  · rw [hs]
    exact h
  · rw [hs]
    exact Mqtt.isDown_map (fun _ => .inl rfl) h

theorem leaveLoop_down (io : Outcomes) {s : ClientSys P} (h : Mqtt.isDown s.handle) :
    Mqtt.isDown (s.leaveLoop io).handle := by
  unfold leaveLoop
  split
  · dsimp only
    split
    · exact disconnect_down io h
    · exact h
  · exact Mqtt.isDown_none

theorem work_down (io : Outcomes) (sent : List Bool) {s : ClientSys P} (hturn : s.phase ≠ .body)
    (h : Mqtt.isDown s.handle) : Mqtt.isDown (s.work io sent).handle := by
  cases hphase : s.phase with
  | entry =>
    rw [work_entry io sent hphase]
    exact Mqtt.isDown_none
  | check =>
    rw [work_check io sent hphase]
    split
    · exact leaveLoop_down io h
    · exact h
  | body => exact absurd hphase hturn
  | draining polls =>
    rw [work_draining io sent hphase]
    split
    · exact h
    · exact Mqtt.isDown_none
  | exited =>
    rw [work_exited io sent hphase]
    exact h
  | joined =>
    rw [work_joined io sent hphase]
    exact h

/-- Between two worker steps nothing brings the link up again. -/
theorem step_down {s : ClientSys P} {e : ClientEvent} (hturn : s.isTurn e = false)
    (h : Mqtt.isDown s.handle) : Mqtt.isDown (s.step e).handle := by
  cases e with
  | work elapsed io sent =>
    exact work_down io sent (s := s.tick elapsed) (by simpa [isTurn] using hturn) h
  | link event => exact Mqtt.isDown_link event h
  | connectionLost =>
    simp only [step, connectionLost]
    split
    · exact Mqtt.isDown_lose _
    · exact h
  | callback hasResponse serverUri version =>
    have hpop := Mqtt.isDown_map
      (f := fun g => { g with callbacks := g.callbacks.tail }) (fun _ => .inl rfl) h
    simp only [step, callback]
    split
    · exact h
    · split
      · split
        · exact hpop
        · exact hpop
      · exact hpop
      · exact hpop
  | message topicName body qos retained =>
    simp only [step, message]
    split
    · exact h
    · exact h
  | start =>
    simp only [step, start]
    split
    · exact h
    · exact h
  | stopReturns =>
    simp only [step, stopReturns]
    split
    · exact Mqtt.isDown_none
    · exact h
  | _ => exact h

theorem connectionLost_down {s : ClientSys P} (h : s.isConnected = true) :
    Mqtt.isDown s.connectionLost.handle := by
  simp only [connectionLost, h, if_true]
  exact Mqtt.isDown_lose _

theorem work_outside (io : Outcomes) (sent : List Bool) {s : ClientSys P}
    (houtside : ¬ s.phase.inLoop = true → s.isOnline = false)
    (hends : s.phase = .check → s.stopClientTask = true → s.isOnline = false)
    (hafter : ¬ (s.work io sent).phase.inLoop = true) : (s.work io sent).isOnline = false := by
  cases hphase : s.phase with
  | entry =>
    rw [work_entry io sent hphase]
    rfl
  | check =>
    rw [work_check io sent hphase] at hafter ⊢
    split
    · rename_i hstop
      have hoff := hends hphase hstop
      simpa [isOnline, leaveLoop_clientState] using hoff
    · rename_i hstop
      rw [if_neg hstop] at hafter
      exact absurd rfl hafter
  | body =>
    rw [work_body io sent hphase] at hafter
    exact absurd rfl hafter
  | draining polls =>
    have hoff := houtside (Phase.not_inLoop_of_eq hphase rfl)
    rw [work_draining io sent hphase]
    split
    · exact hoff
    · exact hoff
  | exited =>
    rw [work_exited io sent hphase]
    exact houtside (Phase.not_inLoop_of_eq hphase rfl)
  | joined =>
    rw [work_joined io sent hphase]
    exact houtside (Phase.not_inLoop_of_eq hphase rfl)

/-- Outside the loop the client does not become online, and the loop ends in the state
that its condition saw. -/
theorem step_outside {s : ClientSys P} {e : ClientEvent}
    (houtside : ¬ s.phase.inLoop = true → s.isOnline = false)
    (hends : s.loopEnds e = true → s.isOnline = false)
    (hafter : ¬ (s.step e).phase.inLoop = true) : (s.step e).isOnline = false := by
  cases hctl : isControl e with
  | false =>
    have hsame := quiet_control (s := s) hctl
    rw [hsame.phase] at hafter
    rw [isOnline, hsame.clientState]
    exact houtside hafter
  | true =>
    cases e with
    | work elapsed io sent =>
      apply work_outside io sent (s := s.tick elapsed) houtside ?_ hafter
      intro hphase hstop
      exact hends (by simpa [loopEnds] using And.intro hphase hstop)
    | start =>
      simp only [step, start] at hafter ⊢
      split
      · rename_i hrun
        rw [if_pos hrun] at hafter
        exact houtside hafter
      · rename_i hrun
        exact houtside (Phase.not_inLoop (by simpa using hrun))
    | stop => exact houtside hafter
    | stopReturns =>
      simp only [step, stopReturns] at hafter ⊢
      split
      · rename_i hstop
        have hoff := houtside (Phase.not_inLoop (by simp_all))
        exact hoff
      · rename_i hstop
        rw [if_neg hstop] at hafter
        exact houtside hafter
    | _ => cases hctl

/-- A worker step without a connection ends outside the online state, unless it is the
step of an online client that is not stopped and in service. -/
theorem stateStep_reacts (io : Outcomes) (sent : List Bool) {s : ClientSys P}
    (hdown : s.isConnected = false) (hleaves : s.stays = false) :
    (s.stateStep io sent).clientState ≠ .online := by
  unfold stateStep
  split <;> rename_i hstate
  · exact doIdle_clientState io s hstate
  · unfold doWaitOnConnect
    split
    · simp
    · simp [hdown, hstate]
  · unfold doOnline
    split
    · simp
    · simp_all [stays, isOnline]
  · unfold doWaitOnDisconnect
    split
    · simp
    · simp [hstate]

theorem worker_laws (P : Platform) :
    (worker P).Laws (fun s => Mqtt.isDown s.handle) (fun s => s.phase.inLoop = true) where
  step_down := step_down
  loss_down := by
    intro s e hloss hconn
    cases e with
    | connectionLost => exact connectionLost_down hconn
    | _ => cases hloss
  step_outside := step_outside
  stopped_outside := by
    intro s hstop
    have hphase : s.phase = .joined := by simpa [worker] using hstop
    simp [hphase, Phase.inLoop]
  reacts := by
    intro s e hdown hturn hleaves
    cases e with
    | work elapsed io sent =>
      have hphase : (s.tick elapsed).phase = .body := by simpa [worker, isTurn] using hturn
      have hstate := stateStep_reacts (s := s.tick elapsed) io sent
        (Mqtt.isConnected_of_isDown hdown) hleaves
      change ((s.tick elapsed).work io sent).isOnline = false
      rw [work_body io sent hphase]
      simpa [isOnline] using hstate
    | _ => cases hturn

end ClientSys

/-- In every run in which the worker steps that follow a loss leave the online state for
another reason, and the loops do not end in that state, online means connected. -/
theorem online_means_connected (P : Platform) :
    (∀ now setups es,
      RunOk (NodeSys.worker P).track (NodeSys.worker P).Leaves (NodeSys.init now setups, false) es →
        (NodeSys.worker P).OnlineMeansConnected (NodeSys.init now setups) es) ∧
    (∀ hostName now setups es,
      RunOk (HostSys.worker P).track (HostSys.worker P).Leaves
          (HostSys.init hostName now setups, false) es →
        (HostSys.worker P).OnlineMeansConnected (HostSys.init hostName now setups) es) ∧
    (∀ client es,
      RunOk (ClientSys.worker P).track (ClientSys.worker P).Leaves
          (ClientSys.init client, false) es →
        (ClientSys.worker P).OnlineMeansConnected (ClientSys.init client) es) := by
  refine ⟨?_, ?_, ?_⟩
  · intro now setups es hok
    exact (NodeSys.worker_laws P).onlineMeansConnected (fun _ => rfl) hok
  · intro hostName now setups es hok
    exact (HostSys.worker_laws P).onlineMeansConnected (fun _ => rfl) hok
  · intro client es hok
    exact (ClientSys.worker_laws P).onlineMeansConnected (fun _ => rfl) hok

namespace OnlineConnected

/-- Start, connect, and two worker moves to the online state. -/
def nodeGoesOnline : List (NodeEvent Platform.reference) :=
  [.start, .work 0 {}, .work 0 {}, .work 0 {}, .link .accepted, .callback true .mqtt311,
    .work 0 {}, .work 0 {}]

def hostGoesOnline : List HostEvent :=
  [.start {}, .work 0 {}, .work 0 {}, .work 0 {}, .link .accepted, .callback true .mqtt311,
    .work 0 {}, .work 0 {}]

def clientGoesOnline : List ClientEvent :=
  [.start, .work 0 {} [], .work 0 {} [], .work 0 {} [], .link .accepted,
    .callback true [] .mqtt311, .work 0 {} [], .work 0 {} []]

def nodeSetup : List Setup := [.group (str "G"), .name (str "N")]

end OnlineConnected

open OnlineConnected in
/-- A run in which the clients are taken out of service before the loss. -/
theorem out_of_service_is_connected :
    (NodeSys.worker .reference).OnlineMeansConnected (NodeSys.init 0 nodeSetup)
      (nodeGoesOnline ++ [.inService false, .connectionLost, .work 0 {}, .work 0 {}, .stop,
        .work 0 {}, .stopReturns]) ∧
    (HostSys.worker .reference).OnlineMeansConnected (HostSys.init none 0 [.name (str "H")])
      (hostGoesOnline ++ [.inService false, .connectionLost, .work 0 {}, .work 0 {}, .stop,
        .work 0 {}, .stopReturns]) ∧
    (ClientSys.worker .reference).OnlineMeansConnected (ClientSys.init {})
      (clientGoesOnline ++ [.inService false, .connectionLost, .work 0 {} [], .work 0 {} [],
        .stop, .work 0 {} [], .stopReturns]) := by
  have h := online_means_connected .reference
  refine ⟨?_, ?_, ?_⟩
  · exact h.1 _ _ _ (by decide +kernel)
  · exact h.2.1 _ _ _ _ (by decide +kernel)
  · exact h.2.2 _ _ (by decide +kernel)

open OnlineConnected in
/-- The three clients are online, lose the connection, and take one more step. -/
theorem lost_connection_stays_online :
    ¬ (NodeSys.worker .reference).OnlineMeansConnected (NodeSys.init 0 nodeSetup)
      (nodeGoesOnline ++ [.connectionLost, .work 0 {}] ++ [.work 0 {}]) ∧
    ¬ (HostSys.worker .reference).OnlineMeansConnected (HostSys.init none 0 [.name (str "H")])
      (hostGoesOnline ++ [.connectionLost, .work 0 {}] ++ [.work 0 {}]) ∧
    ¬ (ClientSys.worker .reference).OnlineMeansConnected (ClientSys.init {})
      (clientGoesOnline ++ [.connectionLost, .work 0 {} []] ++ [.work 0 {} []]) := by
  refine ⟨?_, ?_, ?_⟩
  · intro h
    have hoff := h.2 _ _ [] rfl (by decide +kernel) (by decide +kernel)
    revert hoff
    decide +kernel
  · intro h
    have hoff := h.2 _ _ [] rfl (by decide +kernel) (by decide +kernel)
    revert hoff
    decide +kernel
  · intro h
    have hoff := h.2 _ _ [] rfl (by decide +kernel) (by decide +kernel)
    revert hoff
    decide +kernel

end PubSub
