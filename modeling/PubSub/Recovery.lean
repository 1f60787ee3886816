import PubSub.HostLink
import PubSub.HostWait
import PubSub.Shared.Recovery
import PubSub.StopEnds

/-!
# Which workers recover

The broker, the library, the incoming messages and the clock can bring a running client in
service online again, with one exception: the state functions do not look at the link of a client
that is online, so a client that has lost its connection there stays as it is.
-/

namespace PubSub
set_option autoImplicit false

/-- The worker moves, or something happens outside of the application. -/
def NodeEvent.isOutside {P : Platform} : NodeEvent P → Bool
  | .work _ _ | .link _ | .connectionLost | .callback _ _ | .message _ _ => true
  | _ => false

namespace NodeSys
variable {P : Platform}

def Works (s : NodeSys P) : Prop := s.nodeState = .online ∧ s.isConnected = true

/-- The worker keeps the node online, but the node has no connection. -/
structure Stranded (s : NodeSys P) : Prop where
  inLoop : s.phase.inLoop = true
  online : s.nodeState = .online
  stays : s.leaves = false
  down : Mqtt.isDown s.handle

theorem Stranded.isConnected {s : NodeSys P} (h : s.Stranded) : s.isConnected = false :=
  Mqtt.isConnected_of_isDown h.down

theorem receives_of_isDown {handle : Option MqttHandle} (h : Mqtt.isDown handle) :
    Mqtt.receives handle = false := by
  cases handle with
  | none => rfl
  | some g => simp [Mqtt.receives, h g rfl]

theorem Stranded.work {s : NodeSys P} (h : s.Stranded) (io : Outcomes) : (s.work io).Stranded := by
  have hloop := h.inLoop
  cases hphase : s.phase with
  | check =>
    have hstop : s.stopNodeTask = false := by
      have hstays := h.stays
      simp only [leaves, Bool.or_eq_false_iff] at hstays
      exact hstays.1.1
    rw [work_check io hphase, if_neg (by simp [hstop])]
    exact ⟨rfl, h.online, h.stays, h.down⟩
  | body =>
    have hpolls : s.stateStep io = s.pollDevices := by
      unfold stateStep
      rw [h.online]
      dsimp only
      unfold doOnline
      rw [h.stays, if_neg Bool.false_ne_true]
    rw [work_body io hphase, hpolls]
    exact ⟨rfl, h.online, h.stays, h.down⟩
  | _ => simp [hphase, Phase.inLoop] at hloop

/-- A node that is online without a connection stays so. -/
theorem isTrap_stranded :
    IsTrap (step (P := P)) (fun e => e.isOutside = true) Works Stranded where
  kept s e h he := by
    cases e with
    | work elapsed io =>
      have htick : (s.tick elapsed).Stranded := ⟨h.inLoop, h.online, h.stays, h.down⟩
      exact htick.work io
    | link event => exact ⟨h.inLoop, h.online, h.stays, Mqtt.isDown_link event h.down⟩
    | connectionLost =>
      change s.connectionLost.Stranded
      unfold connectionLost
      rw [h.isConnected, if_neg Bool.false_ne_true]
      exact h
    | callback hasResponse version =>
      have hpop : Mqtt.isDown (Mqtt.popCallback s.handle) :=
        Mqtt.isDown_map (fun _ => .inl rfl) h.down
      change (s.callback hasResponse version).Stranded
      unfold callback
      split
      · exact h
      · dsimp only
        split
        · exact ⟨h.inLoop, h.online, h.stays, hpop⟩
        · exact ⟨h.inLoop, h.online, h.stays, hpop⟩
    | message topicName body =>
      change (s.message topicName body).Stranded
      unfold message
      rw [receives_of_isDown h.down, if_neg Bool.false_ne_true]
      exact h
    | _ => cases he
  apart s h hworks := absurd (h.isConnected.symm.trans hworks.2) Bool.false_ne_true

/-- Some run of outside events brings the node online with a connection. -/
def CanWork (s : NodeSys P) : Prop := Recovers step (fun e => e.isOutside = true) Works s

theorem CanWork.after {s : NodeSys P} (e : NodeEvent P) (he : e.isOutside = true)
    (h : (s.step e).CanWork) : s.CanWork := Recovers.after e he h

theorem Works.canWork {s : NodeSys P} (h : s.Works) : s.CanWork := Recovers.here h

/-- What a connect needs of a node besides its state. -/
structure Able (s : NodeSys P) : Prop where
  notStopped : s.stopNodeTask = false
  inService : s.self.inService = true
  mayWake : (s.self.waitOnHostOnline && !s.receiver.isHostOnline) = false
  death : ∃ t, s.self.topicList.getTopicByMessageType (str "NDEATH") = some t

theorem canWork_of_body {s : NodeSys P} (hloop : s.phase.inLoop = true)
    (hstop : s.stopNodeTask = false) (h : CanWork { s with phase := .body }) : s.CanWork := by
  cases hphase : s.phase with
  | check =>
    have hwork : s.step (.work 0 {}) = { s with phase := .body } := by
      change (s.tick 0).work {} = _
      rw [work_check (s := s.tick 0) {} hphase, if_neg (by simp [hstop])]
      rfl
    apply CanWork.after (.work 0 {}) rfl
    rw [hwork]
    exact h
  | body =>
    have hsame : { s with phase := .body } = s := by
      rw [← hphase]
    rw [← hsame]
    exact h
  | _ => simp [hphase, Phase.inLoop] at hloop

theorem canWork_of_up {s : NodeSys P} (hphase : s.phase = .body)
    (hstate : s.nodeState = .waitOnConnect) (hup : s.isConnected = true) : s.CanWork := by
  apply CanWork.after (.work 0 {}) rfl
  apply Works.canWork
  change Works ((s.tick 0).work {})
  have htick : (s.tick 0).nodeState = .waitOnConnect := hstate
  rw [work_body (s := s.tick 0) {} hphase]
  unfold stateStep
  rw [htick]
  dsimp only
  rcases (s.tick 0).doWaitOnConnect_cases with ⟨hdown, -⟩ | ⟨-, h⟩
  · exact absurd (hdown.symm.trans hup) Bool.false_ne_true
  · rw [h]
    refine ⟨rfl, ?_⟩
    change Mqtt.isConnected (s.handle.map MqttHandle.subscribe) = true
    change Mqtt.isConnected s.handle = true at hup
    cases hhandle : s.handle with
    | none => simp [hhandle, Mqtt.isConnected] at hup
    | some g => simpa [hhandle, Mqtt.isConnected, MqttHandle.subscribe] using hup

theorem accepted_up {s : NodeSys P} (h : s.link = some .connecting) :
    (s.step (.link .accepted)).isConnected = true := by
  obtain ⟨g, hg, hlink⟩ := Option.map_eq_some_iff.mp h
  change Mqtt.isConnected (Mqtt.link .accepted s.handle) = true
  simp [hg, Mqtt.link, hlink, Mqtt.isConnected, MqttHandle.accept]

theorem canWork_of_link {s : NodeSys P} (hloop : s.phase.inLoop = true)
    (hstop : s.stopNodeTask = false) (hstate : s.nodeState = .waitOnConnect)
    (hlink : ¬ Mqtt.isDown s.handle) : s.CanWork := by
  apply canWork_of_body hloop hstop
  unfold Mqtt.isDown at hlink
  push Not at hlink
  obtain ⟨g, hg, hnot⟩ := hlink
  cases hl : g.link with
  | idle => exact absurd hl hnot
  | connecting =>
    apply CanWork.after (.link .accepted) rfl
    refine canWork_of_up rfl hstate (accepted_up ?_)
    change s.handle.map MqttHandle.link = some .connecting
    rw [hg, Option.map_some, hl]
  | up =>
    refine canWork_of_up rfl hstate ?_
    change Mqtt.isConnected s.handle = true
    simp [hg, Mqtt.isConnected, hl]

theorem Able.canWork_of_idle {s : NodeSys P} (h : s.Able) (hloop : s.phase.inLoop = true)
    (hstate : s.nodeState = .idle) : s.CanWork := by
  apply canWork_of_body hloop h.notStopped
  let body : NodeSys P := { s with phase := .body }
  let late := body.tick s.nodeTimer
  obtain ⟨t, ht⟩ := h.death
  have hmay : late.mayConnect = true := by
    have htimeout : late.timeout = true := decide_eq_true (Nat.le_add_left _ _)
    have hservice : late.self.inService = true := h.inService
    have hgate : (late.self.waitOnHostOnline && !late.receiver.isHostOnline) = false := h.mayWake
    unfold mayConnect
    rw [htimeout, hservice, hgate]
    rfl
  apply CanWork.after (.work s.nodeTimer {}) rfl
  change CanWork (late.work {})
  have hidle : late.stateStep {} = late.doIdle {} := by
    unfold stateStep
    rw [show late.nodeState = .idle from hstate]
  rw [work_body {} rfl, hidle, doIdle_connects hmay ht]
  refine canWork_of_link rfl h.notStopped rfl fun hdown => ?_
  exact Link.noConfusion (hdown _ rfl)

theorem Able.canWork_of_wait {s : NodeSys P} (h : s.Able) (hloop : s.phase.inLoop = true)
    (hwait : ∀ late : NodeSys P, late.nodeState = s.nodeState → late.handle = s.handle →
      late.timeout = true →
        late.stateStep {} = { late with nodeTimer := late.clock + 10000, nodeState := .idle }) :
    s.CanWork := by
  apply canWork_of_body hloop h.notStopped
  let body : NodeSys P := { s with phase := .body }
  let late := body.tick s.nodeTimer
  have htimeout : late.timeout = true := decide_eq_true (Nat.le_add_left _ _)
  apply CanWork.after (.work s.nodeTimer {}) rfl
  change CanWork (late.work {})
  rw [work_body {} rfl, hwait late rfl rfl htimeout]
  exact Able.canWork_of_idle ⟨h.notStopped, h.inService, h.mayWake, h.death⟩ rfl rfl

theorem Able.canWork_of_inLoop {s : NodeSys P} (h : s.Able) (hloop : s.phase.inLoop = true)
    (hnot : ¬ s.Stranded) : s.CanWork := by
  cases hstate : s.nodeState with
  | idle => exact h.canWork_of_idle hloop hstate
  | waitOnConnect =>
    by_cases hdown : Mqtt.isDown s.handle
    · apply h.canWork_of_wait hloop
      intro late hlate hhandle htimeout
      have hdisconnected : late.isConnected = false :=
        Mqtt.isConnected_of_isDown (hhandle ▸ hdown)
      unfold stateStep
      rw [hlate, hstate]
      simp [doWaitOnConnect, htimeout, hdisconnected]
    · exact canWork_of_link hloop h.notStopped hstate hdown
  | online =>
    have hstays : s.leaves = false := by
      unfold leaves
      rw [h.notStopped, h.inService, h.mayWake]
      rfl
    have hlink : ¬ Mqtt.isDown s.handle := fun hdown => hnot ⟨hloop, hstate, hstays, hdown⟩
    unfold Mqtt.isDown at hlink
    push Not at hlink
    obtain ⟨g, hg, hup⟩ := hlink
    cases hl : g.link with
    | idle => exact absurd hl hup
    | connecting =>
      apply CanWork.after (.link .accepted) rfl
      refine Works.canWork ⟨hstate, accepted_up ?_⟩
      rw [link, hg, Option.map_some, hl]
    | up =>
      refine Works.canWork ⟨hstate, ?_⟩
      change Mqtt.isConnected s.handle = true
      simp [hg, Mqtt.isConnected, hl]
  | waitOnDisconnect =>
    apply h.canWork_of_wait hloop
    intro late hlate _ htimeout
    unfold stateStep
    rw [hlate, hstate]
    simp [doWaitOnDisconnect, htimeout]

/-- A started node that nothing holds back recovers unless it is stranded. -/
theorem Reachable.canWork_iff {s : NodeSys P} (h : s.Reachable) (hstarted : s.Started)
    (hwake : (s.self.waitOnHostOnline && !s.receiver.isHostOnline) = false) :
    s.CanWork ↔ ¬ s.Stranded := by
  obtain ⟨birth, death, howns⟩ := h.owns
  have hable : s.Able :=
    ⟨hstarted.notStopped, hstarted.inService, hwake, death, howns.self.findDeath⟩
  refine isTrap_stranded.recovers_iff fun hnot => ?_
  by_cases hentry : s.phase = .entry
  · apply CanWork.after (.work 0 {}) rfl
    change CanWork ((s.tick 0).work {})
    rw [work_entry (s := s.tick 0) {} hentry]
    exact Able.canWork_of_idle ⟨hable.notStopped, hable.inService, hable.mayWake, hable.death⟩
      rfl rfl
  · exact hable.canWork_of_inLoop (inLoop_of_running h.placed hstarted hentry) hnot

end NodeSys

def HostEvent.isOutside : HostEvent → Bool
  | .work _ _ | .link _ | .connectionLost | .callback _ _ | .message _ _ => true
  | _ => false

namespace HostSys
variable {P : Platform}

def Works (s : HostSys P) : Prop := s.workState = .online ∧ s.isConnected = true

/-- The worker keeps the host online or puts it online, but the host has no connection. -/
structure Stranded (s : HostSys P) : Prop where
  inLoop : s.phase.inLoop = true
  settled : s.workState.isSettled = true
  notStopped : s.stopWorkTask = false
  inService : s.self.inService = true
  down : Mqtt.isDown s.handle

theorem Stranded.isConnected {s : HostSys P} (h : s.Stranded) : s.isConnected = false :=
  Mqtt.isConnected_of_isDown h.down

theorem publishState_inService (online : Bool) (s : HostSys P) :
    (s.publishState online).self.inService = s.self.inService := by
  change (SparkplugHost.publishState online s.self).1.inService = _
  unfold SparkplugHost.publishState
  split
  · rfl
  · rfl

theorem Stranded.work {s : HostSys P} (h : s.Stranded) (io : Outcomes) : (s.work io).Stranded := by
  have hloop := h.inLoop
  cases hphase : s.phase with
  | check =>
    rw [work_check io hphase, if_neg (by simp [h.notStopped])]
    exact ⟨rfl, h.settled, h.notStopped, h.inService, h.down⟩
  | body =>
    rw [work_body io hphase]
    unfold stateStep
    cases hstate : s.workState with
    | online =>
      dsimp only
      unfold doOnline
      rw [if_neg (by simp [h.notStopped]), if_neg (by simp [h.inService])]
      exact ⟨rfl, h.settled, h.notStopped, h.inService, h.down⟩
    | offline =>
      dsimp only
      unfold doOffline
      rw [if_neg (by simp [h.notStopped]), if_pos h.inService]
      exact ⟨rfl, rfl, h.notStopped, (s.publishState_inService true).trans h.inService, h.down⟩
    | _ =>
      have hsettled := h.settled
      rw [hstate] at hsettled
      cases hsettled
  | _ => simp [hphase, Phase.inLoop] at hloop

/-- A host that has announced its state and has no connection stays without one. -/
theorem isTrap_stranded :
    IsTrap (step (P := P)) (fun e => e.isOutside = true) Works Stranded where
  kept s e h he := by
    cases e with
    | work elapsed io =>
      have htick : (s.tick elapsed).Stranded :=
        ⟨h.inLoop, h.settled, h.notStopped, h.inService, h.down⟩
      exact htick.work io
    | link event =>
      exact ⟨h.inLoop, h.settled, h.notStopped, h.inService, Mqtt.isDown_link event h.down⟩
    | connectionLost =>
      change s.connectionLost.Stranded
      unfold connectionLost
      rw [h.isConnected, if_neg Bool.false_ne_true]
      exact h
    | callback hasResponse version =>
      have hpop : Mqtt.isDown (Mqtt.popCallback s.handle) :=
        Mqtt.isDown_map (fun _ => .inl rfl) h.down
      change (s.callback hasResponse version).Stranded
      unfold callback
      split
      · exact h
      · dsimp only
        split
        · exact ⟨h.inLoop, h.settled, h.notStopped, h.inService, hpop⟩
        · exact ⟨h.inLoop, h.settled, h.notStopped, h.inService, hpop⟩
    | message topicName body =>
      change (s.message topicName body).Stranded
      unfold message
      rw [NodeSys.receives_of_isDown h.down, if_neg Bool.false_ne_true]
      exact h
    | _ => cases he
  apart s h hworks := absurd (h.isConnected.symm.trans hworks.2) Bool.false_ne_true

/-- A worker that runs has a handle, and one that drains was told to stop. -/
structure Equipped (s : HostSys P) : Prop where
  handle : s.phase.isRunning = true → s.handle.isSome = true
  draining : ∀ polls, s.phase = .draining polls → s.stopWorkTask = true

theorem Equipped.of_same {s t : HostSys P} (h : s.Equipped) (hphase : t.phase = s.phase)
    (hhandle : t.handle.isSome = s.handle.isSome)
    (hstop : s.stopWorkTask = true → t.stopWorkTask = true) : t.Equipped where
  handle hrunning := hhandle.trans (h.handle (hphase ▸ hrunning))
  draining polls hdraining := hstop (h.draining polls (hphase ▸ hdraining))

theorem sendDisconnect_isSome (io : Outcomes) (s : HostSys P) :
    (s.sendDisconnect io).handle.isSome = s.handle.isSome := by
  rcases s.sendDisconnect_cases io with ⟨-, h⟩ | h
  · rw [h]
    exact Option.isSome_map
  · rw [h]

theorem sendConnect_isSome (io : Outcomes) (s : HostSys P) :
    (s.sendConnect io).1.handle.isSome = s.handle.isSome := by
  unfold sendConnect
  split
  · rfl
  · dsimp only
    split
    · exact Option.isSome_map
    · rfl

theorem stateStep_isSome (io : Outcomes) (s : HostSys P) :
    (s.stateStep io).handle.isSome = s.handle.isSome := by
  unfold stateStep
  split
  · unfold doIdle
    split
    · rfl
    · dsimp only
      split
      · exact sendConnect_isSome io _
      · exact sendConnect_isSome io _
  · unfold doWaitOnConnect
    split
    · rfl
    · split
      · rfl
      · split
        · rfl
        · dsimp only
          split
          · exact Option.isSome_map
          · exact Option.isSome_map
  · unfold doOnline
    split
    · exact sendDisconnect_isSome io _
    · split
      · rfl
      · rfl
  · unfold doOffline
    split
    · exact sendDisconnect_isSome io _
    · split
      · rfl
      · rfl
  · unfold doWaitOnDisconnect
    split
    · rfl
    · rfl

theorem Equipped.work {s : HostSys P} (h : s.Equipped) (io : Outcomes) : (s.work io).Equipped := by
  cases hphase : s.phase with
  | entry =>
    rw [work_entry io hphase]
    exact ⟨fun _ => h.handle (hphase ▸ rfl), nofun⟩
  | check =>
    rw [work_check io hphase]
    have hhandle := h.handle (hphase ▸ rfl)
    split
    · rename_i hstop
      unfold leaveLoop
      split
      · dsimp only
        split
        · exact ⟨fun _ => (sendDisconnect_isSome io s).trans hhandle,
            fun _ _ => (s.sendDisconnect_stop io).1.trans hstop⟩
        · exact ⟨fun _ => hhandle, fun _ _ => hstop⟩
      · exact ⟨nofun, nofun⟩
    · exact ⟨fun _ => hhandle, nofun⟩
  | body =>
    rw [work_body io hphase]
    exact ⟨fun _ => (stateStep_isSome io s).trans (h.handle (hphase ▸ rfl)), nofun⟩
  | draining polls =>
    rw [work_draining io hphase]
    split
    · exact ⟨fun _ => h.handle (hphase ▸ rfl), fun _ _ => h.draining polls hphase⟩
    · exact ⟨nofun, nofun⟩
  | exited =>
    rw [work_exited io hphase]
    exact h
  | joined =>
    rw [work_joined io hphase]
    exact h

theorem equipped_step {s : HostSys P} (h : s.Equipped) (e : HostEvent) : (s.step e).Equipped := by
  cases e with
  | work elapsed io =>
    have htick : (s.tick elapsed).Equipped := h.of_same rfl rfl id
    exact htick.work io
  | link event => exact h.of_same rfl Option.isSome_map id
  | connectionLost =>
    change s.connectionLost.Equipped
    unfold connectionLost
    split
    · exact h.of_same rfl Option.isSome_map id
    · exact h
  | callback hasResponse version =>
    change (s.callback hasResponse version).Equipped
    unfold callback
    split
    · exact h
    · dsimp only
      split
      · exact h.of_same rfl Option.isSome_map id
      · exact h.of_same rfl Option.isSome_map id
  | message topicName body =>
    change (s.message topicName body).Equipped
    unfold message
    split
    · exact h.of_same rfl rfl id
    · exact h
  | start io =>
    change (s.start io).Equipped
    unfold start
    split
    · exact h
    · rename_i hended
      dsimp only
      split
      · exact h.of_same rfl rfl id
      · exact ⟨fun _ => rfl, fun polls hdraining => h.draining polls hdraining⟩
      · exact ⟨fun _ => rfl, nofun⟩
  | stop => exact h.of_same rfl rfl fun _ => rfl
  | stopReturns =>
    change s.stopReturns.Equipped
    unfold stopReturns
    split
    · exact ⟨nofun, nofun⟩
    · exact h
  | inService on => exact h.of_same rfl rfl id

def CanWork (s : HostSys P) : Prop := Recovers step (fun e => e.isOutside = true) Works s

theorem CanWork.after {s : HostSys P} (e : HostEvent) (he : e.isOutside = true)
    (h : (s.step e).CanWork) : s.CanWork := Recovers.after e he h

theorem Works.canWork {s : HostSys P} (h : s.Works) : s.CanWork := Recovers.here h

/-- What a connect needs of a host besides its state. -/
structure Able (s : HostSys P) : Prop where
  notStopped : s.stopWorkTask = false
  inService : s.self.inService = true
  handle : s.handle.isSome = true
  state : ∃ t, s.Owns t

theorem canWork_of_body {s : HostSys P} (hloop : s.phase.inLoop = true)
    (hstop : s.stopWorkTask = false) (h : CanWork { s with phase := .body }) : s.CanWork := by
  cases hphase : s.phase with
  | check =>
    have hwork : s.step (.work 0 {}) = { s with phase := .body } := by
      change (s.tick 0).work {} = _
      rw [work_check (s := s.tick 0) {} hphase, if_neg (by simp [hstop])]
      rfl
    apply CanWork.after (.work 0 {}) rfl
    rw [hwork]
    exact h
  | body =>
    have hsame : { s with phase := .body } = s := by
      rw [← hphase]
    rw [← hsame]
    exact h
  | _ => simp [hphase, Phase.inLoop] at hloop

theorem Able.canWork_of_reply {s : HostSys P} (h : s.Able) (hloop : s.phase.inLoop = true)
    (hstate : s.workState = .waitOnConnect) (htime : s.timeout = false)
    (hup : s.isConnected = true) (hdelivered : s.delivered = true) : s.CanWork := by
  apply canWork_of_body hloop h.notStopped
  apply CanWork.after (.work 0 {}) rfl
  apply Works.canWork
  obtain ⟨t, ht⟩ := h.state
  let body : HostSys P := { s with phase := .body }
  change Works ((body.tick 0).work {})
  have hwaits : (body.tick 0).workState = .waitOnConnect := hstate
  have htimeout : (body.tick 0).timeout = false := htime
  have hconnected : (body.tick 0).isConnected = true := hup
  have hreplied : (body.tick 0).delivered = true := hdelivered
  have hfind : (body.tick 0).self.topicList.getTopicByMessageType (str "STATE") = some t :=
    ht.self.find
  have hservice : ((body.tick 0).connectReplied t).self.inService = true := h.inService
  rw [work_body {} rfl]
  unfold stateStep
  rw [hwaits]
  dsimp only
  unfold doWaitOnConnect
  rw [htimeout, hconnected, hreplied, hfind]
  dsimp only
  rw [if_neg Bool.false_ne_true, if_neg (by decide), if_pos hservice]
  refine ⟨rfl, ?_⟩
  change Mqtt.isConnected (s.handle.map MqttHandle.subscribe) = true
  change Mqtt.isConnected s.handle = true at hup
  cases hhandle : s.handle with
  | none => simp [hhandle, Mqtt.isConnected] at hup
  | some g => simpa [hhandle, Mqtt.isConnected, MqttHandle.subscribe] using hup

theorem Able.canWork_of_callback {s : HostSys P} (h : s.Able) (hloop : s.phase.inLoop = true)
    (hstate : s.workState = .waitOnConnect) (htime : s.timeout = false) {g : MqttHandle}
    (hhandle : s.handle = some g) (hup : g.link = .up) {response : Callback}
    {rest : List Callback} (hcallbacks : g.callbacks = response :: rest) : s.CanWork := by
  apply CanWork.after (.callback true .mqtt311) rfl
  have hnext : Mqtt.nextCallback s.handle = some response := by
    simp [Mqtt.nextCallback, hhandle, hcallbacks]
  have hconnected : Mqtt.isConnected (Mqtt.popCallback s.handle) = true := by
    simp [Mqtt.popCallback, hhandle, Mqtt.isConnected, hup]
  have hsome : (Mqtt.popCallback s.handle).isSome = true :=
    Option.isSome_map.trans h.handle
  have hdelivered : (s.delivered || true) = true := Bool.or_true _
  obtain ⟨t, ht⟩ := h.state
  change CanWork (s.callback true .mqtt311)
  unfold callback
  rw [hnext]
  dsimp only
  split
  · exact canWork_of_reply
      ⟨h.notStopped, h.inService, hsome, t, ht.of_same rfl rfl fun _ => h.handle⟩ hloop hstate
      htime hconnected hdelivered
  · exact canWork_of_reply
      ⟨h.notStopped, h.inService, hsome, t, ht.of_same rfl rfl fun _ => h.handle⟩ hloop hstate
      htime hconnected hdelivered

theorem Able.canWork_of_connecting {s : HostSys P} (h : s.Able) (hloop : s.phase.inLoop = true)
    (hstate : s.workState = .waitOnConnect) (htime : s.timeout = false)
    (hlink : s.link = some .connecting) : s.CanWork := by
  obtain ⟨g, hg, hconnecting⟩ := Option.map_eq_some_iff.mp hlink
  apply CanWork.after (.link .accepted) rfl
  have hhandle : (s.linkEvent .accepted).handle = some g.accept := by
    simp [linkEvent, hg, Mqtt.link, hconnecting]
  obtain ⟨t, ht⟩ := h.state
  have hable : (s.linkEvent .accepted).Able :=
    ⟨h.notStopped, h.inService, hhandle ▸ rfl, t, ht.of_same rfl rfl fun _ => h.handle⟩
  cases hcallbacks : g.callbacks ++ [Callback.connect true] with
  | nil => exact absurd hcallbacks (List.append_ne_nil_of_right_ne_nil _ (List.cons_ne_nil _ _))
  | cons response rest =>
    exact hable.canWork_of_callback hloop hstate htime hhandle rfl hcallbacks

/-- What `SendConnect` leaves of a host. -/
theorem Able.sendConnect {s : HostSys P} (h : s.Able) :
    ∃ n, s.sendConnect {} = ({ s.withSelf n with
        delivered := false
        handle := s.handle.map MqttHandle.connect }, true) ∧
      Able { s.withSelf n with
        delivered := false
        handle := s.handle.map MqttHandle.connect } := by
  obtain ⟨t, ht⟩ := h.state
  have hsome : (s.handle.map MqttHandle.connect).isSome = true := Option.isSome_map.trans h.handle
  have howns := owns_sendConnect ht ht.publish {}
  refine ⟨{ SparkplugHost.generateWill s.self with connectionLost := false }, ?_, ?_⟩
  · unfold HostSys.sendConnect
    rw [ht.self.find]
    rfl
  · unfold HostSys.sendConnect at howns
    rw [ht.self.find] at howns
    exact ⟨h.notStopped, h.inService, hsome, howns⟩

/-- The retry timer of an idle host without a connection runs out. -/
theorem Able.canWork_of_idle_down {s : HostSys P} (h : s.Able) (hloop : s.phase.inLoop = true)
    (hstate : s.workState = .idle) (hlink : s.link ≠ some .up) : s.CanWork := by
  apply canWork_of_body hloop h.notStopped
  let body : HostSys P := { s with phase := .body }
  let late := body.tick s.hostTimer
  have htimeout : late.timeout = true := decide_eq_true (Nat.le_add_left _ _)
  have hidle : late.workState = .idle := hstate
  obtain ⟨t, ht⟩ := h.state
  have hwaiting : Able { late with hostTimer := late.clock + 10000, workState := .waitOnConnect } :=
    ⟨h.notStopped, h.inService, h.handle, t, ht.of_same rfl rfl id⟩
  obtain ⟨n, hsent, hable⟩ := hwaiting.sendConnect
  apply CanWork.after (.work s.hostTimer {}) rfl
  change CanWork (late.work {})
  rw [work_body {} rfl]
  unfold stateStep
  rw [hidle]
  dsimp only
  unfold doIdle
  rw [htimeout, if_neg (by decide)]
  dsimp only
  rw [hsent, if_pos rfl]
  have hkept : Able { HostSys.withSelf n late with
      hostTimer := late.clock + 10000
      workState := .waitOnConnect
      delivered := false
      handle := s.handle.map MqttHandle.connect
      phase := .check } := by
    obtain ⟨u, hu⟩ := hable.state
    exact ⟨h.notStopped, hable.inService, hable.handle, u, hu.of_same rfl rfl id⟩
  refine hkept.canWork_of_connecting rfl rfl ?_ ?_
  · exact decide_eq_false (Nat.not_le_of_lt (Nat.lt_add_of_pos_right (by decide)))
  · obtain ⟨g, hg⟩ := Option.isSome_iff_exists.mp h.handle
    change (s.handle.map MqttHandle.connect).map MqttHandle.link = _
    rw [hg, Option.map_some, Option.map_some]
    unfold MqttHandle.connect
    split
    · rfl
    · rename_i hnot
      rw [link, hg, Option.map_some] at hlink
      cases hl : g.link with
      | idle => exact absurd hl hnot
      | connecting => rfl
      | up => exact absurd (congrArg some hl) hlink

/-- An idle host that still has a connection loses it first. -/
theorem Able.canWork_of_idle {s : HostSys P} (h : s.Able) (hloop : s.phase.inLoop = true)
    (hstate : s.workState = .idle) : s.CanWork := by
  by_cases hup : s.link = some .up
  · obtain ⟨g, hg, -⟩ := Option.map_eq_some_iff.mp hup
    obtain ⟨t, ht⟩ := h.state
    have hlost : s.connectionLost =
        { s with handle := Mqtt.lose s.handle }.setConnectionLost true :=
      if_pos ((isConnected_iff s).mpr hup)
    have hsome : s.connectionLost.handle.isSome = true := by
      rw [hlost]
      exact Option.isSome_map.trans h.handle
    apply CanWork.after .connectionLost rfl
    change CanWork s.connectionLost
    have hable : s.connectionLost.Able := by
      rw [hlost] at hsome ⊢
      exact ⟨h.notStopped, h.inService, hsome, t, ht.of_same rfl rfl fun _ => h.handle⟩
    have hdown : s.connectionLost.link ≠ some .up := by
      rw [hlost]
      change (Mqtt.lose s.handle).map MqttHandle.link ≠ _
      rw [hg]
      exact fun heq => Link.noConfusion (Option.some.inj heq)
    refine hable.canWork_of_idle_down ?_ ?_ hdown
    · rw [hlost]
      exact hloop
    · rw [hlost]
      exact hstate
  · exact h.canWork_of_idle_down hloop hstate hup

theorem Able.canWork_of_wait {s : HostSys P} (h : s.Able) (hloop : s.phase.inLoop = true)
    (hwait : ∀ late : HostSys P, late.workState = s.workState → late.timeout = true →
      late.stateStep {} = { late with hostTimer := late.clock + 10000, workState := .idle }) :
    s.CanWork := by
  apply canWork_of_body hloop h.notStopped
  let body : HostSys P := { s with phase := .body }
  let late := body.tick s.hostTimer
  have htimeout : late.timeout = true := decide_eq_true (Nat.le_add_left _ _)
  obtain ⟨t, ht⟩ := h.state
  apply CanWork.after (.work s.hostTimer {}) rfl
  change CanWork (late.work {})
  rw [work_body {} rfl, hwait late rfl htimeout]
  exact Able.canWork_of_idle
    ⟨h.notStopped, h.inService, h.handle, t, ht.of_same rfl rfl id⟩ rfl rfl

/-- A host that is offline with a connection is put online. -/
theorem Able.canWork_of_offline {s : HostSys P} (h : s.Able) (hloop : s.phase.inLoop = true)
    (hstate : s.workState = .offline) (hup : s.isConnected = true) : s.CanWork := by
  apply canWork_of_body hloop h.notStopped
  apply CanWork.after (.work 0 {}) rfl
  apply Works.canWork
  let body : HostSys P := { s with phase := .body }
  have hoffline : (body.tick 0).workState = .offline := hstate
  have hstop : (body.tick 0).stopWorkTask = false := h.notStopped
  have hservice : (body.tick 0).self.inService = true := h.inService
  change Works ((body.tick 0).work {})
  rw [work_body {} rfl]
  unfold stateStep
  rw [hoffline]
  dsimp only
  unfold doOffline
  rw [if_neg (hstop ▸ Bool.false_ne_true), if_pos hservice]
  exact ⟨rfl, hup⟩

theorem Able.canWork_of_settled {s : HostSys P} (h : s.Able) (hloop : s.phase.inLoop = true)
    (hsettled : s.workState.isSettled = true) (hup : s.isConnected = true) : s.CanWork := by
  cases hstate : s.workState with
  | online => exact Works.canWork ⟨hstate, hup⟩
  | offline => exact h.canWork_of_offline hloop hstate hup
  | _ =>
    rw [hstate] at hsettled
    cases hsettled

theorem Able.canWork_of_inLoop {s : HostSys P} (h : s.Able) (hloop : s.phase.inLoop = true)
    (hnot : ¬ s.Stranded) : s.CanWork := by
  by_cases hsettled : s.workState.isSettled = true
  · have hlink : ¬ Mqtt.isDown s.handle :=
      fun hdown => hnot ⟨hloop, hsettled, h.notStopped, h.inService, hdown⟩
    unfold Mqtt.isDown at hlink
    push Not at hlink
    obtain ⟨g, hg, hup⟩ := hlink
    cases hl : g.link with
    | idle => exact absurd hl hup
    | up =>
      refine h.canWork_of_settled hloop hsettled ?_
      change Mqtt.isConnected s.handle = true
      simp [hg, Mqtt.isConnected, hl]
    | connecting =>
      obtain ⟨t, ht⟩ := h.state
      have hhandle : (s.linkEvent .accepted).handle = some g.accept := by
        simp [linkEvent, hg, Mqtt.link, hl]
      have hable : (s.linkEvent .accepted).Able :=
        ⟨h.notStopped, h.inService, hhandle ▸ rfl, t, ht.of_same rfl rfl fun _ => h.handle⟩
      apply CanWork.after (.link .accepted) rfl
      refine hable.canWork_of_settled hloop hsettled ?_
      change Mqtt.isConnected (s.linkEvent .accepted).handle = true
      rw [hhandle]
      rfl
  · cases hstate : s.workState with
    | idle => exact h.canWork_of_idle hloop hstate
    | waitOnConnect =>
      apply h.canWork_of_wait hloop
      intro late hlate htimeout
      unfold stateStep
      rw [hlate, hstate]
      dsimp only
      unfold doWaitOnConnect
      rw [htimeout, if_pos rfl]
    | waitOnDisconnect =>
      apply h.canWork_of_wait hloop
      intro late hlate htimeout
      unfold stateStep
      rw [hlate, hstate]
      dsimp only
      unfold doWaitOnDisconnect
      rw [htimeout]
      rfl
    | _ =>
      rw [hstate] at hsettled
      exact absurd rfl hsettled

/-- The worker of the host runs, nobody asked it to stop, and the host is in service. -/
structure Started (s : HostSys P) : Prop where
  running : s.phase.isRunning = true
  notStopped : s.stopWorkTask = false
  inService : s.self.inService = true

/-- A started host recovers unless it is stranded. -/
theorem canWork_iff {s : HostSys P} {state : Topic P} (h : s.Owns state) (hequipped : s.Equipped)
    (hstarted : s.Started) : s.CanWork ↔ ¬ s.Stranded := by
  have hable : s.Able :=
    ⟨hstarted.notStopped, hstarted.inService, hequipped.handle hstarted.running, state, h⟩
  refine isTrap_stranded.recovers_iff fun hnot => ?_
  cases hphase : s.phase with
  | entry =>
    apply CanWork.after (.work 0 {}) rfl
    change CanWork ((s.tick 0).work {})
    rw [work_entry (s := s.tick 0) {} hphase]
    exact Able.canWork_of_idle
      ⟨hable.notStopped, hable.inService, hable.handle, state, h.of_same rfl rfl id⟩ rfl rfl
  | check => exact hable.canWork_of_inLoop (hphase ▸ rfl) hnot
  | body => exact hable.canWork_of_inLoop (hphase ▸ rfl) hnot
  | draining polls =>
    have hstop := hequipped.draining polls hphase
    exact absurd (hstarted.notStopped.symm.trans hstop) Bool.false_ne_true
  | _ =>
    have hrunning := hstarted.running
    rw [hphase] at hrunning
    cases hrunning

end HostSys

namespace ClientSys
variable {P : Platform}

def Works (s : ClientSys P) : Prop := s.clientState = .online ∧ s.isConnected = true

/-- The worker keeps the client online, but the client has no connection. -/
structure Stranded (s : ClientSys P) : Prop where
  inLoop : s.phase.inLoop = true
  online : s.clientState = .online
  notStopped : s.stopClientTask = false
  inService : s.client.inService = true
  down : Mqtt.isDown s.handle

theorem Stranded.isConnected {s : ClientSys P} (h : s.Stranded) : s.isConnected = false :=
  Mqtt.isConnected_of_isDown h.down

theorem Stranded.work {s : ClientSys P} (h : s.Stranded) (io : Outcomes) (sent : List Bool) :
    (s.work io sent).Stranded := by
  have hloop := h.inLoop
  cases hphase : s.phase with
  | check =>
    rw [work_check io sent hphase, if_neg (by simp [h.notStopped])]
    exact ⟨rfl, h.online, h.notStopped, h.inService, h.down⟩
  | body =>
    rw [work_body io sent hphase]
    unfold stateStep
    rw [h.online]
    dsimp only
    unfold doOnline
    rw [if_neg (by simp [h.notStopped, h.inService])]
    exact ⟨rfl, h.online, h.notStopped, h.inService, h.down⟩
  | _ => simp [hphase, Phase.inLoop] at hloop

/-- A client that is online without a connection stays so. -/
theorem isTrap_stranded :
    IsTrap (step (P := P)) (fun e => e.isOutside = true) Works Stranded where
  kept s e h he := by
    cases e with
    | work elapsed io sent =>
      have htick : (s.tick elapsed).Stranded :=
        ⟨h.inLoop, h.online, h.notStopped, h.inService, h.down⟩
      exact htick.work io sent
    | link event =>
      exact ⟨h.inLoop, h.online, h.notStopped, h.inService, Mqtt.isDown_link event h.down⟩
    | connectionLost =>
      change s.connectionLost.Stranded
      unfold connectionLost
      rw [h.isConnected, if_neg Bool.false_ne_true]
      exact h
    | callback hasResponse serverUri version =>
      have hpop : Mqtt.isDown (Mqtt.popCallback s.handle) :=
        Mqtt.isDown_map (fun _ => .inl rfl) h.down
      change (s.callback hasResponse serverUri version).Stranded
      unfold callback
      split
      · exact h
      · dsimp only
        split
        · split
          · exact ⟨h.inLoop, h.online, h.notStopped, h.inService, hpop⟩
          · exact ⟨h.inLoop, h.online, h.notStopped, h.inService, hpop⟩
        · exact ⟨h.inLoop, h.online, h.notStopped, h.inService, hpop⟩
        · exact ⟨h.inLoop, h.online, h.notStopped, h.inService, hpop⟩
    | deliveryComplete => exact ⟨h.inLoop, h.online, h.notStopped, h.inService, h.down⟩
    | message topicName body qos retained =>
      change (s.message topicName body qos retained).Stranded
      unfold message
      rw [NodeSys.receives_of_isDown h.down, if_neg fun hboth => Bool.noConfusion hboth.1]
      exact h
    | _ => cases he
  apart s h hworks := absurd (h.isConnected.symm.trans hworks.2) Bool.false_ne_true

/-- A worker that drains was told to stop. -/
def Drains (s : ClientSys P) : Prop :=
  ∀ polls, s.phase = .draining polls → s.stopClientTask = true

theorem Drains.of_same {s t : ClientSys P} (h : s.Drains) (hsame : t.SameControl s) : t.Drains :=
  fun polls hdraining => hsame.stopClientTask.trans (h polls (hsame.phase ▸ hdraining))

theorem Drains.work {s : ClientSys P} (h : s.Drains) (io : Outcomes) (sent : List Bool) :
    (s.work io sent).Drains := by
  cases hphase : s.phase with
  | entry =>
    rw [work_entry io sent hphase]
    exact nofun
  | check =>
    rw [work_check io sent hphase]
    split
    · rename_i hstop
      exact fun _ _ => (s.ends_leaveLoop io).2.trans hstop
    · exact nofun
  | body =>
    rw [work_body io sent hphase]
    exact nofun
  | draining polls =>
    rw [work_draining io sent hphase]
    split
    · exact fun _ _ => h polls hphase
    · exact nofun
  | exited =>
    rw [work_exited io sent hphase]
    exact h
  | joined =>
    rw [work_joined io sent hphase]
    exact h

theorem drains_step {s : ClientSys P} (h : s.Drains) (e : ClientEvent) : (s.step e).Drains := by
  cases e with
  | work elapsed io sent =>
    have htick : (s.tick elapsed).Drains := h
    exact htick.work io sent
  | start =>
    change s.start.Drains
    unfold start
    split
    · exact fun _ _ => rfl
    · exact nofun
  | stop => exact fun _ _ => rfl
  | stopReturns =>
    change s.stopReturns.Drains
    unfold stopReturns
    split
    · exact nofun
    · exact h
  | _ => exact h.of_same (quiet_control rfl)

def CanWork (s : ClientSys P) : Prop := Recovers step (fun e => e.isOutside = true) Works s

theorem CanWork.after {s : ClientSys P} (e : ClientEvent) (he : e.isOutside = true)
    (h : (s.step e).CanWork) : s.CanWork := Recovers.after e he h

theorem Works.canWork {s : ClientSys P} (h : s.Works) : s.CanWork := Recovers.here h

/-- What a connect needs of a client besides its state. -/
structure Able (s : ClientSys P) : Prop where
  notStopped : s.stopClientTask = false
  inService : s.client.inService = true

theorem canWork_of_body {s : ClientSys P} (hloop : s.phase.inLoop = true)
    (hstop : s.stopClientTask = false) (h : CanWork { s with phase := .body }) : s.CanWork := by
  cases hphase : s.phase with
  | check =>
    have hwork : s.step (.work 0 {} []) = { s with phase := .body } := by
      change (s.tick 0).work {} [] = _
      rw [work_check (s := s.tick 0) {} [] hphase, if_neg (by simp [hstop])]
      rfl
    apply CanWork.after (.work 0 {} []) rfl
    rw [hwork]
    exact h
  | body =>
    have hsame : { s with phase := .body } = s := by
      rw [← hphase]
    rw [← hsame]
    exact h
  | _ => simp [hphase, Phase.inLoop] at hloop

theorem Able.canWork_of_reply {s : ClientSys P} (h : s.Able) (hloop : s.phase.inLoop = true)
    (hstate : s.clientState = .waitOnConnect) (htime : s.timeout = false)
    (hup : s.isConnected = true) (hdelivered : s.delivered = true) : s.CanWork := by
  apply canWork_of_body hloop h.notStopped
  apply CanWork.after (.work 0 {} []) rfl
  apply Works.canWork
  let body : ClientSys P := { s with phase := .body }
  change Works ((body.tick 0).work {} [])
  have hwaits : (body.tick 0).clientState = .waitOnConnect := hstate
  have htimeout : (body.tick 0).timeout = false := htime
  have hconnected : (body.tick 0).isConnected = true := hup
  have hreplied : (body.tick 0).delivered = true := hdelivered
  rw [work_body {} [] rfl]
  unfold stateStep
  rw [hwaits]
  dsimp only
  unfold doWaitOnConnect
  rw [htimeout, hconnected, hreplied]
  refine ⟨rfl, ?_⟩
  change Mqtt.isConnected (s.handle.map MqttHandle.subscribe) = true
  change Mqtt.isConnected s.handle = true at hup
  cases hhandle : s.handle with
  | none => simp [hhandle, Mqtt.isConnected] at hup
  | some g => simpa [hhandle, Mqtt.isConnected, MqttHandle.subscribe] using hup

theorem Able.canWork_of_connecting {s : ClientSys P} (h : s.Able) (hloop : s.phase.inLoop = true)
    (hstate : s.clientState = .waitOnConnect) (htime : s.timeout = false)
    (hhandle : s.handle = some ({} : MqttHandle).connect) : s.CanWork := by
  apply CanWork.after (.link .accepted) rfl
  apply CanWork.after (.callback true [] .mqtt311) rfl
  have haccepted : (s.linkEvent .accepted).handle = some ({} : MqttHandle).connect.accept := by
    simp [linkEvent, hhandle, Mqtt.link, MqttHandle.connect]
  have hnext : Mqtt.nextCallback (s.linkEvent .accepted).handle = some (.connect true) := by
    rw [haccepted]
    rfl
  have hconnected : Mqtt.isConnected (Mqtt.popCallback (s.linkEvent .accepted).handle) = true := by
    rw [haccepted]
    rfl
  change CanWork ((s.linkEvent .accepted).callback true [] .mqtt311)
  unfold callback
  rw [hnext]
  exact canWork_of_reply ⟨h.notStopped, h.inService⟩ hloop hstate htime hconnected rfl

/-- An idle client whose retry timer has run out connects. -/
theorem doIdle_connects {s : ClientSys P} (htimeout : s.timeout = true)
    (hservice : s.client.inService = true) : s.doIdle {} =
      { s with
        client := { s.client with connectionLost := false }
        clientState := .waitOnConnect
        clientTimer := s.clock + 5000
        delivered := false
        handle := some ({} : MqttHandle).connect } := by
  unfold doIdle
  rw [htimeout]
  dsimp only
  rw [if_neg (by simp [hservice]), if_neg (by decide)]
  rfl

theorem Able.canWork_of_idle {s : ClientSys P} (h : s.Able) (hloop : s.phase.inLoop = true)
    (hstate : s.clientState = .idle) : s.CanWork := by
  apply canWork_of_body hloop h.notStopped
  let body : ClientSys P := { s with phase := .body }
  let late := body.tick s.clientTimer
  have htimeout : late.timeout = true := decide_eq_true (Nat.le_add_left _ _)
  have hidle : late.stateStep {} [] = late.doIdle {} := by
    unfold stateStep
    rw [show late.clientState = .idle from hstate]
  apply CanWork.after (.work s.clientTimer {} []) rfl
  change CanWork (late.work {} [])
  rw [work_body {} [] rfl, hidle, doIdle_connects htimeout h.inService]
  refine canWork_of_connecting ⟨h.notStopped, h.inService⟩ rfl rfl ?_ rfl
  exact decide_eq_false (Nat.not_le_of_lt (Nat.lt_add_of_pos_right (by decide)))

theorem Able.canWork_of_wait {s : ClientSys P} (h : s.Able) (hloop : s.phase.inLoop = true)
    (hwait : ∀ late : ClientSys P, late.clientState = s.clientState → late.timeout = true →
      late.stateStep {} [] =
        { late with clientTimer := late.clock + 10000, clientState := .idle }) :
    s.CanWork := by
  apply canWork_of_body hloop h.notStopped
  let body : ClientSys P := { s with phase := .body }
  let late := body.tick s.clientTimer
  have htimeout : late.timeout = true := decide_eq_true (Nat.le_add_left _ _)
  apply CanWork.after (.work s.clientTimer {} []) rfl
  change CanWork (late.work {} [])
  rw [work_body {} [] rfl, hwait late rfl htimeout]
  exact Able.canWork_of_idle ⟨h.notStopped, h.inService⟩ rfl rfl

theorem Able.canWork_of_inLoop {s : ClientSys P} (h : s.Able) (hloop : s.phase.inLoop = true)
    (hnot : ¬ s.Stranded) : s.CanWork := by
  cases hstate : s.clientState with
  | idle => exact h.canWork_of_idle hloop hstate
  | waitOnConnect =>
    apply h.canWork_of_wait hloop
    intro late hlate htimeout
    unfold stateStep
    rw [hlate, hstate]
    dsimp only
    unfold doWaitOnConnect
    rw [htimeout, if_pos rfl]
  | online =>
    have hlink : ¬ Mqtt.isDown s.handle :=
      fun hdown => hnot ⟨hloop, hstate, h.notStopped, h.inService, hdown⟩
    unfold Mqtt.isDown at hlink
    push Not at hlink
    obtain ⟨g, hg, hup⟩ := hlink
    cases hl : g.link with
    | idle => exact absurd hl hup
    | connecting =>
      apply CanWork.after (.link .accepted) rfl
      refine Works.canWork ⟨hstate, ?_⟩
      change Mqtt.isConnected (Mqtt.link .accepted s.handle) = true
      simp [hg, Mqtt.link, hl, Mqtt.isConnected, MqttHandle.accept]
    | up =>
      refine Works.canWork ⟨hstate, ?_⟩
      change Mqtt.isConnected s.handle = true
      simp [hg, Mqtt.isConnected, hl]
  | waitOnDisconnect =>
    apply h.canWork_of_wait hloop
    intro late hlate htimeout
    unfold stateStep
    rw [hlate, hstate]
    dsimp only
    unfold doWaitOnDisconnect
    rw [htimeout]
    rfl

/-- The worker of the client runs, nobody asked it to stop, and the client is in service. -/
structure Started (s : ClientSys P) : Prop where
  running : s.phase.isRunning = true
  notStopped : s.stopClientTask = false
  inService : s.client.inService = true

/-- A started client recovers unless it is stranded. -/
theorem canWork_iff {s : ClientSys P} (hdrains : s.Drains) (hstarted : s.Started) :
    s.CanWork ↔ ¬ s.Stranded := by
  have hable : s.Able := ⟨hstarted.notStopped, hstarted.inService⟩
  refine isTrap_stranded.recovers_iff fun hnot => ?_
  cases hphase : s.phase with
  | entry =>
    apply CanWork.after (.work 0 {} []) rfl
    change CanWork ((s.tick 0).work {} [])
    rw [work_entry (s := s.tick 0) {} [] hphase]
    exact Able.canWork_of_idle ⟨hable.notStopped, hable.inService⟩ rfl rfl
  | check => exact hable.canWork_of_inLoop (hphase ▸ rfl) hnot
  | body => exact hable.canWork_of_inLoop (hphase ▸ rfl) hnot
  | draining polls =>
    have hstop := hdrains polls hphase
    exact absurd (hstarted.notStopped.symm.trans hstop) Bool.false_ne_true
  | _ =>
    have hrunning := hstarted.running
    rw [hphase] at hrunning
    cases hrunning

end ClientSys

theorem HostSys.equipped_run {P : Platform} (hostName : Option Str) (now : UInt64)
    (setups : List HostSetup) (es : List HostEvent) :
    (run HostSys.step (HostSys.init (P := P) hostName now setups) es).Equipped := by
  have hstep : ∀ (s : HostSys P) (e : HostEvent), s.Equipped → (s.step e).Equipped :=
    fun _ e h => equipped_step h e
  exact run_preserves hstep es ⟨nofun, nofun⟩

theorem ClientSys.drains_run {P : Platform} (client : PubSubClient P) (es : List ClientEvent) :
    (run ClientSys.step (ClientSys.init client) es).Drains := by
  have hstep : ∀ (s : ClientSys P) (e : ClientEvent), s.Drains → (s.step e).Drains :=
    fun _ e h => drains_step h e
  exact run_preserves hstep es nofun

/-- From a state that a started client in service has reached, what happens outside of the
application can bring it online with a connection, unless the worker keeps it online, or puts it
online, without one; then nothing outside of the application can. -/
theorem started_clients_recover (P : Platform) :
    (∀ now setups es, (run NodeSys.step (NodeSys.init (P := P) now setups) es).Started →
      ((run NodeSys.step (NodeSys.init (P := P) now setups) es).self.waitOnHostOnline &&
        !(run NodeSys.step (NodeSys.init (P := P) now setups) es).receiver.isHostOnline) = false →
      ((run NodeSys.step (NodeSys.init (P := P) now setups) es).CanWork ↔
        ¬ (run NodeSys.step (NodeSys.init (P := P) now setups) es).Stranded)) ∧
    (∀ hostName now setups es,
      (run HostSys.step (HostSys.init (P := P) hostName now setups) es).Started →
      ((run HostSys.step (HostSys.init (P := P) hostName now setups) es).CanWork ↔
        ¬ (run HostSys.step (HostSys.init (P := P) hostName now setups) es).Stranded)) ∧
    (∀ client es, (run ClientSys.step (ClientSys.init (P := P) client) es).Started →
      ((run ClientSys.step (ClientSys.init (P := P) client) es).CanWork ↔
        ¬ (run ClientSys.step (ClientSys.init (P := P) client) es).Stranded)) := by
  refine ⟨?_, ?_, ?_⟩
  · intro now setups es hstarted hwake
    exact (NodeSys.reachable_run now setups es).canWork_iff hstarted hwake
  · intro hostName now setups es hstarted
    obtain ⟨state, howns⟩ := HostSys.owns_run (P := P) hostName now setups es
    exact HostSys.canWork_iff howns (HostSys.equipped_run hostName now setups es) hstarted
  · intro client es hstarted
    exact ClientSys.canWork_iff (ClientSys.drains_run client es) hstarted

open OnlineConnected in
/-- Clients that are refused can come online, and clients that lose their connection while they
are online cannot. -/
theorem refused_clients_recover_lost_ones_do_not :
    ((run NodeSys.step (NodeSys.init (P := .reference) 0 nodeSetup)
        (nodeGoesOnline.take 4 ++ [.link .refused])).CanWork ∧
      ¬ (run NodeSys.step (NodeSys.init (P := .reference) 0 nodeSetup)
        (nodeGoesOnline ++ [.connectionLost])).CanWork) ∧
    ((run HostSys.step (HostSys.init (P := .reference) none 0 [.name (str "H")])
        (hostGoesOnline.take 4 ++ [.link .refused])).CanWork ∧
      ¬ (run HostSys.step (HostSys.init (P := .reference) none 0 [.name (str "H")])
        (hostGoesOnline ++ [.connectionLost])).CanWork) ∧
    ((run ClientSys.step (ClientSys.init (P := .reference) {})
        (clientGoesOnline.take 4 ++ [.link .refused])).CanWork ∧
      ¬ (run ClientSys.step (ClientSys.init (P := .reference) {})
        (clientGoesOnline ++ [.connectionLost])).CanWork) := by
  obtain ⟨hnode, hhost, hclient⟩ := started_clients_recover .reference
  have hdown : ∀ handle : Option MqttHandle, handle.map MqttHandle.link = some .idle →
      Mqtt.isDown handle := by
    rintro handle hlink g rfl
    exact Option.some.inj hlink
  refine ⟨⟨?_, ?_⟩, ⟨?_, ?_⟩, ?_, ?_⟩
  · refine (hnode _ _ _ ⟨by decide +kernel, by decide +kernel, by decide +kernel⟩
      (by decide +kernel)).mpr fun h => ?_
    have honline := h.online
    revert honline
    decide +kernel
  · refine fun h => (hnode _ _ _ ⟨by decide +kernel, by decide +kernel, by decide +kernel⟩
      (by decide +kernel)).mp h ?_
    exact ⟨by decide +kernel, by decide +kernel, by decide +kernel, hdown _ (by decide +kernel)⟩
  · refine (hhost _ _ _ _ ⟨by decide +kernel, by decide +kernel, by decide +kernel⟩).mpr
      fun h => ?_
    have hsettled := h.settled
    revert hsettled
    decide +kernel
  · refine fun h => (hhost _ _ _ _ ⟨by decide +kernel, by decide +kernel, by decide +kernel⟩).mp
      h ?_
    exact ⟨by decide +kernel, by decide +kernel, by decide +kernel, by decide +kernel,
      hdown _ (by decide +kernel)⟩
  · refine (hclient _ _ ⟨by decide +kernel, by decide +kernel, by decide +kernel⟩).mpr
      fun h => ?_
    have honline := h.online
    revert honline
    decide +kernel
  · refine fun h => (hclient _ _
      ⟨by decide +kernel, by decide +kernel, by decide +kernel⟩).mp h ?_
    exact ⟨by decide +kernel, by decide +kernel, by decide +kernel, by decide +kernel,
      hdown _ (by decide +kernel)⟩

end PubSub
