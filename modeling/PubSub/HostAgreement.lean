import PubSub.DeathAnnounced

/-!
# What a host is and what it has said

A history keeps every STATE body that the host writes, for the will and for publishing,
with the outcome of the send. The worker turns offline without a look at the link, so an
offline host has said so only if the message could be sent.
-/

namespace PubSub
set_option autoImplicit false

/-- The two functions that write the STATE body. -/
inductive StateCall where
  | sendConnect | publishState
  deriving DecidableEq, Repr

/-- The two states in which the host has told what it is. -/
def WorkState.isSettled : WorkState → Bool
  | .online | .offline => true
  | _ => false

structure StateRecord (P : Platform) where
  call : StateCall
  payload : Payload P
  sent : Bool

/-- The last of the bodies tells whether the host is online. -/
def LastSays {P : Platform} (online : Bool) (records : List (StateRecord P)) : Prop :=
  ∃ r, records.getLast? = some r ∧ r.payload.Says online

instance {P : Platform} (online : Bool) (records : List (StateRecord P)) :
    Decidable (LastSays online records) :=
  decidable_of_iff ((records.getLast?.map fun r => decide (r.payload.Says online)) = some true) (by
    simp [LastSays, Option.map_eq_some_iff])

namespace HostSys
variable {P : Platform}

def isOffline (s : HostSys P) : Bool := decide (s.workState = .offline)

/-- The call that a state function makes. -/
def stateCall (s : HostSys P) : Option StateCall :=
  match s.workState with
  | .idle => if s.timeout then some .sendConnect else none
  | .waitOnConnect =>
    if s.timeout || !s.isConnected || !s.delivered then none else some .publishState
  | .online => if s.stopWorkTask || !s.self.inService then some .publishState else none
  | .offline => if s.stopWorkTask || !s.self.inService then none else some .publishState
  | .waitOnDisconnect => none

def calls (s : HostSys P) : HostEvent → Option StateCall
  | .work elapsed _ => if s.phase = .body then (s.tick elapsed).stateCall else none
  | _ => none

def statePayload (s : HostSys P) : Payload P :=
  match s.self.topicList.getTopicByMessageType (str "STATE") with
  | none => {}
  | some t => t.payload

/-- The worker is about to leave the online state because it is out of service. -/
def TurnsOffline (s : HostSys P) : HostEvent → Prop
  | .work _ _ => s.phase = .body ∧ s.workState = .online ∧ s.stopWorkTask = false ∧
      s.self.inService = false
  | _ => False

instance (s : HostSys P) : ∀ e, Decidable (s.TurnsOffline e)
  | .work _ _ => inferInstanceAs (Decidable (_ ∧ _ ∧ _ ∧ _))
  | .link _ | .connectionLost | .callback _ _ | .message _ _ | .start _ | .stop | .stopReturns
  | .inService _ => .isFalse id

end HostSys

/-- A host with all STATE bodies that it has written. -/
structure HostTrace (P : Platform) where
  sys : HostSys P
  records : List (StateRecord P) := []

namespace HostTrace
variable {P : Platform}

def step (t : HostTrace P) (e : HostEvent) : HostTrace P where
  sys := t.sys.step e
  records := t.records ++ (t.sys.calls e).toList.map fun call =>
    { call := call, payload := (t.sys.step e).statePayload, sent := t.sys.isConnected }

def init (hostName : Option Str) (now : UInt64) (setups : List HostSetup) : HostTrace P where
  sys := .init hostName now setups

def handedOver (t : HostTrace P) : List (StateRecord P) :=
  t.records.filter fun r => decide (r.call = .publishState)

def published (t : HostTrace P) : List (StateRecord P) :=
  t.records.filter fun r => decide (r.call = .publishState) && r.sent

/-- The state of the host and the bodies that it has written agree. -/
structure Agrees (t : HostTrace P) : Prop where
  online : t.sys.isOnline = true → LastSays true t.records
  offline : t.sys.isOffline = true → LastSays false t.published
  wills : ∀ r ∈ t.records, r.call = .sendConnect → r.payload.Says false

/-- A host that turns offline is connected, or its last message says so already. -/
def Keeps (t : HostTrace P) (e : HostEvent) : Prop :=
  t.sys.TurnsOffline e → t.sys.isConnected = true ∨ LastSays false t.published

instance (t : HostTrace P) (e : HostEvent) : Decidable (t.Keeps e) :=
  inferInstanceAs (Decidable (_ → _ ∨ _))

end HostTrace

namespace HostSys
variable {P : Platform}

theorem Owns.statePayload {s : HostSys P} {state : Topic P} (h : s.Owns state) :
    s.statePayload = state.payload := by
  rw [HostSys.statePayload, h.self.find]

theorem publishState_told {s : HostSys P} {state : Topic P} (h : s.Owns state) (online : Bool) :
    (s.publishState online).statePayload.Says online := by
  obtain ⟨n, hhost, hlist, hs⟩ := publishState_eq h online
  have hnext : Owns (s.publishState online)
      (state.onPayload fun p =>
        (p.setBoolValue (str "online") online).generateJson).cacheTopic := by
    rw [hs]
    exact h.update (f := fun t => (t.onPayload fun p =>
      (p.setBoolValue (str "online") online).generateJson).cacheTopic)
      hhost hlist rfl (h.announceable.setBoolValue online) h.publish
  rw [hnext.statePayload]
  exact Payload.told_setBoolValue h.announceable online

theorem sendConnect_told {s : HostSys P} {state : Topic P} (h : s.Owns state) (io : Outcomes) :
    (s.sendConnect io).1.statePayload.Says false := by
  have hwill : SparkplugHost.Owns (SparkplugHost.generateWill s.self)
      (state.onPayload fun p =>
        ((p.setTimestamp s.self.startTime false).setBoolValue (str "online") false).generateJson) :=
    h.self.update h.self.messageType rfl rfl
  have hself : (s.sendConnect io).1.self.topicList =
      (SparkplugHost.generateWill s.self).topicList := by
    rw [sendConnect, h.self.find]
    dsimp only
    split <;> rfl
  rw [statePayload, hself, hwill.find]
  exact Payload.told_setBoolValue (h.announceable.setTimestamp _) false

theorem sendDisconnect_statePayload (io : Outcomes) (s : HostSys P) :
    (s.sendDisconnect io).statePayload = s.statePayload := by
  rcases s.sendDisconnect_cases io with ⟨_, h⟩ | h <;> rw [h] <;> rfl

/-- What a call tells, and the state in which it leaves the worker. -/
inductive Wrote : StateCall → Bool → WorkState → Prop
  | will {state : WorkState} : state.isSettled = false → Wrote .sendConnect false state
  | online : Wrote .publishState true .online
  | offline : Wrote .publishState false .offline
  | leave : Wrote .publishState false .waitOnDisconnect

theorem doIdle_wrote {s : HostSys P} {state : Topic P} (h : s.Owns state)
    (htimeout : s.timeout = true) (io : Outcomes) :
    (s.doIdle io).statePayload.Says false ∧
      Wrote .sendConnect false (s.doIdle io).workState := by
  have hwaiting : Owns { s with hostTimer := s.clock + 10000, workState := .waitOnConnect } state :=
    h.of_same rfl rfl (fun hsome => hsome)
  have htold := sendConnect_told hwaiting io
  have hstate := (sendConnect_spec io
    { s with hostTimer := s.clock + 10000, workState := .waitOnConnect }).2.1
  rw [doIdle, if_neg (by simp [htimeout])]
  dsimp only
  split
  · refine ⟨htold, .will ?_⟩
    rw [hstate]
    rfl
  · exact ⟨htold, .will rfl⟩

theorem doWaitOnConnect_wrote {s : HostSys P} {state : Topic P} (h : s.Owns state)
    (htimeout : s.timeout = false) (hconnected : s.isConnected = true)
    (hdelivered : s.delivered = true) :
    ∃ online, s.doWaitOnConnect.statePayload.Says online ∧
      Wrote .publishState online s.doWaitOnConnect.workState := by
  obtain ⟨replied, hreplied⟩ := owns_connectReplied h
  rw [doWaitOnConnect, if_neg (by simp [htimeout]), if_neg (by simp [hconnected, hdelivered]),
    h.self.find]
  dsimp only
  split
  · exact ⟨true, publishState_told hreplied true, .online⟩
  · exact ⟨false, publishState_told hreplied false, .offline⟩

theorem doOnline_wrote {s : HostSys P} {state : Topic P} (h : s.Owns state)
    (hcall : (s.stopWorkTask || !s.self.inService) = true) (io : Outcomes) :
    (s.doOnline io).statePayload.Says false ∧
      Wrote .publishState false (s.doOnline io).workState := by
  have htold := publishState_told h false
  unfold doOnline
  split
  · refine ⟨?_, .leave⟩
    change (sendDisconnect io _).statePayload.Says false
    rw [sendDisconnect_statePayload]
    exact htold
  · rename_i hstop
    rw [if_pos (by simpa [hstop] using hcall)]
    exact ⟨htold, .offline⟩

theorem doOffline_wrote {s : HostSys P} {state : Topic P} (h : s.Owns state)
    (hcall : (s.stopWorkTask || !s.self.inService) = false) (io : Outcomes) :
    (s.doOffline io).statePayload.Says true ∧
      Wrote .publishState true (s.doOffline io).workState := by
  obtain ⟨hstop, hservice⟩ := Bool.or_eq_false_iff.mp hcall
  rw [doOffline, if_neg (by simp [hstop]), if_pos (by simpa using hservice)]
  exact ⟨publishState_told h true, .online⟩

theorem stateStep_wrote {s : HostSys P} {state : Topic P} (h : s.Owns state) {call : StateCall}
    (hcall : s.stateCall = some call) (io : Outcomes) :
    ∃ online, (s.stateStep io).statePayload.Says online ∧
      Wrote call online (s.stateStep io).workState := by
  unfold stateCall at hcall
  unfold stateStep
  cases hstate : s.workState with
  | idle =>
    rw [hstate] at hcall
    obtain ⟨htimeout, hcall⟩ := Option.ite_none_right_eq_some.mp hcall
    cases hcall
    exact ⟨false, doIdle_wrote h htimeout io⟩
  | waitOnConnect =>
    rw [hstate] at hcall
    obtain ⟨hready, hcall⟩ := Option.ite_none_left_eq_some.mp hcall
    cases hcall
    simp only [Bool.or_eq_true, Bool.not_eq_true', not_or, Bool.not_eq_true,
      Bool.not_eq_false] at hready
    exact doWaitOnConnect_wrote h hready.1.1 hready.1.2 hready.2
  | online =>
    rw [hstate] at hcall
    obtain ⟨hleave, hcall⟩ := Option.ite_none_right_eq_some.mp hcall
    cases hcall
    exact ⟨false, doOnline_wrote h hleave io⟩
  | offline =>
    rw [hstate] at hcall
    obtain ⟨hstay, hcall⟩ := Option.ite_none_left_eq_some.mp hcall
    cases hcall
    exact ⟨true, doOffline_wrote h (by simpa using hstay) io⟩
  | waitOnDisconnect =>
    rw [hstate] at hcall
    cases hcall

/-- A call writes the body that the payload then has. -/
theorem step_wrote {s : HostSys P} {state : Topic P} (h : s.Owns state) {e : HostEvent}
    {call : StateCall} (hcall : s.calls e = some call) :
    ∃ online, (s.step e).statePayload.Says online ∧ Wrote call online (s.step e).workState := by
  cases e with
  | work elapsed io =>
    obtain ⟨hphase, hcall⟩ := Option.ite_none_right_eq_some.mp hcall
    have htick : (s.tick elapsed).Owns state := h.of_same rfl rfl (fun hsome => hsome)
    have hwork : (s.step (.work elapsed io)) =
        { (s.tick elapsed).stateStep io with phase := .check } :=
      work_body (s := s.tick elapsed) io hphase
    rw [hwork]
    exact stateStep_wrote htick hcall io
  | _ => cases hcall

/-- Without a call the worker does not become online or offline, and the payload is kept. -/
theorem stateStep_quiet {s : HostSys P}
    (hcall : s.stateCall = none) (io : Outcomes) :
    ((s.stateStep io).workState = s.workState ∨
      (s.stateStep io).workState.isSettled = false) ∧
    (s.stateStep io).statePayload = s.statePayload := by
  unfold stateCall at hcall
  unfold stateStep
  cases hstate : s.workState with
  | idle =>
    rw [hstate] at hcall
    have htimeout : s.timeout = false := by simpa using hcall
    simp [doIdle, htimeout, hstate]
  | waitOnConnect =>
    rw [hstate] at hcall
    dsimp only
    unfold doWaitOnConnect
    split
    · exact ⟨.inr rfl, rfl⟩
    · rename_i htimeout
      have hwaits : (!s.isConnected || !s.delivered) = true := by
        by_contra hready
        simp_all
      rw [if_pos hwaits]
      exact ⟨.inl hstate, rfl⟩
  | online =>
    rw [hstate] at hcall
    have hstays : s.stopWorkTask = false ∧ s.self.inService = true := by simpa using hcall
    simp [doOnline, hstays.1, hstays.2, hstate]
  | offline =>
    rw [hstate] at hcall
    dsimp only
    unfold doOffline
    split
    · refine ⟨.inr rfl, ?_⟩
      change (sendDisconnect io _).statePayload = _
      rw [sendDisconnect_statePayload]
      rfl
    · rename_i hstop
      have hservice : s.self.inService = false := by simpa [hstop] using hcall
      simp [hservice, hstate]
  | waitOnDisconnect =>
    dsimp only
    unfold doWaitOnDisconnect
    split
    · exact ⟨.inr rfl, rfl⟩
    · exact ⟨.inl hstate, rfl⟩

/-- `Start` leaves the body of the STATE payload. -/
theorem statePayload_start {s t : HostSys P} {state : Topic P} (h : s.Owns state)
    (ht : t.self.topicList = (SparkplugHost.start s.now s.self).topicList) :
    t.statePayload.body = s.statePayload.body := by
  obtain ⟨next, hnext, _, _, hbody⟩ := owns_startNode h.self h.announceable s.now
  rw [h.statePayload, statePayload, ht, hnext.find]
  exact hbody

theorem leaveLoop_statePayload (io : Outcomes) (s : HostSys P) :
    (s.leaveLoop io).statePayload = s.statePayload := by
  unfold leaveLoop
  split
  · dsimp only
    split
    · exact sendDisconnect_statePayload io s
    · rfl
  · rfl

theorem work_quiet {s : HostSys P} (hcall : s.phase = .body → s.stateCall = none)
    (io : Outcomes) :
    ((s.work io).workState = s.workState ∨ (s.work io).workState.isSettled = false) ∧
    (s.work io).statePayload = s.statePayload := by
  cases hphase : s.phase with
  | entry =>
    rw [work_entry io hphase]
    exact ⟨.inr rfl, rfl⟩
  | check =>
    rw [work_check io hphase]
    split
    · exact ⟨.inl (leaveLoop_workState io s), leaveLoop_statePayload io s⟩
    · exact ⟨.inl rfl, rfl⟩
  | body =>
    rw [work_body io hphase]
    exact stateStep_quiet (hcall hphase) io
  | draining polls =>
    rw [work_draining io hphase]
    split
    · exact ⟨.inl rfl, rfl⟩
    · exact ⟨.inl rfl, rfl⟩
  | exited =>
    rw [work_exited io hphase]
    exact ⟨.inl rfl, rfl⟩
  | joined =>
    rw [work_joined io hphase]
    exact ⟨.inl rfl, rfl⟩

/-- Without a call the body stays, also when a message carries the host's own name. -/
theorem step_quiet {s : HostSys P} {state : Topic P} (h : s.Owns state) {e : HostEvent}
    (hcall : s.calls e = none) :
    ((s.step e).workState = s.workState ∨ (s.step e).workState.isSettled = false) ∧
    (s.step e).statePayload.body = s.statePayload.body := by
  cases e with
  | work elapsed io =>
    have hquiet : (s.tick elapsed).phase = .body → (s.tick elapsed).stateCall = none := by
      intro hphase
      exact (if_pos (c := s.phase = .body) hphase).symm.trans hcall
    obtain ⟨hstate, hpayload⟩ := work_quiet hquiet io
    exact ⟨hstate, congrArg Payload.body hpayload⟩
  | start io =>
    simp only [step, start]
    split
    · exact ⟨.inl rfl, rfl⟩
    · split
      · exact ⟨.inl rfl, statePayload_start h rfl⟩
      · exact ⟨.inl rfl, statePayload_start h rfl⟩
      · exact ⟨.inl rfl, statePayload_start h rfl⟩
  | message topicName body =>
    refine ⟨.inl (quiet_control rfl).workState, ?_⟩
    rw [h.statePayload, step, (owns_message h topicName body).statePayload]
  | link event => exact ⟨.inl rfl, rfl⟩
  | connectionLost =>
    refine ⟨.inl (quiet_control rfl).workState, ?_⟩
    simp only [step, connectionLost]
    split <;> rfl
  | callback hasResponse version =>
    refine ⟨.inl (quiet_control rfl).workState, ?_⟩
    simp only [step, callback]
    split
    · rfl
    · split <;> rfl
  | stop => exact ⟨.inl rfl, rfl⟩
  | stopReturns =>
    simp only [step, stopReturns]
    split <;> exact ⟨.inl rfl, rfl⟩
  | inService on => exact ⟨.inl rfl, rfl⟩

/-- A host that a call makes offline had a connection, or it turned offline by itself. -/
theorem offline_of_call {s : HostSys P} {state : Topic P} (h : s.Owns state) {e : HostEvent}
    (hcall : s.calls e = some .publishState) (hoffline : (s.step e).workState = .offline) :
    s.isConnected = true ∨ s.TurnsOffline e := by
  cases e with
  | work elapsed io =>
    obtain ⟨hphase, hcall⟩ := Option.ite_none_right_eq_some.mp hcall
    have hwork : (s.step (.work elapsed io)) =
        { (s.tick elapsed).stateStep io with phase := .check } :=
      work_body (s := s.tick elapsed) io hphase
    rw [hwork] at hoffline
    cases hstate : s.workState with
    | idle =>
      rw [stateCall, tick_workState, hstate] at hcall
      obtain ⟨_, hcall⟩ := Option.ite_none_right_eq_some.mp hcall
      cases hcall
    | waitOnConnect =>
      rw [stateCall, tick_workState, hstate] at hcall
      obtain ⟨hready, _⟩ := Option.ite_none_left_eq_some.mp hcall
      simp only [Bool.or_eq_true, Bool.not_eq_true', not_or, Bool.not_eq_false] at hready
      exact .inl hready.1.2
    | online =>
      refine .inr ⟨hphase, hstate, ?_⟩
      rw [stateStep, tick_workState, hstate] at hoffline
      dsimp only [doOnline] at hoffline
      split at hoffline
      · cases hoffline
      · rename_i hstop
        split at hoffline
        · rename_i hservice
          exact ⟨by simpa using hstop, by simpa using hservice⟩
        · rw [tick_workState, hstate] at hoffline
          cases hoffline
    | offline =>
      rw [stateCall, tick_workState, hstate] at hcall
      obtain ⟨hstay, _⟩ := Option.ite_none_left_eq_some.mp hcall
      have htick : (s.tick elapsed).Owns state := h.of_same rfl rfl (fun hsome => hsome)
      have hwrote := (doOffline_wrote htick (by simpa using hstay) io).2
      rw [stateStep, tick_workState, hstate] at hoffline
      dsimp only at hoffline
      rw [hoffline] at hwrote
      cases hwrote
    | waitOnDisconnect =>
      rw [stateCall, tick_workState, hstate] at hcall
      cases hcall
  | _ => cases hcall

theorem turnsOffline_step {s : HostSys P} {e : HostEvent} (h : s.TurnsOffline e) :
    s.calls e = some .publishState ∧ (s.step e).workState = .offline := by
  cases e with
  | work elapsed io =>
    obtain ⟨hphase, hstate, hstop, hservice⟩ := h
    have hwork : (s.step (.work elapsed io)) =
        { (s.tick elapsed).stateStep io with phase := .check } :=
      work_body (s := s.tick elapsed) io hphase
    rw [hwork]
    constructor
    · rw [calls, if_pos hphase, stateCall, tick_workState, hstate]
      simp [hservice]
    · rw [stateStep, tick_workState, hstate]
      simp [doOnline, hstop, hservice]
  | _ => exact h.elim

end HostSys

namespace HostTrace
variable {P : Platform}

theorem lastSays_append {online : Bool} {records : List (StateRecord P)} {r : StateRecord P}
    (h : r.payload.Says online) : LastSays online (records ++ [r]) :=
  ⟨r, List.getLast?_concat, h⟩

theorem step_of_none {t : HostTrace P} {e : HostEvent} (h : t.sys.calls e = none) :
    t.step e = { t with sys := t.sys.step e } := by
  simp [step, h]

theorem step_of_some {t : HostTrace P} {e : HostEvent} {call : StateCall}
    (h : t.sys.calls e = some call) : t.step e =
      { sys := t.sys.step e
        records := t.records ++ [{
          call := call, payload := (t.sys.step e).statePayload, sent := t.sys.isConnected }] } := by
  simp [step, h]

/-- The invariant of all runs: the STATE topic stays the host's own, and the body of its
payload is the last one that the host wrote. -/
structure Writes (t : HostTrace P) : Prop where
  owns : ∃ state, t.sys.Owns state
  body : ∀ r, t.records.getLast? = some r → t.sys.statePayload.body = r.payload.body

theorem writes_step {t : HostTrace P} (h : t.Writes) (e : HostEvent) : (t.step e).Writes := by
  obtain ⟨⟨state, howns⟩, hbody⟩ := h
  refine ⟨HostSys.owns_step howns e, ?_⟩
  intro r hr
  cases hcall : t.sys.calls e with
  | none =>
    rw [step_of_none hcall] at hr ⊢
    exact (HostSys.step_quiet howns hcall).2.trans (hbody r hr)
  | some call =>
    rw [step_of_some hcall] at hr ⊢
    rw [List.getLast?_concat] at hr
    rw [← Option.some.inj hr]

theorem writes_init (hostName : Option Str) (now : UInt64) (setups : List HostSetup) :
    (init (P := P) hostName now setups).Writes :=
  ⟨HostSys.owns_init hostName now setups, fun r hr => by cases hr⟩

/-- What holds without any condition: the bodies, sent or not, agree with the state. -/
structure Tells (t : HostTrace P) : Prop where
  online : t.sys.isOnline = true → LastSays true t.records
  offline : t.sys.isOffline = true → LastSays false t.records ∧ LastSays false t.handedOver
  wills : ∀ r ∈ t.records, r.call = .sendConnect → r.payload.Says false

theorem tells_step {t : HostTrace P} (h : t.Writes) (ht : t.Tells) (e : HostEvent) :
    (t.step e).Tells := by
  obtain ⟨state, howns⟩ := h.owns
  cases hcall : t.sys.calls e with
  | none =>
    have hquiet := (HostSys.step_quiet howns hcall).1
    rw [step_of_none hcall]
    refine ⟨fun honline => ht.online ?_, fun hoffline => ht.offline ?_, ht.wills⟩
    · rcases hquiet with hsame | hsettled
      · rwa [HostSys.isOnline, hsame] at honline
      · rw [HostSys.isOnline, decide_eq_true_eq] at honline
        rw [honline] at hsettled
        cases hsettled
    · rcases hquiet with hsame | hsettled
      · rwa [HostSys.isOffline, hsame] at hoffline
      · rw [HostSys.isOffline, decide_eq_true_eq] at hoffline
        rw [hoffline] at hsettled
        cases hsettled
  | some call =>
    obtain ⟨online, htold, hwrote⟩ := HostSys.step_wrote howns hcall
    rw [step_of_some hcall]
    refine ⟨fun honline => ?_, fun hoffline => ?_, ?_⟩
    · rw [HostSys.isOnline, decide_eq_true_eq] at honline
      dsimp only at honline
      rw [honline] at hwrote
      cases hwrote with
      | will hsettled => cases hsettled
      | online => exact lastSays_append htold
    · rw [HostSys.isOffline, decide_eq_true_eq] at hoffline
      dsimp only at hoffline
      rw [hoffline] at hwrote
      cases hwrote with
      | will hsettled => cases hsettled
      | offline =>
        refine ⟨lastSays_append htold, ?_⟩
        rw [handedOver, List.filter_append]
        exact lastSays_append htold
    · intro r hr hwill
      rcases List.mem_append.mp hr with hr | hr
      · exact ht.wills r hr hwill
      · rw [List.mem_singleton] at hr
        subst hr
        subst hwill
        cases hwrote
        exact htold

theorem tells_init (hostName : Option Str) (now : UInt64) (setups : List HostSetup) :
    (init (P := P) hostName now setups).Tells :=
  ⟨fun h => (by cases h), fun h => (by cases h), fun r hr => (by cases hr)⟩

theorem agrees_init (hostName : Option Str) (now : UInt64) (setups : List HostSetup) :
    (init (P := P) hostName now setups).Agrees :=
  ⟨fun h => (by cases h), fun h => (by cases h), fun r hr => (by cases hr)⟩

theorem published_publishState {t : HostTrace P} {e : HostEvent}
    (h : t.sys.calls e = some .publishState) : (t.step e).published =
      if t.sys.isConnected then t.published ++ [{
        call := .publishState, payload := (t.sys.step e).statePayload, sent := true }]
      else t.published := by
  rw [step_of_some h, published, List.filter_append]
  cases hconnected : t.sys.isConnected with
  | true => rfl
  | false => exact List.append_nil _

theorem offline_step_iff {t : HostTrace P} {e : HostEvent} (h : t.Writes)
    (hoffline : t.sys.isOffline = true → LastSays false t.published) :
    ((t.step e).sys.isOffline = true → LastSays false (t.step e).published) ↔ t.Keeps e := by
  obtain ⟨state, howns⟩ := h.owns
  constructor
  · intro hnext hturns
    obtain ⟨hcall, hstate⟩ := HostSys.turnsOffline_step hturns
    have hlast := hnext (decide_eq_true hstate)
    rw [published_publishState hcall] at hlast
    cases hconnected : t.sys.isConnected with
    | true => exact .inl rfl
    | false =>
      rw [hconnected] at hlast
      exact .inr hlast
  · intro hkeeps hnext
    have hstate : (t.sys.step e).workState = .offline := of_decide_eq_true hnext
    cases hcall : t.sys.calls e with
    | none =>
      rw [step_of_none hcall]
      apply hoffline
      rcases (HostSys.step_quiet howns hcall).1 with hsame | hsettled
      · exact decide_eq_true (hsame.symm.trans hstate)
      · rw [hstate] at hsettled
        cases hsettled
    | some call =>
      obtain ⟨online, htold, hwrote⟩ := HostSys.step_wrote howns hcall
      rw [hstate] at hwrote
      cases hwrote with
      | will hsettled => cases hsettled
      | offline =>
        rw [published_publishState hcall]
        rcases HostSys.offline_of_call howns hcall hstate with hconnected | hturns
        · rw [if_pos hconnected]
          exact lastSays_append htold
        · rcases hkeeps hturns with hconnected | hlast
          · rw [if_pos hconnected]
            exact lastSays_append htold
          · split
            · exact lastSays_append htold
            · exact hlast

/-- One step keeps the agreement exactly when it meets the condition. -/
theorem agrees_step_iff {t : HostTrace P} {e : HostEvent} (h : t.Writes) (htells : t.Tells)
    (ht : t.Agrees) : (t.step e).Agrees ↔ t.Keeps e := by
  have hnext := tells_step h htells e
  have hiff := offline_step_iff (e := e) h ht.offline
  constructor
  · intro hagrees
    exact hiff.mp hagrees.offline
  · intro hkeeps
    exact ⟨hnext.online, hiff.mpr hkeeps, hnext.wills⟩

/-- What every run keeps. -/
def Faithful (t : HostTrace P) : Prop := t.Writes ∧ t.Tells

theorem faithful_step (t : HostTrace P) (e : HostEvent) (h : t.Faithful) :
    (t.step e).Faithful :=
  ⟨writes_step h.1 e, tells_step h.1 h.2 e⟩

theorem faithful_init (hostName : Option Str) (now : UInt64) (setups : List HostSetup) :
    (init (P := P) hostName now setups).Faithful :=
  ⟨writes_init hostName now setups, tells_init hostName now setups⟩

/-- After every run the bodies that the host wrote agree with its state, sent or not. -/
theorem tells_run (hostName : Option Str) (now : UInt64) (setups : List HostSetup)
    (es : List HostEvent) : (run step (init (P := P) hostName now setups) es).Tells :=
  (run_preserves faithful_step es (faithful_init hostName now setups)).2

/-- The state of the host and its STATE messages agree all along a run exactly when the
host is connected, or has said that it is offline, whenever it turns offline. -/
theorem agrees_iff (hostName : Option Str) (now : UInt64) (setups : List HostSetup)
    (es : List HostEvent) :
    (∀ pre post, es = pre ++ post →
      (run step (init (P := P) hostName now setups) pre).Agrees) ↔
    RunOk step Keeps (init (P := P) hostName now setups) es := by
  have hkept : ∀ (t : HostTrace P) (e : HostEvent), t.Faithful → t.Agrees →
      ((t.step e).Agrees ↔ t.Keeps e) :=
    fun _ _ h ht => agrees_step_iff h.1 h.2 ht
  exact runOk_iff faithful_step hkept (faithful_init hostName now setups)
    (agrees_init hostName now setups)

end HostTrace

open DeathAnnounced in
/-- The connection is lost while the host is online, and then it is taken out of service. -/
theorem lost_host_turns_offline_silently :
    ¬ ∀ pre post, hostGoesOnline ++ [.connectionLost, .inService false, .work 0 {}, .work 0 {}] =
      pre ++ post → (run HostTrace.step
        (HostTrace.init (P := .reference) none 0 [.name (str "H")]) pre).Agrees := by
  intro h
  have hlast := (h _ [] (List.append_nil _).symm).offline (by decide +kernel)
  revert hlast
  decide +kernel

end PubSub
