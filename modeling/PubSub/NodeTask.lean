import PubSub.Mqtt
import PubSub.Shared.Run

/-!
# The worker of a node

`NodeSys` is a node with its worker thread, its MQTT handle and the log of the current
session. Every event is a total function on the state; one that is not enabled changes
nothing.
-/

namespace PubSub
set_option autoImplicit false

inductive NodeState where
  | idle | waitOnConnect | online | waitOnDisconnect
  deriving DecidableEq, Repr

structure NodeSys (P : Platform) where
  receiver : Receiver P
  nodeState : NodeState := .idle
  phase : Phase := .joined
  stopNodeTask : Bool := true
  nodeTimer : Nat := 0
  clock : Nat := 0
  handle : Option MqttHandle := none
  delivered : Bool := false
  session : List (Action P) := []

namespace NodeSys
variable {P : Platform}

def self (s : NodeSys P) : SparkplugNode P := s.receiver.self

def withSelf (n : SparkplugNode P) (s : NodeSys P) : NodeSys P :=
  { s with receiver := { s.receiver with self := n } }

def isOnline (s : NodeSys P) : Bool := decide (s.nodeState = .online)

def isConnected (s : NodeSys P) : Bool := Mqtt.isConnected s.handle

def now (s : NodeSys P) : UInt64 := UInt64.ofNat s.clock

def timeout (s : NodeSys P) : Bool := decide (s.nodeTimer ≤ s.clock)

def setConnectionLost (lost : Bool) (s : NodeSys P) : NodeSys P :=
  s.withSelf { s.self with connectionLost := lost }

def published (r : SparkplugNode P × List (Publication P)) (s : NodeSys P) : NodeSys P :=
  { s.withSelf r.1 with session := s.session ++ r.2.map .publish }

def pollDevices (s : NodeSys P) : NodeSys P :=
  s.published (s.self.pollDevices s.isOnline s.isConnected s.now)

def publishNodeBirth (s : NodeSys P) : NodeSys P :=
  s.published (s.self.publishNodeBirth s.isConnected s.now)

def publishNodeDeath (s : NodeSys P) : NodeSys P :=
  s.published (s.self.publishNodeDeath s.isConnected s.now)

def startSubscription (s : NodeSys P) : NodeSys P :=
  { s with handle := s.handle.map MqttHandle.subscribe }

/-- A disconnect that the library does not take needs no wait for its delivery. -/
def sendDisconnect (io : Outcomes) (s : NodeSys P) : NodeSys P :=
  if io.disconnect && s.isConnected then
    { s with
      delivered := false
      handle := s.handle.map MqttHandle.disconnect
      session := s.session ++ [.disconnect] }
  else { s with delivered := true }

def sendConnect (io : Outcomes) (s : NodeSys P) : NodeSys P × Bool :=
  match s.self.topicList.getTopicByMessageType (str "NDEATH") with
  | none => (s, false)
  | some _ =>
    let s := s.withSelf (s.self.generateWill s.now)
    if io.connect then ({ s with handle := s.handle.map MqttHandle.connect }, true)
    else (s, false)

def doIdle (io : Outcomes) (s : NodeSys P) : NodeSys P :=
  let timeout := s.timeout
  let s := { s with handle := none }
  if !timeout then s
  else if !s.self.inService then s
  else if s.self.waitOnHostOnline && !s.receiver.isHostOnline then s
  else match io.create with
    | .failed => { s with nodeTimer := s.clock + 10000 }
    | .noCallbacks => { s with handle := some {}, nodeTimer := s.clock + 10000 }
    | .created =>
      let connect := sendConnect io { s with handle := some {} }
      if connect.2 then
        { connect.1 with nodeTimer := s.clock + 5000, nodeState := .waitOnConnect }
      else { connect.1 with nodeTimer := s.clock + 10000 }

def doWaitOnConnect (s : NodeSys P) : NodeSys P :=
  if s.timeout && !s.isConnected then
    { s with nodeTimer := s.clock + 10000, nodeState := .idle }
  else if !s.isConnected then s
  else
    let s := s.startSubscription.publishNodeBirth
    { s with nodeState := .online }.pollDevices

/-- The condition under which `DoOnline` leaves the state. -/
def leaves (s : NodeSys P) : Bool :=
  s.stopNodeTask || !s.self.inService ||
    (s.self.waitOnHostOnline && !s.receiver.isHostOnline)

def doOnline (io : Outcomes) (s : NodeSys P) : NodeSys P :=
  if s.leaves then
    let s := s.pollDevices.publishNodeDeath.sendDisconnect io
    { s with nodeTimer := s.clock + 5000, nodeState := .waitOnDisconnect }
  else s.pollDevices

def doWaitOnDisconnect (s : NodeSys P) : NodeSys P :=
  if s.timeout || s.delivered then
    { s with nodeTimer := s.clock + 10000, nodeState := .idle }
  else s

def stateStep (io : Outcomes) (s : NodeSys P) : NodeSys P :=
  match s.nodeState with
  | .idle => s.doIdle io
  | .waitOnConnect => s.doWaitOnConnect
  | .online => s.doOnline io
  | .waitOnDisconnect => s.doWaitOnDisconnect

def finish (s : NodeSys P) : NodeSys P := { s with handle := none, phase := .exited }

/-- The code behind the loop of `NodeTask`. -/
def leaveLoop (io : Outcomes) (s : NodeSys P) : NodeSys P :=
  if s.nodeState ≠ .idle ∧ s.isConnected then
    let s := if s.nodeState ≠ .waitOnDisconnect then s.sendDisconnect io else s
    { s with phase := .draining 0 }
  else s.finish

/-- One move of `NodeTask`. -/
def work (io : Outcomes) (s : NodeSys P) : NodeSys P :=
  match s.phase with
  | .entry => { s with nodeTimer := 0, nodeState := .idle, handle := none, phase := .check }
  | .check => if s.stopNodeTask then s.leaveLoop io else { s with phase := .body }
  | .body => { s.stateStep io with phase := .check }
  | .draining polls =>
    if !s.delivered && decide (polls < 500) then { s with phase := .draining (polls + 1) }
    else s.finish
  | .exited | .joined => s

/-- Time passes before the worker moves. -/
def tick (elapsed : Nat) (s : NodeSys P) : NodeSys P :=
  { s with clock := s.clock + elapsed }

def start (s : NodeSys P) : NodeSys P :=
  if s.phase.isRunning then s
  else match s.self.start with
    | none => { s with phase := .joined }
    | some n => { s.withSelf n with stopNodeTask := false, phase := .entry }

/-- The end of `Stop`, behind the join. -/
def stopReturns (s : NodeSys P) : NodeSys P :=
  if s.stopNodeTask && !s.phase.isRunning then { s with handle := none, phase := .joined }
  else s

/-- Only a callback that brings a response reaches the node. The one of a successful
connect also stores the protocol version. -/
def callback (hasResponse : Bool) (version : ProtocolVersion) (s : NodeSys P) : NodeSys P :=
  match Mqtt.nextCallback s.handle with
  | none => s
  | some response =>
    let s := { s with
      handle := Mqtt.popCallback s.handle
      delivered := s.delivered || hasResponse }
    if response = .connect true ∧ hasResponse then
      s.withSelf { s.self with version := version }
    else s

def linkEvent (event : LinkEvent) (s : NodeSys P) : NodeSys P :=
  { s with
    handle := Mqtt.link event s.handle
    session := if Mqtt.newSession event s.handle then [] else s.session }

def connectionLost (s : NodeSys P) : NodeSys P :=
  if s.isConnected then { s with handle := Mqtt.lose s.handle }.setConnectionLost true else s

def message (topicName : Str) (body : BodyList) (s : NodeSys P) : NodeSys P :=
  if Mqtt.receives s.handle then
    { s with receiver := s.receiver.message topicName s.now body }
  else s

def deviceStop (name : Str) (s : NodeSys P) : NodeSys P :=
  let view := s.self.parentView s.isOnline s.isConnected
  let polled := s.self.deviceList.mapAccum
    (fun o key d =>
      if P.foldKey key = P.foldKey name then
        let stopped := d.stop key view s.now o
        (stopped.2, stopped.1)
      else (o, d)) { sequenceNumber := s.self.sequenceNumber }
  s.published
    ({ s.self with deviceList := polled.2, sequenceNumber := polled.1.sequenceNumber },
      polled.1.published)

theorem work_entry {s : NodeSys P} (io : Outcomes) (h : s.phase = .entry) : s.work io =
    { s with nodeTimer := 0, nodeState := .idle, handle := none, phase := .check } := by
  simp only [work, h]

theorem work_check {s : NodeSys P} (io : Outcomes) (h : s.phase = .check) : s.work io =
    if s.stopNodeTask then s.leaveLoop io else { s with phase := .body } := by
  simp only [work, h]

theorem work_body {s : NodeSys P} (io : Outcomes) (h : s.phase = .body) :
    s.work io = { s.stateStep io with phase := .check } := by
  simp only [work, h]

theorem work_draining {s : NodeSys P} (io : Outcomes) {polls : Nat}
    (h : s.phase = .draining polls) : s.work io =
      if !s.delivered && decide (polls < 500) then { s with phase := .draining (polls + 1) }
      else s.finish := by
  simp only [work, h]

theorem work_exited {s : NodeSys P} (io : Outcomes) (h : s.phase = .exited) : s.work io = s := by
  simp only [work, h]

theorem work_joined {s : NodeSys P} (io : Outcomes) (h : s.phase = .joined) : s.work io = s := by
  simp only [work, h]

@[simp] theorem tick_nodeState (elapsed : Nat) (s : NodeSys P) :
    (s.tick elapsed).nodeState = s.nodeState := rfl

@[simp] theorem tick_phase (elapsed : Nat) (s : NodeSys P) :
    (s.tick elapsed).phase = s.phase := rfl

@[simp] theorem tick_handle (elapsed : Nat) (s : NodeSys P) :
    (s.tick elapsed).handle = s.handle := rfl

@[simp] theorem tick_stopNodeTask (elapsed : Nat) (s : NodeSys P) :
    (s.tick elapsed).stopNodeTask = s.stopNodeTask := rfl

@[simp] theorem tick_session (elapsed : Nat) (s : NodeSys P) :
    (s.tick elapsed).session = s.session := rfl

@[simp] theorem tick_receiver (elapsed : Nat) (s : NodeSys P) :
    (s.tick elapsed).receiver = s.receiver := rfl

@[simp] theorem tick_self (elapsed : Nat) (s : NodeSys P) :
    (s.tick elapsed).self = s.self := rfl

@[simp] theorem withSelf_nodeState (n : SparkplugNode P) (s : NodeSys P) :
    (s.withSelf n).nodeState = s.nodeState := rfl

@[simp] theorem withSelf_phase (n : SparkplugNode P) (s : NodeSys P) :
    (s.withSelf n).phase = s.phase := rfl

@[simp] theorem withSelf_handle (n : SparkplugNode P) (s : NodeSys P) :
    (s.withSelf n).handle = s.handle := rfl

@[simp] theorem withSelf_session (n : SparkplugNode P) (s : NodeSys P) :
    (s.withSelf n).session = s.session := rfl

@[simp] theorem withSelf_stopNodeTask (n : SparkplugNode P) (s : NodeSys P) :
    (s.withSelf n).stopNodeTask = s.stopNodeTask := rfl

@[simp] theorem withSelf_self (n : SparkplugNode P) (s : NodeSys P) :
    (s.withSelf n).self = n := rfl

@[simp] theorem published_nodeState (r : SparkplugNode P × List (Publication P))
    (s : NodeSys P) : (s.published r).nodeState = s.nodeState := rfl

@[simp] theorem published_phase (r : SparkplugNode P × List (Publication P))
    (s : NodeSys P) : (s.published r).phase = s.phase := rfl

@[simp] theorem published_handle (r : SparkplugNode P × List (Publication P))
    (s : NodeSys P) : (s.published r).handle = s.handle := rfl

@[simp] theorem published_self (r : SparkplugNode P × List (Publication P))
    (s : NodeSys P) : (s.published r).self = r.1 := rfl

@[simp] theorem published_session (r : SparkplugNode P × List (Publication P))
    (s : NodeSys P) : (s.published r).session = s.session ++ r.2.map .publish := rfl

@[simp] theorem published_stopNodeTask (r : SparkplugNode P × List (Publication P))
    (s : NodeSys P) : (s.published r).stopNodeTask = s.stopNodeTask := rfl

@[simp] theorem pollDevices_nodeState (s : NodeSys P) :
    s.pollDevices.nodeState = s.nodeState := rfl

@[simp] theorem pollDevices_phase (s : NodeSys P) : s.pollDevices.phase = s.phase := rfl

@[simp] theorem pollDevices_handle (s : NodeSys P) : s.pollDevices.handle = s.handle := rfl

/-- What a disconnect leaves alone. -/
theorem sendDisconnect_cases (io : Outcomes) (s : NodeSys P) :
    (s.isConnected = true ∧ s.sendDisconnect io =
      { s with
        delivered := false
        handle := s.handle.map MqttHandle.disconnect
        session := s.session ++ [.disconnect] }) ∨
    s.sendDisconnect io = { s with delivered := true } := by
  unfold sendDisconnect
  split
  · rename_i h
    exact .inl ⟨(Bool.and_eq_true_iff.mp h).2, rfl⟩
  · exact .inr rfl

/-- Whether nothing holds the node back from a connect. -/
def mayConnect (s : NodeSys P) : Bool :=
  s.timeout && s.self.inService && !(s.self.waitOnHostOnline && !s.receiver.isHostOnline)

theorem doIdle_cases (io : Outcomes) (s : NodeSys P) :
    (∃ n timer handle, (n = s.self ∨ n = s.self.generateWill s.now) ∧
      (handle = none ∨ handle = some {}) ∧
      s.doIdle io = { s.withSelf n with nodeTimer := timer, handle := handle }) ∨
    (s.mayConnect = true ∧ s.doIdle io =
      { s.withSelf (s.self.generateWill s.now) with
        nodeTimer := s.clock + 5000
        handle := some ({} : MqttHandle).connect
        nodeState := .waitOnConnect }) := by
  unfold doIdle
  dsimp only
  split
  · exact .inl ⟨s.self, _, _, .inl rfl, .inl rfl, rfl⟩
  · rename_i htimeout
    split
    · exact .inl ⟨s.self, _, _, .inl rfl, .inl rfl, rfl⟩
    · rename_i hservice
      split
      · exact .inl ⟨s.self, _, _, .inl rfl, .inl rfl, rfl⟩
      · rename_i hhost
        split
        · exact .inl ⟨s.self, _, _, .inl rfl, .inl rfl, rfl⟩
        · exact .inl ⟨s.self, _, _, .inl rfl, .inr rfl, rfl⟩
        · unfold sendConnect
          cases hdeath : TopicList.getTopicByMessageType (str "NDEATH") s.self.topicList with
          | none =>
            simp only [self] at hdeath ⊢
            simp only [hdeath]
            exact .inl ⟨s.self, _, _, .inl rfl, .inr rfl, rfl⟩
          | some t =>
            simp only [self] at hdeath ⊢
            simp only [hdeath]
            cases hconnect : io.connect with
            | true =>
              refine .inr ⟨?_, rfl⟩
              simp only [Bool.not_eq_true'] at htimeout hservice hhost
              simp only [mayConnect, self, Bool.and_eq_true, Bool.not_eq_true']
              simp only [Bool.and_eq_true, not_and, Bool.not_eq_true', Bool.not_eq_false]
                at htimeout hservice hhost
              have hgate : (s.self.waitOnHostOnline && !s.receiver.isHostOnline) = false := by
                by_contra hne
                simp only [Bool.not_eq_false, Bool.and_eq_true] at hne
                exact absurd (hhost hne.1) (by simpa using hne.2)
              exact ⟨⟨htimeout, hservice⟩, hgate⟩
            | false => exact .inl ⟨s.self.generateWill s.now, _, _, .inr rfl, .inr rfl, rfl⟩

theorem doWaitOnConnect_cases (s : NodeSys P) :
    (s.isConnected = false ∧ (s.doWaitOnConnect = s ∨ s.doWaitOnConnect =
      { s with nodeTimer := s.clock + 10000, nodeState := .idle })) ∨
    (s.isConnected = true ∧ s.doWaitOnConnect =
      { s.startSubscription.publishNodeBirth with nodeState := .online }.pollDevices) := by
  unfold doWaitOnConnect
  cases hc : s.isConnected with
  | false =>
    refine .inl ⟨rfl, ?_⟩
    cases s.timeout with
    | false => exact .inl rfl
    | true => exact .inr rfl
  | true =>
    refine .inr ⟨rfl, ?_⟩
    simp

@[simp] theorem sendDisconnect_nodeState (io : Outcomes) (s : NodeSys P) :
    (s.sendDisconnect io).nodeState = s.nodeState := by
  rcases s.sendDisconnect_cases io with ⟨_, h⟩ | h <;> rw [h]

theorem leaveLoop_nodeState (io : Outcomes) (s : NodeSys P) :
    (s.leaveLoop io).nodeState = s.nodeState := by
  unfold leaveLoop
  split
  · dsimp only
    split
    · exact sendDisconnect_nodeState io s
    · rfl
  · rfl

theorem leaveLoop_receiver (io : Outcomes) (s : NodeSys P) :
    (s.leaveLoop io).receiver = s.receiver ∧ ((s.leaveLoop io).session = s.session ∨
      (s.leaveLoop io).session = s.session ++ [.disconnect]) := by
  unfold leaveLoop
  split
  · dsimp only
    split
    · rcases s.sendDisconnect_cases io with ⟨_, h⟩ | h
      · rw [h]
        exact ⟨rfl, .inr rfl⟩
      · rw [h]
        exact ⟨rfl, .inl rfl⟩
    · exact ⟨rfl, .inl rfl⟩
  · exact ⟨rfl, .inl rfl⟩

/-- Beside the state functions the worker hands over a disconnect at most. -/
theorem work_cases (io : Outcomes) (s : NodeSys P) :
    (s.phase = .body ∧ s.work io = { s.stateStep io with phase := .check }) ∨
    ((s.work io).receiver = s.receiver ∧ ((s.work io).session = s.session ∨
      (s.work io).session = s.session ++ [.disconnect])) := by
  cases hphase : s.phase with
  | entry =>
    rw [work_entry io hphase]
    exact .inr ⟨rfl, .inl rfl⟩
  | check =>
    rw [work_check io hphase]
    split
    · exact .inr (s.leaveLoop_receiver io)
    · exact .inr ⟨rfl, .inl rfl⟩
  | body => exact .inl ⟨rfl, work_body io hphase⟩
  | draining polls =>
    rw [work_draining io hphase]
    split
    · exact .inr ⟨rfl, .inl rfl⟩
    · exact .inr ⟨rfl, .inl rfl⟩
  | exited =>
    rw [work_exited io hphase]
    exact .inr ⟨rfl, .inl rfl⟩
  | joined =>
    rw [work_joined io hphase]
    exact .inr ⟨rfl, .inl rfl⟩

@[simp] theorem sendDisconnect_receiver (io : Outcomes) (s : NodeSys P) :
    (s.sendDisconnect io).receiver = s.receiver := by
  rcases s.sendDisconnect_cases io with ⟨_, h⟩ | h <;> rw [h]

@[simp] theorem sendDisconnect_self (io : Outcomes) (s : NodeSys P) :
    (s.sendDisconnect io).self = s.self := congrArg Receiver.self (s.sendDisconnect_receiver io)

/-- What a move of the worker makes of the node itself. -/
inductive Worked (s : NodeSys P) : SparkplugNode P → Prop where
  | same : Worked s s.self
  | will : Worked s (s.self.generateWill s.now)
  | born (hphase : s.phase = .body) (hstate : s.nodeState = .waitOnConnect)
      (hconnected : s.isConnected = true) :
      Worked s { s.startSubscription.publishNodeBirth with nodeState := .online }.pollDevices.self
  | polled (hphase : s.phase = .body) (hstate : s.nodeState = .online) :
      Worked s s.pollDevices.self
  | died (hphase : s.phase = .body) (hstate : s.nodeState = .online) :
      Worked s s.pollDevices.publishNodeDeath.self

theorem worked_stateStep {s : NodeSys P} (hphase : s.phase = .body) (io : Outcomes) :
    s.Worked (s.stateStep io).self := by
  unfold stateStep
  split
  · rcases doIdle_cases io s with ⟨n, timer, handle, hn, _, hs⟩ | ⟨_, hs⟩
    · rw [hs]
      rcases hn with rfl | rfl
      · exact .same
      · exact .will
    · rw [hs]
      exact .will
  · rename_i hstate
    rcases doWaitOnConnect_cases s with ⟨_, hs | hs⟩ | ⟨hconnected, hs⟩
    · rw [hs]
      exact .same
    · rw [hs]
      exact .same
    · rw [hs]
      exact .born hphase hstate hconnected
  · rename_i hstate
    unfold doOnline
    split
    · change s.Worked (s.pollDevices.publishNodeDeath.sendDisconnect io).self
      rw [sendDisconnect_self]
      exact .died hphase hstate
    · exact .polled hphase hstate
  · unfold doWaitOnDisconnect
    split
    · exact .same
    · exact .same

theorem worked_work (io : Outcomes) (s : NodeSys P) : s.Worked (s.work io).self := by
  rcases s.work_cases io with ⟨hphase, hwork⟩ | ⟨hreceiver, _⟩
  · rw [hwork]
    exact worked_stateStep hphase io
  · rw [self, hreceiver]
    exact .same

end NodeSys

/-- A change of a metric by the application that leaves name, alias and datatype. -/
structure MetricEdit where
  edit : Metric → Metric
  identity : ∀ m, (edit m).identity = m.identity

/-- `addBirthMetric` is `Payload::AddMetric` on the payload of NBIRTH, which the application can
reach; the function `AddMetric` of a node does nothing. -/
inductive NodeEvent (P : Platform) where
  | work (elapsed : Nat) (io : Outcomes)
  | link (event : LinkEvent)
  | connectionLost
  | callback (hasResponse : Bool) (version : ProtocolVersion)
  | message (topicName : Str) (body : BodyList)
  | start
  | stop
  | stopReturns
  | inService (on : Bool)
  | waitOnHostOnline (wait : Bool)
  | deviceInService (device : Str) (on : Bool)
  | deviceStart (device : Str)
  | deviceStop (device : Str)
  | addBirthMetric (m : Metric)
  | editMetric (name : Str) (edit : MetricEdit)

namespace NodeSys
variable {P : Platform}

def step (s : NodeSys P) : NodeEvent P → NodeSys P
  | .work elapsed io => (s.tick elapsed).work io
  | .link event => s.linkEvent event
  | .connectionLost => s.connectionLost
  | .callback hasResponse version => s.callback hasResponse version
  | .message topicName body => s.message topicName body
  | .start => s.start
  | .stop => { s with stopNodeTask := true }
  | .stopReturns => s.stopReturns
  | .inService on => s.withSelf { s.self with inService := on }
  | .waitOnHostOnline wait => s.withSelf { s.self with waitOnHostOnline := wait }
  | .deviceInService device on =>
    s.withSelf (s.self.updateDevice device fun d => { d with inService := on })
  | .deviceStart device => s.withSelf (s.self.updateDevice device SparkplugDevice.start)
  | .deviceStop device => s.deviceStop device
  | .addBirthMetric m =>
    s.withSelf (s.self.onTopics fun list => list.update (str "NBIRTH") fun t =>
      t.onPayload fun p => p.addMetric m)
  | .editMetric name edit =>
    s.withSelf (s.self.onTopics fun list => list.update (str "NBIRTH") fun t =>
      t.onPayload fun p => p.updateMetric name edit.edit)

end NodeSys

/-- The events that move the worker or its stop flag. -/
def NodeEvent.isControl {P : Platform} : NodeEvent P → Bool
  | .work _ _ | .start | .stop | .stopReturns => true
  | _ => false

namespace NodeSys
variable {P : Platform}

/-- All other events leave the state, the phase, the stop flag and the clock. -/
structure SameControl (s t : NodeSys P) : Prop where
  nodeState : s.nodeState = t.nodeState
  phase : s.phase = t.phase
  stopNodeTask : s.stopNodeTask = t.stopNodeTask
  nodeTimer : s.nodeTimer = t.nodeTimer
  clock : s.clock = t.clock

theorem quiet_control {s : NodeSys P} {e : NodeEvent P} (h : e.isControl = false) :
    SameControl (s.step e) s := by
  cases e with
  | work elapsed io => cases h
  | start => cases h
  | stop => cases h
  | stopReturns => cases h
  | connectionLost =>
    change SameControl s.connectionLost s
    unfold connectionLost
    split <;> exact ⟨rfl, rfl, rfl, rfl, rfl⟩
  | callback hasResponse version =>
    change SameControl (s.callback hasResponse version) s
    unfold callback
    split
    · exact ⟨rfl, rfl, rfl, rfl, rfl⟩
    · dsimp only
      split <;> exact ⟨rfl, rfl, rfl, rfl, rfl⟩
  | message topicName body =>
    change SameControl (s.message topicName body) s
    unfold message
    split <;> exact ⟨rfl, rfl, rfl, rfl, rfl⟩
  | _ => exact ⟨rfl, rfl, rfl, rfl, rfl⟩

end NodeSys

/-- The events that move nothing of a node but its settings. -/
def NodeEvent.isSetting {P : Platform} : NodeEvent P → Bool
  | .link _ | .connectionLost | .callback _ _ | .stop | .stopReturns | .inService _
  | .waitOnHostOnline _ => true
  | _ => false

namespace NodeSys
variable {P : Platform}

theorem self_setting {s : NodeSys P} {e : NodeEvent P} (h : e.isSetting = true) :
    ∃ version inService wait lost, (s.step e).self = { s.self with
      version := version
      inService := inService
      waitOnHostOnline := wait
      connectionLost := lost } := by
  cases e with
  | link event => exact ⟨_, _, _, _, rfl⟩
  | connectionLost =>
    dsimp only [step]
    unfold connectionLost
    split
    · exact ⟨_, _, _, _, rfl⟩
    · exact ⟨_, _, _, _, rfl⟩
  | callback hasResponse version =>
    dsimp only [step]
    unfold callback
    split
    · exact ⟨_, _, _, _, rfl⟩
    · dsimp only
      split
      · exact ⟨_, _, _, _, rfl⟩
      · exact ⟨_, _, _, _, rfl⟩
  | stop => exact ⟨_, _, _, _, rfl⟩
  | stopReturns =>
    dsimp only [step]
    unfold stopReturns
    split
    · exact ⟨_, _, _, _, rfl⟩
    · exact ⟨_, _, _, _, rfl⟩
  | inService on => exact ⟨_, _, _, _, rfl⟩
  | waitOnHostOnline wait => exact ⟨_, _, _, _, rfl⟩
  | _ => cases h

end NodeSys

/-- What an application does to a node before it starts it. -/
inductive Setup where
  | name (name : Str)
  | group (group : Str)
  | version (version : ProtocolVersion)
  | hardware (make model system systemVersion : Str)
  | waitOnHostOnline (wait : Bool)
  | inService (on : Bool)
  | createDevice (name : Str) (now : UInt64)
  | addBirthMetric (m : Metric)
  | addDeviceMetric (device : Str) (m : Metric)

namespace SparkplugNode
variable {P : Platform}

def configure (n : SparkplugNode P) : Setup → SparkplugNode P
  | .name name => { n with name := name }
  | .group group => { n with group := group }
  | .version version => { n with version := version }
  | .hardware make model system systemVersion =>
    { n with
      hardwareMake := make
      hardwareModel := model
      operatingSystem := system
      osVersion := systemVersion }
  | .waitOnHostOnline wait => { n with waitOnHostOnline := wait }
  | .inService on => { n with inService := on }
  | .createDevice name now => n.createDevice name now
  | .addBirthMetric m => n.onTopics fun list => list.update (str "NBIRTH") fun t =>
      t.onPayload fun p => p.addMetric m
  | .addDeviceMetric device m => n.updateDevice device (SparkplugDevice.addMetric m)

def configured (now : UInt64) (setups : List Setup) : SparkplugNode P :=
  setups.foldl configure (create now)

end SparkplugNode

namespace NodeSys
variable {P : Platform}

/-- A node as the application made it, not started yet. -/
def init (now : UInt64) (setups : List Setup) : NodeSys P where
  receiver := { self := SparkplugNode.configured now setups }

end NodeSys
end PubSub
