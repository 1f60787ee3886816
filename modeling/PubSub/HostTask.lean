import PubSub.Mqtt
import PubSub.Shared.Run

/-!
# The worker of a host

The handle is made by `Start` and lives until `Stop` returns. The host announces its
state with STATE messages, and it waits out a controlled disconnect behind its loop.
-/

namespace PubSub
set_option autoImplicit false

inductive WorkState where
  | idle | waitOnConnect | online | offline | waitOnDisconnect
  deriving DecidableEq, Repr

structure HostSys (P : Platform) where
  receiver : Receiver P
  workState : WorkState := .idle
  phase : Phase := .joined
  stopWorkTask : Bool := true
  hostTimer : Nat := 0
  clock : Nat := 0
  handle : Option MqttHandle := none
  delivered : Bool := false
  session : List (Action P) := []

namespace HostSys
variable {P : Platform}

def self (s : HostSys P) : SparkplugNode P := s.receiver.self

def withSelf (n : SparkplugNode P) (s : HostSys P) : HostSys P :=
  { s with receiver := { s.receiver with self := n } }

def isOnline (s : HostSys P) : Bool := decide (s.workState = .online)

def isConnected (s : HostSys P) : Bool := Mqtt.isConnected s.handle

def now (s : HostSys P) : UInt64 := UInt64.ofNat s.clock

def timeout (s : HostSys P) : Bool := decide (s.hostTimer ≤ s.clock)

def setConnectionLost (lost : Bool) (s : HostSys P) : HostSys P :=
  s.withSelf { s.self with connectionLost := lost }

/-- The send fails, and nothing is published, without a connection. -/
def publishState (online : Bool) (s : HostSys P) : HostSys P :=
  let r := SparkplugHost.publishState online s.self
  { s.withSelf r.1 with
    session := if s.isConnected then s.session ++ r.2.map .publish else s.session }

def startSubscription (s : HostSys P) : HostSys P :=
  { s with handle := s.handle.map MqttHandle.subscribe }

def sendDisconnect (io : Outcomes) (s : HostSys P) : HostSys P :=
  if io.disconnect && s.isConnected then
    { s with
      delivered := false
      handle := s.handle.map MqttHandle.disconnect
      session := s.session ++ [.disconnect] }
  else { s with delivered := true }

def sendConnect (io : Outcomes) (s : HostSys P) : HostSys P × Bool :=
  match s.self.topicList.getTopicByMessageType (str "STATE") with
  | none => (s, false)
  | some _ =>
    let s := s.withSelf (SparkplugHost.generateWill s.self)
    let s := { s with delivered := false }.setConnectionLost false
    if io.connect then ({ s with handle := s.handle.map MqttHandle.connect }, true)
    else (s, false)

def doIdle (io : Outcomes) (s : HostSys P) : HostSys P :=
  if !s.timeout then s
  else
    let connect :=
      sendConnect io { s with hostTimer := s.clock + 10000, workState := .waitOnConnect }
    if connect.2 then connect.1 else { connect.1 with workState := .idle }

/-- The STATE payload and the subscriptions, once the connect reply has come. -/
def connectReplied (t : Topic P) (s : HostSys P) : HostSys P :=
  let s := s.withSelf (s.self.onTopics fun list => list.update (str "STATE") fun t =>
    t.onPayload fun p => p.setStringValue (str "Properties/MQTT Version")
      s.self.versionAsString)
  let s := s.withSelf { s.self with
    subscriptionList := PubSubClient.addSubscription t.topicName s.self.subscriptionList }
  s.startSubscription

def doWaitOnConnect (s : HostSys P) : HostSys P :=
  if s.timeout then { s with hostTimer := s.clock + 10000, workState := .idle }
  else if !s.isConnected || !s.delivered then s
  else match s.self.topicList.getTopicByMessageType (str "STATE") with
    | none => { s with hostTimer := s.clock + 10000, workState := .idle }
    | some t =>
      let s := s.connectReplied t
      if s.self.inService then { s.publishState true with workState := .online }
      else { s.publishState false with workState := .offline }

def doOnline (io : Outcomes) (s : HostSys P) : HostSys P :=
  if s.stopWorkTask then
    let s := { s.publishState false with hostTimer := s.clock + 5000 }
    { s.sendDisconnect io with workState := .waitOnDisconnect }
  else if !s.self.inService then { s.publishState false with workState := .offline }
  else s

def doOffline (io : Outcomes) (s : HostSys P) : HostSys P :=
  if s.stopWorkTask then
    let s := { s with hostTimer := s.clock + 5000 }
    { s.sendDisconnect io with workState := .waitOnDisconnect }
  else if s.self.inService then { s.publishState true with workState := .online }
  else s

def doWaitOnDisconnect (s : HostSys P) : HostSys P :=
  if s.timeout || s.delivered then
    { s with hostTimer := s.clock + 10000, workState := .idle }
  else s

def stateStep (io : Outcomes) (s : HostSys P) : HostSys P :=
  match s.workState with
  | .idle => s.doIdle io
  | .waitOnConnect => s.doWaitOnConnect
  | .online => s.doOnline io
  | .offline => s.doOffline io
  | .waitOnDisconnect => s.doWaitOnDisconnect

def leaveLoop (io : Outcomes) (s : HostSys P) : HostSys P :=
  if s.workState ≠ .idle ∧ s.isConnected then
    let s := if s.workState ≠ .waitOnDisconnect then s.sendDisconnect io else s
    { s with phase := .draining 0 }
  else { s with phase := .exited }

/-- One move of `HostTask`. -/
def work (io : Outcomes) (s : HostSys P) : HostSys P :=
  match s.phase with
  | .entry => { s with hostTimer := s.clock, workState := .idle, phase := .check }
  | .check => if s.stopWorkTask then s.leaveLoop io else { s with phase := .body }
  | .body => { s.stateStep io with phase := .check }
  | .draining polls =>
    if !s.delivered && decide (polls < 1000) then { s with phase := .draining (polls + 1) }
    else { s with phase := .exited }
  | .exited | .joined => s

def tick (elapsed : Nat) (s : HostSys P) : HostSys P :=
  { s with clock := s.clock + elapsed }

/-- `Start` makes the handle before it joins a previous worker. A call that meets a running
worker only waits here; that it replaces the handle under that worker is left out. -/
def start (io : Outcomes) (s : HostSys P) : HostSys P :=
  if s.phase.isRunning then s
  else
    let s := s.withSelf (SparkplugHost.start s.now s.self)
    match io.create with
    | .failed => s
    | .noCallbacks => { s with handle := some {}, delivered := false }.setConnectionLost false
    | .created =>
      { s with
        handle := some {}
        delivered := false
        stopWorkTask := false
        phase := .entry }.setConnectionLost false

def stopReturns (s : HostSys P) : HostSys P :=
  if s.stopWorkTask && !s.phase.isRunning then { s with handle := none, phase := .joined }
  else s

def callback (hasResponse : Bool) (version : ProtocolVersion) (s : HostSys P) : HostSys P :=
  match Mqtt.nextCallback s.handle with
  | none => s
  | some response =>
    let s := { s with
      handle := Mqtt.popCallback s.handle
      delivered := s.delivered || hasResponse }
    if response = .connect true ∧ hasResponse then
      s.withSelf { s.self with version := version }
    else s

def linkEvent (event : LinkEvent) (s : HostSys P) : HostSys P :=
  { s with
    handle := Mqtt.link event s.handle
    session := if Mqtt.newSession event s.handle then [] else s.session }

def connectionLost (s : HostSys P) : HostSys P :=
  if s.isConnected then { s with handle := Mqtt.lose s.handle }.setConnectionLost true else s

def message (topicName : Str) (body : BodyList) (s : HostSys P) : HostSys P :=
  if Mqtt.receives s.handle then
    { s with receiver := s.receiver.message topicName s.now body }
  else s

theorem work_entry {s : HostSys P} (io : Outcomes) (h : s.phase = .entry) : s.work io =
    { s with hostTimer := s.clock, workState := .idle, phase := .check } := by
  simp only [work, h]

theorem work_check {s : HostSys P} (io : Outcomes) (h : s.phase = .check) : s.work io =
    if s.stopWorkTask then s.leaveLoop io else { s with phase := .body } := by
  simp only [work, h]

theorem work_body {s : HostSys P} (io : Outcomes) (h : s.phase = .body) :
    s.work io = { s.stateStep io with phase := .check } := by
  simp only [work, h]

theorem work_draining {s : HostSys P} (io : Outcomes) {polls : Nat}
    (h : s.phase = .draining polls) : s.work io =
      if !s.delivered && decide (polls < 1000) then { s with phase := .draining (polls + 1) }
      else { s with phase := .exited } := by
  simp only [work, h]

theorem work_exited {s : HostSys P} (io : Outcomes) (h : s.phase = .exited) : s.work io = s := by
  simp only [work, h]

theorem work_joined {s : HostSys P} (io : Outcomes) (h : s.phase = .joined) : s.work io = s := by
  simp only [work, h]

@[simp] theorem tick_workState (elapsed : Nat) (s : HostSys P) :
    (s.tick elapsed).workState = s.workState := rfl

@[simp] theorem tick_phase (elapsed : Nat) (s : HostSys P) :
    (s.tick elapsed).phase = s.phase := rfl

@[simp] theorem tick_handle (elapsed : Nat) (s : HostSys P) :
    (s.tick elapsed).handle = s.handle := rfl

@[simp] theorem tick_stopWorkTask (elapsed : Nat) (s : HostSys P) :
    (s.tick elapsed).stopWorkTask = s.stopWorkTask := rfl

@[simp] theorem tick_session (elapsed : Nat) (s : HostSys P) :
    (s.tick elapsed).session = s.session := rfl

@[simp] theorem tick_receiver (elapsed : Nat) (s : HostSys P) :
    (s.tick elapsed).receiver = s.receiver := rfl

@[simp] theorem tick_self (elapsed : Nat) (s : HostSys P) :
    (s.tick elapsed).self = s.self := rfl

@[simp] theorem withSelf_workState (n : SparkplugNode P) (s : HostSys P) :
    (s.withSelf n).workState = s.workState := rfl

@[simp] theorem withSelf_phase (n : SparkplugNode P) (s : HostSys P) :
    (s.withSelf n).phase = s.phase := rfl

@[simp] theorem withSelf_handle (n : SparkplugNode P) (s : HostSys P) :
    (s.withSelf n).handle = s.handle := rfl

@[simp] theorem withSelf_session (n : SparkplugNode P) (s : HostSys P) :
    (s.withSelf n).session = s.session := rfl

@[simp] theorem withSelf_self (n : SparkplugNode P) (s : HostSys P) :
    (s.withSelf n).self = n := rfl

@[simp] theorem publishState_workState (online : Bool) (s : HostSys P) :
    (s.publishState online).workState = s.workState := rfl

@[simp] theorem publishState_phase (online : Bool) (s : HostSys P) :
    (s.publishState online).phase = s.phase := rfl

@[simp] theorem publishState_handle (online : Bool) (s : HostSys P) :
    (s.publishState online).handle = s.handle := rfl

theorem sendDisconnect_cases (io : Outcomes) (s : HostSys P) :
    (s.isConnected = true ∧ s.sendDisconnect io =
      { s with
        delivered := false
        handle := s.handle.map MqttHandle.disconnect
        session := s.session ++ [.disconnect] }) ∨
    s.sendDisconnect io = { s with delivered := true } := by
  unfold sendDisconnect
  split
  · rename_i h
    exact .inl ⟨(Bool.and_eq_true_iff.mp h).2, rfl⟩
  · exact .inr rfl

@[simp] theorem sendDisconnect_workState (io : Outcomes) (s : HostSys P) :
    (s.sendDisconnect io).workState = s.workState := by
  rcases s.sendDisconnect_cases io with ⟨_, h⟩ | h <;> rw [h]

theorem leaveLoop_workState (io : Outcomes) (s : HostSys P) :
    (s.leaveLoop io).workState = s.workState := by
  unfold leaveLoop
  split
  · dsimp only
    split
    · exact sendDisconnect_workState io s
    · rfl
  · rfl

theorem doIdle_workState (io : Outcomes) (s : HostSys P) (h : s.workState = .idle) :
    (s.doIdle io).workState ≠ .online := by
  unfold doIdle
  split
  · simp [h]
  · dsimp only
    split
    · unfold sendConnect
      dsimp only
      split
      · simp
      · split
        · simp [setConnectionLost]
        · simp [setConnectionLost]
    · simp

end HostSys

inductive HostEvent where
  | work (elapsed : Nat) (io : Outcomes)
  | link (event : LinkEvent)
  | connectionLost
  | callback (hasResponse : Bool) (version : ProtocolVersion)
  | message (topicName : Str) (body : BodyList)
  | start (io : Outcomes)
  | stop
  | stopReturns
  | inService (on : Bool)

namespace HostSys
variable {P : Platform}

def step (s : HostSys P) : HostEvent → HostSys P
  | .work elapsed io => (s.tick elapsed).work io
  | .link event => s.linkEvent event
  | .connectionLost => s.connectionLost
  | .callback hasResponse version => s.callback hasResponse version
  | .message topicName body => s.message topicName body
  | .start io => s.start io
  | .stop => { s with stopWorkTask := true }
  | .stopReturns => s.stopReturns
  | .inService on => s.withSelf { s.self with inService := on }

end HostSys

/-- The events that move the worker or its stop flag. -/
def HostEvent.isControl : HostEvent → Bool
  | .work _ _ | .start _ | .stop | .stopReturns => true
  | _ => false

namespace HostSys
variable {P : Platform}

/-- All other events leave the state, the phase, the stop flag and the clock. -/
structure SameControl (s t : HostSys P) : Prop where
  workState : s.workState = t.workState
  phase : s.phase = t.phase
  stopWorkTask : s.stopWorkTask = t.stopWorkTask
  hostTimer : s.hostTimer = t.hostTimer
  clock : s.clock = t.clock

theorem quiet_control {s : HostSys P} {e : HostEvent} (h : e.isControl = false) :
    SameControl (s.step e) s := by
  cases e with
  | work elapsed io => cases h
  | start io => cases h
  | stop => cases h
  | stopReturns => cases h
  | connectionLost =>
    change SameControl s.connectionLost s
    unfold connectionLost
    split <;> exact ⟨rfl, rfl, rfl, rfl, rfl⟩
  | callback hasResponse version =>
    change SameControl (s.callback hasResponse version) s
    unfold callback
    split
    · exact ⟨rfl, rfl, rfl, rfl, rfl⟩
    · dsimp only
      split <;> exact ⟨rfl, rfl, rfl, rfl, rfl⟩
  | message topicName body =>
    change SameControl (s.message topicName body) s
    unfold message
    split <;> exact ⟨rfl, rfl, rfl, rfl, rfl⟩
  | _ => exact ⟨rfl, rfl, rfl, rfl, rfl⟩

end HostSys

/-- What an application does to a host before it starts it. -/
inductive HostSetup where
  | name (name : Str)
  | group (group : Str)
  | version (version : ProtocolVersion)
  | hardware (make model system systemVersion : Str)
  | sparkplugVersion (version : Str)
  | inService (on : Bool)

namespace SparkplugHost
variable {P : Platform}

def configure (n : SparkplugNode P) : HostSetup → SparkplugNode P
  | .name name => { n with name := name }
  | .group group => { n with group := group }
  | .version version => { n with version := version }
  | .hardware make model system systemVersion =>
    { n with
      hardwareMake := make
      hardwareModel := model
      operatingSystem := system
      osVersion := systemVersion }
  | .sparkplugVersion version => { n with sparkplugVersion := version }
  | .inService on => { n with inService := on }

end SparkplugHost

namespace HostSys
variable {P : Platform}

/-- A host that is not started yet, made by one of the two constructors. -/
def init (hostName : Option Str) (now : UInt64) (setups : List HostSetup) : HostSys P where
  receiver :=
    { self := setups.foldl SparkplugHost.configure
        (match hostName with
          | none => SparkplugHost.create now
          | some name => SparkplugHost.createNamed name now) }

end HostSys
end PubSub
