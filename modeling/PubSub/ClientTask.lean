import PubSub.Mqtt
import PubSub.Shared.Run

/-!
# The worker of a plain MQTT client

The client keeps one topic for each name it publishes or has received. While it is
online its worker publishes the topics that were updated.
-/

namespace PubSub
set_option autoImplicit false

inductive ClientState where
  | idle | waitOnConnect | online | waitOnDisconnect
  deriving DecidableEq, Repr

structure ClientSys (P : Platform) where
  client : PubSubClient P
  clientState : ClientState := .idle
  phase : Phase := .joined
  stopClientTask : Bool := true
  clientTimer : Nat := 0
  clock : Nat := 0
  handle : Option MqttHandle := none
  delivered : Bool := false

namespace ClientSys
variable {P : Platform}

def isOnline (s : ClientSys P) : Bool := decide (s.clientState = .online)

def isConnected (s : ClientSys P) : Bool := Mqtt.isConnected s.handle

def now (s : ClientSys P) : UInt64 := UInt64.ofNat s.clock

def timeout (s : ClientSys P) : Bool := decide (s.clientTimer ≤ s.clock)

def setConnectionLost (lost : Bool) (s : ClientSys P) : ClientSys P :=
  { s with client := { s.client with connectionLost := lost } }

def onTopics (f : TopicList P → TopicList P) (s : ClientSys P) : ClientSys P :=
  { s with client := { s.client with topicList := f s.client.topicList } }

def startSubscription (s : ClientSys P) : ClientSys P :=
  { s with handle := s.handle.map MqttHandle.subscribe }

def sendConnect (io : Outcomes) (s : ClientSys P) : ClientSys P × Bool :=
  let s := { s with delivered := false }.setConnectionLost false
  if io.connect then ({ s with handle := s.handle.map MqttHandle.connect }, true)
  else (s, false)

def sendDisconnect (io : Outcomes) (s : ClientSys P) : ClientSys P :=
  let s := { s with delivered := false }.setConnectionLost false
  if io.disconnect && s.isConnected then
    { s with handle := s.handle.map MqttHandle.disconnect }
  else s

def doIdle (io : Outcomes) (s : ClientSys P) : ClientSys P :=
  let timeout := s.timeout
  let s := { s with handle := none }
  if !s.client.inService then { s with clientTimer := 0 }
  else if !timeout then s
  else match io.create with
    | .failed => { s with clientTimer := s.clock + 10000 }
    | .noCallbacks => { s with handle := some {}, clientTimer := s.clock + 10000 }
    | .created =>
      let connect := sendConnect io { s with handle := some {} }
      if connect.2 then
        { connect.1 with clientTimer := s.clock + 5000, clientState := .waitOnConnect }
      else { connect.1 with clientTimer := s.clock + 10000 }

def doWaitOnConnect (s : ClientSys P) : ClientSys P :=
  if s.timeout then { s with clientTimer := s.clock + 10000, clientState := .idle }
  else if !s.isConnected || !s.delivered then s
  else { s.startSubscription with clientState := .online }

def doOnline (io : Outcomes) (sent : List Bool) (s : ClientSys P) : ClientSys P :=
  if s.stopClientTask || !s.client.inService then
    { s.sendDisconnect io with
      clientTimer := s.clock + 5000
      clientState := .waitOnDisconnect }
  else s.onTopics fun list =>
    ((publishTopics MqttTopic.publishStep sent list).2).map Prod.fst

def doWaitOnDisconnect (s : ClientSys P) : ClientSys P :=
  if s.timeout || s.delivered then
    { s with clientTimer := s.clock + 10000, clientState := .idle }
  else s

def stateStep (io : Outcomes) (sent : List Bool) (s : ClientSys P) : ClientSys P :=
  match s.clientState with
  | .idle => s.doIdle io
  | .waitOnConnect => s.doWaitOnConnect
  | .online => s.doOnline io sent
  | .waitOnDisconnect => s.doWaitOnDisconnect

def finish (s : ClientSys P) : ClientSys P := { s with handle := none, phase := .exited }

def leaveLoop (io : Outcomes) (s : ClientSys P) : ClientSys P :=
  if s.clientState ≠ .idle ∧ s.isConnected then
    let s := if s.clientState ≠ .waitOnDisconnect then s.sendDisconnect io else s
    { s with phase := .draining 0 }
  else s.finish

/-- One move of `ClientTask`; the wait behind the loop looks at the lost flag. -/
def work (io : Outcomes) (sent : List Bool) (s : ClientSys P) : ClientSys P :=
  match s.phase with
  | .entry => { s with clientTimer := 0, clientState := .idle, handle := none, phase := .check }
  | .check => if s.stopClientTask then s.leaveLoop io else { s with phase := .body }
  | .body => { s.stateStep io sent with phase := .check }
  | .draining polls =>
    if s.client.connectionLost && decide (polls < 50) then
      { s with phase := .draining (polls + 1) }
    else s.finish
  | .exited | .joined => s

def tick (elapsed : Nat) (s : ClientSys P) : ClientSys P :=
  { s with clock := s.clock + elapsed }

/-- `Start` stops a running worker first, and goes on once the worker has ended. -/
def start (s : ClientSys P) : ClientSys P :=
  if s.phase.isRunning then { s with stopClientTask := true }
  else { s with clientTimer := 0, stopClientTask := false, phase := .entry }.setConnectionLost false

def stopReturns (s : ClientSys P) : ClientSys P :=
  if s.stopClientTask && !s.phase.isRunning then { s with handle := none, phase := .joined }
  else s

/-- A failure is reported with or without a response, and so is the end of a disconnect. -/
def callback (hasResponse : Bool) (serverUri : Str) (version : ProtocolVersion)
    (s : ClientSys P) : ClientSys P :=
  match Mqtt.nextCallback s.handle with
  | none => s
  | some response =>
    let s := { s with handle := Mqtt.popCallback s.handle }
    match response with
    | .connect true =>
      if hasResponse then
        { s with
          delivered := true
          client := { s.client with
            name := if s.client.name = [] then serverUri else s.client.name
            version := version
            connectionLost := false } }
      else s
    | .disconnect true => { s with delivered := true }.setConnectionLost false
    | _ => { s with delivered := true }.setConnectionLost true

def linkEvent (event : LinkEvent) (s : ClientSys P) : ClientSys P :=
  { s with handle := Mqtt.link event s.handle }

def connectionLost (s : ClientSys P) : ClientSys P :=
  if s.isConnected then { s with handle := Mqtt.lose s.handle }.setConnectionLost true else s

def hasName (name : Str) (t : Topic P) : Bool := decide (name = t.topicName)

/-- The topic of a name, made on the first use. -/
def ensureTopic (name : Str) (publish : Bool) (list : TopicList P) : TopicList P :=
  if list.any (hasName name) then list
  else list ++ [{ (({} : Topic P).setTopic name) with publish := publish }]

def updateTopic (name : Str) (f : Topic P → Topic P) (list : TopicList P) : TopicList P :=
  list.modify (list.findIdx (hasName name)) f

/-- A metric that the topic does not have is made up and thrown away again. -/
def messageTopic (name : Str) (now : UInt64) (body : BodyList) (qos : QualityOfService)
    (retained : Bool) (t : Topic P) : Topic P :=
  let t := t.onPayload fun p =>
    let p := { p with body := body }.setTimestamp now true
    p.setStringValue name p.bodyToString
  { t with qos := qos, retained := retained }

def message (topicName : Str) (body : BodyList) (qos : QualityOfService) (retained : Bool)
    (s : ClientSys P) : ClientSys P :=
  if Mqtt.receives s.handle ∧ topicName ≠ [] then
    (s.onTopics fun list => updateTopic topicName
      (messageTopic topicName s.now body qos retained)
      (ensureTopic topicName false list)).setConnectionLost false
  else s

def addMetric (m : Metric) (list : TopicList P) : TopicList P :=
  if m.name = [] then list
  else updateTopic m.name
    (fun t => t.onPayload fun p => (p.stringToBody (m.getMqttString P)).addMetric m)
    (ensureTopic m.name true list)

theorem work_entry {s : ClientSys P} (io : Outcomes) (sent : List Bool) (h : s.phase = .entry) :
    s.work io sent =
      { s with clientTimer := 0, clientState := .idle, handle := none, phase := .check } := by
  simp only [work, h]

theorem work_check {s : ClientSys P} (io : Outcomes) (sent : List Bool) (h : s.phase = .check) :
    s.work io sent = if s.stopClientTask then s.leaveLoop io else { s with phase := .body } := by
  simp only [work, h]

theorem work_body {s : ClientSys P} (io : Outcomes) (sent : List Bool) (h : s.phase = .body) :
    s.work io sent = { s.stateStep io sent with phase := .check } := by
  simp only [work, h]

theorem work_draining {s : ClientSys P} (io : Outcomes) (sent : List Bool) {polls : Nat}
    (h : s.phase = .draining polls) : s.work io sent =
      if s.client.connectionLost && decide (polls < 50) then
        { s with phase := .draining (polls + 1) }
      else s.finish := by
  simp only [work, h]

theorem work_exited {s : ClientSys P} (io : Outcomes) (sent : List Bool) (h : s.phase = .exited) :
    s.work io sent = s := by
  simp only [work, h]

theorem work_joined {s : ClientSys P} (io : Outcomes) (sent : List Bool) (h : s.phase = .joined) :
    s.work io sent = s := by
  simp only [work, h]

@[simp] theorem tick_clientState (elapsed : Nat) (s : ClientSys P) :
    (s.tick elapsed).clientState = s.clientState := rfl

@[simp] theorem tick_phase (elapsed : Nat) (s : ClientSys P) :
    (s.tick elapsed).phase = s.phase := rfl

@[simp] theorem tick_handle (elapsed : Nat) (s : ClientSys P) :
    (s.tick elapsed).handle = s.handle := rfl

@[simp] theorem tick_stopClientTask (elapsed : Nat) (s : ClientSys P) :
    (s.tick elapsed).stopClientTask = s.stopClientTask := rfl

@[simp] theorem tick_client (elapsed : Nat) (s : ClientSys P) :
    (s.tick elapsed).client = s.client := rfl

theorem sendDisconnect_handle (io : Outcomes) (s : ClientSys P) :
    (s.sendDisconnect io).handle = s.handle ∨
      (s.sendDisconnect io).handle = s.handle.map MqttHandle.disconnect := by
  unfold sendDisconnect
  dsimp only
  split
  · exact .inr rfl
  · exact .inl rfl

@[simp] theorem sendDisconnect_clientState (io : Outcomes) (s : ClientSys P) :
    (s.sendDisconnect io).clientState = s.clientState := by
  unfold sendDisconnect
  dsimp only
  split <;> rfl

theorem leaveLoop_clientState (io : Outcomes) (s : ClientSys P) :
    (s.leaveLoop io).clientState = s.clientState := by
  unfold leaveLoop
  split
  · dsimp only
    split
    · exact sendDisconnect_clientState io s
    · rfl
  · rfl

theorem doIdle_clientState (io : Outcomes) (s : ClientSys P) (h : s.clientState = .idle) :
    (s.doIdle io).clientState ≠ .online := by
  unfold doIdle
  dsimp only
  split
  · simp [h]
  · split
    · simp [h]
    · split
      · simp [h]
      · simp [h]
      · split
        · simp
        · unfold sendConnect
          dsimp only
          split
          · simp [setConnectionLost, h]
          · simp [setConnectionLost, h]

end ClientSys

inductive ClientEvent where
  | work (elapsed : Nat) (io : Outcomes) (sent : List Bool)
  | link (event : LinkEvent)
  | connectionLost
  | callback (hasResponse : Bool) (serverUri : Str) (version : ProtocolVersion)
  | deliveryComplete
  | message (topicName : Str) (body : BodyList) (qos : QualityOfService) (retained : Bool)
  | start
  | stop
  | stopReturns
  | inService (on : Bool)
  | addMetric (m : Metric)

/-- What reaches the client outside of the calls of the application: the worker moves, and so do
the library and its callbacks. -/
def ClientEvent.isOutside : ClientEvent → Bool
  | .work _ _ _ | .link _ | .connectionLost | .callback _ _ _ | .deliveryComplete
  | .message _ _ _ _ => true
  | .start | .stop | .stopReturns | .inService _ | .addMetric _ => false

namespace ClientSys
variable {P : Platform}

def step (s : ClientSys P) : ClientEvent → ClientSys P
  | .work elapsed io sent => (s.tick elapsed).work io sent
  | .link event => s.linkEvent event
  | .connectionLost => s.connectionLost
  | .callback hasResponse serverUri version => s.callback hasResponse serverUri version
  | .deliveryComplete => s.setConnectionLost false
  | .message topicName body qos retained => s.message topicName body qos retained
  | .start => s.start
  | .stop => { s with stopClientTask := true }
  | .stopReturns => s.stopReturns
  | .inService on => { s with client := { s.client with inService := on } }
  | .addMetric m => s.onTopics (addMetric m)

/-- The events that move the worker or its stop flag. -/
def isControl : ClientEvent → Bool
  | .work _ _ _ | .start | .stop | .stopReturns => true
  | _ => false

/-- All other events leave the state, the phase, the stop flag and the clock. -/
structure SameControl (s t : ClientSys P) : Prop where
  clientState : s.clientState = t.clientState
  phase : s.phase = t.phase
  stopClientTask : s.stopClientTask = t.stopClientTask
  clientTimer : s.clientTimer = t.clientTimer
  clock : s.clock = t.clock

theorem quiet_control {s : ClientSys P} {e : ClientEvent} (h : isControl e = false) :
    SameControl (s.step e) s := by
  cases e with
  | work elapsed io sent => cases h
  | start => cases h
  | stop => cases h
  | stopReturns => cases h
  | connectionLost =>
    change SameControl s.connectionLost s
    unfold connectionLost
    split <;> exact ⟨rfl, rfl, rfl, rfl, rfl⟩
  | callback hasResponse serverUri version =>
    change SameControl (s.callback hasResponse serverUri version) s
    unfold callback
    split
    · exact ⟨rfl, rfl, rfl, rfl, rfl⟩
    · dsimp only
      split
      · split <;> exact ⟨rfl, rfl, rfl, rfl, rfl⟩
      · exact ⟨rfl, rfl, rfl, rfl, rfl⟩
      · exact ⟨rfl, rfl, rfl, rfl, rfl⟩
  | message topicName body qos retained =>
    change SameControl (s.message topicName body qos retained) s
    unfold message
    split <;> exact ⟨rfl, rfl, rfl, rfl, rfl⟩
  | _ => exact ⟨rfl, rfl, rfl, rfl, rfl⟩

/-- A client that is not started yet. -/
def init (client : PubSubClient P) : ClientSys P := { client := client }

end ClientSys
end PubSub
