import PubSub.Receiver

/-!
# The MQTT library and the worker threads

A handle of the MQTT library is seen from the clients: its link, the disconnect that
is under way, and the responses whose callbacks have not run yet. The environment
moves the link; it never reconnects by itself. The worker of every client runs through
the same phases, and its calls into the library succeed or fail as the outcomes say.
-/

namespace PubSub
set_option autoImplicit false

inductive Link where
  | idle | connecting | up
  deriving DecidableEq, Repr

/-- A response of the library; `ok` tells success from failure. -/
inductive Callback where
  | connect (ok : Bool)
  | disconnect (ok : Bool)
  deriving DecidableEq

structure MqttHandle where
  link : Link := .idle
  subscribed : Bool := false
  disconnecting : Bool := false
  callbacks : List Callback := []
  deriving DecidableEq

namespace MqttHandle

/-- `MQTTAsync_connect`, when it returns success. -/
def connect (h : MqttHandle) : MqttHandle :=
  if h.link = .idle then
    { h with link := .connecting, subscribed := false, disconnecting := false }
  else h

def subscribe (h : MqttHandle) : MqttHandle := { h with subscribed := true }

/-- `MQTTAsync_disconnect`, when it returns success. -/
def disconnect (h : MqttHandle) : MqttHandle := { h with disconnecting := true }

def accept (h : MqttHandle) : MqttHandle :=
  { h with link := .up, callbacks := h.callbacks ++ [.connect true] }

def refuse (h : MqttHandle) : MqttHandle :=
  { h with link := .idle, callbacks := h.callbacks ++ [.connect false] }

/-- The end of a disconnect that was under way. -/
def closed (ok : Bool) (h : MqttHandle) : MqttHandle :=
  { h with
    link := if ok then .idle else h.link
    disconnecting := false
    callbacks := h.callbacks ++ [.disconnect ok] }

def lose (h : MqttHandle) : MqttHandle := { h with link := .idle, disconnecting := false }

end MqttHandle

/-- What the environment does to the current handle. -/
inductive LinkEvent where
  | accepted
  | refused
  | closed (ok : Bool)
  deriving DecidableEq

namespace Mqtt

def isConnected (handle : Option MqttHandle) : Bool :=
  match handle with
  | none => false
  | some h => decide (h.link = .up)

def link (event : LinkEvent) (handle : Option MqttHandle) : Option MqttHandle :=
  handle.map fun h =>
    match event with
    | .accepted => if h.link = .connecting then h.accept else h
    | .refused => if h.link = .connecting then h.refuse else h
    | .closed ok => if h.disconnecting then h.closed ok else h

/-- A successful connect starts a new session. -/
def newSession (event : LinkEvent) (handle : Option MqttHandle) : Bool :=
  match event, handle with
  | .accepted, some h => decide (h.link = .connecting)
  | _, _ => false

def lose (handle : Option MqttHandle) : Option MqttHandle := handle.map MqttHandle.lose

def receives (handle : Option MqttHandle) : Bool :=
  match handle with
  | none => false
  | some h => decide (h.link = .up) && h.subscribed

def nextCallback (handle : Option MqttHandle) : Option Callback :=
  handle.bind fun h => h.callbacks.head?

def popCallback (handle : Option MqttHandle) : Option MqttHandle :=
  handle.map fun h => { h with callbacks := h.callbacks.tail }

/-- No connection and no attempt at one. -/
def isDown (handle : Option MqttHandle) : Prop := ∀ h, handle = some h → h.link = .idle

theorem isDown_none : isDown none := by
  intro h hh
  cases hh

theorem isDown_fresh : isDown (some {}) := by
  intro h hh
  cases hh
  rfl

theorem isDown_map {handle : Option MqttHandle} {f : MqttHandle → MqttHandle}
    (hf : ∀ h, (f h).link = h.link ∨ (f h).link = .idle) (hd : isDown handle) :
    isDown (handle.map f) := by
  intro h hh
  obtain ⟨g, hg, rfl⟩ := Option.map_eq_some_iff.mp hh
  rcases hf g with he | he
  · exact he.trans (hd g hg)
  · exact he

theorem isDown_lose (handle : Option MqttHandle) : isDown (lose handle) := by
  intro h hh
  obtain ⟨g, _, rfl⟩ := Option.map_eq_some_iff.mp hh
  rfl

theorem isDown_link {handle : Option MqttHandle} (event : LinkEvent) (hd : isDown handle) :
    isDown (link event handle) := by
  intro h hh
  obtain ⟨g, hg, rfl⟩ := Option.map_eq_some_iff.mp hh
  have hidle := hd g hg
  cases event with
  | accepted => simp [hidle]
  | refused => simp [hidle]
  | closed ok =>
    dsimp only
    split
    · simp [MqttHandle.closed, hidle]
    · exact hidle

theorem isConnected_of_isDown {handle : Option MqttHandle} (hd : isDown handle) :
    isConnected handle = false := by
  cases handle with
  | none => rfl
  | some h => simp [isConnected, hd h rfl]

end Mqtt

inductive CreateOutcome where
  | failed
  | noCallbacks
  | created
  deriving DecidableEq

/-- The results of the library calls that a worker step makes. -/
structure Outcomes where
  create : CreateOutcome := .created
  connect : Bool := true
  disconnect : Bool := true

/-- Where the worker thread is: at its first lines, in front of the loop condition, in
front of the state function, in the wait behind the loop, or past its end. `joined`
stands for a client without a thread. -/
inductive Phase where
  | entry
  | check
  | body
  | draining (polls : Nat)
  | exited
  | joined
  deriving DecidableEq

def Phase.isRunning : Phase → Bool
  | .exited | .joined => false
  | _ => true

/-- Between the loop condition and the end of the loop body. -/
def Phase.inLoop : Phase → Bool
  | .check | .body => true
  | _ => false

theorem Phase.not_inLoop {p : Phase} (h : p.isRunning = false) : ¬ p.inLoop = true := by
  cases p <;> simp_all [isRunning, inLoop]

theorem Phase.not_inLoop_of_eq {p q : Phase} (h : p = q) (hq : q.inLoop = false) :
    ¬ p.inLoop = true := by
  rw [h, hq]
  exact Bool.false_ne_true

/-- What a worker hands to the library in a session. -/
inductive Action (P : Platform) where
  | publish (p : Publication P)
  | disconnect

namespace Action
variable {P : Platform}

def kind? : Action P → Option MessageKind
  | .publish p => some p.kind
  | .disconnect => none

def isDisconnect : Action P → Bool
  | .publish _ => false
  | .disconnect => true

end Action
end PubSub
