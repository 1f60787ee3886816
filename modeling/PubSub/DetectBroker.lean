import PubSub.StopEnds
import PubSub.Shared.Fairness

/-!
# The detection of a broker

`DetectBroker::Start` runs in the thread of the application, beside the worker of the client
that it has started. It looks at the lost flag and at the connection a hundred times, and it
stops the client again when it has seen a connection.
-/

namespace PubSub
set_option autoImplicit false

/-- Where a call of `DetectBroker::Start` is: in front of its first line, in the join of
`MqttClient::Start`, in front of the two looks of a poll, in the join of `Stop`, or behind its
end. -/
inductive DetectPhase where
  | called
  | starting
  | looksLost (delay : Nat)
  | looksConnected (delay : Nat)
  | stopping
  | returned (connected : Bool)
  deriving DecidableEq

structure DetectBroker (P : Platform) where
  client : ClientSys P
  call : DetectPhase := .called

inductive DetectEvent where
  | caller
  | outside (e : {e : ClientEvent // e.isOutside = true})

namespace DetectBroker
variable {P : Platform}

/-- One move of the calling thread. -/
def start (s : DetectBroker P) : DetectBroker P :=
  match s.call with
  | .called => { client := s.client.step (.inService true), call := .starting }
  | .starting =>
    { client := s.client.start
      call := if s.client.phase.isRunning then .starting else .looksLost 0 }
  | .looksLost delay =>
    if delay < 100 then
      { s with call :=
        if s.client.client.connectionLost then .returned false else .looksConnected delay }
    else { s with call := .returned false }
  | .looksConnected delay =>
    if s.client.isConnected then { client := s.client.step .stop, call := .stopping }
    else { s with call := .looksLost (delay + 1) }
  | .stopping =>
    if s.client.phase.isRunning then s
    else { client := s.client.stopReturns, call := .returned true }
  | .returned _ => s

def step (s : DetectBroker P) : DetectEvent → DetectBroker P
  | .caller => s.start
  | .outside e => { s with client := s.client.step e.val }

end DetectBroker

namespace Mqtt

theorem isConnected_map {handle : Option MqttHandle} {f : MqttHandle → MqttHandle}
    (hf : ∀ h, (f h).link = h.link) :
    isConnected (handle.map f) = isConnected handle := by
  cases handle with
  | none => rfl
  | some h => exact congrArg (fun l => decide (l = Link.up)) (hf h)

end Mqtt

namespace ClientSys
variable {P : Platform}

/-- A worker that has left its task has left no handle behind. -/
def Ended (s : ClientSys P) : Prop := s.phase.isRunning = false → s.handle = none

/-- A worker that nobody has told to stop. -/
structure Going (s : ClientSys P) : Prop where
  flag : s.stopClientTask = false
  place : s.phase = .entry ∨ s.phase.inLoop = true

structure Gone (s : ClientSys P) : Prop where
  phase : s.phase = .joined
  handle : s.handle = none

theorem Going.isRunning {s : ClientSys P} (h : s.Going) : s.phase.isRunning = true := by
  by_contra hended
  rw [Bool.not_eq_true] at hended
  rcases h.place with hentry | hloop
  · rw [hentry] at hended
    cases hended
  · exact Phase.not_inLoop hended hloop

/-- Nothing is reported about a handle that does not exist. -/
theorem quiet_none {s : ClientSys P} {e : ClientEvent} (he : isControl e = false)
    (h : s.handle = none) : (s.step e).handle = none := by
  cases e with
  | work elapsed io sent => cases he
  | start => cases he
  | stop => cases he
  | stopReturns => cases he
  | link event =>
    change Mqtt.link event s.handle = none
    rw [h]
    rfl
  | connectionLost =>
    change s.connectionLost.handle = none
    unfold connectionLost
    split
    · change Mqtt.lose s.handle = none
      rw [h]
      rfl
    · exact h
  | callback hasResponse serverUri version =>
    have hnext : Mqtt.nextCallback s.handle = none := by rw [h]; rfl
    change (s.callback hasResponse serverUri version).handle = none
    unfold callback
    rw [hnext]
    exact h
  | message topicName body qos retained =>
    change (s.message topicName body qos retained).handle = none
    unfold message
    split
    · exact h
    · exact h
  | _ => exact h

theorem work_ended (io : Outcomes) (sent : List Bool) {s : ClientSys P} (h : s.Ended) :
    (s.work io sent).Ended := by
  intro hended
  cases hphase : s.phase with
  | entry => rw [work_entry io sent hphase]
  | check =>
    rw [work_check io sent hphase] at hended ⊢
    split at hended
    · rename_i hstop
      rw [if_pos hstop]
      unfold leaveLoop at hended ⊢
      split at hended
      · cases hended
      · rename_i hclosed
        rw [if_neg hclosed]
        rfl
    · cases hended
  | body =>
    rw [work_body io sent hphase] at hended
    cases hended
  | draining polls =>
    rw [work_draining io sent hphase] at hended ⊢
    split at hended
    · cases hended
    · rename_i hpolls
      rw [if_neg hpolls]
      rfl
  | exited =>
    rw [work_exited io sent hphase]
    exact h (by rw [hphase]; rfl)
  | joined =>
    rw [work_joined io sent hphase]
    exact h (by rw [hphase]; rfl)

theorem ended_step {s : ClientSys P} (h : s.Ended) (e : ClientEvent) : (s.step e).Ended := by
  by_cases hcontrol : isControl e = false
  · intro hended
    rw [(quiet_control hcontrol).phase] at hended
    exact quiet_none hcontrol (h hended)
  · cases e with
    | work elapsed io sent => exact work_ended io sent (s := s.tick elapsed) h
    | start =>
      change s.start.Ended
      unfold start
      split
      · exact h
      · intro hended
        cases hended
    | stop => exact h
    | stopReturns =>
      change s.stopReturns.Ended
      unfold stopReturns
      split
      · exact fun _ => rfl
      · exact h
    | _ => exact absurd rfl hcontrol

theorem outside_cases {e : ClientEvent} (he : e.isOutside = true) :
    (∃ elapsed io sent, e = .work elapsed io sent) ∨ isControl e = false := by
  cases e with
  | work elapsed io sent => exact .inl ⟨elapsed, io, sent, rfl⟩
  | start => cases he
  | stop => cases he
  | stopReturns => cases he
  | _ => exact .inr rfl

theorem outside_stop {e : ClientEvent} (he : e.isOutside = true) (s : ClientSys P) :
    (s.step e).stopClientTask = s.stopClientTask := by
  rcases outside_cases he with ⟨elapsed, io, sent, rfl⟩ | hquiet
  · change ((s.tick elapsed).work io sent).stopClientTask = s.stopClientTask
    cases hphase : (s.tick elapsed).phase with
    | entry => rw [work_entry io sent hphase]; rfl
    | check =>
      rw [work_check io sent hphase]
      split
      · exact ((s.tick elapsed).ends_leaveLoop io).2
      · rfl
    | body =>
      rw [work_body io sent hphase]
      exact (s.tick elapsed).stateStep_stop io sent
    | draining polls =>
      rw [work_draining io sent hphase]
      split <;> rfl
    | exited => rw [work_exited io sent hphase]; rfl
    | joined => rw [work_joined io sent hphase]; rfl
  · exact (quiet_control hquiet).stopClientTask

theorem Going.outside {s : ClientSys P} (h : s.Going) {e : ClientEvent}
    (he : e.isOutside = true) : (s.step e).Going := by
  refine ⟨(outside_stop he s).trans h.flag, ?_⟩
  rcases outside_cases he with ⟨elapsed, io, sent, rfl⟩ | hquiet
  · change ((s.tick elapsed).work io sent).phase = .entry ∨
      ((s.tick elapsed).work io sent).phase.inLoop = true
    have hflag : (s.tick elapsed).stopClientTask = false := h.flag
    cases hphase : (s.tick elapsed).phase with
    | entry =>
      rw [work_entry io sent hphase]
      exact .inr rfl
    | check =>
      rw [work_check io sent hphase, hflag]
      exact .inr rfl
    | body =>
      rw [work_body io sent hphase]
      exact .inr rfl
    | draining polls | exited | joined =>
      have hplace := h.place
      rw [show s.phase = _ from hphase] at hplace
      rcases hplace with hplace | hplace <;> cases hplace
  · rw [(quiet_control hquiet).phase]
    exact h.place

theorem Gone.outside {s : ClientSys P} (h : s.Gone) {e : ClientEvent}
    (he : e.isOutside = true) : (s.step e).Gone := by
  rcases outside_cases he with ⟨elapsed, io, sent, rfl⟩ | hquiet
  · have hsame : s.step (.work elapsed io sent) = s.tick elapsed :=
      work_joined (s := s.tick elapsed) io sent h.phase
    rw [hsame]
    exact ⟨h.phase, h.handle⟩
  · exact ⟨(quiet_control hquiet).phase.trans h.phase, quiet_none hquiet h.handle⟩

theorem sendDisconnect_connected (io : Outcomes) (s : ClientSys P) :
    (s.sendDisconnect io).isConnected = s.isConnected := by
  unfold isConnected
  rcases s.sendDisconnect_handle io with h | h
  · rw [h]
  · rw [h]
    exact Mqtt.isConnected_map fun _ => rfl

theorem stateStep_connected (io : Outcomes) (sent : List Bool) {s : ClientSys P}
    (h : s.isConnected = false) : (s.stateStep io sent).isConnected = false := by
  unfold stateStep
  split
  · unfold doIdle
    dsimp only
    split
    · rfl
    · split
      · rfl
      · split
        · rfl
        · rfl
        · unfold sendConnect
          dsimp only
          split <;> rfl
  · unfold doWaitOnConnect
    split
    · exact h
    · rw [h, Bool.not_false, Bool.true_or, if_pos rfl]
      exact h
  · unfold doOnline
    split
    · exact (s.sendDisconnect_connected io).trans h
    · exact h
  · unfold doWaitOnDisconnect
    split
    · exact h
    · exact h

theorem work_connected (io : Outcomes) (sent : List Bool) {s : ClientSys P}
    (h : s.isConnected = false) : (s.work io sent).isConnected = false := by
  cases hphase : s.phase with
  | entry =>
    rw [work_entry io sent hphase]
    rfl
  | check =>
    rw [work_check io sent hphase]
    split
    · unfold leaveLoop
      split
      · dsimp only
        split
        · exact (s.sendDisconnect_connected io).trans h
        · exact h
      · rfl
    · exact h
  | body =>
    rw [work_body io sent hphase]
    exact stateStep_connected io sent h
  | draining polls =>
    rw [work_draining io sent hphase]
    split
    · exact h
    · rfl
  | exited =>
    rw [work_exited io sent hphase]
    exact h
  | joined =>
    rw [work_joined io sent hphase]
    exact h

theorem connected_by_broker {s : ClientSys P} {e : ClientEvent} (he : e.isOutside = true)
    (hdown : s.isConnected = false) (hup : (s.step e).isConnected = true) :
    e = .link .accepted ∧ Mqtt.newSession .accepted s.handle = true := by
  cases e with
  | work elapsed io sent =>
    have hstays : (s.step (.work elapsed io sent)).isConnected = false :=
      work_connected io sent (s := s.tick elapsed) hdown
    rw [hstays] at hup
    cases hup
  | link event =>
    change Mqtt.isConnected (Mqtt.link event s.handle) = true at hup
    change Mqtt.isConnected s.handle = false at hdown
    cases hhandle : s.handle with
    | none =>
      rw [hhandle] at hup
      cases hup
    | some h =>
      rw [hhandle] at hup hdown
      have hlink : ¬ h.link = .up := of_decide_eq_false hdown
      cases event with
      | accepted =>
        refine ⟨rfl, ?_⟩
        by_contra hnew
        have hconnecting : ¬ h.link = .connecting := fun heq => hnew (decide_eq_true heq)
        change decide ((if h.link = .connecting then h.accept else h).link = .up) = true at hup
        rw [if_neg hconnecting] at hup
        exact hlink (of_decide_eq_true hup)
      | refused =>
        change decide ((if h.link = .connecting then h.refuse else h).link = .up) = true at hup
        split at hup
        · cases hup
        · exact absurd (of_decide_eq_true hup) hlink
      | closed ok =>
        change decide ((if h.disconnecting then h.closed ok else h).link = .up) = true at hup
        split at hup
        · cases ok
          · exact absurd (of_decide_eq_true hup) hlink
          · cases hup
        · exact absurd (of_decide_eq_true hup) hlink
  | connectionLost =>
    change s.connectionLost.isConnected = true at hup
    unfold connectionLost at hup
    rw [hdown, if_neg Bool.false_ne_true, hdown] at hup
    cases hup
  | callback hasResponse serverUri version =>
    have hpop : Mqtt.isConnected (Mqtt.popCallback s.handle) = false :=
      (Mqtt.isConnected_map (f := fun h => { h with callbacks := h.callbacks.tail })
        fun _ => rfl).trans hdown
    have hstays : (s.callback hasResponse serverUri version).isConnected = false := by
      unfold callback
      split
      · exact hdown
      · dsimp only
        split
        · split
          · exact hpop
          · exact hpop
        · exact hpop
        · exact hpop
    exact absurd (hstays.symm.trans hup) Bool.false_ne_true
  | message topicName body qos retained =>
    change (s.message topicName body qos retained).isConnected = true at hup
    unfold message at hup
    split at hup
    · exact absurd (hdown.symm.trans hup) Bool.false_ne_true
    · exact absurd (hdown.symm.trans hup) Bool.false_ne_true
  | deliveryComplete => exact absurd (hdown.symm.trans hup) Bool.false_ne_true
  | start => cases he
  | stop => cases he
  | stopReturns => cases he
  | inService on => cases he
  | addMetric m => cases he

end ClientSys
namespace DetectPhase

def isPolling : DetectPhase → Bool
  | .looksLost _ | .looksConnected _ => true
  | _ => false

end DetectPhase

namespace DetectBroker
variable {P : Platform}

/-- What the caller knows of the client at each place of its call. -/
def Knows (client : ClientSys P) : DetectPhase → Prop
  | .called | .starting => True
  | .looksLost _ | .returned false => client.Going
  | .looksConnected delay => client.Going ∧ delay < 100
  | .stopping => client.stopClientTask = true
  | .returned true => client.Gone

structure Valid (s : DetectBroker P) : Prop where
  ended : s.client.Ended
  knows : Knows s.client s.call

theorem knows_outside {client : ClientSys P} {call : DetectPhase} {e : ClientEvent}
    (he : e.isOutside = true) (h : Knows client call) : Knows (client.step e) call := by
  cases call with
  | called => trivial
  | starting => trivial
  | looksLost delay => exact ClientSys.Going.outside h he
  | looksConnected delay => exact ⟨h.1.outside he, h.2⟩
  | stopping => exact (ClientSys.outside_stop he client).trans h
  | returned connected =>
    cases connected with
    | true => exact ClientSys.Gone.outside h he
    | false => exact ClientSys.Going.outside h he

theorem knows_start {s : DetectBroker P} (h : s.Valid) : Knows s.start.client s.start.call := by
  obtain ⟨client, call⟩ := s
  obtain ⟨hended, hknows⟩ := h
  cases call with
  | called => trivial
  | starting =>
    change Knows client.start (if client.phase.isRunning then .starting else .looksLost 0)
    unfold ClientSys.start
    split
    · trivial
    · exact ⟨rfl, .inl rfl⟩
  | looksLost delay =>
    unfold start
    dsimp only
    split
    · rename_i hdelay
      dsimp only
      split
      · exact hknows
      · exact ⟨hknows, hdelay⟩
    · exact hknows
  | looksConnected delay =>
    unfold start
    dsimp only
    split
    · exact rfl
    · exact hknows.1
  | stopping =>
    unfold start
    dsimp only
    split
    · exact hknows
    · rename_i hended
      obtain ⟨hphase, hhandle⟩ :=
        ClientSys.stopReturns_joined hknows (Bool.eq_false_iff.mpr hended)
      exact ⟨hphase, hhandle⟩
  | returned connected => exact hknows

theorem start_ended {s : DetectBroker P} (h : s.client.Ended) : s.start.client.Ended := by
  unfold start
  split
  · exact h
  · exact ClientSys.ended_step h .start
  · split <;> exact h
  · split <;> exact h
  · split
    · exact h
    · exact ClientSys.ended_step h .stopReturns
  · exact h

theorem valid_step {s : DetectBroker P} (h : s.Valid) (e : DetectEvent) : (s.step e).Valid := by
  cases e with
  | caller => exact ⟨start_ended h.ended, knows_start h⟩
  | outside e => exact ⟨ClientSys.ended_step h.ended e.val, knows_outside e.property h.knows⟩

theorem valid_run {s : DetectBroker P} (h : s.Valid) (es : List DetectEvent) :
    (run step s es).Valid := by
  have hstep : ∀ (s : DetectBroker P) e, s.Valid → (s.step e).Valid :=
    fun _ e h => valid_step h e
  exact run_preserves hstep es h

/-- A call on a client that may have run before. -/
def onClient (client : PubSubClient P) (before : List ClientEvent) : DetectBroker P :=
  { client := run ClientSys.step (ClientSys.init client) before }

theorem onClient_valid (client : PubSubClient P) (before : List ClientEvent) :
    (onClient client before).Valid := by
  have hstep : ∀ (s : ClientSys P) e, s.Ended → (s.step e).Ended :=
    fun _ e h => ClientSys.ended_step h e
  exact ⟨run_preserves hstep before (fun _ => rfl), trivial⟩

/-- The broker accepts the connection of this call's worker while the call polls. -/
def accepts (s : DetectBroker P) : DetectEvent → Prop
  | .caller => False
  | .outside e => e.val = .link .accepted ∧ s.call.isPolling = true ∧
      Mqtt.newSession .accepted s.client.handle = true

/-- The look at the lost flag of a poll, which finds it up. -/
def seesLoss (s : DetectBroker P) : DetectEvent → Prop
  | .caller => ∃ delay < 100, s.call = .looksLost delay ∧ s.client.client.connectionLost = true
  | .outside _ => False

/-- The look at the connection of a poll, which finds none. -/
def missesConnection (delay : Nat) (s : DetectBroker P) : DetectEvent → Prop
  | .caller => s.call = .looksConnected delay ∧ s.client.isConnected = false
  | .outside _ => False

/-- The places of a call at which it has met a broker, or is about to see one. -/
def hasMet (s : DetectBroker P) : Prop :=
  s.call.isPolling = true ∧ s.client.isConnected = true ∨ s.call = .stopping ∨
    s.call = .returned true

theorem met_start {s : DetectBroker P} (h : s.Valid) (hmet : s.start.hasMet) : s.hasMet := by
  obtain ⟨client, call⟩ := s
  cases call with
  | called =>
    rcases hmet with ⟨hpolls, _⟩ | hcall | hcall
    · cases hpolls
    · cases hcall
    · cases hcall
  | starting =>
    by_cases hrunning : client.phase.isRunning = true
    · have hcall : start { client := client, call := .starting } =
          { client := client.start, call := .starting } := by
        unfold start
        dsimp only
        rw [if_pos hrunning]
      rw [hcall] at hmet
      rcases hmet with ⟨hpolls, _⟩ | hcall | hcall
      · cases hpolls
      · cases hcall
      · cases hcall
    · -- the worker before has left no connection
      have hnone : client.handle = none := h.ended (Bool.eq_false_iff.mpr hrunning)
      have hcall : start { client := client, call := .starting } =
          { client := client.start, call := .looksLost 0 } := by
        unfold start
        dsimp only
        rw [if_neg hrunning]
      have hdown : client.start.isConnected = false := by
        unfold ClientSys.start
        rw [if_neg hrunning]
        change Mqtt.isConnected client.handle = false
        rw [hnone]
        rfl
      rw [hcall] at hmet
      rcases hmet with ⟨_, hup⟩ | hcall | hcall
      · exact absurd (hdown.symm.trans hup) Bool.false_ne_true
      · cases hcall
      · cases hcall
  | looksLost delay =>
    have hclient : (start { client := client, call := .looksLost delay }).client = client := by
      unfold start
      dsimp only
      split <;> rfl
    rcases hmet with ⟨_, hup⟩ | hcall | hcall
    · rw [hclient] at hup
      exact .inl ⟨rfl, hup⟩
    all_goals
      unfold start at hcall
      dsimp only at hcall
      split at hcall
      · split at hcall <;> cases hcall
      · cases hcall
  | looksConnected delay =>
    by_cases hup : client.isConnected = true
    · exact .inl ⟨rfl, hup⟩
    · have hcall : start { client := client, call := .looksConnected delay } =
          { client := client, call := .looksLost (delay + 1) } := by
        unfold start
        dsimp only
        rw [if_neg hup]
      rw [hcall] at hmet
      rcases hmet with ⟨_, hafter⟩ | hcall | hcall
      · exact .inl ⟨rfl, hafter⟩
      · cases hcall
      · cases hcall
  | stopping => exact .inr (.inl rfl)
  | returned connected => exact hmet

theorem met_happened {s : DetectBroker P} (h : s.Valid) (hfresh : s.call = .called)
    {es : List DetectEvent} (hmet : (run step s es).hasMet) : Happened step accepts s es := by
  induction es using List.reverseRecOn with
  | nil =>
    rcases hmet with ⟨hpolls, _⟩ | hcall | hcall
    · rw [run_nil, hfresh] at hpolls
      cases hpolls
    · cases hfresh.symm.trans hcall
    · cases hfresh.symm.trans hcall
  | append_singleton es e ih =>
    rw [run_append, run_cons, run_nil] at hmet
    have hvalid := valid_run h es
    cases e with
    | caller => exact (ih (met_start hvalid hmet)).later _
    | outside e =>
      rcases hmet with ⟨hpolls, hup⟩ | hcall | hcall
      · by_cases hbefore : (run step s es).client.isConnected = true
        · exact (ih (.inl ⟨hpolls, hbefore⟩)).later _
        · obtain ⟨he, hnew⟩ := ClientSys.connected_by_broker e.property
            (Bool.eq_false_iff.mpr hbefore) hup
          exact .last ⟨he, hpolls, hnew⟩
      · exact (ih (.inr (.inl hcall))).later _
      · exact (ih (.inr (.inr hcall))).later _

/-- The polls before the one that a call is in have all missed the connection. -/
def HasMissed (s : DetectBroker P) (es : List DetectEvent) (delay : Nat) : Prop :=
  ∀ k < delay, Happened step (missesConnection k) s es

def failed (s : DetectBroker P) (es : List DetectEvent) : Prop :=
  Happened step seesLoss s es ∨ HasMissed s es 100

theorem HasMissed.later {s : DetectBroker P} {es : List DetectEvent} {delay : Nat}
    (h : HasMissed s es delay) (e : DetectEvent) : HasMissed s (es ++ [e]) delay :=
  fun k hk => (h k hk).later [e]

/-- What a call knows of its looks so far. -/
def Looks (s : DetectBroker P) (es : List DetectEvent) : DetectPhase → Prop
  | .looksLost delay | .looksConnected delay => HasMissed s es delay
  | .returned false => failed s es
  | _ => True

theorem Looks.later {s : DetectBroker P} {es : List DetectEvent} {call : DetectPhase}
    (h : Looks s es call) (e : DetectEvent) : Looks s (es ++ [e]) call := by
  cases call with
  | looksLost delay => exact HasMissed.later h e
  | looksConnected delay => exact HasMissed.later h e
  | returned connected =>
    cases connected with
    | true => trivial
    | false =>
      rcases h with hloss | hmissed
      · exact .inl (hloss.later [e])
      · exact .inr (hmissed.later e)
  | _ => trivial

theorem looks_start {s : DetectBroker P} {es : List DetectEvent}
    (h : Looks s es (run step s es).call) :
    Looks s (es ++ [.caller]) (run step s es).start.call := by
  generalize hr : run step s es = r at h
  obtain ⟨client, call⟩ := r
  cases call with
  | called => trivial
  | starting =>
    change Looks s _ (if client.phase.isRunning then .starting else .looksLost 0)
    split
    · trivial
    · exact fun k hk => absurd hk (Nat.not_lt_zero k)
  | looksLost delay =>
    unfold start
    dsimp only
    split
    · rename_i hdelay
      dsimp only
      split
      · rename_i hlost
        refine .inl (.last ?_)
        rw [hr]
        exact ⟨delay, hdelay, rfl, hlost⟩
      · exact HasMissed.later h _
    · rename_i hdelay
      refine .inr fun k hk => ?_
      exact (h k (Nat.lt_of_lt_of_le hk (Nat.le_of_not_lt hdelay))).later _
  | looksConnected delay =>
    unfold start
    dsimp only
    split
    · trivial
    · rename_i hdown
      intro k hk
      rcases Nat.lt_succ_iff_lt_or_eq.mp hk with hk | rfl
      · exact (h k hk).later _
      · refine .last ?_
        rw [hr]
        exact ⟨rfl, Bool.eq_false_iff.mpr hdown⟩
  | stopping =>
    unfold start
    dsimp only
    split
    · trivial
    · trivial
  | returned connected => exact Looks.later h _

theorem looks_run {s : DetectBroker P} (hfresh : s.call = .called) (es : List DetectEvent) :
    Looks s es (run step s es).call := by
  induction es using List.reverseRecOn with
  | nil =>
    rw [run_nil, hfresh]
    trivial
  | append_singleton es e ih =>
    rw [run_append, run_cons, run_nil]
    cases e with
    | caller => exact looks_start ih
    | outside e => exact Looks.later ih _

/-- `Start` answers that there is a broker only if the broker has accepted the connection of
this very call, and the client is then disconnected and has no worker. It answers that there
is none only if a poll has seen a loss or all hundred polls have missed the connection; the
worker then goes on. -/
theorem start_tells (client : PubSubClient P) (before : List ClientEvent)
    (es : List DetectEvent) :
    ((run step (onClient client before) es).call = .returned true →
      Happened step accepts (onClient client before) es ∧
        (run step (onClient client before) es).client.Gone) ∧
    ((run step (onClient client before) es).call = .returned false →
      (Happened step seesLoss (onClient client before) es ∨
        ∀ k < 100, Happened step (missesConnection k) (onClient client before) es) ∧
      (run step (onClient client before) es).client.Going) := by
  have hvalid := onClient_valid client before
  have hknows := (valid_run hvalid es).knows
  constructor
  · intro hreturned
    rw [hreturned] at hknows
    exact ⟨met_happened hvalid rfl (.inr (.inr hreturned)), hknows⟩
  · intro hreturned
    have hlooks := looks_run (s := onClient client before) rfl es
    rw [hreturned] at hknows hlooks
    exact ⟨hlooks, hknows⟩

end DetectBroker

/-- The worker moves, and nothing else happens. -/
def DetectEvent.work : DetectEvent := .outside ⟨.work 0 {} [], rfl⟩

namespace DetectBroker

/-- A broker accepts the connection, and a broker refuses it. -/
def acceptedRun : List DetectEvent :=
  [.caller, .caller, .work, .work, .work, .outside ⟨.link .accepted, rfl⟩, .caller, .caller,
    .work, .work, .caller]

def refusedRun : List DetectEvent :=
  [.caller, .caller, .work, .work, .work, .outside ⟨.link .refused, rfl⟩,
    .outside ⟨.callback true [] .mqtt311, rfl⟩, .caller]

/-- The answers of the two runs, and what they tell. -/
theorem start_tells_both :
    (Happened step accepts (onClient (P := .reference) {} []) acceptedRun ∧
      (run step (onClient (P := .reference) {} []) acceptedRun).client.Gone) ∧
    ((Happened step seesLoss (onClient (P := .reference) {} []) refusedRun ∨
        ∀ k < 100, Happened step (missesConnection k) (onClient (P := .reference) {} [])
          refusedRun) ∧
      (run step (onClient (P := .reference) {} []) refusedRun).client.Going) :=
  ⟨(start_tells {} [] acceptedRun).1 (by decide +kernel),
    (start_tells {} [] refusedRun).2 (by decide +kernel)⟩

end DetectBroker

/-- The two threads that a call of `DetectBroker::Start` keeps busy. -/
inductive DetectParty where
  | caller
  | worker
  deriving DecidableEq

def DetectEvent.party : DetectEvent → Option DetectParty
  | .caller => some .caller
  | .outside e => if e.val.isWork then some .worker else none

namespace ClientSys
variable {P : Platform}

theorem outside_phase {s : ClientSys P} (hended : s.phase.isRunning = false) {e : ClientEvent}
    (he : e.isOutside = true) : (s.step e).phase = s.phase := by
  rcases outside_cases he with ⟨elapsed, io, sent, rfl⟩ | hquiet
  · change ((s.tick elapsed).work io sent).phase = s.phase
    cases hphase : (s.tick elapsed).phase with
    | exited => rw [work_exited io sent hphase]; rfl
    | joined => rw [work_joined io sent hphase]; rfl
    | entry | check | body | draining polls =>
      rw [show s.phase = _ from hphase] at hended
      cases hended
  · exact (quiet_control hquiet).phase

end ClientSys

namespace DetectBroker
variable {P : Platform}

/-- The thread that the call waits for: in a join the worker, else the caller itself. -/
def due (s : DetectBroker P) : DetectParty :=
  match s.call with
  | .starting =>
    if s.client.stopClientTask && s.client.phase.isRunning then .worker else .caller
  | .stopping => if s.client.phase.isRunning then .worker else .caller
  | _ => .caller

/-- A bound of the moves that the due threads still make. -/
def movesLeft (s : DetectBroker P) : Nat :=
  match s.call with
  | .called => 311
  | .starting => if s.client.stopClientTask then s.client.phase.movesLeft 50 + 256 else 310
  | .looksLost delay => 2 * (100 - delay) + 55
  | .looksConnected delay => 2 * (100 - delay) + 54
  | .stopping => s.client.phase.movesLeft 50 + 1
  | .returned _ => 0

theorem movesLeft_le (s : DetectBroker P) : s.movesLeft ≤ 311 := by
  unfold movesLeft
  split
  · exact Nat.le_refl _
  · split
    · have hle := s.client.phase.movesLeft_le 50
      omega
    · omega
  · omega
  · omega
  · have hle := s.client.phase.movesLeft_le 50
    omega
  · exact Nat.zero_le _

theorem due_worker {s : DetectBroker P} (h : s.Valid) (hdue : s.due = .worker) :
    (s.call = .starting ∨ s.call = .stopping) ∧ s.client.stopClientTask = true ∧
      s.client.phase.isRunning = true := by
  obtain ⟨client, call⟩ := s
  unfold due at hdue
  cases call with
  | starting =>
    dsimp only at hdue
    split at hdue
    · rename_i hboth
      exact ⟨.inl rfl, Bool.and_eq_true_iff.mp hboth⟩
    · cases hdue
  | stopping =>
    dsimp only at hdue
    split at hdue
    · rename_i hrunning
      exact ⟨.inr rfl, h.knows, hrunning⟩
    · cases hdue
  | _ => cases hdue

/-- A caller in a join does not move. -/
theorem start_joining {s : DetectBroker P} (h : s.Valid) (hdue : s.due = .worker) :
    s.start = s := by
  obtain ⟨hcall, hstop, hrunning⟩ := due_worker h hdue
  obtain ⟨client, call⟩ := s
  rcases hcall with rfl | rfl
  · have hclient : client.start = client := by
      unfold ClientSys.start
      rw [if_pos hrunning, ← show client.stopClientTask = true from hstop]
    unfold start
    dsimp only
    rw [hclient, if_pos hrunning]
  · unfold start
    dsimp only
    rw [if_pos hrunning]

theorem start_moves {s : DetectBroker P} (h : s.Valid) (hpos : 0 < s.movesLeft)
    (hdue : s.due = .caller) : s.start.movesLeft < s.movesLeft := by
  obtain ⟨client, call⟩ := s
  have hle := client.phase.movesLeft_le 50
  cases call with
  | called =>
    change (if client.stopClientTask then client.phase.movesLeft 50 + 256 else 310) < 311
    split <;> omega
  | starting =>
    unfold start movesLeft
    dsimp only
    by_cases hrunning : client.phase.isRunning = true
    · have hclient : client.start = { client with stopClientTask := true } := if_pos hrunning
      have hflag : client.stopClientTask = false := by
        by_contra hstop
        rw [Bool.not_eq_false] at hstop
        unfold due at hdue
        dsimp only at hdue
        rw [hstop, hrunning, Bool.and_self, if_pos rfl] at hdue
        cases hdue
      rw [if_pos hrunning, hclient, hflag]
      dsimp only
      rw [if_pos rfl, if_neg Bool.false_ne_true]
      omega
    · rw [if_neg hrunning]
      dsimp only
      split <;> omega
  | looksLost delay =>
    unfold start
    dsimp only
    split
    · cases client.client.connectionLost with
      | true =>
        change 0 < 2 * (100 - delay) + 55
        omega
      | false =>
        change 2 * (100 - delay) + 54 < 2 * (100 - delay) + 55
        omega
    · change 0 < 2 * (100 - delay) + 55
      omega
  | looksConnected delay =>
    have hdelay : delay < 100 := h.knows.2
    unfold start
    dsimp only
    split
    · change (client.step .stop).phase.movesLeft 50 + 1 < 2 * (100 - delay) + 54
      have hstopped := (client.step .stop).phase.movesLeft_le 50
      omega
    · change 2 * (100 - (delay + 1)) + 55 < 2 * (100 - delay) + 54
      omega
  | stopping =>
    unfold start
    dsimp only
    split
    · rename_i hrunning
      unfold due at hdue
      dsimp only at hdue
      rw [if_pos hrunning] at hdue
      cases hdue
    · exact Nat.succ_pos _
  | returned connected => exact absurd hpos (Nat.lt_irrefl 0)

theorem worker_moves {s : DetectBroker P} (h : s.Valid) (hdue : s.due = .worker)
    {e : {e : ClientEvent // e.isOutside = true}} (hwork : e.val.isWork = true) :
    (s.step (.outside e)).movesLeft < s.movesLeft := by
  obtain ⟨hcall, hstop, hrunning⟩ := due_worker h hdue
  obtain ⟨hends, hkept⟩ := ClientSys.stopping.moves s.client e.val hstop hrunning hwork
  have hfalls := hends.falls
  obtain ⟨client, call⟩ := s
  rcases hcall with rfl | rfl
  · have hkept : (client.step e.val).stopClientTask = true := hkept
    have hstop : client.stopClientTask = true := hstop
    unfold step movesLeft
    dsimp only
    rw [hkept, hstop, if_pos rfl, if_pos rfl]
    exact Nat.add_lt_add_right hfalls 256
  · exact Nat.add_lt_add_right hfalls 1

/-- What the others do leaves the thread due, and its moves. -/
theorem others_wait {s : DetectBroker P} (h : s.Valid)
    {e : {e : ClientEvent // e.isOutside = true}}
    (hparty : (DetectEvent.outside e).party ≠ some s.due) :
    (s.step (.outside e)).movesLeft = s.movesLeft ∧ (s.step (.outside e)).due = s.due := by
  have hflag := ClientSys.outside_stop e.property s.client
  have hphase : (s.call = .starting ∧ s.client.stopClientTask = true ∨ s.call = .stopping) →
      (s.client.step e.val).phase = s.client.phase := by
    intro hjoins
    cases hrunning : s.client.phase.isRunning with
    | false => exact ClientSys.outside_phase hrunning e.property
    | true =>
      have hstop : s.client.stopClientTask = true := by
        rcases hjoins with ⟨_, hstop⟩ | hcall
        · exact hstop
        · have hknows := h.knows
          rw [hcall] at hknows
          exact hknows
      have hdue : s.due = .worker := by
        unfold due
        rcases hjoins with ⟨hcall, _⟩ | hcall
        · rw [hcall, hstop, hrunning]
          rfl
        · rw [hcall, hrunning]
          rfl
      have hrests : e.val.isWork = false := by
        by_contra hwork
        rw [Bool.not_eq_false] at hwork
        refine hparty ?_
        rw [hdue]
        exact if_pos hwork
      exact (ClientSys.stopping.rests s.client e.val hstop hrunning hrests).1
  obtain ⟨client, call⟩ := s
  unfold step movesLeft due
  dsimp only at hflag hphase ⊢
  cases call with
  | starting =>
    dsimp only
    rw [hflag]
    cases hstop : client.stopClientTask with
    | true =>
      rw [hphase (.inl ⟨rfl, hstop⟩)]
      exact ⟨rfl, rfl⟩
    | false => exact ⟨rfl, rfl⟩
  | stopping =>
    dsimp only
    rw [hphase (.inr rfl)]
    exact ⟨rfl, rfl⟩
  | _ => exact ⟨rfl, rfl⟩

theorem ranked : FairlyRanked (step (P := P)) DetectEvent.party due Valid movesLeft where
  kept _ e h := valid_step h e
  falls := by
    intro s e h hpos hparty
    cases e with
    | caller => exact start_moves h hpos (Option.some.inj hparty).symm
    | outside e =>
      cases hwork : e.val.isWork with
      | true =>
        have hdue : s.due = .worker :=
          Option.some.inj (hparty.symm.trans (if_pos hwork))
        exact worker_moves h hdue hwork
      | false =>
        have hnone : (DetectEvent.outside e).party = none :=
          if_neg (by rw [hwork]; exact Bool.false_ne_true)
        cases hnone.symm.trans hparty
  waits := by
    intro s e h hpos hparty
    refine .inr ?_
    cases e with
    | caller =>
      have hdue : s.due = .worker := by
        cases hdue : s.due with
        | caller => exact absurd (congrArg some hdue.symm) hparty
        | worker => rfl
      change s.start.movesLeft = s.movesLeft ∧ s.start.due = s.due
      rw [start_joining h hdue]
      exact ⟨rfl, rfl⟩
    | outside e => exact others_wait h hparty
  ended := by
    intro s e h hzero
    obtain ⟨client, call⟩ := s
    cases call with
    | returned connected =>
      cases e with
      | caller => rfl
      | outside e => rfl
    | starting =>
      unfold movesLeft at hzero
      dsimp only at hzero
      split at hzero <;> cases hzero
    | _ => cases hzero

/-- `Start` returns, whatever the broker and the library do: 311 rounds in which both its own
thread and the worker get a turn are enough, the join of a worker that was running included. -/
theorem start_returns (client : PubSubClient P) (before : List ClientEvent)
    (rounds : List (List DetectEvent))
    (hrounds : ∀ r ∈ rounds, IsRound DetectEvent.party r) (hlong : 311 ≤ rounds.length) :
    ∃ connected, (run step (onClient client before) rounds.flatten).call =
      .returned connected := by
  have hvalid := onClient_valid client before
  have hzero := ranked.rounds_end hvalid hrounds (Nat.le_trans (movesLeft_le _) hlong)
  generalize run step (onClient client before) rounds.flatten = s at hzero
  obtain ⟨client, call⟩ := s
  cases call with
  | returned connected => exact ⟨connected, rfl⟩
  | starting =>
    unfold movesLeft at hzero
    dsimp only at hzero
    split at hzero <;> cases hzero
  | _ => cases hzero

/-- Rounds in which the caller and the worker take turns and no broker ever answers. -/
theorem silent_broker_returns : ∃ connected,
    (run step (onClient (P := .reference) {} [])
      (List.replicate 311 [DetectEvent.caller, .work]).flatten).call = .returned connected := by
  refine start_returns {} [] _ (fun r hr i => ?_) (Nat.le_of_eq (List.length_replicate).symm)
  obtain rfl := List.eq_of_mem_replicate hr
  cases i with
  | caller => exact ⟨.caller, List.mem_cons_self, rfl⟩
  | worker => exact ⟨.work, List.mem_cons_of_mem _ List.mem_cons_self, rfl⟩

end DetectBroker
end PubSub
