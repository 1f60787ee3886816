import PubSub.HostTopics

/-!
# What a host does within a session

As for a node, every step of a host is one of a few moves. A STATE message is known by
the JSON member that its body was written from.
-/

namespace PubSub
set_option autoImplicit false

namespace Payload
variable {P : Platform}

/-- The value that a member of the JSON object has. -/
def jsonMember? (p : Payload P) (name : Str) : Option JsonValue :=
  (p.jsonMembers.find? fun m => P.iEquals m.1 name).map Prod.snd

theorem jsonMember?_of_getMetric {p : Payload P} {name : Str} {m : Metric} {v : JsonValue}
    (hm : p.getMetric name = some m) (hv : jsonValue P m = some v)
    (hname : P.foldKey [] ≠ P.foldKey name) : p.jsonMember? name = some v := by
  unfold jsonMember? jsonMembers
  change Entries.get? P.foldKey name p.metricList.entries = some m at hm
  generalize p.metricList.entries = es at hm ⊢
  induction es with
  | nil => cases hm
  | cons e es ih =>
    by_cases he : P.foldKey e.1 = P.foldKey name
    · have heq : e.2 = m := by
        simpa [Entries.get?, Entries.findFirst?, Entries.sameKey, he] using hm
      have hnonempty : e.1 ≠ [] := by
        intro hnil
        rw [hnil] at he
        exact hname he
      simp [hnonempty, heq, hv, he]
    · have hrest : Entries.get? P.foldKey name es = some m := by
        simpa [Entries.get?, Entries.findFirst?, Entries.sameKey, he] using hm
      have htail := ih hrest
      rw [List.filterMap_cons]
      split
      · exact htail
      · rename_i member hmember
        have hkey : member.1 = e.1 := by
          split at hmember
          · cases hmember
          · obtain ⟨u, _, hu⟩ := Option.map_eq_some_iff.mp hmember
            rw [← hu]
        rw [List.find?_cons_of_neg]
        · exact htail
        · simpa [hkey] using he

/-- The body was written from the metrics, and they tell whether the host is online. -/
def Says (online : Bool) (p : Payload P) : Prop :=
  p.body = p.makeJsonString ∧ p.jsonMember? (str "online") = some (.bool online)

instance (online : Bool) (p : Payload P) : Decidable (p.Says online) :=
  inferInstanceAs (Decidable (_ ∧ _))

theorem told_setBoolValue {p : Payload P} (h : SparkplugHost.Announceable p) (online : Bool) :
    (p.setBoolValue (str "online") online).generateJson.Says online := by
  obtain ⟨m, hm, hdatatype, hnull⟩ := h
  refine ⟨rfl, ?_⟩
  have hset : (p.setBoolValue (str "online") online).getMetric (str "online") =
      some (m.setBool online) := by
    have hself := FoldedMap.get?_update_self p.metricList (str "online") fun m => m.setBool online
    rw [Payload.getMetric] at hm
    rw [hm] at hself
    exact hself
  apply Payload.jsonMember?_of_getMetric (m := m.setBool online) hset
  · simp [Payload.jsonValue, Metric.setBool, Metric.setText, hdatatype, hnull,
      Text.valueBool_ofBool]
  · exact P.foldKey_ne (by decide)

end Payload

namespace Publication
variable {P : Platform}

/-- A STATE message whose body tells that the host is, or is not, online. -/
def Announces (online : Bool) (p : Publication P) : Prop :=
  p.kind = .state ∧ p.topic.payload.body = p.topic.payload.makeJsonString ∧
    p.topic.payload.jsonMember? (str "online") = some (.bool online)

instance (online : Bool) (p : Publication P) : Decidable (p.Announces online) :=
  inferInstanceAs (Decidable (_ ∧ _ ∧ _))

end Publication

structure HostView (P : Platform) where
  workState : WorkState
  link : Option Link
  session : List (Action P)

namespace HostSys
variable {P : Platform}

def link (s : HostSys P) : Option Link := s.handle.map MqttHandle.link

def view (s : HostSys P) : HostView P where
  workState := s.workState
  link := s.link
  session := s.session

theorem isConnected_iff (s : HostSys P) : s.isConnected = true ↔ s.link = some .up := by
  unfold isConnected link Mqtt.isConnected
  cases s.handle with
  | none => simp
  | some h => simp

/-- What an event can do to the session. -/
inductive Move (s : HostSys P) : HostEvent → HostView P → Prop
  | stay {e link} : link = s.link ∨ link = none ∨ link = some .idle →
      Move s e { s.view with link := link }
  | accept : s.link = some .connecting →
      Move s (.link .accepted) { s.view with link := some .up, session := [] }
  | idle {elapsed io} : s.workState ≠ .online ∨ s.phase = .entry →
      Move s (.work elapsed io) { s.view with workState := .idle }
  | connect {elapsed io link} : s.workState = .idle →
      link = s.link ∨ link = some .connecting →
      Move s (.work elapsed io) { s.view with workState := .waitOnConnect, link := link }
  | announce {elapsed io message} (online : Bool) : message.Announces online →
      Move s (.work elapsed io) { s.view with
        workState := if online then .online else .offline
        session := if s.isConnected then s.session ++ [.publish message] else s.session }
  | leaveOnline {elapsed io message rest} : message.Announces false →
      rest = [] ∨ s.isConnected = true ∧ rest = [.disconnect] →
      Move s (.work elapsed io) { s.view with
        workState := .waitOnDisconnect
        session :=
          (if s.isConnected then s.session ++ [.publish message] else s.session) ++ rest }
  | leaveOffline {elapsed io rest} : s.workState = .offline →
      rest = [] ∨ s.isConnected = true ∧ rest = [.disconnect] →
      Move s (.work elapsed io) { s.view with
        workState := .waitOnDisconnect
        session := s.session ++ rest }
  | exit {elapsed io} : s.phase = .check → s.stopWorkTask = true → s.isConnected = true →
      Move s (.work elapsed io) { s.view with session := s.session ++ [.disconnect] }

theorem Move.untick {s : HostSys P} {elapsed : Nat} {e : HostEvent} {v : HostView P}
    (h : Move (s.tick elapsed) e v) : Move s e v := by
  cases h with
  | stay hlink => exact .stay hlink
  | accept hlink => exact .accept hlink
  | idle hstate => exact .idle hstate
  | connect hstate hlink => exact .connect hstate hlink
  | announce online hmessage => exact .announce online hmessage
  | leaveOnline hmessage hrest => exact .leaveOnline hmessage hrest
  | leaveOffline hstate hrest => exact .leaveOffline hstate hrest
  | exit hphase hstop hconnected => exact .exit hphase hstop hconnected

/-- A STATE message tells what `publishState` was called with. -/
theorem publishState_spec {s : HostSys P} {state : Topic P} (h : s.Owns state)
    (online : Bool) : (∃ next, (s.publishState online).Owns next) ∧
      ∃ message, message.Announces online ∧ (s.publishState online).session =
        if s.isConnected then s.session ++ [.publish message] else s.session := by
  refine ⟨owns_publishState h online, ?_⟩
  obtain ⟨n, _, _, hs⟩ := publishState_eq h online
  refine ⟨⟨.state, (state.onPayload fun p =>
    (p.setBoolValue (str "online") online).generateJson).cacheTopic⟩, ⟨rfl, ?_⟩, ?_⟩
  · exact Payload.told_setBoolValue h.announceable online
  · rw [hs]

theorem sendDisconnect_spec {s : HostSys P} (io : Outcomes) :
    (s.sendDisconnect io).link = s.link ∧
      ∃ rest, (rest = [] ∨ s.isConnected = true ∧ rest = [Action.disconnect]) ∧
        (s.sendDisconnect io).session = s.session ++ rest := by
  rcases s.sendDisconnect_cases io with ⟨hconnected, hs⟩ | hs
  · rw [hs]
    refine ⟨?_, [.disconnect], .inr ⟨hconnected, rfl⟩, rfl⟩
    simp only [link, Option.map_map]
    rfl
  · rw [hs]
    exact ⟨rfl, [], .inl rfl, by simp⟩

theorem move_stay {s t : HostSys P} (e : HostEvent) (hstate : t.workState = s.workState)
    (hlink : t.link = s.link ∨ t.link = none ∨ t.link = some .idle)
    (hsession : t.session = s.session) : Move s e t.view := by
  have hview : t.view = { s.view with link := t.link } := by
    simp [view, hstate, hsession]
  rw [hview]
  exact .stay hlink

theorem leaveLoop_move {s : HostSys P} (hphase : s.phase = .check) (hstop : s.stopWorkTask = true)
    (elapsed : Nat) (io : Outcomes) : Move s (.work elapsed io) (s.leaveLoop io).view := by
  unfold leaveLoop
  split
  · dsimp only
    split
    · obtain ⟨hlink, rest, hrest, hsession⟩ := sendDisconnect_spec (s := s) io
      rcases hrest with rfl | ⟨hconnected, rfl⟩
      · refine move_stay _ (s.sendDisconnect_workState io) (.inl hlink) ?_
        rw [List.append_nil] at hsession
        exact hsession
      · have hview : view { s.sendDisconnect io with phase := .draining 0 } =
            { s.view with session := s.session ++ [.disconnect] } := by
          change HostView.mk (s.sendDisconnect io).workState (s.sendDisconnect io).link
            (s.sendDisconnect io).session = _
          rw [hlink, hsession, sendDisconnect_workState]
          rfl
        rw [hview]
        exact .exit hphase hstop hconnected
    · exact move_stay _ rfl (.inl rfl) rfl
  · exact move_stay _ rfl (.inl rfl) rfl

theorem sendConnect_spec (io : Outcomes) (s : HostSys P) :
    (s.sendConnect io).1.session = s.session ∧
    (s.sendConnect io).1.workState = s.workState ∧
    ((s.sendConnect io).1.link = s.link ∨
      (s.sendConnect io).2 = true ∧ (s.sendConnect io).1.link = some .connecting) := by
  unfold sendConnect
  split
  · exact ⟨rfl, rfl, .inl rfl⟩
  · dsimp only
    split
    · refine ⟨rfl, rfl, ?_⟩
      cases hhandle : s.handle with
      | none => exact .inl (by simp [link, setConnectionLost, hhandle])
      | some handle =>
        by_cases hidle : handle.link = .idle
        · exact .inr (by simp [link, setConnectionLost, hhandle, MqttHandle.connect, hidle])
        · exact .inl (by simp [link, setConnectionLost, hhandle, MqttHandle.connect, hidle])
    · exact ⟨rfl, rfl, .inl rfl⟩

theorem doIdle_move {s : HostSys P} (hstate : s.workState = .idle) (elapsed : Nat)
    (io : Outcomes) : Move s (.work elapsed io) (s.doIdle io).view := by
  unfold doIdle
  split
  · exact move_stay _ rfl (.inl rfl) rfl
  · obtain ⟨hsession, hwork, hlink⟩ := sendConnect_spec io
      { s with hostTimer := s.clock + 10000, workState := .waitOnConnect }
    dsimp only at hsession hwork hlink ⊢
    split
    · have hview : view (sendConnect io
          { s with hostTimer := s.clock + 10000, workState := .waitOnConnect }).1 =
          { s.view with
            workState := .waitOnConnect
            link := (sendConnect io
              { s with hostTimer := s.clock + 10000, workState := .waitOnConnect }).1.link } := by
        simp only [view, hsession, hwork]
      rw [hview]
      refine .connect hstate ?_
      rcases hlink with hlink | ⟨_, hlink⟩
      · exact .inl hlink
      · exact .inr hlink
    · rename_i hfailed
      refine move_stay _ hstate.symm (.inl ?_) hsession
      rcases hlink with hlink | ⟨hsent, _⟩
      · exact hlink
      · exact absurd hsent hfailed

theorem doWaitOnConnect_move {s : HostSys P} {state : Topic P} (h : s.Owns state)
    (hstate : s.workState = .waitOnConnect) (elapsed : Nat) (io : Outcomes) :
    Move s (.work elapsed io) s.doWaitOnConnect.view := by
  have hnot : s.workState ≠ .online := by simp [hstate]
  unfold doWaitOnConnect
  split
  · exact .idle (.inl hnot)
  · split
    · exact move_stay _ rfl (.inl rfl) rfl
    · rw [h.self.find]
      dsimp only
      obtain ⟨replied, hreplied⟩ := owns_connectReplied h
      have hlink : (s.connectReplied state).link = s.link := by
        simp only [link, connectReplied, startSubscription, Option.map_map]
        rfl
      have hconnected : (s.connectReplied state).isConnected = s.isConnected := by
        rw [Bool.eq_iff_iff, isConnected_iff, isConnected_iff, hlink]
      split
      · obtain ⟨_, message, hmessage, hsession⟩ := publishState_spec hreplied true
        have hview : view { (s.connectReplied state).publishState true with
            workState := .online } =
            { s.view with
              workState := if true then .online else .offline
              session :=
                if s.isConnected then s.session ++ [.publish message] else s.session } := by
          change HostView.mk .online (s.connectReplied state).link
            ((s.connectReplied state).publishState true).session = _
          rw [hlink, hsession, hconnected]
          rfl
        rw [hview]
        exact .announce true hmessage
      · obtain ⟨_, message, hmessage, hsession⟩ := publishState_spec hreplied false
        have hview : view { (s.connectReplied state).publishState false with
            workState := .offline } =
            { s.view with
              workState := if false then .online else .offline
              session :=
                if s.isConnected then s.session ++ [.publish message] else s.session } := by
          change HostView.mk .offline (s.connectReplied state).link
            ((s.connectReplied state).publishState false).session = _
          rw [hlink, hsession, hconnected]
          rfl
        rw [hview]
        exact .announce false hmessage

/-- The announcement that the online and the offline state make when they change over. -/
theorem announce_move {s : HostSys P} {state : Topic P} (h : s.Owns state) (online : Bool)
    (elapsed : Nat) (io : Outcomes) : Move s (.work elapsed io)
      (view { s.publishState online with
        workState := if online then .online else .offline }) := by
  obtain ⟨_, message, hmessage, hsession⟩ := publishState_spec h online
  have hview : view { s.publishState online with
      workState := if online then .online else .offline } =
      { s.view with
        workState := if online then .online else .offline
        session := if s.isConnected then s.session ++ [.publish message] else s.session } := by
    change HostView.mk _ s.link (s.publishState online).session = _
    rw [hsession]
    rfl
  rw [hview]
  exact .announce online hmessage

theorem doOnline_move {s : HostSys P} {state : Topic P} (h : s.Owns state) (elapsed : Nat)
    (io : Outcomes) :
    Move s (.work elapsed io) (s.doOnline io).view := by
  unfold doOnline
  split
  · obtain ⟨_, message, hmessage, hsession⟩ := publishState_spec h false
    let timed : HostSys P := { s.publishState false with hostTimer := s.clock + 5000 }
    obtain ⟨hlink, rest, hrest, hsent⟩ := sendDisconnect_spec (s := timed) io
    have hview : view { timed.sendDisconnect io with workState := .waitOnDisconnect } =
        { s.view with
          workState := .waitOnDisconnect
          session := (if s.isConnected then s.session ++ [.publish message]
            else s.session) ++ rest } := by
      change HostView.mk .waitOnDisconnect (timed.sendDisconnect io).link
        (timed.sendDisconnect io).session = _
      rw [hlink, hsent]
      change HostView.mk .waitOnDisconnect s.link ((s.publishState false).session ++ rest) = _
      rw [hsession]
      rfl
    change Move s (.work elapsed io)
      (view { timed.sendDisconnect io with workState := .waitOnDisconnect })
    rw [hview]
    exact .leaveOnline hmessage hrest
  · split
    · exact announce_move h false elapsed io
    · exact move_stay _ rfl (.inl rfl) rfl

theorem doOffline_move {s : HostSys P} {state : Topic P} (h : s.Owns state)
    (hstate : s.workState = .offline) (elapsed : Nat) (io : Outcomes) :
    Move s (.work elapsed io) (s.doOffline io).view := by
  unfold doOffline
  split
  · let timed : HostSys P := { s with hostTimer := s.clock + 5000 }
    obtain ⟨hlink, rest, hrest, hsent⟩ := sendDisconnect_spec (s := timed) io
    have hview : view { timed.sendDisconnect io with workState := .waitOnDisconnect } =
        { s.view with
          workState := .waitOnDisconnect
          session := s.session ++ rest } := by
      change HostView.mk .waitOnDisconnect (timed.sendDisconnect io).link
        (timed.sendDisconnect io).session = _
      rw [hlink, hsent]
      rfl
    change Move s (.work elapsed io)
      (view { timed.sendDisconnect io with workState := .waitOnDisconnect })
    rw [hview]
    exact .leaveOffline hstate hrest
  · split
    · exact announce_move h true elapsed io
    · exact move_stay _ rfl (.inl rfl) rfl

theorem work_move {s : HostSys P} {state : Topic P} (h : s.Owns state) (elapsed : Nat)
    (io : Outcomes) : Move s (.work elapsed io) (s.work io).view := by
  cases hphase : s.phase with
  | entry =>
    rw [work_entry io hphase]
    exact .idle (.inr hphase)
  | check =>
    rw [work_check io hphase]
    split
    · rename_i hstop
      exact leaveLoop_move hphase hstop elapsed io
    · exact move_stay _ rfl (.inl rfl) rfl
  | body =>
    rw [work_body io hphase]
    change Move s (.work elapsed io) (s.stateStep io).view
    unfold stateStep
    split
    · rename_i hstate
      exact doIdle_move hstate elapsed io
    · rename_i hstate
      exact doWaitOnConnect_move h hstate elapsed io
    · exact doOnline_move h elapsed io
    · rename_i hstate
      exact doOffline_move h hstate elapsed io
    · rename_i hstate
      have hnot : s.workState ≠ .online := by simp [hstate]
      unfold doWaitOnDisconnect
      split
      · exact .idle (.inl hnot)
      · exact move_stay _ rfl (.inl rfl) rfl
  | draining polls =>
    rw [work_draining io hphase]
    split
    · exact move_stay _ rfl (.inl rfl) rfl
    · exact move_stay _ rfl (.inl rfl) rfl
  | exited =>
    rw [work_exited io hphase]
    exact move_stay _ rfl (.inl rfl) rfl
  | joined =>
    rw [work_joined io hphase]
    exact move_stay _ rfl (.inl rfl) rfl

theorem linkEvent_move (s : HostSys P) (event : LinkEvent) :
    Move s (.link event) (s.linkEvent event).view := by
  cases hhandle : s.handle with
  | none =>
    refine move_stay _ rfl (.inl ?_) ?_
    · simp [link, linkEvent, Mqtt.link, hhandle]
    · cases event <;> simp [linkEvent, Mqtt.newSession, hhandle]
  | some handle =>
    cases event with
    | accepted =>
      by_cases hconnecting : handle.link = .connecting
      · have hview : (s.linkEvent .accepted).view =
            { s.view with link := some .up, session := [] } := by
          simp [view, linkEvent, Mqtt.newSession, link, Mqtt.link, hhandle, hconnecting,
            MqttHandle.accept]
        rw [hview]
        exact .accept (by simp [link, hhandle, hconnecting])
      · refine move_stay _ rfl (.inl ?_) ?_
        · simp [link, linkEvent, Mqtt.link, hhandle, hconnecting]
        · simp [linkEvent, Mqtt.newSession, hhandle, hconnecting]
    | refused =>
      refine move_stay _ rfl ?_ rfl
      by_cases hconnecting : handle.link = .connecting
      · refine .inr (.inr ?_)
        simp [link, linkEvent, Mqtt.link, hhandle, hconnecting, MqttHandle.refuse]
      · refine .inl ?_
        simp [link, linkEvent, Mqtt.link, hhandle, hconnecting]
    | closed ok =>
      refine move_stay _ rfl ?_ rfl
      by_cases hclosing : handle.disconnecting = true
      · cases ok with
        | true =>
          refine .inr (.inr ?_)
          simp [link, linkEvent, Mqtt.link, hhandle, hclosing, MqttHandle.closed]
        | false =>
          refine .inl ?_
          simp [link, linkEvent, Mqtt.link, hhandle, hclosing, MqttHandle.closed]
      · refine .inl ?_
        simp [link, linkEvent, Mqtt.link, hhandle, hclosing]

/-- Every event is a move. -/
theorem step_move {s : HostSys P} {state : Topic P} (h : s.Owns state) (e : HostEvent) :
    Move s e (s.step e).view := by
  cases e with
  | work elapsed io =>
    have htick : (s.tick elapsed).Owns state := h.of_same rfl rfl (fun hsome => hsome)
    exact (work_move htick elapsed io).untick
  | link event => exact linkEvent_move s event
  | connectionLost =>
    simp only [step, connectionLost]
    split
    · refine move_stay _ rfl (.inr ?_) rfl
      cases hhandle : s.handle with
      | none => exact .inl (by simp [link, setConnectionLost, Mqtt.lose])
      | some handle => exact .inr (by simp [link, setConnectionLost, Mqtt.lose, MqttHandle.lose])
    · exact move_stay _ rfl (.inl rfl) rfl
  | callback hasResponse version =>
    have hlink : (Mqtt.popCallback s.handle).map MqttHandle.link = s.link := by
      simp only [Mqtt.popCallback, link, Option.map_map]
      rfl
    simp only [step, callback]
    split
    · exact move_stay _ rfl (.inl rfl) rfl
    · split
      · exact move_stay _ rfl (.inl hlink) rfl
      · exact move_stay _ rfl (.inl hlink) rfl
  | message topicName body =>
    simp only [step, message]
    split
    · exact move_stay _ rfl (.inl rfl) rfl
    · exact move_stay _ rfl (.inl rfl) rfl
  | start io =>
    simp only [step, start]
    split
    · exact move_stay _ rfl (.inl rfl) rfl
    · split
      · exact move_stay _ rfl (.inl rfl) rfl
      · exact move_stay _ rfl (.inr (.inr rfl)) rfl
      · exact move_stay _ rfl (.inr (.inr rfl)) rfl
  | stop => exact move_stay _ rfl (.inl rfl) rfl
  | stopReturns =>
    simp only [step, stopReturns]
    split
    · exact move_stay _ rfl (.inr (.inl rfl)) rfl
    · exact move_stay _ rfl (.inl rfl) rfl
  | inService on => exact move_stay _ rfl (.inl rfl) rfl

/-- A worker that has not begun has no connection. -/
def Fresh (s : HostSys P) : Prop := s.phase = .entry → Mqtt.isDown s.handle

theorem work_not_entry (io : Outcomes) (s : HostSys P) : (s.work io).phase ≠ .entry := by
  cases hphase : s.phase with
  | entry =>
    rw [work_entry io hphase]
    simp
  | check =>
    rw [work_check io hphase]
    split
    · unfold leaveLoop
      split <;> simp
    · simp
  | body =>
    rw [work_body io hphase]
    simp
  | draining polls =>
    rw [work_draining io hphase]
    split <;> simp
  | exited =>
    rw [work_exited io hphase, hphase]
    simp
  | joined =>
    rw [work_joined io hphase, hphase]
    simp

theorem fresh_step {s : HostSys P} (h : s.Fresh) (e : HostEvent) : (s.step e).Fresh := by
  intro hentry
  cases e with
  | work elapsed io => exact absurd hentry (work_not_entry io (s.tick elapsed))
  | link event => exact Mqtt.isDown_link event (h hentry)
  | connectionLost =>
    simp only [step, connectionLost] at hentry ⊢
    split
    · exact Mqtt.isDown_lose _
    · rename_i hlost
      rw [if_neg hlost] at hentry
      exact h hentry
  | callback hasResponse version =>
    have hphase := (quiet_control (s := s) (e := .callback hasResponse version) rfl).phase
    have hdown := h (hphase.symm.trans hentry)
    have hpop := Mqtt.isDown_map
      (f := fun g => { g with callbacks := g.callbacks.tail }) (fun _ => .inl rfl) hdown
    simp only [step, callback]
    split
    · exact hdown
    · split
      · exact hpop
      · exact hpop
  | message topicName body =>
    have hphase := (quiet_control (s := s) (e := .message topicName body) rfl).phase
    have hdown := h (hphase.symm.trans hentry)
    simp only [step, message]
    split
    · exact hdown
    · exact hdown
  | start io =>
    simp only [step, start] at hentry ⊢
    split
    · rename_i hrunning
      rw [if_pos hrunning] at hentry
      exact h hentry
    · rename_i hrunning
      rw [if_neg hrunning] at hentry
      revert hentry
      split
      · intro hentry
        exact h hentry
      · intro _
        exact Mqtt.isDown_fresh
      · intro _
        exact Mqtt.isDown_fresh
  | stop => exact h hentry
  | stopReturns =>
    simp only [step, stopReturns] at hentry ⊢
    split
    · exact Mqtt.isDown_none
    · rename_i hstop
      rw [if_neg hstop] at hentry
      exact h hentry
  | inService on => exact h hentry

/-- An invariant of the session holds after every run whose steps meet the condition. -/
theorem view_invariant {Inv : HostView P → Prop} {ok : HostSys P → HostEvent → Prop}
    (preserved : ∀ s e v, Inv s.view → s.Fresh → ok s e → Move s e v → Inv v)
    {hostName : Option Str} {now : UInt64} {setups : List HostSetup} {es : List HostEvent}
    (hinit : Inv (init (P := P) hostName now setups).view)
    (hok : RunOk step ok (init hostName now setups) es) :
    Inv (run step (init hostName now setups) es).view := by
  have hstep : ∀ (s : HostSys P) (e : HostEvent),
      (∃ state, s.Owns state) ∧ s.Fresh ∧ Inv s.view → ok s e →
      (∃ state, (s.step e).Owns state) ∧ (s.step e).Fresh ∧ Inv (s.step e).view := by
    intro s e hs hoke
    obtain ⟨⟨state, howns⟩, hfresh, hinv⟩ := hs
    exact ⟨owns_step howns e, fresh_step hfresh e,
      preserved s e _ hinv hfresh hoke (step_move howns e)⟩
  have hfresh : (init (P := P) hostName now setups).Fresh := fun hentry => by cases hentry
  exact (run_invariant hstep ⟨owns_init hostName now setups, hfresh, hinit⟩ hok).2.2

end HostSys
end PubSub
