import PubSub.HostAgreement

/-!
# The link of a host

A host that has announced its state is not connecting, and a disconnect that is under way
belongs to a connection that stands. The link begins to connect only when `SendConnect` has
written the will into the STATE payload.
-/

namespace PubSub
set_option autoImplicit false

namespace HostSys
variable {P : Platform}

/-- An online or offline host is not connecting, and a disconnect under way is in the session. -/
structure Linked (s : HostSys P) : Prop where
  settled : s.workState.isSettled = true → s.link ≠ some .connecting
  closing : ∀ h, s.handle = some h → h.disconnecting = true →
    h.link = .up ∧ .disconnect ∈ s.session

theorem Linked.of_map {s t : HostSys P} (h : s.Linked) {f : MqttHandle → MqttHandle}
    (hhandle : t.handle = s.handle.map f)
    (hlink : ∀ g, (f g).link = .connecting → g.link = .connecting)
    (hclosing : ∀ g, (f g).disconnecting = true → g.disconnecting = true ∧ (f g).link = g.link)
    (hstate : t.workState.isSettled = true →
      s.workState.isSettled = true ∨ s.isConnected = true)
    (hsession : .disconnect ∈ s.session → .disconnect ∈ t.session) : t.Linked where
  settled hsettled hconnecting := by
    obtain ⟨k, hk, hlinked⟩ := Option.map_eq_some_iff.mp hconnecting
    rw [hhandle] at hk
    obtain ⟨g, hg, rfl⟩ := Option.map_eq_some_iff.mp hk
    have hbefore := hlink g hlinked
    rcases hstate hsettled with hs | hup
    · refine h.settled hs ?_
      rw [link, hg, Option.map_some, hbefore]
    · rw [isConnected_iff, link, hg, Option.map_some, hbefore] at hup
      cases hup
  closing k hk hdisconnecting := by
    rw [hhandle] at hk
    obtain ⟨g, hg, rfl⟩ := Option.map_eq_some_iff.mp hk
    obtain ⟨hbefore, hsame⟩ := hclosing g hdisconnecting
    obtain ⟨hup, hmem⟩ := h.closing g hg hbefore
    exact ⟨hsame.trans hup, hsession hmem⟩

theorem Linked.of_same {s t : HostSys P} (h : s.Linked) (hhandle : t.handle = s.handle)
    (hstate : t.workState.isSettled = true →
      s.workState.isSettled = true ∨ s.isConnected = true)
    (hsession : .disconnect ∈ s.session → .disconnect ∈ t.session) : t.Linked :=
  h.of_map (f := id) (hhandle.trans (Option.map_id_fun.symm ▸ rfl)) (fun _ hg => hg)
    (fun _ hg => ⟨hg, rfl⟩) hstate hsession

/-- A handle that is neither connecting nor closing. -/
theorem linked_of_idle {s : HostSys P}
    (h : ∀ g, s.handle = some g → g.link = .idle ∧ g.disconnecting = false) : s.Linked where
  settled _ hconnecting := by
    obtain ⟨g, hg, hlink⟩ := Option.map_eq_some_iff.mp hconnecting
    exact Link.noConfusion ((h g hg).1.symm.trans hlink)
  closing g hg hdisconnecting :=
    absurd ((h g hg).2.symm.trans hdisconnecting) Bool.false_ne_true

theorem Linked.publishState {s : HostSys P} (h : s.Linked) (online : Bool) (state : WorkState)
    (hstate : state.isSettled = true → s.workState.isSettled = true ∨ s.isConnected = true) :
    HostSys.Linked { s.publishState online with workState := state } := by
  refine h.of_same rfl hstate fun hmem => ?_
  unfold HostSys.publishState
  dsimp only
  split
  · exact List.mem_append_left _ hmem
  · exact hmem

theorem Linked.sendDisconnect {s : HostSys P} (h : s.Linked) (io : Outcomes) :
    (s.sendDisconnect io).Linked := by
  rcases s.sendDisconnect_cases io with ⟨hconnected, hs⟩ | hs
  · rw [hs]
    have hup := (isConnected_iff s).mp hconnected
    refine ⟨fun _ hconnecting => ?_, fun k hk _ => ?_⟩
    · have hsame : (s.handle.map MqttHandle.disconnect).map MqttHandle.link = s.link := by
        rw [link, Option.map_map]
        rfl
      rw [link, hsame, hup] at hconnecting
      cases hconnecting
    · obtain ⟨g, hg, rfl⟩ := Option.map_eq_some_iff.mp hk
      rw [link, hg, Option.map_some] at hup
      exact ⟨Option.some.inj hup, List.mem_append_right _ (List.mem_singleton.mpr rfl)⟩
  · rw [hs]
    exact h.of_same rfl .inl id

/-- A state that announces nothing. -/
theorem Linked.unsettled {s : HostSys P} (h : s.Linked) (state : WorkState)
    (hstate : state.isSettled = false) (timer : Nat) :
    HostSys.Linked { s with hostTimer := timer, workState := state } :=
  h.of_same rfl (fun hsettled => absurd (hstate.symm.trans hsettled) Bool.false_ne_true) id

theorem Linked.sendConnect {s : HostSys P} (h : s.Linked)
    (hstate : s.workState.isSettled = false) (io : Outcomes) : (s.sendConnect io).1.Linked := by
  unfold HostSys.sendConnect
  split
  · exact h
  · dsimp only
    split
    · refine ⟨fun hsettled => ?_, fun k hk hdisconnecting => ?_⟩
      · exact absurd (hstate.symm.trans hsettled) Bool.false_ne_true
      · obtain ⟨g, hg, rfl⟩ := Option.map_eq_some_iff.mp hk
        unfold MqttHandle.connect at hdisconnecting ⊢
        split at hdisconnecting
        · cases hdisconnecting
        · rename_i hidle
          rw [if_neg hidle]
          exact h.closing g hg hdisconnecting
    · exact h.of_same rfl .inl id

theorem Linked.stateStep {s : HostSys P} (h : s.Linked) (io : Outcomes) :
    (s.stateStep io).Linked := by
  unfold HostSys.stateStep
  cases hstate : s.workState with
  | idle =>
    dsimp only
    unfold doIdle
    split
    · exact h
    · have hwaiting := h.unsettled .waitOnConnect rfl (s.clock + 10000)
      have hconnect := hwaiting.sendConnect rfl io
      dsimp only
      split
      · exact hconnect
      · exact hconnect.unsettled .idle rfl _
  | waitOnConnect =>
    dsimp only
    unfold doWaitOnConnect
    split
    · exact h.unsettled .idle rfl _
    · split
      · exact h
      · rename_i hready
        have hconnected : s.isConnected = true := by
          by_contra hnot
          simp [hnot] at hready
        split
        · exact h.unsettled .idle rfl _
        · rename_i state hstate
          have hreplied : (s.connectReplied state).Linked :=
            h.of_map (f := MqttHandle.subscribe) rfl (fun _ hg => hg) (fun _ hg => ⟨hg, rfl⟩)
              .inl id
          have hup : (s.connectReplied state).isConnected = true := by
            rw [isConnected_iff] at hconnected ⊢
            rw [← hconnected]
            simp only [link, HostSys.connectReplied, startSubscription, Option.map_map]
            rfl
          dsimp only
          split
          · exact hreplied.publishState true .online fun _ => .inr hup
          · exact hreplied.publishState false .offline fun _ => .inr hup
  | online =>
    dsimp only
    unfold doOnline
    split
    · have hpublished := h.publishState false s.workState .inl
      have htimer : HostSys.Linked { s.publishState false with hostTimer := s.clock + 5000 } :=
        hpublished.of_same rfl .inl id
      exact (htimer.sendDisconnect io).unsettled .waitOnDisconnect rfl _
    · split
      · exact h.publishState false .offline fun _ => .inl (hstate ▸ rfl)
      · exact h
  | offline =>
    dsimp only
    unfold doOffline
    split
    · have htimer : HostSys.Linked { s with hostTimer := s.clock + 5000 } := h.of_same rfl .inl id
      exact (htimer.sendDisconnect io).unsettled .waitOnDisconnect rfl _
    · split
      · exact h.publishState true .online fun _ => .inl (hstate ▸ rfl)
      · exact h
  | waitOnDisconnect =>
    dsimp only
    unfold doWaitOnDisconnect
    split
    · exact h.unsettled .idle rfl _
    · exact h

theorem Linked.work {s : HostSys P} (h : s.Linked) (io : Outcomes) : (s.work io).Linked := by
  cases hphase : s.phase with
  | entry =>
    rw [work_entry io hphase]
    exact (h.unsettled .idle rfl s.clock).of_same rfl .inl id
  | check =>
    rw [work_check io hphase]
    split
    · unfold leaveLoop
      split
      · dsimp only
        split
        · exact (h.sendDisconnect io).of_same rfl .inl id
        · exact h.of_same rfl .inl id
      · exact h.of_same rfl .inl id
    · exact h.of_same rfl .inl id
  | body =>
    rw [work_body io hphase]
    exact (h.stateStep io).of_same rfl .inl id
  | draining polls =>
    rw [work_draining io hphase]
    split
    · exact h.of_same rfl .inl id
    · exact h.of_same rfl .inl id
  | exited =>
    rw [work_exited io hphase]
    exact h
  | joined =>
    rw [work_joined io hphase]
    exact h

theorem Linked.linkEvent {s : HostSys P} (h : s.Linked) (event : LinkEvent) :
    (s.linkEvent event).Linked := by
  cases hhandle : s.handle with
  | none =>
    refine linked_of_idle fun g hg => ?_
    rw [HostSys.linkEvent, hhandle] at hg
    cases hg
  | some g =>
    have hclosing := h.closing g hhandle
    have hnot : g.link = .connecting → g.disconnecting = false := by
      intro hconnecting
      by_contra hdisconnecting
      have hup := (hclosing (by simpa using hdisconnecting)).1
      exact Link.noConfusion (hup.symm.trans hconnecting)
    have hsettled : s.workState.isSettled = true → g.link ≠ .connecting := by
      intro hs hconnecting
      refine h.settled hs ?_
      rw [link, hhandle, Option.map_some, hconnecting]
    refine ⟨fun hs hconnecting => ?_, fun k hk hdisconnecting => ?_⟩
    · have hbefore := hsettled hs
      cases event with
      | accepted => simp [HostSys.linkEvent, link, Mqtt.link, hhandle, hbefore] at hconnecting
      | refused => simp [HostSys.linkEvent, link, Mqtt.link, hhandle, hbefore] at hconnecting
      | closed ok =>
        simp only [HostSys.linkEvent, link, Mqtt.link, hhandle, Option.map_some] at hconnecting
        split at hconnecting
        · cases ok <;> simp [MqttHandle.closed, hbefore] at hconnecting
        · exact hbefore (Option.some.inj hconnecting)
    · simp only [HostSys.linkEvent, Mqtt.link, hhandle, Option.map_some, Option.some.injEq] at hk
      cases event with
      | accepted =>
        dsimp only at hk
        by_cases hconnecting : g.link = .connecting
        · rw [if_pos hconnecting] at hk
          subst hk
          exact absurd ((hnot hconnecting).symm.trans hdisconnecting) Bool.false_ne_true
        · rw [if_neg hconnecting] at hk
          subst hk
          simpa [HostSys.linkEvent, Mqtt.newSession, hhandle, hconnecting] using
            hclosing hdisconnecting
      | refused =>
        dsimp only at hk
        by_cases hconnecting : g.link = .connecting
        · rw [if_pos hconnecting] at hk
          subst hk
          exact absurd ((hnot hconnecting).symm.trans hdisconnecting) Bool.false_ne_true
        · rw [if_neg hconnecting] at hk
          subst hk
          exact hclosing hdisconnecting
      | closed ok =>
        dsimp only at hk
        by_cases hunder : g.disconnecting = true
        · rw [if_pos hunder] at hk
          subst hk
          cases hdisconnecting
        · rw [if_neg hunder] at hk
          subst hk
          exact absurd hdisconnecting hunder

/-- Every event keeps the link sound. -/
theorem linked_step {s : HostSys P} (h : s.Linked) (e : HostEvent) : (s.step e).Linked := by
  cases e with
  | work elapsed io =>
    have htick : (s.tick elapsed).Linked := h.of_same rfl .inl id
    exact htick.work io
  | link event => exact h.linkEvent event
  | connectionLost =>
    change s.connectionLost.Linked
    unfold connectionLost
    split
    · refine h.of_map (f := MqttHandle.lose) rfl ?_ ?_ .inl id
      · intro g hg
        cases hg
      · intro g hg
        cases hg
    · exact h
  | callback hasResponse version =>
    change (s.callback hasResponse version).Linked
    unfold callback
    have hpop : ∀ t : HostSys P, t.handle = Mqtt.popCallback s.handle →
        t.workState = s.workState → t.session = s.session → t.Linked := by
      intro t hhandle hstate hsession
      exact h.of_map hhandle (fun _ hg => hg) (fun _ hg => ⟨hg, rfl⟩) (fun ht => .inl (hstate ▸ ht))
        (fun hmem => hsession ▸ hmem)
    split
    · exact h
    · dsimp only
      split
      · exact hpop _ rfl rfl rfl
      · exact hpop _ rfl rfl rfl
  | message topicName body =>
    change (s.message topicName body).Linked
    unfold message
    split
    · exact h.of_same rfl .inl id
    · exact h
  | start io =>
    change (s.start io).Linked
    unfold start
    split
    · exact h
    · split
      · exact h.of_same rfl .inl id
      · exact linked_of_idle fun g hg => Option.some.inj hg ▸ ⟨rfl, rfl⟩
      · exact linked_of_idle fun g hg => Option.some.inj hg ▸ ⟨rfl, rfl⟩
  | stop => exact h.of_same rfl .inl id
  | stopReturns =>
    change s.stopReturns.Linked
    unfold stopReturns
    split
    · exact linked_of_idle nofun
    · exact h
  | inService on => exact h.of_same rfl .inl id

theorem linked_init (hostName : Option Str) (now : UInt64) (setups : List HostSetup) :
    (init (P := P) hostName now setups).Linked :=
  linked_of_idle nofun

theorem sendConnect_link {io : Outcomes} {s : HostSys P}
    (h : (s.sendConnect io).1.link = some .connecting) :
    s.link = some .connecting ∨ s.link = some .idle := by
  unfold sendConnect at h
  split at h
  · exact .inl h
  · dsimp only at h
    split at h
    · obtain ⟨k, hk, hlink⟩ := Option.map_eq_some_iff.mp h
      obtain ⟨g, hg, rfl⟩ := Option.map_eq_some_iff.mp hk
      have hs : s.handle = some g := hg
      unfold MqttHandle.connect at hlink
      rw [link, hs, Option.map_some]
      split at hlink
      · rename_i hidle
        exact .inr (congrArg some hidle)
      · exact .inl (congrArg some hlink)
    · exact .inl h

/-- The worker of an idle host connects in front of a state function only. -/
theorem doIdle_connects {s : HostSys P} (hstate : s.workState = .idle) {elapsed : Nat}
    {io : Outcomes} (hwaits : (s.step (.work elapsed io)).workState = .waitOnConnect)
    (hlink : (s.step (.work elapsed io)).link = some .connecting) :
    s.link = some .connecting ∨
      (s.link = some .idle ∧ s.calls (.work elapsed io) = some .sendConnect) := by
  change ((s.tick elapsed).work io).workState = _ at hwaits
  change ((s.tick elapsed).work io).link = _ at hlink
  have hidle : (s.tick elapsed).workState = .idle := hstate
  cases hphase : (s.tick elapsed).phase with
  | body =>
    rw [work_body io hphase] at hwaits hlink
    unfold stateStep at hwaits hlink
    rw [hidle] at hwaits hlink
    dsimp only at hwaits
    unfold doIdle at hwaits hlink
    have htimeout : (s.tick elapsed).timeout = true := by
      by_contra hnot
      rw [if_pos (by simpa using hnot), hidle] at hwaits
      cases hwaits
    have hcalls : s.calls (.work elapsed io) = some .sendConnect := by
      have hbody : s.phase = .body := hphase
      rw [calls, if_pos hbody, stateCall, hidle]
      exact if_pos htimeout
    have hsent : (sendConnect io { s.tick elapsed with
        hostTimer := (s.tick elapsed).clock + 10000, workState := .waitOnConnect }).1.link =
        some .connecting := by
      rw [if_neg (by simp [htimeout])] at hlink
      dsimp only at hlink
      split at hlink
      · exact hlink
      · exact hlink
    rcases sendConnect_link hsent with hs | hs
    · exact .inl hs
    · exact .inr ⟨hs, hcalls⟩
  | entry =>
    rw [work_entry io hphase] at hlink
    exact .inl hlink
  | check =>
    rw [work_check io hphase] at hwaits
    split at hwaits
    · rw [leaveLoop_workState, hidle] at hwaits
      cases hwaits
    · exact WorkState.noConfusion (hidle.symm.trans hwaits)
  | draining polls =>
    rw [work_draining io hphase] at hlink
    split at hlink
    · exact .inl hlink
    · exact .inl hlink
  | exited =>
    rw [work_exited io hphase] at hlink
    exact .inl hlink
  | joined =>
    rw [work_joined io hphase] at hlink
    exact .inl hlink

/-- The link begins to connect in `SendConnect`, and only when it is idle. -/
theorem connects_step {s : HostSys P} {state : Topic P} (h : s.Owns state) {e : HostEvent}
    (hlink : (s.step e).link = some .connecting) :
    s.link = some .connecting ∨ (s.link = some .idle ∧ s.calls e = some .sendConnect) := by
  have hmove := step_move h e
  have hview : (s.step e).view.link = some .connecting := hlink
  generalize hv : (s.step e).view = v at hmove hview
  cases hmove with
  | stay hsame =>
    rcases hsame with rfl | rfl | rfl
    · exact .inl hview
    · cases hview
    · cases hview
  | accept hs => cases hview
  | idle => exact .inl hview
  | announce => exact .inl hview
  | leaveOnline => exact .inl hview
  | leaveOffline => exact .inl hview
  | exit => exact .inl hview
  | connect hidle hsame =>
    rcases hsame with rfl | rfl
    · exact .inl hview
    · exact doIdle_connects hidle (congrArg HostView.workState hv) hlink

end HostSys
end PubSub
