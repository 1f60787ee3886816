import PubSub.HostMirror
import PubSub.NodeSession
import PubSub.Reference

/-!
# Waiting for a host

A node that waits for a host connects only when it knows of a host that is online, and it
learns that from a message, which it gets only while it is connected. A node that is
neither connected nor connecting, and knows of no host, stays so in every run.
-/

namespace PubSub
set_option autoImplicit false

/-- The events of the worker, the library and a broker that holds the message. -/
def OnlineState.Allows {P : Platform} (st : OnlineState P) : NodeEvent P → Prop
  | .work _ _ | .link _ | .connectionLost | .callback _ _ => True
  | .message topicName body => topicName = st.topicName ∧ body = st.body
  | _ => False

namespace NodeSys
variable {P : Platform}

/-- Some run of allowed events ends in the online state. -/
def Reaches (st : OnlineState P) (s : NodeSys P) : Prop :=
  ∃ es, (∀ e ∈ es, st.Allows e) ∧ (run step s es).nodeState = .online

/-- The worker of the node runs, nobody asked it to stop, and the node is in service. -/
structure Started (s : NodeSys P) : Prop where
  running : s.phase.isRunning = true
  notStopped : s.stopNodeTask = false
  inService : s.self.inService = true

/-- The node is online, or it knows of a host that is online, or it waits for a connection
that is made or under way, or it can receive messages. -/
def CanWake (s : NodeSys P) : Prop :=
  s.nodeState = .online ∨ s.receiver.isHostOnline = true ∨
    (s.nodeState = .waitOnConnect ∧ ∃ h, s.handle = some h ∧ h.link ≠ .idle) ∨
    Mqtt.receives s.handle = true

section Frozen

/-- The mirrors and the wait for a host are as they were. -/
structure Frozen (s t : NodeSys P) : Prop where
  nodeList : t.receiver.nodeList = s.receiver.nodeList
  wait : t.self.waitOnHostOnline = s.self.waitOnHostOnline

theorem Frozen.refl (s : NodeSys P) : s.Frozen s := ⟨rfl, rfl⟩

theorem Frozen.trans {s t u : NodeSys P} (hst : s.Frozen t) (htu : t.Frozen u) : s.Frozen u :=
  ⟨htu.nodeList.trans hst.nodeList, htu.wait.trans hst.wait⟩

theorem Frozen.isHostOnline {s t : NodeSys P} (h : s.Frozen t) :
    t.receiver.isHostOnline = s.receiver.isHostOnline := by
  unfold Receiver.isHostOnline
  rw [h.nodeList]

theorem Frozen.mirrors {s t : NodeSys P} (h : s.Frozen t) {Q : SparkplugNode P → Prop}
    (hs : s.receiver.Mirrors Q) : t.receiver.Mirrors Q := by
  unfold Receiver.Mirrors
  rw [h.nodeList]
  exact hs

theorem publishMessage_wait (messageType : Str) (kind : MessageKind) (connected : Bool)
    (now : UInt64) (n : SparkplugNode P) :
    (n.publishMessage messageType kind connected now).1.waitOnHostOnline =
      n.waitOnHostOnline := by
  obtain ⟨topics, number, hframe⟩ := n.publishMessage_frame messageType kind connected now
  rw [hframe]

theorem frozen_publishNodeBirth (s : NodeSys P) : s.Frozen s.publishNodeBirth :=
  ⟨rfl, publishMessage_wait _ _ _ _ s.self⟩

theorem frozen_publishNodeDeath (s : NodeSys P) : s.Frozen s.publishNodeDeath :=
  ⟨rfl, publishMessage_wait _ _ _ _ s.self⟩

theorem frozen_pollDevices (s : NodeSys P) : s.Frozen s.pollDevices := ⟨rfl, rfl⟩

theorem frozen_sendDisconnect (io : Outcomes) (s : NodeSys P) : s.Frozen (s.sendDisconnect io) := by
  rcases s.sendDisconnect_cases io with ⟨_, h⟩ | h
  · rw [h]
    exact ⟨rfl, rfl⟩
  · rw [h]
    exact ⟨rfl, rfl⟩

theorem frozen_stateStep (io : Outcomes) (s : NodeSys P) : s.Frozen (s.stateStep io) := by
  unfold stateStep
  split
  · rcases s.doIdle_cases io with ⟨n, timer, handle, hn, -, h⟩ | ⟨-, h⟩
    · rw [h]
      rcases hn with rfl | rfl
      · exact ⟨rfl, rfl⟩
      · exact ⟨rfl, rfl⟩
    · rw [h]
      exact ⟨rfl, rfl⟩
  · rcases s.doWaitOnConnect_cases with ⟨-, h | h⟩ | ⟨-, h⟩
    · rw [h]
      exact .refl s
    · rw [h]
      exact ⟨rfl, rfl⟩
    · rw [h]
      have hbirth : s.Frozen s.startSubscription.publishNodeBirth :=
        (⟨rfl, rfl⟩ : s.Frozen s.startSubscription).trans (frozen_publishNodeBirth _)
      exact ⟨hbirth.nodeList, hbirth.wait⟩
  · unfold doOnline
    split
    · have hleft := ((frozen_pollDevices s).trans (frozen_publishNodeDeath _)).trans
        (frozen_sendDisconnect io _)
      exact ⟨hleft.nodeList, hleft.wait⟩
    · exact frozen_pollDevices s
  · unfold doWaitOnDisconnect
    split
    · exact ⟨rfl, rfl⟩
    · exact .refl s

theorem frozen_work (io : Outcomes) (s : NodeSys P) : s.Frozen (s.work io) := by
  rcases s.work_cases io with ⟨_, hwork⟩ | ⟨hreceiver, _⟩
  · rw [hwork]
    have hstep := frozen_stateStep io s
    exact ⟨hstep.nodeList, hstep.wait⟩
  · refine ⟨congrArg Receiver.nodeList hreceiver, ?_⟩
    rw [self, hreceiver, self]

/-- Only a message changes what the node knows about hosts. -/
theorem frozen_step {s : NodeSys P} {e : NodeEvent P} (hwait : ∀ wait, e ≠ .waitOnHostOnline wait)
    (he : ∀ topicName body, e = .message topicName body → Mqtt.receives s.handle = false) :
    s.Frozen (s.step e) := by
  cases e with
  | work elapsed io =>
    exact (⟨rfl, rfl⟩ : s.Frozen (s.tick elapsed)).trans (frozen_work io (s.tick elapsed))
  | connectionLost =>
    change s.Frozen s.connectionLost
    unfold connectionLost
    split <;> exact ⟨rfl, rfl⟩
  | callback hasResponse version =>
    change s.Frozen (s.callback hasResponse version)
    unfold callback
    split
    · exact .refl s
    · dsimp only
      split <;> exact ⟨rfl, rfl⟩
  | message topicName body =>
    change s.Frozen (s.message topicName body)
    unfold message
    rw [he topicName body rfl]
    exact .refl s
  | start =>
    change s.Frozen s.start
    unfold start
    split
    · exact .refl s
    · split
      · exact ⟨rfl, rfl⟩
      · rename_i n hn
        have hwaits := congrArg (fun n => n.waitOnHostOnline) (SparkplugNode.start_base hn)
        exact ⟨rfl, hwaits⟩
  | stopReturns =>
    change s.Frozen s.stopReturns
    unfold stopReturns
    split <;> exact ⟨rfl, rfl⟩
  | waitOnHostOnline wait => exact absurd rfl (hwait wait)
  | _ => exact ⟨rfl, rfl⟩

end Frozen

section Handle

/-- What a worker step does to the handle. -/
theorem stateStep_handle (io : Outcomes) (s : NodeSys P) :
    (s.stateStep io).handle = s.handle ∨ (s.stateStep io).handle = none ∨
    (s.stateStep io).handle = some {} ∨
    (s.mayConnect = true ∧ (s.stateStep io).handle = some ({} : MqttHandle).connect) ∨
    (s.isConnected = true ∧ s.nodeState = .waitOnConnect ∧
      (s.stateStep io).handle = s.handle.map MqttHandle.subscribe) ∨
    (s.stateStep io).handle = s.handle.map MqttHandle.disconnect := by
  unfold stateStep
  split
  · rcases s.doIdle_cases io with ⟨n, timer, handle, -, hhandle, h⟩ | ⟨hmay, h⟩
    · rw [h]
      rcases hhandle with rfl | rfl
      · exact .inr (.inl rfl)
      · exact .inr (.inr (.inl rfl))
    · rw [h]
      exact .inr (.inr (.inr (.inl ⟨hmay, rfl⟩)))
  · rename_i hstate
    rcases s.doWaitOnConnect_cases with ⟨-, h | h⟩ | ⟨hconnected, h⟩
    · rw [h]
      exact .inl rfl
    · rw [h]
      exact .inl rfl
    · rw [h]
      exact .inr (.inr (.inr (.inr (.inl ⟨hconnected, hstate, rfl⟩))))
  · unfold doOnline
    split
    · rcases (s.pollDevices.publishNodeDeath).sendDisconnect_cases io with ⟨_, h⟩ | h
      · rw [h]
        exact .inr (.inr (.inr (.inr (.inr rfl))))
      · rw [h]
        exact .inl rfl
    · exact .inl rfl
  · unfold doWaitOnDisconnect
    split
    · exact .inl rfl
    · exact .inl rfl

/-- A property of handles that a worker step keeps. -/
theorem forall_handle_stateStep {Q : MqttHandle → Prop} {io : Outcomes} {s : NodeSys P}
    (h : ∀ g, s.handle = some g → Q g) (hfresh : Q {})
    (hconnect : s.mayConnect = true → Q ({} : MqttHandle).connect)
    (hsubscribe : ∀ g, s.handle = some g → g.link = .up → s.nodeState = .waitOnConnect →
      Q g.subscribe)
    (hdisconnect : ∀ g, Q g → Q g.disconnect) :
    ∀ g, (s.stateStep io).handle = some g → Q g := by
  intro g hg
  rcases s.stateStep_handle io with heq | heq | heq | ⟨hmay, heq⟩ | ⟨hup, hstate, heq⟩ | heq
  · exact h g (heq.symm.trans hg)
  · rw [heq] at hg
    cases hg
  · rw [heq] at hg
    rw [← Option.some.inj hg]
    exact hfresh
  · rw [heq] at hg
    rw [← Option.some.inj hg]
    exact hconnect hmay
  · rw [heq] at hg
    obtain ⟨a, ha, rfl⟩ := Option.map_eq_some_iff.mp hg
    have hlink : a.link = .up := by simpa [isConnected, Mqtt.isConnected, ha] using hup
    exact hsubscribe a ha hlink hstate
  · rw [heq] at hg
    obtain ⟨a, ha, rfl⟩ := Option.map_eq_some_iff.mp hg
    exact hdisconnect a (h a ha)

theorem forall_handle_leaveLoop {Q : MqttHandle → Prop} {io : Outcomes} {s : NodeSys P}
    (h : ∀ g, s.handle = some g → Q g) (hdisconnect : ∀ g, Q g → Q g.disconnect) :
    ∀ g, (s.leaveLoop io).handle = some g → Q g := by
  intro g hg
  unfold leaveLoop at hg
  split at hg
  · dsimp only at hg
    split at hg
    · rcases s.sendDisconnect_cases io with ⟨_, heq⟩ | heq
      · rw [heq] at hg
        obtain ⟨a, ha, rfl⟩ := Option.map_eq_some_iff.mp hg
        exact hdisconnect a (h a ha)
      · rw [heq] at hg
        exact h g hg
    · exact h g hg
  · cases hg

theorem forall_handle_work {Q : MqttHandle → Prop} {io : Outcomes} {s : NodeSys P}
    (h : ∀ g, s.handle = some g → Q g) (hfresh : Q {})
    (hconnect : s.mayConnect = true → Q ({} : MqttHandle).connect)
    (hsubscribe : ∀ g, s.handle = some g → g.link = .up → s.nodeState = .waitOnConnect →
      Q g.subscribe)
    (hdisconnect : ∀ g, Q g → Q g.disconnect) :
    ∀ g, (s.work io).handle = some g → Q g := by
  intro g hg
  cases hphase : s.phase with
  | entry =>
    rw [work_entry io hphase] at hg
    cases hg
  | check =>
    rw [work_check io hphase] at hg
    split at hg
    · exact forall_handle_leaveLoop h hdisconnect g hg
    · exact h g hg
  | body =>
    rw [work_body io hphase] at hg
    exact forall_handle_stateStep h hfresh hconnect hsubscribe hdisconnect g hg
  | draining polls =>
    rw [work_draining io hphase] at hg
    split at hg
    · exact h g hg
    · cases hg
  | exited =>
    rw [work_exited io hphase] at hg
    exact h g hg
  | joined =>
    rw [work_joined io hphase] at hg
    exact h g hg

/-- A property of handles that the library and the worker keep. -/
structure HandleRule (Q : MqttHandle → Prop) : Prop where
  fresh : Q {}
  accept : ∀ g, Q g → g.link = .connecting → Q g.accept
  idle : ∀ (g : MqttHandle) ending callbacks, Q g →
    Q { g with link := .idle, disconnecting := ending, callbacks := callbacks }
  quiet : ∀ (g : MqttHandle) ending callbacks, Q g →
    Q { g with disconnecting := ending, callbacks := callbacks }

theorem HandleRule.link {Q : MqttHandle → Prop} (hQ : HandleRule Q) {g : MqttHandle} (hg : Q g)
    (event : LinkEvent) : ∀ a, Mqtt.link event (some g) = some a → Q a := by
  intro a ha
  rw [← Option.some.inj ha]
  cases event with
  | accepted =>
    dsimp only
    split
    · rename_i hconnecting
      exact hQ.accept g hg hconnecting
    · exact hg
  | refused =>
    dsimp only
    split
    · exact hQ.idle g _ _ hg
    · exact hg
  | closed ok =>
    dsimp only
    split
    · cases ok with
      | true => exact hQ.idle g _ _ hg
      | false => exact hQ.quiet g _ _ hg
    · exact hg

theorem forall_handle_step {Q : MqttHandle → Prop} {s : NodeSys P} {e : NodeEvent P}
    (hQ : HandleRule Q) (h : ∀ g, s.handle = some g → Q g)
    (hconnect : ∀ elapsed, (s.tick elapsed).mayConnect = true → Q ({} : MqttHandle).connect)
    (hsubscribe : ∀ g, s.handle = some g → g.link = .up → s.nodeState = .waitOnConnect →
      Q g.subscribe) :
    ∀ g, (s.step e).handle = some g → Q g := by
  intro g hg
  cases e with
  | work elapsed io =>
    refine @forall_handle_work P Q io (s.tick elapsed) h hQ.fresh (hconnect elapsed) hsubscribe
      ?_ g hg
    intro a ha
    exact hQ.quiet a _ _ ha
  | link event =>
    cases hhandle : s.handle with
    | none =>
      change Mqtt.link event s.handle = some g at hg
      rw [hhandle] at hg
      cases hg
    | some a =>
      change Mqtt.link event s.handle = some g at hg
      rw [hhandle] at hg
      exact hQ.link (h a hhandle) event g hg
  | connectionLost =>
    change s.connectionLost.handle = some g at hg
    unfold connectionLost at hg
    split at hg
    · obtain ⟨a, ha, rfl⟩ := Option.map_eq_some_iff.mp hg
      exact hQ.idle a _ _ (h a ha)
    · exact h g hg
  | callback hasResponse version =>
    have hpopped : ∀ b, Mqtt.popCallback s.handle = some b → Q b := by
      intro b hb
      obtain ⟨a, ha, rfl⟩ := Option.map_eq_some_iff.mp hb
      exact hQ.quiet a _ _ (h a ha)
    change (s.callback hasResponse version).handle = some g at hg
    unfold callback at hg
    split at hg
    · exact h g hg
    · dsimp only at hg
      split at hg <;> exact hpopped g hg
  | message topicName body =>
    change (s.message topicName body).handle = some g at hg
    unfold message at hg
    split at hg <;> exact h g hg
  | start =>
    change s.start.handle = some g at hg
    unfold start at hg
    split at hg
    · exact h g hg
    · split at hg <;> exact h g hg
  | stopReturns =>
    change s.stopReturns.handle = some g at hg
    unfold stopReturns at hg
    split at hg
    · cases hg
    · exact h g hg
  | _ => exact h g hg

end Handle

/-- A connection that is under way has no subscription yet. -/
def Unsubscribed (s : NodeSys P) : Prop :=
  ∀ h, s.handle = some h → h.link = .connecting → h.subscribed = false

theorem unsubscribed_step {s : NodeSys P} (h : s.Unsubscribed) (e : NodeEvent P) :
    (s.step e).Unsubscribed := by
  apply forall_handle_step ?_ h
  · intro _ _ _
    rfl
  · intro g _ hup _ hconnecting
    rw [MqttHandle.subscribe, hup] at hconnecting
    cases hconnecting
  · exact {
      fresh := fun hlink => by cases hlink
      accept := fun g _ _ hlink => by cases hlink
      idle := fun g _ _ _ hlink => by cases hlink
      quiet := fun g _ _ hg => hg }

/-- The worker holds a handle only while it runs, past its first lines, and it waits behind
its loop only when it was asked to stop. -/
structure Placed (s : NodeSys P) : Prop where
  entry : s.phase = .entry → s.handle = none
  rest : s.phase.isRunning = false → s.handle = none
  draining : ∀ polls, s.phase = .draining polls → s.stopNodeTask = true

theorem handle_quiet {s : NodeSys P} {e : NodeEvent P} (he : e.isControl = false)
    (h : s.handle = none) : (s.step e).handle = none := by
  cases e with
  | work elapsed io => cases he
  | start => cases he
  | stop => cases he
  | stopReturns => cases he
  | link event => exact Option.map_eq_none_iff.mpr h
  | connectionLost =>
    change s.connectionLost.handle = none
    unfold connectionLost
    split
    · exact Option.map_eq_none_iff.mpr h
    · exact h
  | callback hasResponse version =>
    change (s.callback hasResponse version).handle = none
    unfold callback
    rw [h]
    exact h
  | message topicName body =>
    change (s.message topicName body).handle = none
    unfold message
    split <;> exact h
  | _ => exact h

theorem placed_work {s : NodeSys P} (h : s.Placed) (io : Outcomes) : (s.work io).Placed := by
  cases hphase : s.phase with
  | entry =>
    rw [work_entry io hphase]
    exact ⟨nofun, nofun, nofun⟩
  | check =>
    rw [work_check io hphase]
    split
    · rename_i hstop
      unfold leaveLoop
      split
      · dsimp only
        refine ⟨nofun, nofun, fun _ _ => ?_⟩
        split
        · rcases s.sendDisconnect_cases io with ⟨_, heq⟩ | heq
          · rw [heq]
            exact hstop
          · rw [heq]
            exact hstop
        · exact hstop
      · exact ⟨nofun, fun _ => rfl, nofun⟩
    · exact ⟨nofun, nofun, nofun⟩
  | body =>
    rw [work_body io hphase]
    exact ⟨nofun, nofun, nofun⟩
  | draining polls =>
    rw [work_draining io hphase]
    split
    · exact ⟨nofun, nofun, fun _ _ => h.draining polls hphase⟩
    · exact ⟨nofun, fun _ => rfl, nofun⟩
  | exited =>
    rw [work_exited io hphase]
    exact h
  | joined =>
    rw [work_joined io hphase]
    exact h

theorem placed_step {s : NodeSys P} (h : s.Placed) (e : NodeEvent P) : (s.step e).Placed := by
  cases hcontrol : e.isControl with
  | false =>
    have hsame := quiet_control (s := s) hcontrol
    refine ⟨fun hp => ?_, fun hp => ?_, fun polls hp => ?_⟩
    · exact handle_quiet hcontrol (h.entry (hsame.phase ▸ hp))
    · exact handle_quiet hcontrol (h.rest (hsame.phase ▸ hp))
    · exact hsame.stopNodeTask.trans (h.draining polls (hsame.phase ▸ hp))
  | true =>
    cases e with
    | work elapsed io =>
      exact @placed_work P (s.tick elapsed) ⟨h.entry, h.rest, h.draining⟩ io
    | start =>
      change s.start.Placed
      unfold start
      split
      · exact h
      · rename_i hrest
        have hnone := h.rest (Bool.not_eq_true _ ▸ hrest)
        split
        · exact ⟨nofun, fun _ => hnone, nofun⟩
        · exact ⟨fun _ => hnone, nofun, nofun⟩
    | stop => exact ⟨h.entry, h.rest, fun _ _ => rfl⟩
    | stopReturns =>
      change s.stopReturns.Placed
      unfold stopReturns
      split
      · exact ⟨nofun, fun _ => rfl, nofun⟩
      · exact h
    | _ => cases hcontrol

theorem mirrors_step {s : NodeSys P} {Q : SparkplugNode P → Prop}
    (hQ : Receiver.MirrorInvariant Q) (h : s.receiver.Mirrors Q) (e : NodeEvent P) :
    (s.step e).receiver.Mirrors Q := by
  cases e with
  | message topicName body =>
    change (s.message topicName body).receiver.Mirrors Q
    unfold message
    split
    · exact h.message hQ topicName s.now body
    · exact h
  | waitOnHostOnline wait => exact h
  | _ =>
    refine Frozen.mirrors (frozen_step ?_ ?_) h
    · intro _ hwait
      cases hwait
    · intro _ _ hmessage
      cases hmessage

/-- What holds in every state of a node. -/
structure Reachable (s : NodeSys P) : Prop where
  owns : ∃ birth death, s.Owns birth death
  placed : s.Placed
  unsubscribed : s.Unsubscribed
  mirrors : s.receiver.Mirrors SparkplugNode.KeepsState

theorem reachable_run (now : UInt64) (setups : List Setup) (es : List (NodeEvent P)) :
    (run step (init now setups) es).Reachable := by
  have hstep : ∀ (s : NodeSys P) (e : NodeEvent P), s.Reachable → (s.step e).Reachable := by
    intro s e h
    obtain ⟨birth, death, howns⟩ := h.owns
    exact ⟨(step_stepped howns e).1, placed_step h.placed e, unsubscribed_step h.unsubscribed e,
      mirrors_step SparkplugNode.keepsState_invariant h.mirrors e⟩
  refine run_preserves hstep es ⟨owns_init now setups, ⟨nofun, fun _ => rfl, nofun⟩, ?_, ?_⟩
  · intro h hh
    cases hh
  · intro n hn
    cases hn

section Trapped

/-- The node has no connection and no use for one, and it knows of no host. -/
structure Trapped (s : NodeSys P) : Prop where
  waits : s.self.waitOnHostOnline = true
  noHost : s.receiver.isHostOnline = false
  notOnline : s.nodeState ≠ .online
  deaf : ∀ h, s.handle = some h → h.subscribed = true → h.link = .idle
  down : s.nodeState = .waitOnConnect → Mqtt.isDown s.handle

theorem Trapped.mayConnect {s : NodeSys P} (h : s.Trapped) (elapsed : Nat) :
    (s.tick elapsed).mayConnect = false := by
  have hgate : (s.self.waitOnHostOnline && !s.receiver.isHostOnline) = true := by
    rw [h.waits, h.noHost]
    rfl
  unfold NodeSys.mayConnect
  rw [tick_self, tick_receiver, hgate]
  exact Bool.and_false _

theorem Trapped.receives {s : NodeSys P} (h : s.Trapped) : Mqtt.receives s.handle = false := by
  cases hhandle : s.handle with
  | none => rfl
  | some g =>
    cases hsubscribed : g.subscribed with
    | false => simp [Mqtt.receives, hsubscribed]
    | true => simp [Mqtt.receives, h.deaf g hhandle hsubscribed]

/-- Where a worker step leads. -/
theorem stateStep_nodeState (io : Outcomes) (s : NodeSys P) :
    (s.stateStep io).nodeState = s.nodeState ∨ (s.stateStep io).nodeState = .idle ∨
    (s.stateStep io).nodeState = .waitOnDisconnect ∨
    (s.nodeState = .idle ∧ s.mayConnect = true) ∨
    (s.nodeState = .waitOnConnect ∧ s.isConnected = true) := by
  unfold stateStep
  split
  · rename_i hstate
    rcases s.doIdle_cases io with ⟨n, timer, handle, -, -, h⟩ | ⟨hmay, -⟩
    · rw [h]
      exact .inl rfl
    · exact .inr (.inr (.inr (.inl ⟨hstate, hmay⟩)))
  · rename_i hstate
    rcases s.doWaitOnConnect_cases with ⟨-, h | h⟩ | ⟨hconnected, -⟩
    · rw [h]
      exact .inl rfl
    · rw [h]
      exact .inr (.inl rfl)
    · exact .inr (.inr (.inr (.inr ⟨hstate, hconnected⟩)))
  · unfold doOnline
    split
    · exact .inr (.inr (.inl rfl))
    · exact .inl rfl
  · unfold doWaitOnDisconnect
    split
    · exact .inr (.inl rfl)
    · exact .inl rfl

theorem Trapped.work_nodeState {s : NodeSys P} (h : s.Trapped) (elapsed : Nat)
    (io : Outcomes) : ((s.tick elapsed).work io).nodeState = s.nodeState ∨
      ((s.tick elapsed).work io).nodeState = .idle ∨
      ((s.tick elapsed).work io).nodeState = .waitOnDisconnect := by
  cases hphase : s.phase with
  | entry =>
    rw [work_entry (s := s.tick elapsed) io hphase]
    exact .inr (.inl rfl)
  | check =>
    rw [work_check (s := s.tick elapsed) io hphase]
    split
    · exact .inl (leaveLoop_nodeState io (s.tick elapsed))
    · exact .inl rfl
  | body =>
    rw [work_body (s := s.tick elapsed) io hphase]
    rcases (s.tick elapsed).stateStep_nodeState io with hs | hs | hs | ⟨_, hmay⟩ | ⟨hs, hup⟩
    · exact .inl hs
    · exact .inr (.inl hs)
    · exact .inr (.inr hs)
    · rw [h.mayConnect elapsed] at hmay
      cases hmay
    · have hdown : (s.tick elapsed).isConnected = false :=
        Mqtt.isConnected_of_isDown (h.down hs)
      rw [hdown] at hup
      cases hup
  | draining polls =>
    rw [work_draining (s := s.tick elapsed) io hphase]
    split <;> exact .inl rfl
  | exited =>
    rw [work_exited (s := s.tick elapsed) io hphase]
    exact .inl rfl
  | joined =>
    rw [work_joined (s := s.tick elapsed) io hphase]
    exact .inl rfl

theorem Trapped.step_nodeState {s : NodeSys P} (h : s.Trapped) (e : NodeEvent P) :
    (s.step e).nodeState = s.nodeState ∨ (s.step e).nodeState = .idle ∨
      (s.step e).nodeState = .waitOnDisconnect := by
  cases hcontrol : e.isControl with
  | false => exact .inl (quiet_control hcontrol).nodeState
  | true =>
    cases e with
    | work elapsed io => exact h.work_nodeState elapsed io
    | start =>
      refine .inl ?_
      change s.start.nodeState = s.nodeState
      unfold start
      split
      · rfl
      · split <;> rfl
    | stop => exact .inl rfl
    | stopReturns =>
      refine .inl ?_
      change s.stopReturns.nodeState = s.nodeState
      unfold stopReturns
      split <;> rfl
    | _ => cases hcontrol

/-- No event leads out of the trap but the end of the wait itself. -/
theorem trapped_step {s : NodeSys P} (h : s.Trapped) {e : NodeEvent P}
    (he : ∀ wait, e ≠ .waitOnHostOnline wait) : (s.step e).Trapped := by
  have hfrozen : s.Frozen (s.step e) := frozen_step he fun _ _ _ => h.receives
  have hconnect : ∀ elapsed, ¬ (s.tick elapsed).mayConnect = true := by
    intro elapsed
    simp [h.mayConnect elapsed]
  have hup : ∀ g, s.handle = some g → s.nodeState = .waitOnConnect → g.link ≠ .up := by
    intro g hg hstate hlink
    rw [h.down hstate g hg] at hlink
    cases hlink
  have hnext := h.step_nodeState e
  refine ⟨hfrozen.wait.trans h.waits, hfrozen.isHostOnline.trans h.noHost, ?_, ?_, ?_⟩
  · rcases hnext with hs | hs | hs
    · rw [hs]
      exact h.notOnline
    · simp [hs]
    · simp [hs]
  · apply forall_handle_step ?_ h.deaf
    · exact fun elapsed hmay => absurd hmay (hconnect elapsed)
    · exact fun g hg hlink hstate => absurd hlink (hup g hg hstate)
    · refine ⟨nofun, ?_, fun _ _ _ _ _ => rfl, fun _ _ _ hg => hg⟩
      intro g hg hconnecting hsubscribed
      rw [hg hsubscribed] at hconnecting
      cases hconnecting
  · intro hstate
    have hwas : s.nodeState = .waitOnConnect := by
      rcases hnext with hs | hs | hs
      · exact hs.symm.trans hstate
      · rw [hs] at hstate
        cases hstate
      · rw [hs] at hstate
        cases hstate
    apply forall_handle_step ?_ (h.down hwas)
    · exact fun elapsed hmay => absurd hmay (hconnect elapsed)
    · exact fun g hg hlink _ => absurd hlink (hup g hg hwas)
    · refine ⟨rfl, ?_, fun _ _ _ _ => rfl, fun _ _ _ hg => hg⟩
      intro g hg hconnecting
      rw [hg] at hconnecting
      cases hconnecting

/-- No run leads out of the trap. -/
theorem trapped_run {s : NodeSys P} (h : s.Trapped) {es : List (NodeEvent P)}
    (hes : ∀ e ∈ es, ∀ wait, e ≠ .waitOnHostOnline wait) : (run step s es).Trapped := by
  induction es generalizing s with
  | nil => exact h
  | cons e es ih =>
    have hstep := trapped_step h (hes e List.mem_cons_self)
    exact ih hstep fun d hd => hes d (List.mem_cons_of_mem e hd)

theorem Trapped.not_reaches {s : NodeSys P} (h : s.Trapped) (st : OnlineState P) :
    ¬ Reaches st s := by
  rintro ⟨es, hes, honline⟩
  refine (trapped_run h fun e he wait hwait => ?_).notOnline honline
  have hallowed := hes e he
  rw [hwait] at hallowed
  exact hallowed

/-- A waiting node that cannot wake is trapped. -/
theorem Reachable.trapped {s : NodeSys P} (h : s.Reachable)
    (hwait : s.self.waitOnHostOnline = true) (hnot : ¬ s.CanWake) : s.Trapped := by
  simp only [CanWake, not_or, Bool.not_eq_true] at hnot
  obtain ⟨honline, hhost, hconnect, hreceives⟩ := hnot
  refine ⟨hwait, hhost, honline, ?_, ?_⟩
  · intro g hg hsubscribed
    cases hlink : g.link with
    | idle => rfl
    | connecting =>
      rw [h.unsubscribed g hg hlink] at hsubscribed
      cases hsubscribed
    | up => simp [Mqtt.receives, hg, hlink, hsubscribed] at hreceives
  · intro hstate g hg
    by_contra hlink
    exact hconnect ⟨hstate, g, hg, hlink⟩

end Trapped

section Wakes
variable {st : OnlineState P}

theorem Reaches.of_online {s : NodeSys P} (h : s.nodeState = .online) : Reaches st s := by
  refine ⟨[], ?_, h⟩
  intro e he
  cases he

theorem Reaches.step {s : NodeSys P} (e : NodeEvent P) (he : st.Allows e)
    (h : Reaches st (s.step e)) : Reaches st s := by
  obtain ⟨es, hes, honline⟩ := h
  refine ⟨e :: es, ?_, honline⟩
  intro d hd
  rcases List.mem_cons.mp hd with rfl | hd
  · exact he
  · exact hes d hd

/-- In the loop the worker comes to its state function. -/
theorem Reaches.of_body {s : NodeSys P} (hloop : s.phase.inLoop = true)
    (hstop : s.stopNodeTask = false) (h : Reaches st { s with phase := .body }) :
    Reaches st s := by
  cases hphase : s.phase with
  | check =>
    have hwork : (s.tick 0).work {} = { s with phase := .body } := by
      rw [work_check (s := s.tick 0) {} hphase, if_neg (by simp [hstop])]
      rfl
    apply Reaches.step (.work 0 {}) trivial
    change Reaches st ((s.tick 0).work {})
    rw [hwork]
    exact h
  | body =>
    have hsame : { s with phase := .body } = s := by
      rw [← hphase]
    rw [← hsame]
    exact h
  | _ => simp [hphase, Phase.inLoop] at hloop

/-- What a wake needs of the node besides its state. -/
structure Ready (s : NodeSys P) : Prop where
  notStopped : s.stopNodeTask = false
  inService : s.self.inService = true
  hostOnline : s.receiver.isHostOnline = true
  death : ∃ t, s.self.topicList.getTopicByMessageType (str "NDEATH") = some t

theorem reaches_of_up {s : NodeSys P} (hphase : s.phase = .body)
    (hstate : s.nodeState = .waitOnConnect) (hup : s.isConnected = true) : Reaches st s := by
  apply Reaches.step (.work 0 {}) trivial
  apply Reaches.of_online
  change ((s.tick 0).work {}).nodeState = .online
  rw [work_body (s := s.tick 0) {} hphase]
  change ((s.tick 0).stateStep {}).nodeState = .online
  unfold stateStep
  rw [tick_nodeState, hstate]
  dsimp only
  rcases (s.tick 0).doWaitOnConnect_cases with ⟨hdown, -⟩ | ⟨-, h⟩
  · have hsame : (s.tick 0).isConnected = s.isConnected := rfl
    rw [hsame, hup] at hdown
    cases hdown
  · rw [h]
    rfl

theorem reaches_of_connecting {s : NodeSys P} {h : MqttHandle} (hphase : s.phase = .body)
    (hstate : s.nodeState = .waitOnConnect) (hhandle : s.handle = some h)
    (hlink : h.link = .connecting) : Reaches st s := by
  apply Reaches.step (.link .accepted) trivial
  refine reaches_of_up hphase hstate ?_
  change Mqtt.isConnected (Mqtt.link .accepted s.handle) = true
  simp [hhandle, Mqtt.link, hlink, Mqtt.isConnected, MqttHandle.accept]

theorem reaches_of_link {s : NodeSys P} {h : MqttHandle} (hloop : s.phase.inLoop = true)
    (hstop : s.stopNodeTask = false) (hstate : s.nodeState = .waitOnConnect)
    (hhandle : s.handle = some h) (hlink : h.link ≠ .idle) : Reaches st s := by
  apply Reaches.of_body hloop hstop
  cases hl : h.link with
  | idle => exact absurd hl hlink
  | connecting => exact reaches_of_connecting rfl hstate hhandle hl
  | up =>
    refine reaches_of_up rfl hstate ?_
    change Mqtt.isConnected s.handle = true
    simp [hhandle, Mqtt.isConnected, hl]

/-- An idle node that nothing holds back connects. -/
theorem doIdle_connects {s : NodeSys P} {t : Topic P} (hmay : s.mayConnect = true)
    (hdeath : s.self.topicList.getTopicByMessageType (str "NDEATH") = some t) :
    s.doIdle {} =
      { s.withSelf (s.self.generateWill s.now) with
        nodeTimer := s.clock + 5000
        handle := some ({} : MqttHandle).connect
        nodeState := .waitOnConnect } := by
  simp only [mayConnect, Bool.and_eq_true, Bool.not_eq_true'] at hmay
  obtain ⟨⟨htimeout, hservice⟩, hgate⟩ := hmay
  have hdeath' : TopicList.getTopicByMessageType (str "NDEATH")
      ({ s with handle := some {} } : NodeSys P).self.topicList = some t := hdeath
  unfold doIdle sendConnect
  dsimp only
  rw [htimeout]
  change (if !true then _ else if !s.self.inService then _
    else if s.self.waitOnHostOnline && !s.receiver.isHostOnline then _ else _) = _
  rw [hservice, hgate]
  simp only [Bool.not_true, Bool.false_eq_true, if_false]
  rw [hdeath']
  rfl

theorem Ready.reaches_of_idle {s : NodeSys P} (h : s.Ready) (hloop : s.phase.inLoop = true)
    (hstate : s.nodeState = .idle) : Reaches st s := by
  apply Reaches.of_body hloop h.notStopped
  let body : NodeSys P := { s with phase := .body }
  let late := body.tick s.nodeTimer
  obtain ⟨t, ht⟩ := h.death
  have hmay : late.mayConnect = true := by
    have htimeout : late.timeout = true := decide_eq_true (Nat.le_add_left _ _)
    have hservice : late.self.inService = true := h.inService
    have hhost : late.receiver.isHostOnline = true := h.hostOnline
    simp [mayConnect, htimeout, hservice, hhost]
  apply Reaches.step (.work s.nodeTimer {}) trivial
  change Reaches st (late.work {})
  have hidle : late.stateStep {} = late.doIdle {} := by
    unfold stateStep
    rw [show late.nodeState = .idle from hstate]
  rw [work_body {} rfl, hidle, doIdle_connects hmay ht]
  exact reaches_of_link rfl h.notStopped rfl rfl nofun

/-- A wait of the worker ends in the idle state. -/
theorem Ready.reaches_of_wait {s : NodeSys P} (h : s.Ready) (hloop : s.phase.inLoop = true)
    (hwait : ∀ late : NodeSys P, late.nodeState = s.nodeState → late.handle = s.handle →
      late.timeout = true →
        late.stateStep {} = { late with nodeTimer := late.clock + 10000, nodeState := .idle }) :
    Reaches st s := by
  apply Reaches.of_body hloop h.notStopped
  let body : NodeSys P := { s with phase := .body }
  let late := body.tick s.nodeTimer
  have htimeout : late.timeout = true := decide_eq_true (Nat.le_add_left _ _)
  apply Reaches.step (.work s.nodeTimer {}) trivial
  change Reaches st (late.work {})
  rw [work_body {} rfl, hwait late rfl rfl htimeout]
  exact Ready.reaches_of_idle ⟨h.notStopped, h.inService, h.hostOnline, h.death⟩ rfl rfl

theorem Ready.reaches_of_inLoop {s : NodeSys P} (h : s.Ready) (hloop : s.phase.inLoop = true) :
    Reaches st s := by
  cases hstate : s.nodeState with
  | idle => exact h.reaches_of_idle hloop hstate
  | waitOnConnect =>
    by_cases hdown : Mqtt.isDown s.handle
    · apply h.reaches_of_wait hloop
      intro late hlate hhandle htimeout
      have hnot : late.isConnected = false :=
        Mqtt.isConnected_of_isDown (hhandle ▸ hdown)
      unfold stateStep
      rw [hlate, hstate]
      simp [doWaitOnConnect, htimeout, hnot]
    · unfold Mqtt.isDown at hdown
      push Not at hdown
      obtain ⟨g, hg, hlink⟩ := hdown
      exact reaches_of_link hloop h.notStopped hstate hg hlink
  | online => exact Reaches.of_online hstate
  | waitOnDisconnect =>
    apply h.reaches_of_wait hloop
    intro late hlate _ htimeout
    unfold stateStep
    rw [hlate, hstate]
    simp [doWaitOnDisconnect, htimeout]

theorem inLoop_of_running {s : NodeSys P} (h : s.Placed) (hstarted : s.Started)
    (hentry : s.phase ≠ .entry) : s.phase.inLoop = true := by
  cases hphase : s.phase with
  | entry => exact absurd hphase hentry
  | check => rfl
  | body => rfl
  | draining polls =>
    have hstop := h.draining polls hphase
    rw [hstarted.notStopped] at hstop
    cases hstop
  | exited => simpa [hphase, Phase.isRunning] using hstarted.running
  | joined => simpa [hphase, Phase.isRunning] using hstarted.running

/-- A node that knows of an online host gets online. -/
theorem Reachable.reaches_of_host {s : NodeSys P} (h : s.Reachable) (hstarted : s.Started)
    (hhost : s.receiver.isHostOnline = true) : Reaches st s := by
  obtain ⟨birth, death, howns⟩ := h.owns
  have hready : s.Ready :=
    ⟨hstarted.notStopped, hstarted.inService, hhost, death, howns.self.findDeath⟩
  by_cases hentry : s.phase = .entry
  · apply Reaches.step (.work 0 {}) trivial
    change Reaches st ((s.tick 0).work {})
    rw [work_entry (s := s.tick 0) {} hentry]
    exact Ready.reaches_of_inLoop
      ⟨hready.notStopped, hready.inService, hready.hostOnline, hready.death⟩ rfl
  · exact hready.reaches_of_inLoop (inLoop_of_running h.placed hstarted hentry)

/-- A node that can wake gets online. -/
theorem Reachable.reaches {s : NodeSys P} (h : s.Reachable) (hstarted : s.Started)
    (hwake : s.CanWake) : Reaches st s := by
  rcases hwake with honline | hhost | ⟨hstate, g, hg, hlink⟩ | hreceives
  · exact .of_online honline
  · exact h.reaches_of_host hstarted hhost
  · have hentry : s.phase ≠ .entry := by
      intro hphase
      rw [h.placed.entry hphase] at hg
      cases hg
    exact reaches_of_link (inLoop_of_running h.placed hstarted hentry) hstarted.notStopped
      hstate hg hlink
  · obtain ⟨birth, death, howns⟩ := h.owns
    let e : NodeEvent P := .message st.topicName st.body
    apply Reaches.step e ⟨rfl, rfl⟩
    have hreceived : s.step e = { s with
        receiver := s.receiver.message st.topicName s.now st.body } := by
      change s.message st.topicName st.body = _
      unfold message
      rw [hreceives]
      rfl
    have hnext : (s.step e).Reachable :=
      ⟨(step_stepped howns e).1, placed_step h.placed e, unsubscribed_step h.unsubscribed e,
        mirrors_step SparkplugNode.keepsState_invariant h.mirrors e⟩
    have hself := Receiver.self_stateMessage howns.self.isHost st s.now
    rw [hreceived] at hnext ⊢
    refine hnext.reaches_of_host ⟨hstarted.running, hstarted.notStopped, ?_⟩
      (Receiver.isHostOnline_message howns.self.isHost h.mirrors st s.now)
    change (s.receiver.message st.topicName s.now st.body).self.inService = true
    rw [hself]
    exact hstarted.inService

end Wakes

/-- A started node that waits for a host gets online again exactly from the states in which
it can wake. -/
theorem wait_ends_iff {now : UInt64} {setups : List Setup} {es : List (NodeEvent P)}
    (st : OnlineState P) (hstarted : (run step (init now setups) es).Started)
    (hwait : (run step (init now setups) es).self.waitOnHostOnline = true) :
    Reaches st (run step (init now setups) es) ↔ (run step (init now setups) es).CanWake := by
  have hreachable := reachable_run (P := P) now setups es
  generalize run step (init now setups) es = s at hstarted hwait hreachable
  constructor
  · intro hreaches
    by_contra hnot
    exact (hreachable.trapped hwait hnot).not_reaches st hreaches
  · exact hreachable.reaches hstarted

section Waiting

/-- The message of the host H. -/
def hostMessage (online : Bool) : BodyList := FlatJson.write [(str "online", .bool online)]

def retainedState : OnlineState Platform.reference where
  topicName := str "spBv1.0/STATE/H"
  body := hostMessage true
  isState := by decide +kernel
  named := by decide +kernel
  nonempty := by decide +kernel
  before := []
  after := []
  parsed := FlatJson.read_write [(str "online", .bool true)]
  single := nofun

def patientSetups : List Setup := [.group (str "G"), .name (str "N"), .waitOnHostOnline true]

def eagerSetups : List Setup := [.group (str "G"), .name (str "N")]

def firstStart : List (NodeEvent Platform.reference) := [.start]

/-- A node that does not wait gets online, and hears of the host. -/
def hearsOfHost : List (NodeEvent Platform.reference) :=
  [.start, .work 0 {}, .work 0 {}, .work 0 {}, .link .accepted, .work 0 {}, .work 0 {},
    .message (str "spBv1.0/STATE/H") (hostMessage true), .waitOnHostOnline true]

/-- The host leaves, and the node disconnects. -/
def hostLeaves : List (NodeEvent Platform.reference) :=
  [.message (str "spBv1.0/STATE/H") (hostMessage false), .work 0 {}, .work 0 {},
    .link (.closed true), .work 5000 {}, .work 0 {}]

/-- The node loses its connection, stops and starts again. -/
def nodeRestarts : List (NodeEvent Platform.reference) :=
  [.connectionLost, .stop, .work 0 {}, .stopReturns, .start, .work 0 {}]

theorem trapped_without_link {s : NodeSys P} (hwait : s.self.waitOnHostOnline = true)
    (hhost : s.receiver.isHostOnline = false) (hstate : s.nodeState = .idle)
    (hlink : s.link = none ∨ s.link = some .idle) : s.Trapped := by
  have hdown : Mqtt.isDown s.handle := by
    intro h hh
    simpa [link, hh] using hlink
  exact ⟨hwait, hhost, by simp [hstate], fun h hh _ => hdown h hh, fun _ => hdown⟩

/-- A node that waits from its first start on, and one whose host left, while the host is
online again. -/
theorem waiting_nodes_are_trapped :
    ((run step (init 0 patientSetups) firstStart).Started ∧
      (run step (init 0 patientSetups) firstStart).self.waitOnHostOnline = true ∧
      ¬ Reaches retainedState (run step (init 0 patientSetups) firstStart)) ∧
    ((run step (init 0 eagerSetups) (hearsOfHost ++ hostLeaves)).Started ∧
      (run step (init 0 eagerSetups) (hearsOfHost ++ hostLeaves)).self.waitOnHostOnline = true ∧
      ¬ Reaches retainedState (run step (init 0 eagerSetups) (hearsOfHost ++ hostLeaves))) := by
  refine ⟨⟨⟨?_, ?_, ?_⟩, ?_, Trapped.not_reaches (trapped_without_link ?_ ?_ ?_ ?_) _⟩,
    ⟨⟨?_, ?_, ?_⟩, ?_, Trapped.not_reaches (trapped_without_link ?_ ?_ ?_ ?_) _⟩⟩
  all_goals decide +kernel

/-- A node that restarts still knows that its host is online. -/
theorem restarted_node_gets_online :
    Reaches retainedState (run step (init 0 eagerSetups) (hearsOfHost ++ nodeRestarts)) := by
  have hhost : (run step (init 0 eagerSetups)
      (hearsOfHost ++ nodeRestarts)).receiver.isHostOnline = true := by
    decide +kernel
  have hiff := @wait_ends_iff Platform.reference 0 eagerSetups (hearsOfHost ++ nodeRestarts)
    retainedState ⟨by decide +kernel, by decide +kernel, by decide +kernel⟩ (by decide +kernel)
  exact hiff.mpr (.inr (.inl hhost))

end Waiting

end NodeSys
end PubSub
