import PubSub.NodeTopics

/-!
# What a node does within a session

`SessionView` is all of a node that its session depends on, and `Move` lists what an
event can do to it. Every step of the worker model is such a move.
-/

namespace PubSub
set_option autoImplicit false

abbrev Fleet := List (Str × DeviceStatus)

namespace Fleet

def poll (parent : ParentView) (fleet : Fleet) : Fleet :=
  fleet.map fun e => (e.1, e.2.poll parent)

def pollMessages (parent : ParentView) (fleet : Fleet) : List MessageKind :=
  fleet.flatMap fun e => e.2.pollMessages e.1 parent

end Fleet

/-- The log of a session holds the kinds of the messages, and `none` for a disconnect. -/
structure SessionView where
  nodeState : NodeState
  link : Option Link
  fleet : Fleet
  log : List (Option MessageKind)

namespace SparkplugNode
variable {P : Platform}

def fleet (n : SparkplugNode P) : Fleet := n.deviceList.entries.map fun e => (e.1, e.2.status)

end SparkplugNode

namespace NodeSys
variable {P : Platform}

def link (s : NodeSys P) : Option Link := s.handle.map MqttHandle.link

def log (s : NodeSys P) : List (Option MessageKind) := s.session.map Action.kind?

def view (s : NodeSys P) : SessionView where
  nodeState := s.nodeState
  link := s.link
  fleet := s.self.fleet
  log := s.log

theorem isConnected_iff (s : NodeSys P) : s.isConnected = true ↔ s.link = some .up := by
  unfold isConnected link Mqtt.isConnected
  cases s.handle with
  | none => simp
  | some h => simp

theorem handle_of_isConnected {s : NodeSys P} (h : s.isConnected = true) :
    s.handle.isSome = true := by
  cases hhandle : s.handle with
  | none => simp [isConnected, Mqtt.isConnected, hhandle] at h
  | some handle => rfl

theorem handle_of_receives {s : NodeSys P} (h : Mqtt.receives s.handle = true) :
    s.handle.isSome = true := by
  cases hhandle : s.handle with
  | none => simp [Mqtt.receives, hhandle] at h
  | some handle => rfl

/-- How the devices see the node while it is online. -/
def onlineView (s : NodeSys P) : ParentView := s.self.parentView true s.isConnected

/-- The messages of a poll reach the broker only over a connection. -/
def sentMessages (s : NodeSys P) : List (Option MessageKind) :=
  if s.isConnected then (s.self.fleet.pollMessages s.onlineView).map some else []

/-- A node that is Online does not wait for the broker. -/
theorem not_connecting {v : SessionView}
    (h : v.link = some .connecting → v.nodeState = .waitOnConnect ∨ v.nodeState = .idle)
    (hstate : v.nodeState = .online) : v.link ≠ some .connecting := by
  intro hlink
  rw [hstate] at h
  rcases h hlink with hwait | hidle
  · cases hwait
  · cases hidle

/-- What an event can do to the session. -/
inductive Move (s : NodeSys P) : NodeEvent P → SessionView → Prop
  | stay {e link} : link = s.link ∨ link = none ∨ link = some .idle →
      Move s e { s.view with link := link }
  | service (device : Str) (on : Bool) :
      Move s (.deviceInService device on) { s.view with
        fleet := Entries.updateFirst (Entries.sameKey P.foldKey device)
          (fun d => { d with inService := on }) s.self.fleet }
  | accept : s.link = some .connecting →
      Move s (.link .accepted) { s.view with link := some .up, log := [] }
  | idle {elapsed io link} : link = s.link ∨ link = none →
      Move s (.work elapsed io) { s.view with nodeState := .idle, link := link }
  | connect {elapsed io} : s.phase = .body → s.nodeState = .idle →
      Move s (.work elapsed io) { s.view with
        nodeState := .waitOnConnect
        link := some .connecting }
  | birth {elapsed io} : s.phase = .body → s.nodeState = .waitOnConnect →
      s.isConnected = true →
      Move s (.work elapsed io) { s.view with
        nodeState := .online
        fleet := s.self.fleet.poll s.onlineView
        log := s.log ++ some .nodeBirth :: s.sentMessages }
  | poll {elapsed io} : s.phase = .body → s.nodeState = .online → s.leaves = false →
      Move s (.work elapsed io) { s.view with
        fleet := s.self.fleet.poll s.onlineView
        log := s.log ++ s.sentMessages }
  | leave {elapsed io rest} : s.phase = .body → s.nodeState = .online → s.leaves = true →
      rest = [] ∨ s.isConnected = true ∧ rest = [none] →
      Move s (.work elapsed io) { s.view with
        nodeState := .waitOnDisconnect
        fleet := s.self.fleet.poll s.onlineView
        log := s.log ++ s.sentMessages ++
          (if s.isConnected then [some .nodeDeath] else []) ++ rest }
  | exit {elapsed io} : s.phase = .check → s.stopNodeTask = true → s.isConnected = true →
      s.nodeState ≠ .idle → s.nodeState ≠ .waitOnDisconnect →
      Move s (.work elapsed io) { s.view with log := s.log ++ [none] }
  | deviceStart (device : Str) :
      Move s (.deviceStart device) { s.view with
        fleet := Entries.updateFirst (Entries.sameKey P.foldKey device)
          (fun d => { d with deviceState := .idle }) s.self.fleet }
  | deviceStop (device : Str) :
      Move s (.deviceStop device) { s.view with
        log := s.log ++
          if s.nodeState = .online ∧ s.isConnected = true then
            (s.self.fleet.filter fun e =>
              decide (P.foldKey e.1 = P.foldKey device) && decide (e.2.deviceState = .online)).map
                fun e => some (.deviceDeath e.1)
          else [] }

/-- The topics of the node, published and numbered since the start, and the births of the
session, which were generated from numbered payloads. -/
structure Owns (s : NodeSys P) (birth death : Topic P) : Prop where
  self : s.self.Owns birth death
  started : s.phase.isRunning = true ∨ s.handle.isSome = true →
    birth.publish = true ∧ birth.payload.HasAlias
  births : ∀ p, Action.publish p ∈ s.session → p.kind = .nodeBirth →
    ∃ q : Payload P, p.topic.payload = q.generateProtobuf ∧ q.HasAlias

/-- A node that receives was started, so its NBIRTH topic publishes. -/
theorem Owns.takesNoDevices {s : NodeSys P} {birth death : Topic P} (h : s.Owns birth death)
    (hreceives : Mqtt.receives s.handle = true) : Receiver.TakesNoDevices s.receiver.self := by
  refine .inr ?_
  have hfind := h.self.findBirth
  rw [NodeSys.self] at hfind
  rw [hfind]
  exact (h.started (.inr (handle_of_receives hreceives))).1

theorem Owns.of_same {s t : NodeSys P} {birth death last : Topic P} (h : s.Owns birth death)
    (hself : t.self.Owns birth last)
    (hstarted : t.phase.isRunning = true ∨ t.handle.isSome = true →
      s.phase.isRunning = true ∨ s.handle.isSome = true)
    (hsession : ∀ p, Action.publish p ∈ t.session → p.kind = .nodeBirth →
      Action.publish p ∈ s.session) : t.Owns birth last :=
  ⟨hself, fun ht => h.started (hstarted ht), fun p hp hk => h.births p (hsession p hp hk) hk⟩

/-- A change of anything but the topics, the devices and the log. -/
theorem Owns.frame {s t : NodeSys P} {birth death : Topic P} (h : s.Owns birth death)
    (hself : t.self = s.self) (hsession : t.session = s.session)
    (hstarted : t.phase.isRunning = true ∨ t.handle.isSome = true →
      s.phase.isRunning = true ∨ s.handle.isSome = true) : t.Owns birth death := by
  refine h.of_same ?_ hstarted ?_
  · rw [hself]
    exact h.self
  · intro p hp _
    rwa [hsession] at hp

/-- A poll sends births and deaths of devices. -/
theorem kind_of_polled {parent : ParentView} {fleet : Fleet} {kind : MessageKind}
    (h : kind ∈ fleet.pollMessages parent) :
    ∃ device, kind = .deviceBirth device ∨ kind = .deviceDeath device := by
  obtain ⟨e, _, he⟩ := List.mem_flatMap.mp h
  unfold DeviceStatus.pollMessages at he
  split at he
  · split at he
    · exact ⟨e.1, .inr (List.mem_singleton.mp he)⟩
    · cases he
  · split at he
    · exact ⟨e.1, .inl (List.mem_singleton.mp he)⟩
    · cases he
  · cases he

theorem nodeBirth_not_polled (parent : ParentView) (fleet : Fleet) :
    MessageKind.nodeBirth ∉ fleet.pollMessages parent := by
  intro hmem
  obtain ⟨device, h | h⟩ := kind_of_polled hmem
  · cases h
  · cases h

theorem log_append (s : NodeSys P) (ps : List (Publication P)) :
    (s.session ++ ps.map Action.publish).map Action.kind? =
      s.log ++ (ps.map Publication.kind).map some := by
  rw [List.map_append, List.map_map, List.map_map]
  rfl

/-- The devices of a node after a poll. -/
theorem node_pollDevices {n : SparkplugNode P} {birth death : Topic P} (h : n.Owns birth death)
    (isOnline connected : Bool) (now : UInt64) :
    (n.pollDevices isOnline connected now).1.Owns birth death ∧
    (n.pollDevices isOnline connected now).1.fleet =
      n.fleet.poll (n.parentView isOnline connected) ∧
    (n.pollDevices isOnline connected now).2.map Publication.kind =
      if connected then n.fleet.pollMessages (n.parentView isOnline connected) else [] := by
  let view := n.parentView isOnline connected
  have hpoll : ∀ (o : Outbox P) (key : Str) (d : SparkplugDevice P), d.HasTopics →
      (d.poll key view now o).1.HasTopics ∧
        (d.poll key view now o).1.status = d.status.poll view ∧
        (d.poll key view now o).2.kinds =
          o.kinds ++ if connected then d.status.pollMessages key view else [] := by
    intro o key d hd
    have hspec := SparkplugDevice.poll_spec hd key view now o
    exact ⟨hspec.hasTopics, hspec.status, hspec.kinds⟩
  obtain ⟨htopics, hstatus, hkinds⟩ := @SparkplugDevice.mapAccum_outbox P
    (fun o key d => ((d.poll key view now o).2, (d.poll key view now o).1))
    (fun _ d => d.poll view)
    (fun key d => if connected then d.pollMessages key view else [])
    hpoll _ h.devices { sequenceNumber := n.sequenceNumber }
  refine ⟨h.withDevices rfl rfl htopics, hstatus, ?_⟩
  refine hkinds.trans ?_
  cases connected with
  | true => rfl
  | false => simp [Outbox.kinds]

theorem pollDevices_spec {s : NodeSys P} {birth death : Topic P} (h : s.Owns birth death)
    (hstate : s.nodeState = .online) : s.pollDevices.Owns birth death ∧
      s.pollDevices.self.fleet = s.self.fleet.poll s.onlineView ∧
      s.pollDevices.log = s.log ++ s.sentMessages := by
  obtain ⟨howns, hfleet, hkinds⟩ := node_pollDevices h.self s.isOnline s.isConnected s.now
  have honline : s.isOnline = true := by simp [isOnline, hstate]
  rw [honline] at hfleet hkinds howns
  have hlog : s.pollDevices.log = s.log ++ s.sentMessages := by
    unfold log pollDevices
    rw [honline, published_session, log_append, hkinds, sentMessages]
    unfold onlineView
    split <;> rfl
  have hself : s.pollDevices.self = (s.self.pollDevices true s.isConnected s.now).1 := by
    unfold pollDevices
    rw [honline, published_self]
  refine ⟨h.of_same ?_ (fun hs => hs) ?_, ?_, hlog⟩
  · rw [hself]
    exact howns
  · intro p hp hk
    unfold pollDevices at hp
    rw [honline, published_session] at hp
    rcases List.mem_append.mp hp with hp | hp
    · exact hp
    · obtain ⟨q, hq, heq⟩ := List.mem_map.mp hp
      cases heq
      have hmem : MessageKind.nodeBirth ∈
          (s.self.pollDevices true s.isConnected s.now).2.map Publication.kind :=
        List.mem_map.mpr ⟨p, hq, hk⟩
      rw [hkinds] at hmem
      split at hmem
      · exact absurd hmem (nodeBirth_not_polled _ _)
      · cases hmem
  · rw [hself]
    exact hfleet

/-- The NBIRTH message, with the payload it was generated from. -/
theorem publishNodeBirth_spec {s : NodeSys P} {birth death : Topic P} (h : s.Owns birth death)
    (hconnected : s.isConnected = true) : ∃ next, s.publishNodeBirth.Owns next death ∧
      s.publishNodeBirth.self.fleet = s.self.fleet ∧
      s.publishNodeBirth.onlineView = s.onlineView ∧
      s.publishNodeBirth.log = s.log ++ [some .nodeBirth] := by
  have hsome := handle_of_isConnected hconnected
  obtain ⟨hpublish, halias⟩ := h.started (.inr hsome)
  have hfind := h.self.findBirth
  let stamped := birth.onPayload fun p => p.setTimestamp s.now false
  let filled : Payload P :=
    { stamped.payload with sequenceNumber := s.self.sequenceNumber.toUInt64 }
  have hnotState : SparkplugTopic.isState stamped = false := by
    have htype : stamped.messageType = str "NBIRTH" := h.self.birthType
    simp [SparkplugTopic.isState, htype]
    decide
  have hsent : (SparkplugTopic.doPublish s.self.sequenceNumber stamped).payload =
      filled.generateProtobuf := by
    simp [SparkplugTopic.doPublish, SparkplugTopic.generate, hnotState, filled]
  have hfilled : filled.HasAlias := by
    apply halias.kept
    exact (Payload.keepsAliases_setTimestamp s.now false birth.payload).trans (.of_same rfl)
  have hnode : (s.self.publishNodeBirth s.isConnected s.now).1.Owns
      (SparkplugTopic.doPublish s.self.sequenceNumber stamped) death := by
    unfold SparkplugNode.publishNodeBirth SparkplugNode.publishMessage
    rw [if_pos hconnected, hfind]
    refine h.self.updateBirth (f := fun _ => SparkplugTopic.doPublish s.self.sequenceNumber stamped)
      rfl rfl rfl ?_ ?_
    · simp [stamped]
    · simp [stamped]
  have hpublished : (s.self.publishNodeBirth s.isConnected s.now).2 =
      [⟨.nodeBirth, SparkplugTopic.doPublish s.self.sequenceNumber stamped⟩] := by
    unfold SparkplugNode.publishNodeBirth SparkplugNode.publishMessage
    rw [if_pos hconnected, hfind]
    rfl
  refine ⟨_, ⟨hnode, ?_, ?_⟩, ?_, ?_, ?_⟩
  · intro _
    refine ⟨?_, ?_⟩
    · simp [stamped, hpublish]
    · rw [hsent]
      exact hfilled.kept (Payload.keepsAliases_writeProtobuf false filled)
  · intro p hp hk
    unfold publishNodeBirth at hp
    rw [published_session, hpublished] at hp
    rcases List.mem_append.mp hp with hp | hp
    · exact h.births p hp hk
    · obtain ⟨q, hq, heq⟩ := List.mem_map.mp hp
      cases heq
      rw [List.mem_singleton.mp hq]
      exact ⟨filled, hsent, hfilled⟩
  · unfold publishNodeBirth SparkplugNode.publishNodeBirth SparkplugNode.publishMessage
    rw [if_pos hconnected, hfind]
    rfl
  · unfold onlineView publishNodeBirth SparkplugNode.publishNodeBirth SparkplugNode.publishMessage
    rw [if_pos hconnected, hfind]
    rfl
  · unfold log publishNodeBirth
    rw [published_session, log_append, hpublished]
    rfl

theorem publishNodeDeath_spec {s : NodeSys P} {birth death : Topic P} (h : s.Owns birth death) :
    ∃ last, s.publishNodeDeath.Owns birth last ∧
      s.publishNodeDeath.self.fleet = s.self.fleet ∧
      s.publishNodeDeath.log = s.log ++ if s.isConnected then [some .nodeDeath] else [] := by
  have hfind := h.self.findDeath
  cases hconnected : s.isConnected with
  | false =>
    refine ⟨death, h.of_same ?_ (fun hs => hs) ?_, ?_, ?_⟩
    · unfold publishNodeDeath SparkplugNode.publishNodeDeath SparkplugNode.publishMessage
      rw [hconnected]
      exact h.self
    · intro p hp _
      unfold publishNodeDeath SparkplugNode.publishNodeDeath SparkplugNode.publishMessage at hp
      rw [hconnected] at hp
      simpa using hp
    · unfold publishNodeDeath SparkplugNode.publishNodeDeath SparkplugNode.publishMessage
      rw [hconnected]
      rfl
    · unfold log publishNodeDeath SparkplugNode.publishNodeDeath SparkplugNode.publishMessage
      rw [hconnected]
      simp
  | true =>
    let sent := SparkplugTopic.doPublish s.self.sequenceNumber
      (death.onPayload fun p => p.setTimestamp s.now false)
    have hpublished : (s.self.publishNodeDeath s.isConnected s.now).2 = [⟨.nodeDeath, sent⟩] := by
      unfold SparkplugNode.publishNodeDeath SparkplugNode.publishMessage
      rw [if_pos hconnected, hfind]
      rfl
    refine ⟨sent, h.of_same ?_ (fun hs => hs) ?_, ?_, ?_⟩
    · unfold publishNodeDeath SparkplugNode.publishNodeDeath SparkplugNode.publishMessage
      rw [if_pos hconnected, hfind]
      refine h.self.updateDeath (f := fun _ => sent) rfl rfl rfl ?_
      simp [sent]
    · intro p hp hk
      unfold publishNodeDeath at hp
      rw [published_session, hpublished] at hp
      rcases List.mem_append.mp hp with hp | hp
      · exact hp
      · obtain ⟨q, hq, heq⟩ := List.mem_map.mp hp
        cases heq
        rw [List.mem_singleton.mp hq] at hk
        cases hk
    · unfold publishNodeDeath SparkplugNode.publishNodeDeath SparkplugNode.publishMessage
      rw [if_pos hconnected, hfind]
      rfl
    · unfold log publishNodeDeath
      rw [published_session, log_append, hpublished]
      rfl

theorem Move.untick {s : NodeSys P} {elapsed : Nat} {e : NodeEvent P} {v : SessionView}
    (h : Move (s.tick elapsed) e v) : Move s e v := by
  cases h with
  | stay hlink => exact .stay hlink
  | service device on => exact .service device on
  | accept hlink => exact .accept hlink
  | idle hlink => exact .idle hlink
  | connect hphase hstate => exact .connect hphase hstate
  | birth hphase hstate hconnected => exact .birth hphase hstate hconnected
  | poll hphase hstate hleaves => exact .poll hphase hstate hleaves
  | leave hphase hstate hleaves hrest => exact .leave hphase hstate hleaves hrest
  | exit hphase hstop hconnected hidle hwait => exact .exit hphase hstop hconnected hidle hwait
  | deviceStart device => exact .deviceStart device
  | deviceStop device => exact .deviceStop device

/-- The outcome of an event: the topics are still there, and the session made a move. -/
def Stepped (s : NodeSys P) (e : NodeEvent P) (t : NodeSys P) : Prop :=
  (∃ birth death, t.Owns birth death) ∧ Move s e t.view

theorem stepped_stay {s t : NodeSys P} {birth death : Topic P} (e : NodeEvent P)
    (howns : t.Owns birth death) (hstate : t.nodeState = s.nodeState)
    (hlink : t.link = s.link ∨ t.link = none ∨ t.link = some .idle)
    (hfleet : t.self.fleet = s.self.fleet) (hlog : t.log = s.log) : s.Stepped e t := by
  refine ⟨⟨birth, death, howns⟩, ?_⟩
  have hview : t.view = { s.view with link := t.link } := by
    simp [view, hstate, hfleet, hlog]
  rw [hview]
  exact .stay hlink

theorem sendDisconnect_spec {s : NodeSys P} {birth death : Topic P} (h : s.Owns birth death)
    (io : Outcomes) : (s.sendDisconnect io).Owns birth death ∧
      (s.sendDisconnect io).link = s.link ∧
      (s.sendDisconnect io).self.fleet = s.self.fleet ∧
      ∃ rest, (rest = [] ∨ s.isConnected = true ∧ rest = [none]) ∧
        (s.sendDisconnect io).log = s.log ++ rest := by
  rcases s.sendDisconnect_cases io with ⟨hconnected, hs⟩ | hs
  · rw [hs]
    refine ⟨h.of_same h.self ?_ ?_, ?_, rfl, [none], .inr ⟨hconnected, rfl⟩, ?_⟩
    · simp
    · intro p hp _
      simpa using hp
    · simp only [link, Option.map_map]
      rfl
    · simp [log, Action.kind?]
  · rw [hs]
    refine ⟨h.frame rfl rfl (fun hs => hs), rfl, rfl, [], .inl rfl, ?_⟩
    simp [log]

theorem leaveLoop_stepped {s : NodeSys P} {birth death : Topic P} (h : s.Owns birth death)
    (hphase : s.phase = .check) (hstop : s.stopNodeTask = true) (elapsed : Nat) (io : Outcomes) :
    s.Stepped (.work elapsed io) (s.leaveLoop io) := by
  unfold leaveLoop
  split
  · rename_i hopen
    dsimp only
    split
    · rename_i hwait
      obtain ⟨howns, hlink, hfleet, rest, hrest, hlog⟩ := sendDisconnect_spec h io
      have hdrain : NodeSys.Owns { s.sendDisconnect io with phase := .draining 0 } birth death := by
        refine howns.frame rfl rfl (fun _ => .inl ?_)
        rcases s.sendDisconnect_cases io with ⟨_, hs⟩ | hs
        · rw [hs]
          simp [hphase, Phase.isRunning]
        · rw [hs]
          simp [hphase, Phase.isRunning]
      rcases hrest with rfl | ⟨hconnected, rfl⟩
      · refine stepped_stay _ hdrain (s.sendDisconnect_nodeState io) (.inl hlink) hfleet ?_
        rw [List.append_nil] at hlog
        exact hlog
      · refine ⟨⟨birth, death, hdrain⟩, ?_⟩
        have hview : view { s.sendDisconnect io with phase := .draining 0 } =
            { s.view with log := s.log ++ [none] } := by
          change SessionView.mk (s.sendDisconnect io).nodeState (s.sendDisconnect io).link
            (s.sendDisconnect io).self.fleet (s.sendDisconnect io).log = _
          rw [hlink, hfleet, hlog, sendDisconnect_nodeState]
          rfl
        rw [hview]
        exact .exit hphase hstop hconnected hopen.1 hwait
    · refine stepped_stay _ (h.frame rfl rfl (fun _ => .inl ?_)) rfl (.inl rfl) rfl rfl
      simp [hphase, Phase.isRunning]
  · refine stepped_stay _ (h.frame rfl rfl ?_) rfl (.inr (.inl rfl)) rfl rfl
    intro hs
    simp [finish, Phase.isRunning] at hs

theorem doIdle_stepped {s : NodeSys P} {birth death : Topic P} (h : s.Owns birth death)
    (hphase : s.phase = .body) (hstate : s.nodeState = .idle) (elapsed : Nat) (io : Outcomes) :
    s.Stepped (.work elapsed io) { s.doIdle io with phase := .check } := by
  have hrunning : s.phase.isRunning = true := by
    rw [hphase]
    rfl
  have hwill : (s.self.generateWill s.now).Owns birth
      ((fun t : Topic P => t.onPayload fun p =>
        Payload.generateProtobuf
          { (p.setUIntValue (str "bdSeq") s.self.bdSequenceNumber).setTimestamp s.now false with
            sequenceNumber := 0 }) death) :=
    h.self.updateDeath rfl rfl rfl rfl
  rcases doIdle_cases io s with ⟨n, timer, handle, hn, hhandle, hs⟩ | ⟨_, hs⟩
  · rw [hs]
    have hlink : handle.map MqttHandle.link = none ∨ handle.map MqttHandle.link = some .idle := by
      rcases hhandle with rfl | rfl
      · exact .inl rfl
      · exact .inr rfl
    rcases hn with rfl | rfl
    · exact stepped_stay _ (h.of_same h.self (fun _ => .inl hrunning) (fun _ hp _ => hp)) rfl
        (.inr hlink) rfl rfl
    · exact stepped_stay _ (h.of_same hwill (fun _ => .inl hrunning) (fun _ hp _ => hp)) rfl
        (.inr hlink) rfl rfl
  · rw [hs]
    exact ⟨⟨_, _, h.of_same hwill (fun _ => .inl hrunning) (fun _ hp _ => hp)⟩,
      .connect hphase hstate⟩

theorem startSubscription_connected {s : NodeSys P} (h : s.isConnected = true) :
    s.startSubscription.isConnected = true := by
  rw [isConnected_iff] at h ⊢
  simpa [link, startSubscription, MqttHandle.subscribe, Function.comp_def] using h

theorem startSubscription_owns {s : NodeSys P} {birth death : Topic P} (h : s.Owns birth death) :
    s.startSubscription.Owns birth death := by
  refine h.frame rfl rfl ?_
  simp [startSubscription]

theorem doWaitOnConnect_stepped {s : NodeSys P} {birth death : Topic P} (h : s.Owns birth death)
    (hphase : s.phase = .body) (hstate : s.nodeState = .waitOnConnect) (elapsed : Nat)
    (io : Outcomes) :
    s.Stepped (.work elapsed io) { s.doWaitOnConnect with phase := .check } := by
  have hrunning : s.phase.isRunning = true := by
    rw [hphase]
    rfl
  rcases doWaitOnConnect_cases s with ⟨_, hs | hs⟩ | ⟨hconnected, hs⟩
  · rw [hs]
    exact stepped_stay _ (h.frame rfl rfl fun _ => .inl hrunning) rfl (.inl rfl) rfl rfl
  · rw [hs]
    exact ⟨⟨_, _, h.frame rfl rfl fun _ => .inl hrunning⟩, .idle (.inl rfl)⟩
  · rw [hs]
    have hsubscribed := startSubscription_connected hconnected
    obtain ⟨next, hborn, hfleet, hview, hlog⟩ :=
      publishNodeBirth_spec (startSubscription_owns h) hsubscribed
    have honline : NodeSys.Owns { s.startSubscription.publishNodeBirth with nodeState := .online }
        next death := hborn.frame rfl rfl (fun hs => hs)
    obtain ⟨hpolled, hfleet2, hlog2⟩ := pollDevices_spec honline rfl
    refine ⟨⟨next, death, hpolled.frame rfl rfl fun hs => .inl ?_⟩, ?_⟩
    · exact hrunning
    · have hsubscribedView : s.startSubscription.onlineView = s.onlineView := by
        unfold onlineView
        rw [hsubscribed, hconnected]
        rfl
      have hsent : sentMessages
          { s.startSubscription.publishNodeBirth with nodeState := .online } = s.sentMessages := by
        change (if s.startSubscription.isConnected then (Fleet.pollMessages
          s.startSubscription.publishNodeBirth.onlineView
          s.startSubscription.publishNodeBirth.self.fleet).map some else []) = _
        rw [hsubscribed, hview, hfleet, hsubscribedView, sentMessages, hconnected]
        rfl
      have hlink : s.startSubscription.link = s.link := by
        simp only [link, startSubscription, Option.map_map]
        rfl
      have hview : view { pollDevices
          { s.startSubscription.publishNodeBirth with nodeState := .online } with
          phase := .check } =
          { s.view with
            nodeState := .online
            fleet := s.self.fleet.poll s.onlineView
            log := s.log ++ some .nodeBirth :: s.sentMessages } := by
        change SessionView.mk .online s.startSubscription.link
          (pollDevices { s.startSubscription.publishNodeBirth with nodeState := .online }).self.fleet
          (pollDevices { s.startSubscription.publishNodeBirth with nodeState := .online }).log = _
        rw [hlink, hfleet2, hlog2, hsent]
        change SessionView.mk .online s.link
          (Fleet.poll s.startSubscription.publishNodeBirth.onlineView
            s.startSubscription.publishNodeBirth.self.fleet)
          (s.startSubscription.publishNodeBirth.log ++ s.sentMessages) = _
        rw [hview, hsubscribedView, hfleet, hlog, List.append_assoc]
        rfl
      rw [hview]
      exact .birth hphase hstate hconnected

theorem doOnline_stepped {s : NodeSys P} {birth death : Topic P} (h : s.Owns birth death)
    (hphase : s.phase = .body) (hstate : s.nodeState = .online) (elapsed : Nat)
    (io : Outcomes) : s.Stepped (.work elapsed io) { s.doOnline io with phase := .check } := by
  have hrunning : s.phase.isRunning = true := by
    rw [hphase]
    rfl
  obtain ⟨hpolled, hfleet, hlog⟩ := pollDevices_spec h hstate
  unfold doOnline
  split
  · rename_i hleaves
    obtain ⟨last, hdead, hfleet2, hlog2⟩ := publishNodeDeath_spec hpolled
    obtain ⟨hsent, hlink, hfleet3, rest, hrest, hlog3⟩ := sendDisconnect_spec hdead io
    refine ⟨⟨birth, last, hsent.frame rfl rfl fun _ => .inl ?_⟩, ?_⟩
    · rcases sendDisconnect_cases io s.pollDevices.publishNodeDeath with ⟨_, hs⟩ | hs
      · rw [hs]
        exact hrunning
      · rw [hs]
        exact hrunning
    · have hview : view { (s.pollDevices.publishNodeDeath.sendDisconnect io) with
          nodeTimer := (s.pollDevices.publishNodeDeath.sendDisconnect io).clock + 5000
          nodeState := .waitOnDisconnect
          phase := .check } =
          { s.view with
            nodeState := .waitOnDisconnect
            fleet := s.self.fleet.poll s.onlineView
            log := s.log ++ s.sentMessages ++
              (if s.isConnected then [some .nodeDeath] else []) ++ rest } := by
        change SessionView.mk .waitOnDisconnect
          (s.pollDevices.publishNodeDeath.sendDisconnect io).link
          (s.pollDevices.publishNodeDeath.sendDisconnect io).self.fleet
          (s.pollDevices.publishNodeDeath.sendDisconnect io).log = _
        rw [hlink, hfleet3, hfleet2, hfleet, hlog3, hlog2, hlog]
        rfl
      dsimp only
      rw [hview]
      exact .leave hphase hstate hleaves hrest
  · rename_i hleaves
    refine ⟨⟨birth, death, hpolled.frame rfl rfl fun _ => .inl hrunning⟩, ?_⟩
    have hview : view { s.pollDevices with phase := .check } =
        { s.view with
          fleet := s.self.fleet.poll s.onlineView
          log := s.log ++ s.sentMessages } := by
      change SessionView.mk s.nodeState s.link s.pollDevices.self.fleet s.pollDevices.log = _
      rw [hfleet, hlog]
      rfl
    rw [hview]
    exact .poll hphase hstate (by simpa using hleaves)

theorem doWaitOnDisconnect_stepped {s : NodeSys P} {birth death : Topic P}
    (h : s.Owns birth death) (hphase : s.phase = .body) (elapsed : Nat) (io : Outcomes) :
    s.Stepped (.work elapsed io) { s.doWaitOnDisconnect with phase := .check } := by
  have hrunning : s.phase.isRunning = true := by
    rw [hphase]
    rfl
  unfold doWaitOnDisconnect
  split
  · exact ⟨⟨_, _, h.frame rfl rfl fun _ => .inl hrunning⟩, .idle (.inl rfl)⟩
  · exact stepped_stay _ (h.frame rfl rfl fun _ => .inl hrunning) rfl (.inl rfl) rfl rfl

theorem work_stepped {s : NodeSys P} {birth death : Topic P} (h : s.Owns birth death)
    (elapsed : Nat) (io : Outcomes) : s.Stepped (.work elapsed io) (s.work io) := by
  cases hphase : s.phase with
  | entry =>
    rw [work_entry io hphase]
    refine ⟨⟨_, _, h.frame rfl rfl fun _ => .inl ?_⟩, .idle (.inr rfl)⟩
    rw [hphase]
    rfl
  | check =>
    rw [work_check io hphase]
    split
    · rename_i hstop
      exact leaveLoop_stepped h hphase hstop elapsed io
    · refine stepped_stay _ (h.frame rfl rfl fun _ => .inl ?_) rfl (.inl rfl) rfl rfl
      rw [hphase]
      rfl
  | body =>
    rw [work_body io hphase]
    unfold stateStep
    split
    · rename_i hstate
      exact doIdle_stepped h hphase hstate elapsed io
    · rename_i hstate
      exact doWaitOnConnect_stepped h hphase hstate elapsed io
    · rename_i hstate
      exact doOnline_stepped h hphase hstate elapsed io
    · exact doWaitOnDisconnect_stepped h hphase elapsed io
  | draining polls =>
    rw [work_draining io hphase]
    split
    · refine stepped_stay _ (h.frame rfl rfl fun _ => .inl ?_) rfl (.inl rfl) rfl rfl
      rw [hphase]
      rfl
    · refine stepped_stay _ (h.frame rfl rfl ?_) rfl (.inr (.inl rfl)) rfl rfl
      intro hs
      simp [finish, Phase.isRunning] at hs
  | exited =>
    rw [work_exited io hphase]
    exact stepped_stay _ h rfl (.inl rfl) rfl rfl
  | joined =>
    rw [work_joined io hphase]
    exact stepped_stay _ h rfl (.inl rfl) rfl rfl

theorem linkEvent_stepped {s : NodeSys P} {birth death : Topic P} (h : s.Owns birth death)
    (event : LinkEvent) : s.Stepped (.link event) (s.linkEvent event) := by
  have hstarted : (s.linkEvent event).phase.isRunning = true ∨
      (s.linkEvent event).handle.isSome = true →
      s.phase.isRunning = true ∨ s.handle.isSome = true := by
    simp [linkEvent, Mqtt.link]
  cases hnew : Mqtt.newSession event s.handle with
  | true =>
    cases hhandle : s.handle with
    | none => cases event <;> simp [Mqtt.newSession, hhandle] at hnew
    | some handle =>
      cases event with
      | accepted =>
        have hconnecting : handle.link = .connecting := by
          simpa [Mqtt.newSession, hhandle] using hnew
        refine ⟨⟨birth, death, h.of_same h.self hstarted ?_⟩, ?_⟩
        · intro p hp _
          simp [linkEvent, hnew] at hp
        · have hview : (s.linkEvent .accepted).view =
              { s.view with link := some .up, log := [] } := by
            rw [hhandle] at hnew
            simp [view, linkEvent, hnew, link, log, Mqtt.link, hhandle, hconnecting,
              MqttHandle.accept, self]
          rw [hview]
          exact .accept (by simp [link, hhandle, hconnecting])
      | refused => simp [Mqtt.newSession] at hnew
      | closed ok => simp [Mqtt.newSession] at hnew
  | false =>
    have howns : (s.linkEvent event).Owns birth death := by
      refine h.frame rfl ?_ hstarted
      simp [linkEvent, hnew]
    refine stepped_stay _ howns rfl ?_ rfl ?_
    · cases hhandle : s.handle with
      | none =>
        refine .inl ?_
        simp [link, linkEvent, Mqtt.link, hhandle]
      | some handle =>
        have hlink : (s.linkEvent event).link = (Mqtt.link event (some handle)).map
            MqttHandle.link := by
          simp [link, linkEvent, hhandle]
        rw [hlink]
        cases event with
        | accepted =>
          have hnot : handle.link ≠ .connecting := by
            simpa [Mqtt.newSession, hhandle] using hnew
          refine .inl ?_
          simp [Mqtt.link, hnot, link, hhandle]
        | refused =>
          by_cases hconnecting : handle.link = .connecting
          · refine .inr (.inr ?_)
            simp [Mqtt.link, hconnecting, MqttHandle.refuse]
          · refine .inl ?_
            simp [Mqtt.link, hconnecting, link, hhandle]
        | closed ok =>
          by_cases hclosing : handle.disconnecting = true
          · cases ok with
            | true =>
              refine .inr (.inr ?_)
              simp [Mqtt.link, hclosing, MqttHandle.closed]
            | false =>
              refine .inl ?_
              simp [Mqtt.link, hclosing, MqttHandle.closed, link, hhandle]
          · refine .inl ?_
            simp [Mqtt.link, hclosing, link, hhandle]
    · simp [log, linkEvent, hnew]

theorem connectionLost_stepped {s : NodeSys P} {birth death : Topic P} (h : s.Owns birth death) :
    s.Stepped .connectionLost s.connectionLost := by
  unfold connectionLost
  split
  · rename_i hconnected
    refine stepped_stay _ (h.of_same (h.self.of_same rfl rfl rfl) ?_ (fun _ hp _ => hp)) rfl ?_
      rfl rfl
    · simp [setConnectionLost, Mqtt.lose]
    · refine .inr ?_
      cases hhandle : s.handle with
      | none => exact .inl (by simp [link, setConnectionLost, Mqtt.lose])
      | some handle =>
        exact .inr (by simp [link, setConnectionLost, Mqtt.lose, MqttHandle.lose])
  · exact stepped_stay _ h rfl (.inl rfl) rfl rfl

theorem callback_stepped {s : NodeSys P} {birth death : Topic P} (h : s.Owns birth death)
    (hasResponse : Bool) (version : ProtocolVersion) :
    s.Stepped (.callback hasResponse version) (s.callback hasResponse version) := by
  have hlink : (Mqtt.popCallback s.handle).map MqttHandle.link = s.link := by
    simp only [Mqtt.popCallback, link, Option.map_map]
    rfl
  unfold callback
  split
  · exact stepped_stay _ h rfl (.inl rfl) rfl rfl
  · dsimp only
    split
    · refine stepped_stay _ (h.of_same (h.self.of_same rfl rfl rfl) ?_ (fun _ hp _ => hp)) rfl
        (.inl hlink) rfl rfl
      simp [Mqtt.popCallback]
    · refine stepped_stay _ (h.frame rfl rfl ?_) rfl (.inl hlink) rfl rfl
      simp [Mqtt.popCallback]

theorem message_stepped {s : NodeSys P} {birth death : Topic P} (h : s.Owns birth death)
    (topicName : Str) (body : BodyList) :
    s.Stepped (.message topicName body) (s.message topicName body) := by
  unfold message
  split
  · rename_i hreceives
    obtain ⟨hpublish, halias⟩ := h.started (.inr (handle_of_receives hreceives))
    have hself := Receiver.self_message (h.takesNoDevices hreceives) topicName s.now body
    obtain ⟨next, last, howns, hbirth⟩ := h.self.payloadsOnly hself
    have hnext : NodeSys.Owns
        { s with receiver := s.receiver.message topicName s.now body } next last := by
      refine ⟨howns, fun _ => ⟨?_, halias.kept hbirth.aliases⟩, h.births⟩
      rw [hbirth.publish]
      exact hpublish
    exact stepped_stay _ hnext rfl (.inl rfl) hself.statuses rfl
  · exact stepped_stay _ h rfl (.inl rfl) rfl rfl

theorem start_stepped {s : NodeSys P} {birth death : Topic P} (h : s.Owns birth death) :
    s.Stepped .start s.start := by
  unfold start
  split
  · exact stepped_stay _ h rfl (.inl rfl) rfl rfl
  · split
    · refine stepped_stay _ (h.frame rfl rfl ?_) rfl (.inl rfl) rfl rfl
      intro hs
      rcases hs with hs | hs
      · cases hs
      · exact .inr hs
    · rename_i n hn
      obtain ⟨next, last, howns, hpublish, halias, hfleet⟩ := SparkplugNode.owns_start h.self hn
      have hnext : NodeSys.Owns
          { s.withSelf n with stopNodeTask := false, phase := .entry } next last :=
        ⟨howns, fun _ => ⟨hpublish, halias⟩, h.births⟩
      exact stepped_stay _ hnext rfl (.inl rfl) hfleet rfl

/-- One device of a node that stops the devices of a name. -/
theorem stopNamed_spec (s : NodeSys P) (device : Str) (o : Outbox P) (key : Str)
    (d : SparkplugDevice P) (hd : d.HasTopics) :
    let stopped := d.stop key (s.self.parentView s.isOnline s.isConnected) s.now o
    let next := if P.foldKey key = P.foldKey device then (stopped.2, stopped.1) else (o, d)
    next.2.HasTopics ∧ next.2.status = d.status ∧
      next.1.kinds = o.kinds ++ if P.foldKey key = P.foldKey device ∧
        d.status.deviceState = .online ∧ s.nodeState = .online ∧ s.isConnected = true
        then [.deviceDeath key] else [] := by
  intro stopped next
  by_cases hkey : P.foldKey key = P.foldKey device
  · have hspec := SparkplugDevice.stop_spec hd key (s.self.parentView s.isOnline s.isConnected)
      s.now o
    simp only [next, hkey, if_true, true_and]
    refine ⟨hspec.hasTopics, hspec.status, ?_⟩
    rw [hspec.kinds]
    by_cases hsent : d.deviceState = .online ∧ s.nodeState = .online ∧ s.isConnected = true
    · rw [if_pos ⟨hsent.1, decide_eq_true hsent.2.1, hsent.2.2⟩, if_pos]
      exact hsent
    · rw [if_neg fun hs => hsent ⟨hs.1, of_decide_eq_true hs.2.1, hs.2.2⟩, if_neg]
      exact hsent
  · simp [next, hkey, hd]

/-- The deaths of the devices of a name, in the order of the fleet. -/
theorem stopped_deaths (device : Str) (on : Prop) [Decidable on] (fleet : Fleet) :
    (fleet.flatMap fun e => if P.foldKey e.1 = P.foldKey device ∧ e.2.deviceState = .online ∧ on
      then [MessageKind.deviceDeath e.1] else []).map some =
      if on then
        (fleet.filter fun e =>
          decide (P.foldKey e.1 = P.foldKey device) && decide (e.2.deviceState = .online)).map
            fun e => some (.deviceDeath e.1)
      else [] := by
  by_cases hon : on
  · rw [if_pos hon]
    induction fleet with
    | nil => rfl
    | cons e es ih =>
      rw [List.flatMap_cons, List.map_append, ih]
      by_cases hkey : P.foldKey e.1 = P.foldKey device ∧ e.2.deviceState = .online
      · rw [if_pos ⟨hkey.1, hkey.2, hon⟩, List.filter_cons_of_pos (by simp [hkey])]
        rfl
      · rw [if_neg fun hs => hkey ⟨hs.1, hs.2.1⟩, List.filter_cons_of_neg (by simpa using hkey)]
        rfl
  · simp [hon]

theorem deviceStop_stepped {s : NodeSys P} {birth death : Topic P} (h : s.Owns birth death)
    (device : Str) : s.Stepped (.deviceStop device) (s.deviceStop device) := by
  let view := s.self.parentView s.isOnline s.isConnected
  obtain ⟨htopics, hstatus, hkinds⟩ := @SparkplugDevice.mapAccum_outbox P
    (fun o key d => if P.foldKey key = P.foldKey device then
      ((d.stop key view s.now o).2, (d.stop key view s.now o).1) else (o, d))
    (fun _ d => d)
    (fun key d => if P.foldKey key = P.foldKey device ∧ d.deviceState = .online ∧
      s.nodeState = .online ∧ s.isConnected = true then [.deviceDeath key] else [])
    (s.stopNamed_spec device) _ h.self.devices { sequenceNumber := s.self.sequenceNumber }
  have hfleet : (s.deviceStop device).self.fleet = s.self.fleet := by
    refine hstatus.trans ?_
    simp [SparkplugNode.fleet]
  have hlog : (s.deviceStop device).log = s.log ++
      if s.nodeState = .online ∧ s.isConnected = true then
        (s.self.fleet.filter fun e =>
          decide (P.foldKey e.1 = P.foldKey device) && decide (e.2.deviceState = .online)).map
            fun e => some (.deviceDeath e.1)
      else [] := by
    unfold log deviceStop
    rw [published_session, log_append]
    congr 1
    refine (congrArg (List.map some) hkinds).trans ?_
    rw [Outbox.kinds, List.map_nil, List.nil_append]
    exact stopped_deaths device _ s.self.fleet
  have howns : (s.deviceStop device).Owns birth death := by
    refine ⟨h.self.withDevices rfl rfl htopics, h.started, ?_⟩
    intro p hp hk
    unfold deviceStop at hp
    rw [published_session] at hp
    rcases List.mem_append.mp hp with hp | hp
    · exact h.births p hp hk
    · obtain ⟨q, hq, heq⟩ := List.mem_map.mp hp
      cases heq
      have hkind : MessageKind.nodeBirth ∈ Outbox.kinds _ := List.mem_map.mpr ⟨p, hq, hk⟩
      replace hkind := (hkinds ▸ hkind : MessageKind.nodeBirth ∈ _ ++ _)
      rcases List.mem_append.mp hkind with hnone | hkind
      · cases hnone
      · obtain ⟨e, _, he⟩ := List.mem_flatMap.mp hkind
        split at he
        · cases List.mem_singleton.mp he
        · cases he
  refine ⟨⟨birth, death, howns⟩, ?_⟩
  have hview : (s.deviceStop device).view = { s.view with log := (s.deviceStop device).log } := by
    change SessionView.mk s.nodeState s.link (s.deviceStop device).self.fleet _ = _
    rw [hfleet]
    rfl
  rw [hview, hlog]
  exact .deviceStop device

theorem withTopics_stepped {s : NodeSys P} {birth death : Topic P} (h : s.Owns birth death)
    (e : NodeEvent P) {f : Payload P → Payload P}
    (hf : ∀ p : Payload P, p.KeepsAliases (f p)) :
    s.Stepped e (s.withSelf (s.self.onTopics fun list =>
      list.update (str "NBIRTH") fun t => t.onPayload f)) := by
  have hself := h.self.updateBirth
    (m := s.self.onTopics fun list => list.update (str "NBIRTH") fun t => t.onPayload f)
    rfl rfl rfl rfl rfl
  have hnext : (s.withSelf (s.self.onTopics fun list =>
      list.update (str "NBIRTH") fun t => t.onPayload f)).Owns (birth.onPayload f) death := by
    refine ⟨hself, fun hs => ?_, h.births⟩
    obtain ⟨hpublish, halias⟩ := h.started hs
    exact ⟨hpublish, halias.kept (hf birth.payload)⟩
  exact stepped_stay _ hnext rfl (.inl rfl) rfl rfl

theorem updateDevice_fleet (n : SparkplugNode P) (device : Str)
    {f : SparkplugDevice P → SparkplugDevice P} {g : DeviceStatus → DeviceStatus}
    (hf : ∀ d, (f d).status = g d.status) : (n.updateDevice device f).fleet =
      Entries.updateFirst (Entries.sameKey P.foldKey device) g n.fleet :=
  Entries.map_updateFirst hf device n.deviceList.entries

/-- Every event is a move. -/
theorem step_stepped {s : NodeSys P} {birth death : Topic P} (h : s.Owns birth death)
    (e : NodeEvent P) : s.Stepped e (s.step e) := by
  cases e with
  | work elapsed io =>
    have htick : (s.tick elapsed).Owns birth death := h.frame rfl rfl (fun hs => hs)
    obtain ⟨howns, hmove⟩ := work_stepped htick elapsed io
    exact ⟨howns, hmove.untick⟩
  | link event => exact linkEvent_stepped h event
  | connectionLost => exact connectionLost_stepped h
  | callback hasResponse version => exact callback_stepped h hasResponse version
  | message topicName body => exact message_stepped h topicName body
  | start => exact start_stepped h
  | stop => exact stepped_stay _ (h.frame rfl rfl (fun hs => hs)) rfl (.inl rfl) rfl rfl
  | stopReturns =>
    simp only [step, stopReturns]
    split
    · refine stepped_stay _ (h.frame rfl rfl ?_) rfl (.inr (.inl rfl)) rfl rfl
      simp [Phase.isRunning]
    · exact stepped_stay _ h rfl (.inl rfl) rfl rfl
  | inService on =>
    exact stepped_stay _ (h.of_same (h.self.of_same rfl rfl rfl) (fun hs => hs) fun _ hp _ => hp)
      rfl (.inl rfl) rfl rfl
  | waitOnHostOnline wait =>
    exact stepped_stay _ (h.of_same (h.self.of_same rfl rfl rfl) (fun hs => hs) fun _ hp _ => hp)
      rfl (.inl rfl) rfl rfl
  | deviceInService device on =>
    have hself := h.self.updateDevice device (f := fun d => { d with inService := on })
      fun d hd => hd.of_same rfl
    refine ⟨⟨birth, death, h.of_same hself (fun hs => hs) fun _ hp _ => hp⟩, ?_⟩
    have hfleet := updateDevice_fleet s.self device (f := fun d => { d with inService := on })
      (g := fun d => { d with inService := on }) fun _ => rfl
    have hview : view (s.step (.deviceInService device on)) = { s.view with
        fleet := Entries.updateFirst (Entries.sameKey P.foldKey device)
          (fun d => { d with inService := on }) s.self.fleet } := by
      rw [← hfleet]
      rfl
    rw [hview]
    exact .service device on
  | deviceStart device =>
    have hself := h.self.updateDevice device (f := SparkplugDevice.start) fun d hd => by
      have hidle : ({ d with deviceState := .idle } : SparkplugDevice P).HasTopics := hd.of_same rfl
      exact hidle.setAllMetricsInvalid
    refine ⟨⟨birth, death, h.of_same hself (fun hs => hs) fun _ hp _ => hp⟩, ?_⟩
    have hfleet := updateDevice_fleet s.self device (f := SparkplugDevice.start)
      (g := fun d => { d with deviceState := .idle }) fun _ => rfl
    have hview : view (s.step (.deviceStart device)) = { s.view with
        fleet := Entries.updateFirst (Entries.sameKey P.foldKey device)
          (fun d => { d with deviceState := .idle }) s.self.fleet } := by
      rw [← hfleet]
      rfl
    rw [hview]
    exact .deviceStart device
  | deviceStop device => exact deviceStop_stepped h device
  | addBirthMetric m => exact withTopics_stepped h _ (Payload.keepsAliases_addMetric m)
  | editMetric name edit =>
    exact withTopics_stepped h _ fun p => Payload.keepsAliases_updateMetric name
      (fun m => Metric.alias_of_identity (edit.identity m)) p

theorem owns_init (now : UInt64) (setups : List Setup) :
    ∃ birth death, (init (P := P) now setups).Owns birth death := by
  obtain ⟨birth, death, howns⟩ := SparkplugNode.owns_configured (P := P) now setups
  refine ⟨birth, death, howns, ?_, ?_⟩
  · intro hs
    simp [init, Phase.isRunning] at hs
  · intro p hp
    cases hp

theorem owns_run (now : UInt64) (setups : List Setup) (es : List (NodeEvent P)) :
    ∃ birth death, (run step (init now setups) es).Owns birth death := by
  have hstep : ∀ (s : NodeSys P) (e : NodeEvent P), (∃ birth death, s.Owns birth death) →
      ∃ birth death, (s.step e).Owns birth death := by
    intro s e hs
    obtain ⟨birth, death, howns⟩ := hs
    exact (step_stepped howns e).1
  exact @run_preserves _ _ step (fun s => ∃ birth death, s.Owns birth death) hstep _ es
    (owns_init now setups)

/-- An invariant of the session view holds after every run whose steps meet the condition. -/
theorem view_invariant {Inv : SessionView → Prop} {ok : NodeSys P → NodeEvent P → Prop}
    (preserved : ∀ s e v, Inv s.view → ok s e → Move s e v → Inv v) {now : UInt64}
    {setups : List Setup} {es : List (NodeEvent P)} (hinit : Inv (init (P := P) now setups).view)
    (hok : RunOk step ok (init now setups) es) : Inv (run step (init now setups) es).view := by
  have hstep : ∀ (s : NodeSys P) (e : NodeEvent P),
      (∃ birth death, s.Owns birth death) ∧ Inv s.view → ok s e →
      (∃ birth death, (s.step e).Owns birth death) ∧ Inv (s.step e).view := by
    intro s e hs hoke
    obtain ⟨⟨birth, death, howns⟩, hinv⟩ := hs
    obtain ⟨hnext, hmove⟩ := step_stepped howns e
    exact ⟨hnext, preserved s e _ hinv hoke hmove⟩
  exact (run_invariant hstep ⟨owns_init now setups, hinit⟩ hok).2

end NodeSys
end PubSub
