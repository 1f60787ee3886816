import PubSub.NodeTopics
import PubSub.HostTask

/-!
# The topics of a host

Over every run the last topic of a host is its STATE topic, and it is the only one that
the host publishes. Its payload keeps the metric that the host announces itself with.
-/

namespace PubSub
set_option autoImplicit false

namespace SparkplugHost
variable {P : Platform}

/-- The host's list: topics of the base class that it never publishes, and `state`. -/
structure Owns (n : SparkplugNode P) (state : Topic P) : Prop where
  isHost : n.isHost = true
  messageType : state.messageType = str "STATE"
  list : ∃ inherited, n.topicList = inherited ++ [state] ∧
    ∀ t ∈ inherited, t.publish = false ∧
      (t.messageType = str "NBIRTH" ∨ t.messageType = str "NDEATH")

theorem inherited_not_state {inherited : TopicList P}
    (h : ∀ t ∈ inherited, t.publish = false ∧
      (t.messageType = str "NBIRTH" ∨ t.messageType = str "NDEATH")) :
    ∀ t ∈ inherited, TopicList.hasMessageType (str "STATE") t = false := by
  intro t ht
  rcases (h t ht).2 with hm | hm
  · exact TopicList.hasMessageType_ne hm (by decide)
  · exact TopicList.hasMessageType_ne hm (by decide)

theorem Owns.find {n : SparkplugNode P} {state : Topic P} (h : Owns n state) :
    n.topicList.getTopicByMessageType (str "STATE") = some state := by
  obtain ⟨inherited, hlist, hinherited⟩ := h.list
  rw [hlist, TopicList.find_append_ne _ (inherited_not_state hinherited)]
  exact TopicList.find_cons_self [] h.messageType

/-- A change of the STATE topic that keeps its message type. -/
theorem Owns.update {n m : SparkplugNode P} {state : Topic P} (h : Owns n state)
    {f : Topic P → Topic P} (hf : (f state).messageType = str "STATE")
    (hhost : m.isHost = n.isHost)
    (hlist : m.topicList = n.topicList.update (str "STATE") f) : Owns m (f state) where
  isHost := hhost.trans h.isHost
  messageType := hf
  list := by
    obtain ⟨inherited, hn, hinherited⟩ := h.list
    refine ⟨inherited, ?_, hinherited⟩
    rw [hlist, hn, TopicList.update_append_ne _ f (inherited_not_state hinherited),
      TopicList.update_cons_self [] f h.messageType]

theorem Owns.of_same {n m : SparkplugNode P} {state : Topic P} (h : Owns n state)
    (hhost : m.isHost = n.isHost) (hlist : m.topicList = n.topicList) : Owns m state where
  isHost := hhost.trans h.isHost
  messageType := h.messageType
  list := by
    rw [hlist]
    exact h.list

theorem Owns.not_publishing {n : SparkplugNode P} {state : Topic P} (h : Owns n state) :
    (n.topicList.getTopicByMessageType (str "NBIRTH")).any Topic.publish = false := by
  obtain ⟨inherited, hlist, hinherited⟩ := h.list
  cases hbirth : n.topicList.getTopicByMessageType (str "NBIRTH") with
  | none => rfl
  | some t =>
    have hmem : t ∈ inherited ++ [state] := hlist ▸ List.mem_of_find?_eq_some hbirth
    have hbirthType : TopicList.hasMessageType (str "NBIRTH") t = true := List.find?_some hbirth
    rcases List.mem_append.mp hmem with ht | ht
    · simp [(hinherited t ht).1]
    · rw [List.mem_singleton.mp ht,
        TopicList.hasMessageType_ne h.messageType (by decide)] at hbirthType
      cases hbirthType

/-- The payload has the metric that tells whether the host is online. -/
def Announceable (p : Payload P) : Prop :=
  ∃ m, p.getMetric (str "online") = some m ∧ m.datatype = .boolean ∧ m.isNull = false

theorem Announceable.updateMetric {p : Payload P} (h : Announceable p) {name : Str}
    (f : Metric → Metric) (hne : lower (cString (str "online")) ≠ lower (cString name)) :
    Announceable (p.updateMetric name f) := by
  obtain ⟨m, hm, hdata⟩ := h
  exact ⟨m, (FoldedMap.get?_update_ne _ f (P.foldKey_ne hne)).trans hm, hdata⟩

theorem Announceable.withMetric {p : Payload P} (h : Announceable p) {name : Str}
    (f : Metric → Metric) (hne : lower (cString (str "online")) ≠ lower (cString name)) :
    Announceable (p.withMetric name f) := by
  obtain ⟨m, hm, hdata⟩ := h
  apply Announceable.updateMetric _ f hne
  exact ⟨m, FoldedMap.get?_insert_of_some hm, hdata⟩

theorem Announceable.setBoolValue {p : Payload P} (h : Announceable p) (v : Bool) :
    Announceable (p.setBoolValue (str "online") v) := by
  obtain ⟨m, hm, hdata⟩ := h
  refine ⟨m.setBool v, ?_, hdata⟩
  have hself := FoldedMap.get?_update_self p.metricList (str "online") fun m => m.setBool v
  rw [Payload.getMetric] at hm
  rw [hm] at hself
  exact hself

theorem Announceable.withHardware {p : Payload P} (h : Announceable p) {name : Str}
    (value : Str) (hne : lower (cString (str "online")) ≠ lower (cString name)) :
    Announceable (p.withHardware name value) := by
  unfold Payload.withHardware
  split
  · exact h
  · exact h.withMetric _ hne

theorem Announceable.setTimestamp {p : Payload P} (h : Announceable p) (ms : UInt64) :
    Announceable (p.setTimestamp ms false) := by
  have hm : Announceable { p with timestamp := ms } := h
  exact hm.updateMetric _ (by decide)

theorem owns_createStateTopic {n : SparkplugNode P} (hhost : n.isHost = true)
    (h : ∀ t ∈ n.topicList, t.publish = false ∧
      (t.messageType = str "NBIRTH" ∨ t.messageType = str "NDEATH")) :
    ∃ state, Owns (createStateTopic n) state ∧ Announceable state.payload := by
  have hnone : n.topicList.getTopicByMessageType (str "STATE") = none := by
    rw [TopicList.getTopicByMessageType, List.find?_eq_none]
    intro t ht
    simp [inherited_not_state h t ht]
  unfold createStateTopic
  rw [hnone]
  refine ⟨_, ⟨hhost, rfl, _, rfl, h⟩, ?_⟩
  apply Announceable.setTimestamp
  apply Announceable.withMetric _ _ (by decide)
  refine ⟨Metric.setBool { name := str "online", datatype := .boolean } false, ?_, rfl, rfl⟩
  apply Payload.getMetric_withMetric
  rw [Topic.setTopic_payload]
  rfl

theorem owns_create (now : UInt64) :
    ∃ state, Owns (create (P := P) now) state ∧ Announceable state.payload :=
  owns_createStateTopic rfl (by simp)

theorem owns_createNamed (hostName : Str) (now : UInt64) :
    ∃ state, Owns (createNamed (P := P) hostName now) state ∧ Announceable state.payload := by
  apply owns_createStateTopic rfl
  obtain ⟨birth, death, hlist, hbirth, hdeath, _, _, hpb, hpd⟩ :=
    SparkplugNode.create_topicList (P := P) now
  intro t ht
  have hmem : t ∈ [birth, death] := hlist ▸ ht
  simp only [List.mem_cons, List.not_mem_nil, or_false] at hmem
  rcases hmem with rfl | rfl
  · exact ⟨hpb, .inl hbirth⟩
  · exact ⟨hpd, .inr hdeath⟩

/-- A message leaves a STATE topic that the host publishes. -/
theorem Owns.payloadsOnly {n m : SparkplugNode P} {state : Topic P} (h : Owns n state)
    (hm : n.PayloadsOnly m) (hpublish : state.publish = true) : Owns m state := by
  obtain ⟨inherited, hlist, hinherited⟩ := h.list
  have htopics : List.Forall₂ Topic.PayloadOnly (inherited ++ [state]) m.topicList := by
    have h2 := hm.topics
    rwa [hlist] at h2
  have hfirst : List.Forall₂ Topic.PayloadOnly inherited
      (m.topicList.take inherited.length) := by
    have htake := List.forall₂_take inherited.length htopics
    rwa [List.take_left] at htake
  have hlast : m.topicList.drop inherited.length = [state] := by
    have hdrop := List.forall₂_drop inherited.length htopics
    rw [List.drop_left] at hdrop
    generalize m.topicList.drop inherited.length = last at hdrop ⊢
    cases hdrop with
    | cons hstate hnil =>
      cases hnil
      rw [hstate.state hpublish h.messageType]
  refine ⟨?_, h.messageType, m.topicList.take inherited.length, ?_, ?_⟩
  · rw [hm.base]
    exact h.isHost
  · rw [← hlast, List.take_append_drop]
  · apply TopicList.PayloadsOnly.forall_topics ?_ hfirst hinherited
    intro s t hst hs
    rw [hst.publish, hst.messageType]
    exact hs

end SparkplugHost

namespace HostSys
variable {P : Platform}

/-- The STATE topic of a host; it is published once there is a handle. -/
structure Owns (s : HostSys P) (state : Topic P) : Prop where
  self : SparkplugHost.Owns s.self state
  announceable : SparkplugHost.Announceable state.payload
  publish : s.handle.isSome = true → state.publish = true

theorem owns_init (hostName : Option Str) (now : UInt64) (setups : List HostSetup) :
    ∃ state, (init (P := P) hostName now setups).Owns state := by
  have hconfigure : ∀ (n : SparkplugNode P) (state : Topic P), SparkplugHost.Owns n state →
      SparkplugHost.Owns (setups.foldl SparkplugHost.configure n) state := by
    induction setups with
    | nil => exact fun _ _ h => h
    | cons setup setups ih =>
      intro n state h
      apply ih
      cases setup <;> exact h.of_same rfl rfl
  have hnone : (none : Option MqttHandle).isSome = true → ∀ state : Topic P,
      state.publish = true := by simp
  cases hostName with
  | none =>
    obtain ⟨state, hstate, hann⟩ := SparkplugHost.owns_create (P := P) now
    exact ⟨state, hconfigure _ _ hstate, hann, fun h => hnone h state⟩
  | some name =>
    obtain ⟨state, hstate, hann⟩ := SparkplugHost.owns_createNamed (P := P) name now
    exact ⟨state, hconfigure _ _ hstate, hann, fun h => hnone h state⟩

theorem Owns.of_same {s t : HostSys P} {state : Topic P} (h : s.Owns state)
    (hhost : t.self.isHost = s.self.isHost) (hlist : t.self.topicList = s.self.topicList)
    (hhandle : t.handle.isSome = true → s.handle.isSome = true) : t.Owns state :=
  ⟨h.self.of_same hhost hlist, h.announceable, fun ht => h.publish (hhandle ht)⟩

/-- A change of the STATE topic. -/
theorem Owns.update {s t : HostSys P} {state : Topic P} (h : s.Owns state)
    {f : Topic P → Topic P} (hhost : t.self.isHost = s.self.isHost)
    (hlist : t.self.topicList = s.self.topicList.update (str "STATE") f)
    (htype : (f state).messageType = state.messageType)
    (hann : SparkplugHost.Announceable (f state).payload)
    (hpublish : t.handle.isSome = true → (f state).publish = true) : t.Owns (f state) :=
  ⟨h.self.update (htype.trans h.self.messageType) hhost hlist, hann, hpublish⟩

theorem publishState_eq {s : HostSys P} {state : Topic P} (h : s.Owns state) (online : Bool) :
    ∃ n : SparkplugNode P, n.isHost = s.self.isHost ∧
      n.topicList = s.self.topicList.update (str "STATE") (fun t =>
        (t.onPayload fun p => (p.setBoolValue (str "online") online).generateJson).cacheTopic) ∧
      s.publishState online = { s.withSelf n with
        session := if s.isConnected then s.session ++ [.publish ⟨.state,
          (state.onPayload fun p =>
            (p.setBoolValue (str "online") online).generateJson).cacheTopic⟩] else s.session } := by
  have hfind := h.self.find
  have hstate : SparkplugTopic.isState
      (state.onPayload fun p => p.setBoolValue (str "online") online) = true := by
    simp [SparkplugTopic.isState, h.self.messageType]
  have htopic : SparkplugTopic.doPublish s.self.sequenceNumber
      (state.onPayload fun p => p.setBoolValue (str "online") online) =
        (state.onPayload fun p =>
          (p.setBoolValue (str "online") online).generateJson).cacheTopic := by
    rw [SparkplugTopic.doPublish, SparkplugTopic.generate, if_pos hstate]
    rfl
  refine ⟨(SparkplugHost.publishState online s.self).1, ?_, ?_, ?_⟩
  · rw [SparkplugHost.publishState, hfind]
  · rw [SparkplugHost.publishState, hfind]
    exact TopicList.update_congr hfind htopic
  · have hsent : (SparkplugHost.publishState online s.self).2 = [⟨.state,
        (state.onPayload fun p =>
          (p.setBoolValue (str "online") online).generateJson).cacheTopic⟩] := by
      rw [SparkplugHost.publishState, hfind]
      dsimp only [Outbox.publish]
      rw [htopic]
      rfl
    rw [publishState, hsent]
    rfl

theorem owns_publishState {s : HostSys P} {state : Topic P} (h : s.Owns state) (online : Bool) :
    ∃ next, (s.publishState online).Owns next := by
  obtain ⟨n, hhost, hlist, hs⟩ := publishState_eq h online
  rw [hs]
  exact ⟨_, h.update hhost hlist rfl (h.announceable.setBoolValue online) h.publish⟩

theorem owns_sendConnect {s : HostSys P} {state : Topic P} (h : s.Owns state)
    (hhandle : s.handle.isSome = true → state.publish = true) (io : Outcomes) :
    ∃ next, (s.sendConnect io).1.Owns next := by
  have hwill : SparkplugHost.Announceable
      ((state.payload.setTimestamp s.self.startTime false).setBoolValue (str "online") false) :=
    (h.announceable.setTimestamp _).setBoolValue false
  unfold sendConnect
  rw [h.self.find]
  dsimp only
  split
  · refine ⟨_, h.update rfl rfl rfl hwill ?_⟩
    intro hsome
    exact hhandle (by simpa [setConnectionLost] using hsome)
  · exact ⟨_, h.update rfl rfl rfl hwill hhandle⟩

theorem owns_connectReplied {s : HostSys P} {state : Topic P} (h : s.Owns state) :
    ∃ next, (s.connectReplied state).Owns next := by
  have hann : SparkplugHost.Announceable
      (state.payload.setStringValue (str "Properties/MQTT Version") s.self.versionAsString) :=
    h.announceable.updateMetric _ (by decide)
  refine ⟨_, h.update rfl rfl rfl hann ?_⟩
  intro hsome
  exact h.publish (by simpa [connectReplied, startSubscription] using hsome)

theorem owns_sendDisconnect {s : HostSys P} {state : Topic P} (h : s.Owns state)
    (io : Outcomes) : (s.sendDisconnect io).Owns state := by
  rcases s.sendDisconnect_cases io with ⟨_, hs⟩ | hs
  · rw [hs]
    exact h.of_same rfl rfl (by simp)
  · rw [hs]
    exact h.of_same rfl rfl (fun hsome => hsome)

theorem owns_doWaitOnConnect {s : HostSys P} {state : Topic P} (h : s.Owns state) :
    ∃ next, s.doWaitOnConnect.Owns next := by
  unfold doWaitOnConnect
  split
  · exact ⟨state, h.of_same rfl rfl (fun hsome => hsome)⟩
  · split
    · exact ⟨state, h⟩
    · rw [h.self.find]
      dsimp only
      obtain ⟨replied, hreplied⟩ := owns_connectReplied h
      split
      · obtain ⟨next, hnext⟩ := owns_publishState hreplied true
        exact ⟨next, hnext.of_same rfl rfl (fun hsome => hsome)⟩
      · obtain ⟨next, hnext⟩ := owns_publishState hreplied false
        exact ⟨next, hnext.of_same rfl rfl (fun hsome => hsome)⟩

theorem owns_stateStep {s : HostSys P} {state : Topic P} (h : s.Owns state) (io : Outcomes) :
    ∃ next, (s.stateStep io).Owns next := by
  unfold stateStep
  split
  · unfold doIdle
    split
    · exact ⟨state, h⟩
    · obtain ⟨next, hnext⟩ := owns_sendConnect
        (s := { s with hostTimer := s.clock + 10000, workState := .waitOnConnect })
        (h.of_same rfl rfl (fun hsome => hsome)) h.publish io
      dsimp only
      split
      · exact ⟨next, hnext⟩
      · exact ⟨next, hnext.of_same rfl rfl (fun hsome => hsome)⟩
  · exact owns_doWaitOnConnect h
  · unfold doOnline
    split
    · obtain ⟨next, hnext⟩ := owns_publishState h false
      have htimer : HostSys.Owns { s.publishState false with hostTimer := s.clock + 5000 } next :=
        hnext.of_same rfl rfl (fun hsome => hsome)
      exact ⟨next, (owns_sendDisconnect htimer io).of_same rfl rfl (fun hsome => hsome)⟩
    · split
      · obtain ⟨next, hnext⟩ := owns_publishState h false
        exact ⟨next, hnext.of_same rfl rfl (fun hsome => hsome)⟩
      · exact ⟨state, h⟩
  · unfold doOffline
    split
    · have htimer : HostSys.Owns { s with hostTimer := s.clock + 5000 } state :=
        h.of_same rfl rfl (fun hsome => hsome)
      exact ⟨state, (owns_sendDisconnect htimer io).of_same rfl rfl (fun hsome => hsome)⟩
    · split
      · obtain ⟨next, hnext⟩ := owns_publishState h true
        exact ⟨next, hnext.of_same rfl rfl (fun hsome => hsome)⟩
      · exact ⟨state, h⟩
  · unfold doWaitOnDisconnect
    split
    · exact ⟨state, h.of_same rfl rfl (fun hsome => hsome)⟩
    · exact ⟨state, h⟩

theorem owns_leaveLoop {s : HostSys P} {state : Topic P} (h : s.Owns state) (io : Outcomes) :
    (s.leaveLoop io).Owns state := by
  unfold leaveLoop
  split
  · dsimp only
    split
    · exact (owns_sendDisconnect h io).of_same rfl rfl (fun hsome => hsome)
    · exact h.of_same rfl rfl (fun hsome => hsome)
  · exact h.of_same rfl rfl (fun hsome => hsome)

theorem owns_work {s : HostSys P} {state : Topic P} (h : s.Owns state) (io : Outcomes) :
    ∃ next, (s.work io).Owns next := by
  unfold work
  split
  · exact ⟨state, h.of_same rfl rfl (fun hsome => hsome)⟩
  · split
    · exact ⟨state, owns_leaveLoop h io⟩
    · exact ⟨state, h.of_same rfl rfl (fun hsome => hsome)⟩
  · obtain ⟨next, hnext⟩ := owns_stateStep h io
    exact ⟨next, hnext.of_same rfl rfl (fun hsome => hsome)⟩
  · split
    · exact ⟨state, h.of_same rfl rfl (fun hsome => hsome)⟩
    · exact ⟨state, h.of_same rfl rfl (fun hsome => hsome)⟩
  · exact ⟨state, h⟩
  · exact ⟨state, h⟩

/-- `Start` sets the publish flag of the STATE topic. -/
theorem owns_startNode {n : SparkplugNode P} {state : Topic P} (h : SparkplugHost.Owns n state)
    (hann : SparkplugHost.Announceable state.payload) (now : UInt64) :
    ∃ next, SparkplugHost.Owns (SparkplugHost.start now n) next ∧
      SparkplugHost.Announceable next.payload ∧ next.publish = true ∧
      next.payload.body = state.payload.body := by
  have hmetrics := h.update (m := SparkplugHost.addDefaultMetrics { n with startTime := now })
    (f := fun t => t.onPayload _) h.messageType rfl rfl
  have hrenamed : ∀ (name : Str) (t : Topic P), t.messageType = str "STATE" →
      (t.setTopic name).messageType = str "STATE" := by
    intro name t ht
    have hnonempty : t.messageType ≠ [] := by
      rw [ht]
      decide
    exact (Topic.setTopic_messageType hnonempty (.inl ht)).trans ht
  refine ⟨_, hmetrics.update (m := SparkplugHost.start now n)
    (f := fun t => { t.setTopic _ with publish := true }) ?_ rfl rfl, ?_, rfl, ?_⟩
  · exact hrenamed _ _ h.messageType
  · change SparkplugHost.Announceable (Topic.setTopic _ _).payload
    rw [Topic.setTopic_payload]
    apply SparkplugHost.Announceable.withMetric _ _ (by decide)
    apply SparkplugHost.Announceable.withMetric _ _ (by decide)
    apply SparkplugHost.Announceable.withHardware _ _ (by decide)
    apply SparkplugHost.Announceable.withHardware _ _ (by decide)
    apply SparkplugHost.Announceable.withHardware _ _ (by decide)
    exact hann.withHardware _ (by decide)
  · change (Topic.setTopic _ _).payload.body = _
    rw [Topic.setTopic_payload]
    change (Payload.withString _ _ (Payload.withString _ _ (Payload.withHardware _ _
      (Payload.withHardware _ _ (Payload.withHardware _ _
        (Payload.withHardware _ _ state.payload)))))).body = _
    simp

theorem owns_start {s : HostSys P} {state : Topic P} (h : s.Owns state) (io : Outcomes) :
    ∃ next, (s.start io).Owns next := by
  obtain ⟨next, hnext, hann, hpublish, _⟩ := owns_startNode h.self h.announceable s.now
  unfold start
  split
  · exact ⟨state, h⟩
  · dsimp only
    split
    · exact ⟨next, hnext, hann, fun _ => hpublish⟩
    · exact ⟨next, hnext.of_same rfl rfl, hann, fun _ => hpublish⟩
    · exact ⟨next, hnext.of_same rfl rfl, hann, fun _ => hpublish⟩

theorem owns_message {s : HostSys P} {state : Topic P} (h : s.Owns state) (topicName : Str)
    (body : BodyList) : (s.message topicName body).Owns state := by
  unfold message
  split
  · rename_i hreceives
    have hsome : s.handle.isSome = true := by
      cases hhandle : s.handle with
      | none => simp [Mqtt.receives, hhandle] at hreceives
      | some handle => rfl
    have hself := Receiver.self_message (r := s.receiver) (.inl h.self.isHost) topicName s.now body
    exact ⟨h.self.payloadsOnly hself (h.publish hsome), h.announceable, h.publish⟩
  · exact h

/-- Every event keeps the shape of the host's topics. -/
theorem owns_step {s : HostSys P} {state : Topic P} (h : s.Owns state) (e : HostEvent) :
    ∃ next, (s.step e).Owns next := by
  cases e with
  | work elapsed io =>
    exact owns_work (s := s.tick elapsed) (h.of_same rfl rfl (fun hsome => hsome)) io
  | link event =>
    refine ⟨state, h.of_same rfl rfl ?_⟩
    simp [step, linkEvent, Mqtt.link]
  | connectionLost =>
    simp only [step, connectionLost]
    split
    · exact ⟨state, h.of_same rfl rfl (by simp [setConnectionLost, Mqtt.lose])⟩
    · exact ⟨state, h⟩
  | callback hasResponse version =>
    simp only [step, callback]
    split
    · exact ⟨state, h⟩
    · split
      · exact ⟨state, h.of_same rfl rfl (by simp [Mqtt.popCallback])⟩
      · exact ⟨state, h.of_same rfl rfl (by simp [Mqtt.popCallback])⟩
  | message topicName body => exact ⟨state, owns_message h topicName body⟩
  | start io => exact owns_start h io
  | stop => exact ⟨state, h.of_same rfl rfl (fun hsome => hsome)⟩
  | stopReturns =>
    simp only [step, stopReturns]
    split
    · exact ⟨state, h.of_same rfl rfl (by simp)⟩
    · exact ⟨state, h⟩
  | inService on => exact ⟨state, h.of_same rfl rfl (fun hsome => hsome)⟩

theorem owns_run (hostName : Option Str) (now : UInt64) (setups : List HostSetup)
    (es : List HostEvent) :
    ∃ state, (run step (init (P := P) hostName now setups) es).Owns state := by
  have hstep : ∀ (s : HostSys P) (e : HostEvent),
      (∃ state, s.Owns state) → ∃ state, (s.step e).Owns state := by
    intro s e hs
    obtain ⟨state, hstate⟩ := hs
    exact owns_step hstate e
  exact @run_preserves _ _ step (fun s => ∃ state, s.Owns state) hstep _ es
    (owns_init hostName now setups)

end HostSys
end PubSub
