import PubSub.MessageGrammar
import PubSub.DeathAnnounced

/-!
# The names that messages are sent under

A node names its topics in three places. The constructor writes them under another namespace
than the receiving side reads, `Start` renames only the NBIRTH topic, and a device writes its
names with the constructor's namespace again before each publication. So the NBIRTH is the one
message whose name tells its sender.
-/

namespace PubSub
set_option autoImplicit false

/-- The first part of a name is its first level. -/
theorem firstLevel_joinLevels {part : Str} (h : 47 ∉ part) (parts : List Str) :
    level 0 (joinLevels (part :: parts)) = part := by
  unfold level levels joinLevels
  cases parts with
  | nil => rw [List.intercalate_singleton, List.splitOn_eq_singleton h, List.getD_cons_zero]
  | cons next parts =>
    rw [List.intercalate_cons_cons, List.append_assoc, List.singleton_append,
      List.splitOn_append_cons_self_of_not_mem h, List.getD_cons_zero]

namespace Topic
variable {P : Platform}

/-- `t` goes out like `s`: under the same name, with the same type and publish flag. -/
structure SameName (s t : Topic P) : Prop where
  topicName : t.topicName = s.topicName
  messageType : t.messageType = s.messageType
  publish : t.publish = s.publish

theorem SameName.refl (t : Topic P) : SameName t t := ⟨rfl, rfl, rfl⟩

theorem SameName.trans {r s t : Topic P} (hrs : SameName r s) (hst : SameName s t) :
    SameName r t where
  topicName := hst.topicName.trans hrs.topicName
  messageType := hst.messageType.trans hrs.messageType
  publish := hst.publish.trans hrs.publish

theorem sameName_onPayload (f : Payload P → Payload P) (t : Topic P) :
    SameName t (t.onPayload f) := ⟨rfl, rfl, rfl⟩

theorem sameName_cacheTopic (t : Topic P) : SameName t t.cacheTopic := by
  refine ⟨?_, rfl, rfl⟩
  by_cases h : t.topicName = []
  · have htopic : t.topic = [] := by
      by_contra hne
      exact hne ((topicName_of_topic rfl hne).symm.trans h)
    have hsame : t.cacheTopic = t := by
      unfold cacheTopic
      rw [h, ← htopic]
    rw [hsame]
  · exact topicName_of_topic rfl h

theorem sameName_doPublish (sequenceNumber : UInt8) (t : Topic P) :
    SameName t (SparkplugTopic.doPublish sequenceNumber t) := by
  unfold SparkplugTopic.doPublish SparkplugTopic.generate
  split
  · exact (sameName_onPayload _ t).trans (sameName_cacheTopic _)
  · exact (sameName_onPayload _ t).trans (sameName_cacheTopic _)

theorem PayloadOnly.sameName {s t : Topic P} (h : PayloadOnly s t) : SameName s t := by
  refine ⟨?_, h.messageType, h.publish⟩
  rw [h.base]
  rfl

end Topic

namespace SparkplugDevice
variable {P : Platform}

/-- What a device sends: not an NBIRTH, and under the constructor's namespace. -/
def SentAbroad (o : Outbox P) : Prop :=
  ∀ p ∈ o.published, p.kind ≠ .nodeBirth ∧ level 0 p.topic.topicName = str "spvBv1.0"

theorem topicPath_ne_nil (messageType parentName : Str) (d : SparkplugDevice P) :
    d.topicPath messageType parentName ≠ [] := List.cons_ne_nil _ _

theorem level_topicPath (messageType parentName : Str) (d : SparkplugDevice P) :
    level 0 (d.topicPath messageType parentName) = str "spvBv1.0" :=
  firstLevel_joinLevels (by decide) _

theorem publishMessage_abroad {messageType : Str} {kind : MessageKind} (hkind : kind ≠ .nodeBirth)
    (parent : ParentView) (now : UInt64) (d : SparkplugDevice P) {o : Outbox P}
    (h : SentAbroad o) : SentAbroad (d.publishMessage messageType kind parent now o).2 := by
  unfold publishMessage
  split
  · exact h
  · rename_i t _
    dsimp only
    split
    · intro p hp
      rcases List.mem_append.mp hp with hp | hp
      · exact h p hp
      · rw [List.mem_singleton.mp hp]
        refine ⟨hkind, ?_⟩
        rw [(Topic.sameName_doPublish _ _).topicName, (Topic.sameName_onPayload _ _).topicName,
          Topic.topicName_of_topic (Topic.setTopic_topic _ t)
            (d.topicPath_ne_nil messageType parent.name)]
        exact d.level_topicPath messageType parent.name
    · exact h

theorem poll_abroad (key : Str) (parent : ParentView) (now : UInt64) (d : SparkplugDevice P)
    {o : Outbox P} (h : SentAbroad o) : SentAbroad (d.poll key parent now o).2 := by
  have hbirth : MessageKind.deviceBirth key ≠ .nodeBirth := nofun
  have hdeath : MessageKind.deviceDeath key ≠ .nodeBirth := nofun
  unfold poll
  split
  · split
    · exact publishMessage_abroad hdeath parent now d h
    · exact h
  · split
    · exact publishMessage_abroad hbirth parent now d h
    · exact h
  · exact h

theorem stop_abroad (key : Str) (parent : ParentView) (now : UInt64) (d : SparkplugDevice P)
    {o : Outbox P} (h : SentAbroad o) : SentAbroad (d.stop key parent now o).2 := by
  have hdeath : MessageKind.deviceDeath key ≠ .nodeBirth := nofun
  unfold stop
  dsimp only
  split
  · exact publishMessage_abroad hdeath parent now _ h
  · exact h

theorem mapAccum_abroad {f : Outbox P → Str → SparkplugDevice P → Outbox P × SparkplugDevice P}
    (hf : ∀ o key d, SentAbroad o → SentAbroad (f o key d).1)
    (es : List (Str × SparkplugDevice P)) {o : Outbox P} (h : SentAbroad o) :
    SentAbroad (Entries.mapAccum f o es).1 := by
  induction es generalizing o with
  | nil => exact h
  | cons e es ih => exact ih (hf o e.1 e.2 h)

theorem sentAbroad_empty (sequenceNumber : UInt8) :
    SentAbroad ({ sequenceNumber := sequenceNumber } : Outbox P) := by
  intro p hp
  cases hp

end SparkplugDevice

namespace SparkplugNode
variable {P : Platform}

/-- The name that `Start` gives to the NBIRTH topic. -/
def birthName (n : SparkplugNode P) : Str := n.topicPath (str "spBv1.0") (str "NBIRTH")

theorem birthName_ne_nil (n : SparkplugNode P) : n.birthName ≠ [] := List.cons_ne_nil _ _

/-- The names of the node's own topics. -/
structure Names (n : SparkplugNode P) (t : Topic P) : Prop where
  birth : t.messageType = str "NBIRTH" → t.publish = true → t.topicName = n.birthName
  death : t.messageType = str "NDEATH" → level 0 t.topicName = str "spvBv1.0"

/-- The name under which a message of the node went out. -/
structure Sent (n : SparkplugNode P) (p : Publication P) : Prop where
  birth : p.kind = .nodeBirth → p.topic.topicName = n.birthName
  other : p.kind ≠ .nodeBirth → level 0 p.topic.topicName = str "spvBv1.0"

/-- The node keeps its identifiers and the names of its topics. -/
structure SameNames (n m : SparkplugNode P) : Prop where
  birthName : m.birthName = n.birthName
  topics : List.Forall₂ Topic.SameName n.topicList m.topicList

theorem SameNames.of_same {n m : SparkplugNode P} (hname : m.birthName = n.birthName)
    (hlist : m.topicList = n.topicList) : SameNames n m := by
  refine ⟨hname, ?_⟩
  rw [hlist]
  exact List.forall₂_same.mpr fun t _ => .refl t

theorem SameNames.trans {n m k : SparkplugNode P} (hnm : SameNames n m) (hmk : SameNames m k) :
    SameNames n k where
  birthName := hmk.birthName.trans hnm.birthName
  topics := @TopicList.forall₂_trans P Topic.SameName (fun _ _ _ => Topic.SameName.trans)
    _ _ _ hnm.topics hmk.topics

theorem SameNames.update {n m : SparkplugNode P} {messageType : Str} {f : Topic P → Topic P}
    (hname : m.birthName = n.birthName) (hlist : m.topicList = n.topicList.update messageType f)
    (hf : ∀ t, n.topicList.getTopicByMessageType messageType = some t → Topic.SameName t (f t)) :
    SameNames n m := by
  refine ⟨hname, ?_⟩
  rw [hlist]
  exact TopicList.forall₂_update Topic.SameName.refl hf

theorem PayloadsOnly.sameNames {n m : SparkplugNode P} (h : n.PayloadsOnly m) :
    SameNames n m := by
  refine ⟨?_, h.topics.imp fun _ _ => Topic.PayloadOnly.sameName⟩
  rw [h.base]
  rfl

theorem Names.same {n m : SparkplugNode P} (h : SameNames n m)
    (hn : ∀ t ∈ n.topicList, n.Names t) : ∀ t ∈ m.topicList, m.Names t := by
  refine TopicList.forall_related (fun s t hst hs => ?_) h.topics hn
  refine ⟨fun htype hpublish => ?_, fun htype => ?_⟩
  · rw [hst.topicName, h.birthName]
    exact hs.birth (hst.messageType.symm.trans htype) (hst.publish.symm.trans hpublish)
  · rw [hst.topicName]
    exact hs.death (hst.messageType.symm.trans htype)

theorem Sent.same {n m : SparkplugNode P} (h : SameNames n m) {p : Publication P}
    (hp : n.Sent p) : m.Sent p := by
  refine ⟨fun hkind => ?_, hp.other⟩
  rw [h.birthName]
  exact hp.birth hkind

theorem sent_abroad (n : SparkplugNode P) {o : Outbox P} (h : SparkplugDevice.SentAbroad o) :
    ∀ p ∈ o.published, n.Sent p := by
  intro p hp
  obtain ⟨hkind, hname⟩ := h p hp
  exact ⟨fun hbirth => absurd hbirth hkind, fun _ => hname⟩

theorem publishMessage_names {n : SparkplugNode P} {messageType : Str} {kind : MessageKind}
    (hsent : ∀ t, n.topicList.getTopicByMessageType messageType = some t → n.Sent ⟨kind, t⟩)
    (connected : Bool) (now : UInt64) :
    SameNames n (n.publishMessage messageType kind connected now).1 ∧
      ∀ p ∈ (n.publishMessage messageType kind connected now).2, n.Sent p := by
  unfold publishMessage
  split
  · split
    · exact ⟨.of_same rfl rfl, fun p hp => absurd hp List.not_mem_nil⟩
    · rename_i t ht
      have hsame := (Topic.sameName_onPayload (fun p => p.setTimestamp now false) t).trans
        (Topic.sameName_doPublish n.sequenceNumber _)
      refine ⟨.update rfl rfl fun s hs => ?_, fun p hp => ?_⟩
      · rw [ht] at hs
        rw [← Option.some.inj hs]
        exact hsame
      · rw [List.mem_singleton.mp hp]
        have hold := hsent t ht
        refine ⟨fun hkind => ?_, fun hkind => ?_⟩
        · exact hsame.topicName.trans (hold.birth hkind)
        · exact (congrArg (level 0) hsame.topicName).trans (hold.other hkind)
  · exact ⟨.of_same rfl rfl, fun p hp => absurd hp List.not_mem_nil⟩

theorem pollDevices_names (n : SparkplugNode P) (isOnline connected : Bool) (now : UInt64) :
    SameNames n (n.pollDevices isOnline connected now).1 ∧
      ∀ p ∈ (n.pollDevices isOnline connected now).2, n.Sent p := by
  refine ⟨.of_same rfl rfl, n.sent_abroad ?_⟩
  apply SparkplugDevice.mapAccum_abroad
  · exact fun o key d h => SparkplugDevice.poll_abroad key _ now d h
  · exact SparkplugDevice.sentAbroad_empty _

theorem generateWill_names (n : SparkplugNode P) (now : UInt64) :
    SameNames n (n.generateWill now) :=
  .update rfl rfl fun t _ => Topic.sameName_onPayload _ t

theorem startTopics_names {n : SparkplugNode P} {birth death : Topic P} (h : n.Owns birth death)
    (hdeath : n.Names death) : ∀ t ∈ n.startTopics.topicList, n.Names t := by
  let named : Topic P := { birth.setTopic n.birthName with publish := true }
  have hspace : birth.nameSpace ≠ [] ∧ birth.nameSpace ≠ str "spBv1.0" := by
    rw [h.birthSpace]
    decide
  have htype : birth.messageType ≠ [] := by
    rw [h.birthType]
    decide
  have hnamed : named.messageType = str "NBIRTH" :=
    (Topic.setTopic_messageType htype (.inr hspace)).trans h.birthType
  have hlist : n.startTopics.topicList = [named, { death with publish := true }] := by
    unfold startTopics
    dsimp only
    rw [h.list, TopicList.update_first _ h.birthType]
    exact TopicList.update_second _ hnamed (by decide) h.deathType
  rw [hlist]
  intro t ht
  rcases List.mem_cons.mp ht with rfl | ht
  · refine ⟨fun _ _ => ?_, fun hother => ?_⟩
    · exact Topic.topicName_of_topic (Topic.setTopic_topic n.birthName birth) n.birthName_ne_nil
    · exact absurd (hnamed.symm.trans hother) (by decide)
  · rw [List.mem_singleton.mp ht]
    refine ⟨fun hother _ => ?_, hdeath.death⟩
    exact absurd (h.deathType.symm.trans hother) (by decide)

theorem assignAliasNumbers_names (n : SparkplugNode P) : SameNames n n.assignAliasNumbers := by
  unfold assignAliasNumbers TopicList.assignAliasNumbers
  dsimp only
  split
  · exact .of_same rfl rfl
  · exact .update rfl rfl fun t _ => ⟨rfl, rfl, rfl⟩

/-- `Start` names the NBIRTH topic and leaves the NDEATH topic its name. -/
theorem start_names {n m : SparkplugNode P} {birth death : Topic P} (h : n.Owns birth death)
    (hdeath : n.Names death) (hm : n.start = some m) :
    m.birthName = n.birthName ∧ ∀ t ∈ m.topicList, m.Names t := by
  have hname : m.birthName = n.birthName := by
    rw [start_base hm]
    rfl
  unfold start at hm
  split at hm
  · cases hm
  · refine ⟨hname, ?_⟩
    rw [← Option.some.inj hm]
    have hmetrics := h.updateBirth (m := n.addDefaultMetrics) (f := fun t => t.onPayload _)
      rfl rfl rfl rfl rfl
    have hstarted := startTopics_names hmetrics ⟨hdeath.birth, hdeath.death⟩
    have hnumbered := assignAliasNumbers_names n.addDefaultMetrics.startTopics.startSubscriptions
    refine Names.same hnumbered fun t ht => ?_
    have hnames := hstarted t ht
    exact ⟨hnames.birth, hnames.death⟩

/-- A node that was not started publishes neither topic, and the NDEATH topic has the
constructor's name. -/
structure Unstarted (t : Topic P) : Prop where
  publish : t.publish = false
  death : t.messageType = str "NDEATH" → level 0 t.topicName = str "spvBv1.0"

theorem baseTopic_unstarted (messageType : Str) (qos : QualityOfService)
    (f : Payload P → Payload P) (n : SparkplugNode P) :
    Unstarted ((n.baseTopic messageType qos).onPayload f) := by
  refine ⟨rfl, fun _ => ?_⟩
  have hname : ((n.baseTopic messageType qos).onPayload f).topic =
      n.topicPath (str "spvBv1.0") messageType := Topic.setTopic_topic _ _
  rw [Topic.topicName_of_topic hname (List.cons_ne_nil _ _)]
  exact firstLevel_joinLevels (by decide) _

theorem create_unstarted (now : UInt64) :
    ∀ t ∈ (create (P := P) now).topicList, Unstarted t := by
  unfold create createNodeDeathTopic createNodeBirthTopic
  dsimp only
  intro t ht
  rcases List.mem_append.mp ht with ht | ht
  · rcases List.mem_append.mp (TopicList.mem_deletePrevious ht) with ht | ht
    · cases TopicList.mem_deletePrevious ht
    · rw [List.mem_singleton.mp ht]
      exact baseTopic_unstarted _ _ _ _
  · rw [List.mem_singleton.mp ht]
    exact baseTopic_unstarted _ _ _ _

theorem configure_unstarted {n : SparkplugNode P} (h : ∀ t ∈ n.topicList, Unstarted t)
    (setup : Setup) : ∀ t ∈ (n.configure setup).topicList, Unstarted t := by
  cases setup with
  | createDevice name now =>
    simp only [configure, createDevice]
    split
    · exact h
    · split
      · exact h
      · exact h
  | addBirthMetric m =>
    have hsame : SameNames n (n.configure (.addBirthMetric m)) :=
      .update rfl rfl fun t _ => Topic.sameName_onPayload _ t
    refine TopicList.forall_related (fun s t hst hs => ?_) hsame.topics h
    refine ⟨hst.publish.trans hs.publish, fun htype => ?_⟩
    rw [hst.topicName]
    exact hs.death (hst.messageType.symm.trans htype)
  | _ => exact h

theorem configured_unstarted (now : UInt64) (setups : List Setup) :
    ∀ t ∈ (configured (P := P) now setups).topicList, Unstarted t := by
  have hfold : ∀ n : SparkplugNode P, (∀ t ∈ n.topicList, Unstarted t) →
      ∀ t ∈ (setups.foldl configure n).topicList, Unstarted t := by
    induction setups with
    | nil => exact fun _ h => h
    | cons setup setups ih => exact fun n h => ih _ (configure_unstarted h setup)
  exact hfold _ (create_unstarted now)

end SparkplugNode

namespace NodeSys
variable {P : Platform}

/-- The topics of the node and the messages of its session have their names. -/
structure Named (s : NodeSys P) : Prop where
  topics : ∀ t ∈ s.self.topicList, s.self.Names t
  sent : ∀ p, Action.publish p ∈ s.session → s.self.Sent p

/-- The names are kept, and new messages have theirs. -/
structure Names (s t : NodeSys P) : Prop where
  self : s.self.SameNames t.self
  session : ∀ p, Action.publish p ∈ t.session → Action.publish p ∈ s.session ∨ s.self.Sent p

theorem Names.of_same {s t : NodeSys P} (hself : s.self.SameNames t.self)
    (hsession : ∀ p, Action.publish p ∈ t.session → Action.publish p ∈ s.session) :
    Names s t := ⟨hself, fun p hp => .inl (hsession p hp)⟩

theorem Names.frame {s t : NodeSys P} (hself : t.self = s.self)
    (hsession : ∀ p, Action.publish p ∈ t.session → Action.publish p ∈ s.session) : Names s t := by
  refine .of_same ?_ hsession
  rw [hself]
  exact .of_same rfl rfl

theorem Names.trans {r s t : NodeSys P} (hrs : Names r s) (hst : Names s t) : Names r t := by
  refine ⟨hrs.self.trans hst.self, fun p hp => ?_⟩
  rcases hst.session p hp with hp | hp
  · exact hrs.session p hp
  · exact .inr ⟨fun hkind => (hp.birth hkind).trans hrs.self.birthName, hp.other⟩

theorem Named.names {s t : NodeSys P} (h : s.Named) (hst : Names s t) : t.Named := by
  refine ⟨SparkplugNode.Names.same hst.self h.topics, fun p hp => ?_⟩
  rcases hst.session p hp with hp | hp
  · exact (h.sent p hp).same hst.self
  · exact hp.same hst.self

theorem names_published {s : NodeSys P} {r : SparkplugNode P × List (Publication P)}
    (h : s.self.SameNames r.1 ∧ ∀ p ∈ r.2, s.self.Sent p) : Names s (s.published r) := by
  refine ⟨h.1, fun p hp => ?_⟩
  rw [published_session] at hp
  rcases List.mem_append.mp hp with hp | hp
  · exact .inl hp
  · obtain ⟨q, hq, heq⟩ := List.mem_map.mp hp
    cases heq
    exact .inr (h.2 p hq)

theorem pollDevices_names (s : NodeSys P) : Names s s.pollDevices :=
  names_published (s.self.pollDevices_names s.isOnline s.isConnected s.now)

theorem publishNodeDeath_names {s : NodeSys P} {birth death : Topic P} (h : s.Owns birth death)
    (hn : s.Named) : Names s s.publishNodeDeath := by
  refine names_published (SparkplugNode.publishMessage_names (fun t ht => ?_) _ _)
  rw [h.self.findDeath] at ht
  rw [← Option.some.inj ht]
  have hmem : death ∈ s.self.topicList := by
    rw [h.self.list]
    simp
  refine ⟨fun hkind => (by cases hkind), fun _ => ?_⟩
  exact (hn.topics death hmem).death h.self.deathType

theorem publishNodeBirth_names {s : NodeSys P} {birth death : Topic P} (h : s.Owns birth death)
    (hn : s.Named) (hconnected : s.isConnected = true) : Names s s.publishNodeBirth := by
  have hsome := handle_of_isConnected hconnected
  refine names_published (SparkplugNode.publishMessage_names (fun t ht => ?_) _ _)
  rw [h.self.findBirth] at ht
  rw [← Option.some.inj ht]
  have hmem : birth ∈ s.self.topicList := by
    rw [h.self.list]
    exact List.mem_cons_self
  refine ⟨fun _ => ?_, fun hkind => absurd rfl hkind⟩
  exact (hn.topics birth hmem).birth h.self.birthType (h.started (.inr hsome)).1

theorem sendDisconnect_names (io : Outcomes) (s : NodeSys P) : Names s (s.sendDisconnect io) := by
  rcases s.sendDisconnect_cases io with ⟨_, hs⟩ | hs
  · rw [hs]
    exact .frame rfl fun p hp => by simpa using hp
  · rw [hs]
    exact .frame rfl fun _ hp => hp

theorem doIdle_names (io : Outcomes) (s : NodeSys P) : Names s (s.doIdle io) := by
  have hwill : Names s (s.withSelf (s.self.generateWill s.now)) :=
    .of_same (s.self.generateWill_names s.now) fun _ hp => hp
  rcases doIdle_cases io s with ⟨n, timer, handle, hn, _, hs⟩ | ⟨_, hs⟩
  · rw [hs]
    rcases hn with rfl | rfl
    · exact .frame rfl fun _ hp => hp
    · exact ⟨hwill.self, hwill.session⟩
  · rw [hs]
    exact ⟨hwill.self, hwill.session⟩

theorem doWaitOnConnect_names {s : NodeSys P} {birth death : Topic P} (h : s.Owns birth death)
    (hn : s.Named) : Names s s.doWaitOnConnect := by
  rcases doWaitOnConnect_cases s with ⟨_, hs | hs⟩ | ⟨hconnected, hs⟩
  · rw [hs]
    exact .frame rfl fun _ hp => hp
  · rw [hs]
    exact .frame rfl fun _ hp => hp
  · rw [hs]
    have hsubscribed := startSubscription_connected hconnected
    have hfirst : Names s s.startSubscription := .frame rfl fun _ hp => hp
    have hborn := publishNodeBirth_names (startSubscription_owns h) (hn.names hfirst) hsubscribed
    have honline : Names s { s.startSubscription.publishNodeBirth with nodeState := .online } :=
      ⟨hborn.self, hborn.session⟩
    exact honline.trans (pollDevices_names _)

theorem doOnline_names {s : NodeSys P} {birth death : Topic P} (h : s.Owns birth death)
    (hstate : s.nodeState = .online) (hn : s.Named) (io : Outcomes) : Names s (s.doOnline io) := by
  have hpolled := s.pollDevices_names
  unfold doOnline
  split
  · have hdead := publishNodeDeath_names (pollDevices_spec h hstate).1 (hn.names hpolled)
    have hsent := (hpolled.trans hdead).trans (sendDisconnect_names io _)
    exact ⟨hsent.self, hsent.session⟩
  · exact hpolled

theorem work_names {s : NodeSys P} {birth death : Topic P} (h : s.Owns birth death) (hn : s.Named)
    (io : Outcomes) : Names s (s.work io) := by
  rcases s.work_cases io with ⟨_, hwork⟩ | ⟨hreceiver, hsession⟩
  · rw [hwork]
    have hbody : Names s (s.stateStep io) := by
      unfold stateStep
      split
      · exact doIdle_names io s
      · exact doWaitOnConnect_names h hn
      · rename_i hstate
        exact doOnline_names h hstate hn io
      · unfold doWaitOnDisconnect
        split
        · exact .frame rfl fun _ hp => hp
        · exact .frame rfl fun _ hp => hp
    exact ⟨hbody.self, hbody.session⟩
  · refine .frame (congrArg Receiver.self hreceiver) fun p hp => ?_
    rcases hsession with hsession | hsession
    · rwa [hsession] at hp
    · simpa [hsession] using hp

theorem message_names {s : NodeSys P} {birth death : Topic P} (h : s.Owns birth death)
    (topicName : Str) (body : BodyList) : Names s (s.message topicName body) := by
  unfold message
  split
  · rename_i hreceives
    have hself := Receiver.self_message (h.takesNoDevices hreceives) topicName s.now body
    exact .of_same hself.sameNames fun _ hp => hp
  · exact .frame rfl fun _ hp => hp

theorem callback_names (hasResponse : Bool) (version : ProtocolVersion) (s : NodeSys P) :
    Names s (s.callback hasResponse version) := by
  unfold callback
  split
  · exact .frame rfl fun _ hp => hp
  · dsimp only
    split
    · exact .of_same (.of_same rfl rfl) fun _ hp => hp
    · exact .frame rfl fun _ hp => hp

theorem deviceStop_names (device : Str) (s : NodeSys P) : Names s (s.deviceStop device) := by
  refine names_published ⟨.of_same rfl rfl, s.self.sent_abroad ?_⟩
  apply SparkplugDevice.mapAccum_abroad
  · intro o key d h
    split
    · exact SparkplugDevice.stop_abroad key _ s.now d h
    · exact h
  · exact SparkplugDevice.sentAbroad_empty _

/-- Every event but a start keeps the names. -/
theorem step_names {s : NodeSys P} {birth death : Topic P} (h : s.Owns birth death)
    (hn : s.Named) {e : NodeEvent P} (hstart : e ≠ .start) : Names s (s.step e) := by
  cases e with
  | work elapsed io =>
    have htick : (s.tick elapsed).Owns birth death := h.frame rfl rfl (fun hs => hs)
    have hwork := work_names htick ⟨hn.topics, hn.sent⟩ io
    exact ⟨hwork.self, hwork.session⟩
  | link event =>
    refine .frame rfl fun p hp => ?_
    change Action.publish p ∈ if Mqtt.newSession event s.handle then [] else s.session at hp
    split at hp
    · cases hp
    · exact hp
  | connectionLost =>
    change Names s s.connectionLost
    unfold connectionLost
    split
    · exact .of_same (.of_same rfl rfl) fun _ hp => hp
    · exact .frame rfl fun _ hp => hp
  | callback hasResponse version => exact callback_names hasResponse version s
  | message topicName body => exact message_names h topicName body
  | start => exact absurd rfl hstart
  | stop => exact .frame rfl fun _ hp => hp
  | stopReturns =>
    change Names s s.stopReturns
    unfold stopReturns
    split
    · exact .frame rfl fun _ hp => hp
    · exact .frame rfl fun _ hp => hp
  | inService on => exact .of_same (.of_same rfl rfl) fun _ hp => hp
  | waitOnHostOnline wait => exact .of_same (.of_same rfl rfl) fun _ hp => hp
  | deviceInService device on => exact .of_same (.of_same rfl rfl) fun _ hp => hp
  | deviceStart device => exact .of_same (.of_same rfl rfl) fun _ hp => hp
  | deviceStop device => exact deviceStop_names device s
  | addBirthMetric m =>
    exact .of_same (.update rfl rfl fun t _ => Topic.sameName_onPayload _ t) fun _ hp => hp
  | editMetric name edit =>
    exact .of_same (.update rfl rfl fun t _ => Topic.sameName_onPayload _ t) fun _ hp => hp

theorem start_named {s : NodeSys P} {birth death : Topic P} (h : s.Owns birth death)
    (hn : s.Named) : s.start.Named ∧ s.start.self.birthName = s.self.birthName := by
  unfold start
  split
  · exact ⟨hn, rfl⟩
  · split
    · exact ⟨⟨hn.topics, hn.sent⟩, rfl⟩
    · rename_i n hm
      have hmem : death ∈ s.self.topicList := by
        rw [h.self.list]
        simp
      obtain ⟨hname, htopics⟩ := SparkplugNode.start_names h.self (hn.topics death hmem) hm
      refine ⟨⟨htopics, fun p hp => ?_⟩, hname⟩
      have hold := hn.sent p hp
      exact ⟨fun hkind => (hold.birth hkind).trans hname.symm, hold.other⟩

theorem step_named {s : NodeSys P} {birth death : Topic P} (h : s.Owns birth death)
    (hn : s.Named) (e : NodeEvent P) :
    (s.step e).Named ∧ (s.step e).self.birthName = s.self.birthName := by
  by_cases hstart : e = .start
  · rw [hstart]
    exact start_named h hn
  · have hnames := step_names h hn hstart
    exact ⟨hn.names hnames, hnames.self.birthName⟩

theorem named_init (now : UInt64) (setups : List Setup) :
    (init (P := P) now setups).Named := by
  refine ⟨fun t ht => ?_, fun p hp => (by cases hp)⟩
  have hunstarted := SparkplugNode.configured_unstarted now setups t ht
  refine ⟨fun _ hpublish => ?_, hunstarted.death⟩
  exact absurd (hunstarted.publish.symm.trans hpublish) (by decide)

theorem named_run (now : UInt64) (setups : List Setup) (es : List (NodeEvent P)) :
    (run step (init now setups) es).Named ∧
      (run step (init now setups) es).self.birthName =
        (SparkplugNode.configured (P := P) now setups).birthName := by
  let Inv : NodeSys P → Prop := fun s => (∃ birth death, s.Owns birth death) ∧ s.Named ∧
    s.self.birthName = (SparkplugNode.configured (P := P) now setups).birthName
  have hstep : ∀ s e, Inv s → Inv (step s e) := by
    intro s e hs
    obtain ⟨⟨birth, death, howns⟩, hn, hname⟩ := hs
    obtain ⟨hnext, hsame⟩ := step_named howns hn e
    exact ⟨(step_stepped howns e).1, hnext, hsame.trans hname⟩
  exact (run_preserves hstep es ⟨owns_init now setups, named_init now setups, rfl⟩).2

/-- The names under which the messages of a node are handed over: the ones of the session, and
the one that the next will gets. -/
inductive SentUnder (s : NodeSys P) : MessageKind → Str → Prop
  | published {p : Publication P} : Action.publish p ∈ s.session →
    SentUnder s p.kind p.topic.topicName
  | will {t : Topic P} : s.self.topicList.getTopicByMessageType (str "NDEATH") = some t →
    SentUnder s .nodeDeath t.topicName

end NodeSys

namespace SparkplugNode
variable {P : Platform}

/-- The call that a message of the node should reach. -/
def callFor (n : SparkplugNode P) : MessageKind → HandlerCall
  | .nodeBirth => .node .birth n.group n.name
  | .nodeDeath => .node .death n.group n.name
  | .deviceBirth device => .device .birth n.group n.name device
  | .deviceDeath device => .device .death n.group n.name device
  | .state => .state n.name

end SparkplugNode

/-- The name lies in the namespace that hosts subscribe to and makes `Message` choose the
call. -/
structure Addresses (P : Platform) (name : Str) (c : HandlerCall) : Prop where
  nameSpace : level 0 name = str "spBv1.0"
  call : Receiver.handlerCall P name = some c

namespace NodeSys
variable {P : Platform}

/-- In every run of a node that was given its names in any order, the message that addresses
its sender is the NBIRTH, and no other one does. -/
theorem addresses_sender_iff {now : UInt64} {setups : List Setup}
    (hgroup : IsName (SparkplugNode.configured (P := P) now setups).group)
    (hstate : (SparkplugNode.configured (P := P) now setups).group ≠ str "STATE")
    (hname : IsName (SparkplugNode.configured (P := P) now setups).name)
    (es : List (NodeEvent P)) {kind : MessageKind} {name : Str}
    (h : (run step (init now setups) es).SentUnder kind name) :
    Addresses P name ((SparkplugNode.configured (P := P) now setups).callFor kind) ↔
      kind = .nodeBirth := by
  obtain ⟨hnamed, hbirth⟩ := named_run now setups es
  obtain ⟨birth, death, howns⟩ := owns_run now setups es
  constructor
  · intro haddress
    by_contra hkind
    have hforeign : level 0 name = str "spvBv1.0" := by
      cases h with
      | published hp => exact (hnamed.sent _ hp).other hkind
      | will ht =>
        rw [howns.self.findDeath] at ht
        rw [← Option.some.inj ht]
        have hmem : death ∈ (run step (init now setups) es).self.topicList := by
          rw [howns.self.list]
          simp
        exact (hnamed.topics death hmem).death howns.self.deathType
    exact absurd (haddress.nameSpace.symm.trans hforeign) (by decide)
  · rintro rfl
    have hbirthName : name = (SparkplugNode.configured (P := P) now setups).birthName := by
      generalize hkind : MessageKind.nodeBirth = kind at h
      cases h with
      | published hp => exact ((hnamed.sent _ hp).birth hkind.symm).trans hbirth
      | will ht => cases hkind
    have hsparkplug := SparkplugName.node .birth hgroup hstate hname
    rw [hbirthName]
    exact ⟨Receiver.firstLevel_of_name hsparkplug, Receiver.handlerCall_of_name hsparkplug⟩

open DeathAnnounced in
/-- The NBIRTH of a node that went online. -/
theorem birth_is_addressed : ∃ name,
    (run step (init 0 nodeSetup) nodeGoesOnline).SentUnder .nodeBirth name ∧
      Addresses Platform.reference name (.node .birth (str "G") (str "N")) := by
  have hlog : (run step (init 0 nodeSetup) nodeGoesOnline).log = [some .nodeBirth] := by
    decide +kernel
  have hmem : some MessageKind.nodeBirth ∈ (run step (init 0 nodeSetup) nodeGoesOnline).log := by
    rw [hlog]
    exact List.mem_cons_self
  obtain ⟨action, haction, hkind⟩ := List.mem_map.mp hmem
  cases action with
  | publish p =>
    have hsent := SentUnder.published haction
    rw [show p.kind = .nodeBirth from Option.some.inj hkind] at hsent
    refine ⟨_, hsent, ?_⟩
    exact (addresses_sender_iff ⟨by decide, by decide⟩ (by decide) ⟨by decide, by decide⟩ _
      hsent).mpr rfl
  | disconnect => cases hkind

open DeathAnnounced in
/-- The will of the same node has the constructor's name, without any identifier. -/
theorem will_addresses_nobody :
    (run step (init 0 nodeSetup) nodeGoesOnline).SentUnder .nodeDeath
      (str "spvBv1.0//NDEATH/") ∧
    ¬ Addresses Platform.reference (str "spvBv1.0//NDEATH/")
      ((SparkplugNode.configured (P := Platform.reference) 0 nodeSetup).callFor .nodeDeath) := by
  have hname : ((run step (init (P := Platform.reference) 0 nodeSetup)
      nodeGoesOnline).self.topicList.getTopicByMessageType (str "NDEATH")).map Topic.topicName =
      some (str "spvBv1.0//NDEATH/") := by
    decide +kernel
  obtain ⟨t, ht, htopic⟩ := Option.map_eq_some_iff.mp hname
  have hlevel : level 0 (str "spvBv1.0//NDEATH/") = str "spvBv1.0" := by
    decide +kernel
  refine ⟨?_, fun h => ?_⟩
  · rw [← htopic]
    exact .will ht
  · exact absurd (h.nameSpace.symm.trans hlevel) (by decide)

end NodeSys
end PubSub
