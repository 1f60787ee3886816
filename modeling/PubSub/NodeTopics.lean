import PubSub.Frame
import PubSub.NodeTask

/-!
# The topics of a node

Over every run a node has its NBIRTH and NDEATH topics and every device of it its DDEATH
and DBIRTH topics: nothing adds a topic after the constructors, and nothing renames one.
A node that was started publishes its births and has numbered metrics.
-/

namespace PubSub
set_option autoImplicit false

namespace Payload
variable {P : Platform}

def HasAlias (p : Payload P) : Prop := ∃ e ∈ p.metricList.entries, e.2.aliasNumber ≠ 0

theorem HasAlias.kept {p q : Payload P} (h : p.HasAlias) (hpq : p.KeepsAliases q) :
    q.HasAlias := by
  obtain ⟨e, he, hne⟩ := h
  obtain ⟨m, hm, halias⟩ := hpq e he hne
  exact ⟨(e.1, m), hm, by simpa [halias] using hne⟩

theorem hasAlias_assignAliasNumbers {n : UInt64} (hn : n ≠ 0) {p : Payload P}
    (h : p.metricList.entries ≠ []) : (p.assignAliasNumbers n).2.HasAlias := by
  obtain ⟨e, es, hes⟩ := List.exists_cons_of_ne_nil h
  refine ⟨(e.1, { e.2 with aliasNumber := n }), ?_, hn⟩
  simp [assignAliasNumbers, hes, Entries.mapAccum]

end Payload

namespace SparkplugDevice
variable {P : Platform}

structure Owns (d : SparkplugDevice P) (death birth : Topic P) : Prop where
  list : d.topicList = [death, birth]
  deathType : death.messageType = str "DDEATH"
  birthType : birth.messageType = str "DBIRTH"
  deathSpace : death.nameSpace = str "spvBv1.0"
  birthSpace : birth.nameSpace = str "spvBv1.0"

def HasTopics (d : SparkplugDevice P) : Prop := ∃ death birth, d.Owns death birth

theorem Owns.findDeath {d : SparkplugDevice P} {death birth : Topic P} (h : d.Owns death birth) :
    d.topicList.getTopicByMessageType (str "DDEATH") = some death := by
  rw [h.list]
  exact TopicList.find_first h.deathType

theorem Owns.findBirth {d : SparkplugDevice P} {death birth : Topic P} (h : d.Owns death birth) :
    d.topicList.getTopicByMessageType (str "DBIRTH") = some birth := by
  rw [h.list]
  exact TopicList.find_second h.deathType (by decide) h.birthType

theorem Owns.updateDeath {d e : SparkplugDevice P} {death birth : Topic P}
    (h : d.Owns death birth) {f : Topic P → Topic P}
    (hlist : e.topicList = d.topicList.update (str "DDEATH") f)
    (htype : (f death).messageType = death.messageType)
    (hspace : (f death).nameSpace = death.nameSpace) : e.Owns (f death) birth where
  list := by
    rw [hlist, h.list]
    exact TopicList.update_first f h.deathType
  deathType := htype.trans h.deathType
  birthType := h.birthType
  deathSpace := hspace.trans h.deathSpace
  birthSpace := h.birthSpace

theorem Owns.updateBirth {d e : SparkplugDevice P} {death birth : Topic P}
    (h : d.Owns death birth) {f : Topic P → Topic P}
    (hlist : e.topicList = d.topicList.update (str "DBIRTH") f)
    (htype : (f birth).messageType = birth.messageType)
    (hspace : (f birth).nameSpace = birth.nameSpace) : e.Owns death (f birth) where
  list := by
    rw [hlist, h.list]
    exact TopicList.update_second f h.deathType (by decide) h.birthType
  deathType := h.deathType
  birthType := htype.trans h.birthType
  deathSpace := h.deathSpace
  birthSpace := hspace.trans h.birthSpace

theorem HasTopics.of_same {d e : SparkplugDevice P} (h : d.HasTopics)
    (hlist : e.topicList = d.topicList) : e.HasTopics := by
  obtain ⟨death, birth, howns⟩ := h
  exact ⟨death, birth, hlist.trans howns.list, howns.deathType, howns.birthType,
    howns.deathSpace, howns.birthSpace⟩

theorem hasTopics_create (parentName : Str) (now : UInt64) :
    (create (P := P) parentName now).HasTopics := by
  unfold create createDeviceBirthTopic createDeviceDeathTopic
  dsimp only
  rw [TopicList.deletePrevious_nil, List.nil_append]
  rw [TopicList.deletePrevious_of_none]
  · exact ⟨_, _, rfl, rfl, rfl, rfl, rfl⟩
  · rw [TopicList.find_cons_ne]
    · rfl
    · exact TopicList.hasMessageType_ne (rfl : _ = str "DDEATH") (by decide)

theorem HasTopics.payloadsOnly {d e : SparkplugDevice P} (h : d.HasTopics)
    (he : d.topicList.PayloadsOnly e.topicList) : e.HasTopics := by
  obtain ⟨death, birth, howns⟩ := h
  rw [howns.list] at he
  generalize hlist : e.topicList = list at he
  cases he with
  | cons hdeath hrest =>
    cases hrest with
    | cons hbirth hnil =>
      cases hnil
      exact ⟨_, _, hlist, hdeath.messageType.trans howns.deathType,
        hbirth.messageType.trans howns.birthType, hdeath.nameSpace.trans howns.deathSpace,
        hbirth.nameSpace.trans howns.birthSpace⟩

theorem HasTopics.setAllMetricsInvalid {d : SparkplugDevice P} (h : d.HasTopics) :
    d.setAllMetricsInvalid.HasTopics := by
  obtain ⟨death, birth, howns⟩ := h
  refine ⟨death, birth.setAllMetricsInvalid, ?_, howns.deathType, howns.birthType,
    howns.deathSpace, howns.birthSpace⟩
  have hdeath : isBirth death = false := by simp [isBirth, howns.deathType]; decide
  have hbirth : isBirth birth = true := by simp [isBirth, howns.birthType]
  simp [SparkplugDevice.setAllMetricsInvalid, howns.list, hdeath, hbirth]

/-- The outcome of a publication of a device. -/
structure Sends (d : SparkplugDevice P) (o : Outbox P) (sent : List MessageKind)
    (r : SparkplugDevice P × Outbox P) : Prop where
  hasTopics : r.1.HasTopics
  status : r.1.status = d.status
  kinds : r.2.kinds = o.kinds ++ sent

/-- The topic that goes out: renamed, with a new timestamp and with its body. -/
theorem sent_topic {t : Topic P} (parent : ParentView) (path : Str) (kind : MessageKind)
    (now : UInt64) (o : Outbox P) (hspace : t.nameSpace = str "spvBv1.0")
    (htype : t.messageType ≠ []) :
    let renamed := (t.setTopic path).onPayload fun p => p.setTimestamp now false
    let sent := if parent.isConnected then o.publish kind renamed else (renamed, o)
    sent.1.messageType = t.messageType ∧ sent.1.nameSpace = t.nameSpace ∧
      sent.2.kinds = o.kinds ++ if parent.isConnected then [kind] else [] := by
  have hns : t.nameSpace ≠ [] := by
    rw [hspace]
    decide
  have hsp : t.nameSpace ≠ str "spBv1.0" := by
    rw [hspace]
    decide
  have hrenamed : (t.setTopic path).messageType = t.messageType :=
    Topic.setTopic_messageType htype (.inr ⟨hns, hsp⟩)
  have hspaced : (t.setTopic path).nameSpace = t.nameSpace := Topic.setTopic_nameSpace hns
  dsimp only
  split
  · simp [Outbox.publish, Outbox.kinds, hrenamed, hspaced]
  · simp [hrenamed, hspaced]

theorem publishDeviceBirth_sends {d : SparkplugDevice P} (h : d.HasTopics) (key : Str)
    (parent : ParentView) (now : UInt64) (o : Outbox P) :
    d.Sends o (if parent.isConnected then [.deviceBirth key] else [])
      (d.publishDeviceBirth key parent now o) := by
  obtain ⟨death, birth, howns⟩ := h
  have htype : birth.messageType ≠ [] := by
    rw [howns.birthType]
    decide
  obtain ⟨hmessageType, hnameSpace, hkinds⟩ := sent_topic parent
    (d.topicPath (str "DBIRTH") parent.name) (.deviceBirth key) now o howns.birthSpace htype
  unfold publishDeviceBirth publishMessage
  rw [howns.findBirth]
  refine ⟨⟨_, _, howns.updateBirth rfl ?_ ?_⟩, rfl, hkinds⟩
  · exact hmessageType
  · exact hnameSpace

theorem publishDeviceDeath_sends {d : SparkplugDevice P} (h : d.HasTopics) (key : Str)
    (parent : ParentView) (now : UInt64) (o : Outbox P) :
    d.Sends o (if parent.isConnected then [.deviceDeath key] else [])
      (d.publishDeviceDeath key parent now o) := by
  obtain ⟨death, birth, howns⟩ := h
  have htype : death.messageType ≠ [] := by
    rw [howns.deathType]
    decide
  obtain ⟨hmessageType, hnameSpace, hkinds⟩ := sent_topic parent
    (d.topicPath (str "DDEATH") parent.name) (.deviceDeath key) now o howns.deathSpace htype
  unfold publishDeviceDeath publishMessage
  rw [howns.findDeath]
  refine ⟨⟨_, _, howns.updateDeath rfl ?_ ?_⟩, rfl, hkinds⟩
  · exact hmessageType
  · exact hnameSpace

/-- One poll of a device. -/
structure Polled (key : Str) (parent : ParentView) (d : SparkplugDevice P) (o : Outbox P)
    (r : SparkplugDevice P × Outbox P) : Prop where
  hasTopics : r.1.HasTopics
  status : r.1.status = d.status.poll parent
  kinds : r.2.kinds =
    o.kinds ++ if parent.isConnected then d.status.pollMessages key parent else []

theorem poll_spec {d : SparkplugDevice P} (h : d.HasTopics) (key : Str) (parent : ParentView)
    (now : UInt64) (o : Outbox P) : Polled key parent d o (d.poll key parent now o) := by
  have hstatus : d.status = ⟨d.deviceState, d.inService⟩ := rfl
  unfold poll
  split
  · rename_i hstate
    rw [hstate] at hstatus
    split
    · rename_i hleave
      have hsent := publishDeviceDeath_sends h key parent now o
      refine ⟨hsent.hasTopics.setAllMetricsInvalid.of_same rfl, ?_, ?_⟩
      · rw [hstatus]
        simp only [DeviceStatus.poll, hleave, if_true]
        exact congrArg (DeviceStatus.mk .offline) (congrArg DeviceStatus.inService hsent.status)
      · rw [hstatus]
        simpa only [DeviceStatus.pollMessages, hleave, if_true] using hsent.kinds
    · rename_i hstay
      refine ⟨h, ?_, ?_⟩
      · simp [DeviceStatus.poll, hstatus, hstay]
      · simp [DeviceStatus.pollMessages, hstatus, hstay]
  · rename_i hstate
    rw [hstate] at hstatus
    split
    · rename_i henter
      have hsent := publishDeviceBirth_sends h key parent now o
      refine ⟨hsent.hasTopics.of_same rfl, ?_, ?_⟩
      · rw [hstatus]
        simp only [DeviceStatus.poll, henter, if_true]
        exact congrArg (DeviceStatus.mk .online) (congrArg DeviceStatus.inService hsent.status)
      · rw [hstatus]
        simpa only [DeviceStatus.pollMessages, henter, if_true] using hsent.kinds
    · rename_i hstay
      refine ⟨h, ?_, ?_⟩
      · simp [DeviceStatus.poll, hstatus, hstay]
      · simp [DeviceStatus.pollMessages, hstatus, hstay]
  · rename_i hstate
    rw [hstate] at hstatus
    refine ⟨h.setAllMetricsInvalid.of_same rfl, ?_, ?_⟩
    · rw [hstatus]
      rfl
    · simp [DeviceStatus.pollMessages, hstatus]

theorem stop_spec {d : SparkplugDevice P} (h : d.HasTopics) (key : Str) (parent : ParentView)
    (now : UInt64) (o : Outbox P) :
    d.Sends o (if d.deviceState = .online ∧ parent.isOnline ∧ parent.isConnected then
      [.deviceDeath key] else []) (d.stop key parent now o) := by
  have hinvalid := h.setAllMetricsInvalid
  unfold stop
  dsimp only
  by_cases hstop : d.setAllMetricsInvalid.deviceState = .online ∧ parent.isOnline = true
  · rw [if_pos hstop]
    have hsent := publishDeviceDeath_sends hinvalid key parent now o
    refine ⟨hsent.hasTopics, hsent.status, ?_⟩
    rw [hsent.kinds]
    cases hc : parent.isConnected with
    | true =>
      rw [if_pos rfl, if_pos]
      exact ⟨hstop.1, hstop.2, rfl⟩
    | false => simp
  · rw [if_neg hstop]
    refine ⟨hinvalid, rfl, ?_⟩
    rw [if_neg]
    · simp
    · intro hand
      exact hstop ⟨hand.1, hand.2.1⟩

section Fleet

/-- What one step does to every device of a node: its new status and its messages. -/
theorem mapAccum_outbox {f : Outbox P → Str → SparkplugDevice P → Outbox P × SparkplugDevice P}
    {status : Str → DeviceStatus → DeviceStatus} {sent : Str → DeviceStatus → List MessageKind}
    (hf : ∀ o key d, HasTopics d → (f o key d).2.HasTopics ∧
      (f o key d).2.status = status key d.status ∧
      (f o key d).1.kinds = o.kinds ++ sent key d.status)
    {es : List (Str × SparkplugDevice P)} (h : ∀ e ∈ es, e.2.HasTopics) (o : Outbox P) :
    (∀ e ∈ (Entries.mapAccum f o es).2, e.2.HasTopics) ∧
    (Entries.mapAccum f o es).2.map (fun e => (e.1, e.2.status)) =
      (es.map fun e => (e.1, e.2.status)).map (fun e => (e.1, status e.1 e.2)) ∧
    (Entries.mapAccum f o es).1.kinds =
      o.kinds ++ (es.map fun e => (e.1, e.2.status)).flatMap fun e => sent e.1 e.2 := by
  induction es generalizing o with
  | nil => simp [Entries.mapAccum]
  | cons e es ih =>
    obtain ⟨htopics, hstatus, hkinds⟩ := hf o e.1 e.2 (h e List.mem_cons_self)
    obtain ⟨hrest, hstates, hall⟩ :=
      ih (fun a ha => h a (List.mem_cons_of_mem e ha)) (f o e.1 e.2).1
    simp only [Entries.mapAccum]
    refine ⟨?_, ?_, ?_⟩
    · intro a ha
      rcases List.mem_cons.mp ha with rfl | ha
      · exact htopics
      · exact hrest a ha
    · simp only [List.map_cons, hstatus, hstates]
    · rw [hall, hkinds]
      simp [List.append_assoc]

end Fleet

end SparkplugDevice

namespace SparkplugNode
variable {P : Platform}

/-- The two topics of a node, in the order of the list. -/
structure Owns (n : SparkplugNode P) (birth death : Topic P) : Prop where
  isHost : n.isHost = false
  list : n.topicList = [birth, death]
  birthType : birth.messageType = str "NBIRTH"
  deathType : death.messageType = str "NDEATH"
  birthSpace : birth.nameSpace = str "spvBv1.0"
  devices : ∀ e ∈ n.deviceList.entries, e.2.HasTopics

theorem Owns.findBirth {n : SparkplugNode P} {birth death : Topic P} (h : n.Owns birth death) :
    n.topicList.getTopicByMessageType (str "NBIRTH") = some birth := by
  rw [h.list]
  exact TopicList.find_first h.birthType

theorem Owns.findDeath {n : SparkplugNode P} {birth death : Topic P} (h : n.Owns birth death) :
    n.topicList.getTopicByMessageType (str "NDEATH") = some death := by
  rw [h.list]
  exact TopicList.find_second h.birthType (by decide) h.deathType

theorem Owns.of_same {n m : SparkplugNode P} {birth death : Topic P} (h : n.Owns birth death)
    (hhost : m.isHost = n.isHost) (hlist : m.topicList = n.topicList)
    (hdevices : m.deviceList = n.deviceList) : m.Owns birth death where
  isHost := hhost.trans h.isHost
  list := hlist.trans h.list
  birthType := h.birthType
  deathType := h.deathType
  birthSpace := h.birthSpace
  devices := by
    rw [hdevices]
    exact h.devices

theorem Owns.updateBirth {n m : SparkplugNode P} {birth death : Topic P}
    (h : n.Owns birth death) {f : Topic P → Topic P} (hhost : m.isHost = n.isHost)
    (hlist : m.topicList = n.topicList.update (str "NBIRTH") f)
    (hdevices : m.deviceList = n.deviceList) (htype : (f birth).messageType = birth.messageType)
    (hspace : (f birth).nameSpace = birth.nameSpace) : m.Owns (f birth) death where
  isHost := hhost.trans h.isHost
  list := by
    rw [hlist, h.list]
    exact TopicList.update_first f h.birthType
  birthType := htype.trans h.birthType
  deathType := h.deathType
  birthSpace := hspace.trans h.birthSpace
  devices := by
    rw [hdevices]
    exact h.devices

theorem Owns.updateDeath {n m : SparkplugNode P} {birth death : Topic P}
    (h : n.Owns birth death) {f : Topic P → Topic P} (hhost : m.isHost = n.isHost)
    (hlist : m.topicList = n.topicList.update (str "NDEATH") f)
    (hdevices : m.deviceList = n.deviceList)
    (htype : (f death).messageType = death.messageType) : m.Owns birth (f death) where
  isHost := hhost.trans h.isHost
  list := by
    rw [hlist, h.list]
    exact TopicList.update_second f h.birthType (by decide) h.deathType
  birthType := h.birthType
  deathType := htype.trans h.deathType
  birthSpace := h.birthSpace
  devices := by
    rw [hdevices]
    exact h.devices

theorem Owns.withDevices {n m : SparkplugNode P} {birth death : Topic P} (h : n.Owns birth death)
    (hhost : m.isHost = n.isHost) (hlist : m.topicList = n.topicList)
    (hdevices : ∀ e ∈ m.deviceList.entries, e.2.HasTopics) : m.Owns birth death where
  isHost := hhost.trans h.isHost
  list := hlist.trans h.list
  birthType := h.birthType
  deathType := h.deathType
  birthSpace := h.birthSpace
  devices := hdevices

theorem Owns.updateDevice {n : SparkplugNode P} {birth death : Topic P} (h : n.Owns birth death)
    (name : Str) {f : SparkplugDevice P → SparkplugDevice P}
    (hf : ∀ d, d.HasTopics → (f d).HasTopics) : (n.updateDevice name f).Owns birth death := by
  refine h.withDevices rfl rfl ?_
  intro e he
  rcases Entries.mem_updateFirst he with he | ⟨d, hd, he⟩
  · exact h.devices e he
  · rw [he]
    exact hf d (h.devices _ hd)

theorem owns_create (now : UInt64) :
    ∃ birth death, (create (P := P) now).Owns birth death := by
  obtain ⟨birth, death, hlist, hbirth, hdeath, hspace, _, _, _⟩ := create_topicList (P := P) now
  exact ⟨birth, death, rfl, hlist, hbirth, hdeath, hspace, fun _ he => absurd he List.not_mem_nil⟩

theorem owns_configure {n : SparkplugNode P} {birth death : Topic P} (h : n.Owns birth death)
    (setup : Setup) : ∃ next, (n.configure setup).Owns next death := by
  cases setup with
  | createDevice name now =>
    refine ⟨birth, ?_⟩
    simp only [configure, createDevice]
    split
    · exact h
    · split
      · exact h
      · refine h.withDevices rfl rfl ?_
        intro e he
        rcases Entries.mem_insert_subset he with rfl | he
        · exact (SparkplugDevice.hasTopics_create n.name now).of_same rfl
        · exact h.devices e he
  | addBirthMetric m => exact ⟨_, h.updateBirth rfl rfl rfl rfl rfl⟩
  | addDeviceMetric device m =>
    refine ⟨birth, h.updateDevice device ?_⟩
    intro d hd
    obtain ⟨deviceDeath, deviceBirth, howns⟩ := hd
    exact ⟨_, _, howns.updateBirth rfl rfl rfl⟩
  | _ => exact ⟨birth, h.of_same rfl rfl rfl⟩

theorem owns_configured (now : UInt64) (setups : List Setup) :
    ∃ birth death, (configured (P := P) now setups).Owns birth death := by
  have hfold : ∀ n : SparkplugNode P, (∃ birth death, n.Owns birth death) →
      ∃ birth death, (setups.foldl configure n).Owns birth death := by
    induction setups with
    | nil => exact fun _ h => h
    | cons setup setups ih =>
      intro n h
      obtain ⟨birth, death, howns⟩ := h
      obtain ⟨next, hnext⟩ := owns_configure howns setup
      exact ih _ ⟨next, death, hnext⟩
  exact hfold _ (owns_create now)

theorem Owns.payloadsOnly {n m : SparkplugNode P} {birth death : Topic P}
    (h : n.Owns birth death) (hm : n.PayloadsOnly m) :
    ∃ birth2 death2, m.Owns birth2 death2 ∧ birth.PayloadOnly birth2 := by
  have htopics := hm.topics
  rw [h.list] at htopics
  generalize hlist : m.topicList = list at htopics
  cases htopics with
  | cons hbirth hrest =>
    cases hrest with
    | cons hdeath hnil =>
      cases hnil
      refine ⟨_, _, ⟨?_, hlist, hbirth.messageType.trans h.birthType,
        hdeath.messageType.trans h.deathType, hbirth.nameSpace.trans h.birthSpace, ?_⟩, hbirth⟩
      · rw [hm.base]
        exact h.isHost
      · intro e he
        obtain ⟨d, hd, hkept⟩ := hm.device he
        exact (h.devices d hd).payloadsOnly hkept.topics

/-- Numbering the metrics of a topic gives the topic another payload. -/
theorem owns_assignAliasNumbers {n : SparkplugNode P} {birth death : Topic P}
    (h : n.Owns birth death) (hmetrics : birth.payload.metricList.entries ≠ []) :
    ∃ next, n.assignAliasNumbers.Owns next death ∧ next.publish = birth.publish ∧
      next.payload.HasAlias ∧
      n.assignAliasNumbers.deviceList.entries.map (fun e => (e.1, e.2.status)) =
        n.deviceList.entries.map (fun e => (e.1, e.2.status)) := by
  have hbirth : (n.topicList.assignAliasNumbers (str "NBIRTH") 1).2 =
      n.topicList.update (str "NBIRTH") fun t =>
        { t with payload := (birth.payload.assignAliasNumbers 1).2 } := by
    rw [TopicList.assignAliasNumbers, h.findBirth]
  have hnumbered := h.updateBirth
    (m := { n with topicList := (n.topicList.assignAliasNumbers (str "NBIRTH") 1).2 })
    (f := fun t => { t with payload := (birth.payload.assignAliasNumbers 1).2 })
    rfl hbirth rfl rfl rfl
  refine ⟨_, hnumbered.withDevices rfl rfl ?_, rfl,
    Payload.hasAlias_assignAliasNumbers (by decide) hmetrics, ?_⟩
  · intro e he
    obtain ⟨next, d, hd, he⟩ := Entries.mem_mapAccum he
    rw [he]
    obtain ⟨deviceDeath, deviceBirth, howns⟩ := h.devices _ hd
    dsimp only
    rw [TopicList.assignAliasNumbers, howns.findBirth]
    exact ⟨_, _, howns.updateBirth rfl rfl rfl⟩
  · simp only [assignAliasNumbers, FoldedMap.entries_mapAccum]
    generalize (n.topicList.assignAliasNumbers (str "NBIRTH") 1).1 = first
    induction n.deviceList.entries generalizing first with
    | nil => rfl
    | cons e es ih =>
      simp only [Entries.mapAccum, List.map_cons, ih]
      rfl

theorem owns_startTopics {n : SparkplugNode P} {birth death : Topic P}
    (h : n.Owns birth death) : ∃ next last, n.startTopics.Owns next last ∧ next.publish = true ∧
      next.payload = birth.payload := by
  have hns : birth.nameSpace ≠ [] := by
    rw [h.birthSpace]
    decide
  have hsp : birth.nameSpace ≠ str "spBv1.0" := by
    rw [h.birthSpace]
    decide
  have htype : birth.messageType ≠ [] := by
    rw [h.birthType]
    decide
  unfold startTopics
  generalize n.topicPath (str "spBv1.0") (str "NBIRTH") = path
  have hmessageType : (birth.setTopic path).messageType = birth.messageType :=
    Topic.setTopic_messageType htype (.inr ⟨hns, hsp⟩)
  have hnameSpace : (birth.setTopic path).nameSpace = birth.nameSpace :=
    Topic.setTopic_nameSpace hns
  have hpublished := h.updateBirth
    (m := { n with topicList := n.topicList.update (str "NBIRTH") fun t =>
      { t.setTopic path with publish := true } })
    (f := fun t => { t.setTopic path with publish := true }) rfl rfl rfl hmessageType hnameSpace
  refine ⟨_, _, hpublished.updateDeath (f := fun t => { t with publish := true }) rfl ?_ rfl rfl,
    ?_, ?_⟩
  · rfl
  · rfl
  · exact Topic.setTopic_payload path birth

/-- What `Start` makes of the NBIRTH topic: it is published, and its metrics are numbered. -/
theorem owns_start {n m : SparkplugNode P} {birth death : Topic P} (h : n.Owns birth death)
    (hm : n.start = some m) : ∃ next last, m.Owns next last ∧ next.publish = true ∧
      next.payload.HasAlias ∧
      m.deviceList.entries.map (fun e => (e.1, e.2.status)) =
        n.deviceList.entries.map (fun e => (e.1, e.2.status)) := by
  unfold start at hm
  split at hm
  · cases hm
  · rw [← Option.some.inj hm]
    have hmetrics := h.updateBirth (m := n.addDefaultMetrics) (f := fun t => t.onPayload _)
      rfl rfl rfl rfl rfl
    obtain ⟨named, last, hnamed, hpublish, hpayload⟩ := owns_startTopics hmetrics
    have hsubscribed := hnamed.of_same
      (m := n.addDefaultMetrics.startTopics.startSubscriptions) rfl rfl rfl
    have hne : named.payload.metricList.entries ≠ [] := by
      rw [hpayload]
      exact Payload.entries_withMetric_ne_nil _ _ _
    obtain ⟨next, hnext, hsame, halias, hstatus⟩ := owns_assignAliasNumbers hsubscribed hne
    exact ⟨next, last, hnext, hsame.trans hpublish, halias, hstatus⟩

end SparkplugNode
end PubSub
