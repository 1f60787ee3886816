import PubSub.AliasBinding
import PubSub.DeviceCommands
import PubSub.HostTopics
import PubSub.NodeSession
import PubSub.StaleMirror
import PubSub.Shared.Counting

/-!
# The alias numbers of a node

The numbers of the NBIRTH metrics and of the DBIRTH metrics of all the devices, in the order
in which `Start` hands them out. Publishing, polling and messages leave them alone.
-/

namespace PubSub
set_option autoImplicit false

namespace Payload
variable {P : Platform}

def aliases (p : Payload P) : List UInt64 := p.metricList.entries.map fun e => e.2.aliasNumber

theorem aliases_eq (p : Payload P) : p.aliases = p.bindings.entries.map Prod.snd := by
  rw [aliases, bindings, FoldedMap.entries_view, List.map_map]
  rfl

theorem aliases_of_bindings {p q : Payload P} (h : q.bindings = p.bindings) :
    q.aliases = p.aliases := by
  rw [aliases_eq, aliases_eq, h]

theorem bindings_generateProtobuf (p : Payload P) : p.generateProtobuf.bindings = p.bindings := by
  apply FoldedMap.ext
  simp only [bindings, FoldedMap.entries_view, generateProtobuf, PayloadHelper.writeProtobuf,
    FoldedMap.entries_mapValues, Entries.mapValues, List.map_map]
  apply List.map_congr_left
  intro e _
  dsimp only [Function.comp]
  split <;> rfl

theorem bindings_updateMetric (name : Str) {f : Metric → Metric}
    (hf : ∀ m, (f m).aliasNumber = m.aliasNumber) (p : Payload P) :
    (p.updateMetric name f).bindings = p.bindings :=
  FoldedMap.view_updateFirst_of_same (fun e _ => hf e.2) _

theorem bindings_receive_data (now : UInt64) (body : BodyList) (p : Payload P) :
    (p.receiveProtobuf false now body).bindings = p.bindings := by
  unfold receiveProtobuf receive
  dsimp only
  split
  · rfl
  · unfold parseSparkplugProtobuf PayloadHelper.parseProtobuf
    split
    · rfl
    · split
      · rfl
      · rw [PayloadHelper.parseMessage, bindings_foldl_data, bindings_parseHeader]
        rfl

theorem bindings_setAllMetricsInvalid (p : Payload P) :
    p.setAllMetricsInvalid.bindings = p.bindings := by
  apply FoldedMap.ext
  simp [bindings, setAllMetricsInvalid, Entries.mapValues]

/-- A new metric brings its number, one that is there keeps it. -/
theorem aliases_addMetric (m : Metric) (p : Payload P) :
    (p.addMetric m).aliases = p.aliases ∧ (m.name = [] ∨ (p.getMetric m.name).isSome = true) ∨
    (p.addMetric m).aliases.Perm (m.aliasNumber :: p.aliases) ∧
      m.name ≠ [] ∧ p.getMetric m.name = none := by
  unfold addMetric
  split
  · rename_i hname
    exact .inl ⟨rfl, .inl hname⟩
  · rename_i hname
    cases hget : p.getMetric m.name with
    | some found =>
      refine .inl ⟨?_, .inr rfl⟩
      have hsame := FoldedMap.insert_of_get?_some (u := m) hget
      rw [hsame]
    | none => exact .inr ⟨(Entries.insert_perm m hget).map _, hname, rfl⟩

theorem aliases_createMetric (name : Str) (p : Payload P) :
    (p.createMetric name).aliases = p.aliases ∧ (p.getMetric name).isSome = true ∨
    (p.createMetric name).aliases.Perm (0 :: p.aliases) ∧ p.getMetric name = none := by
  unfold createMetric
  cases hget : p.getMetric name with
  | some found =>
    refine .inl ⟨?_, rfl⟩
    have hsame := FoldedMap.insert_of_get?_some (u := ({ name := name } : Metric)) hget
    rw [hsame]
  | none => exact .inr ⟨(Entries.insert_perm ({ name := name } : Metric) hget).map _, rfl⟩

/-- The numbers follow the counter, whatever they were. -/
theorem aliases_assignAliasNumbers (n : UInt64) (p : Payload P) :
    (p.assignAliasNumbers n).2.aliases = countFrom n p.aliases.length ∧
      (p.assignAliasNumbers n).1 = countOn n p.aliases.length := by
  simp only [assignAliasNumbers, aliases, FoldedMap.entries_mapAccum, List.length_map]
  change _ ∧ (Entries.mapAccum _ n p.metricList.entries).1 = _
  induction p.metricList.entries generalizing n with
  | nil => exact ⟨rfl, rfl⟩
  | cons e es ih =>
    obtain ⟨hlist, hnext⟩ := ih (n + 1)
    constructor
    · simp only [Entries.mapAccum, List.map_cons, List.length_cons, countFrom, hlist]
    · simp only [Entries.mapAccum, List.length_cons, countOn, hnext]

end Payload

namespace Topic
variable {P : Platform}

theorem bindings_doPublish (sequenceNumber : UInt8) (t : Topic P) :
    (SparkplugTopic.doPublish sequenceNumber t).payload.bindings = t.payload.bindings := by
  rw [SparkplugTopic.doPublish, cacheTopic_payload]
  unfold SparkplugTopic.generate
  split
  · rfl
  · exact Payload.bindings_generateProtobuf _

/-- The topic that a device hands over has the numbers of the topic that it was made of. -/
theorem bindings_sent (t : Topic P) (parent : ParentView) (path : Str) (kind : MessageKind)
    (now : UInt64) (o : Outbox P) :
    let renamed := (t.setTopic path).onPayload fun p => p.setTimestamp now false
    (if parent.isConnected then o.publish kind renamed else (renamed, o)).1.payload.bindings =
      t.payload.bindings := by
  have hrenamed : ((t.setTopic path).payload.setTimestamp now false).bindings =
      t.payload.bindings := by
    rw [Payload.bindings_setTimestamp, setTopic_payload]
  dsimp only
  split
  · exact (bindings_doPublish _ _).trans hrenamed
  · exact hrenamed

end Topic

namespace TopicList
variable {P : Platform}

def aliases (messageType : Str) (list : TopicList P) : List UInt64 :=
  (list.metricsOf messageType).map fun e => e.2.aliasNumber

theorem aliases_of_find {messageType : Str} {list : TopicList P} {t : Topic P}
    (h : list.getTopicByMessageType messageType = some t) :
    list.aliases messageType = t.payload.aliases := by
  rw [aliases, metricsOf_of_find h, Payload.aliases]

theorem aliases_congr {list changed : TopicList P} {messageType : Str}
    (h : changed.getTopicByMessageType messageType = list.getTopicByMessageType messageType) :
    changed.aliases messageType = list.aliases messageType := by
  rw [TopicList.aliases, TopicList.aliases, TopicList.metricsOf, TopicList.metricsOf, h]

/-- Numbering a topic's metrics numbers them in a row. -/
theorem aliases_assignAliasNumbers {messageType : Str} {list : TopicList P} {t : Topic P}
    (h : list.getTopicByMessageType messageType = some t) (n : UInt64) :
    (list.assignAliasNumbers messageType n).2.aliases messageType =
        countFrom n (list.aliases messageType).length ∧
      (list.assignAliasNumbers messageType n).1 =
        countOn n (list.aliases messageType).length := by
  obtain ⟨hlist, hnext⟩ := t.payload.aliases_assignAliasNumbers n
  rw [aliases_of_find h]
  unfold assignAliasNumbers
  rw [h]
  refine ⟨?_, hnext⟩
  have hfind : (list.update messageType fun t' =>
      { t' with payload := (t.payload.assignAliasNumbers n).2 }).getTopicByMessageType messageType =
      some { t with payload := (t.payload.assignAliasNumbers n).2 } := by
    have hself := @find_update_self P messageType
      (fun t' => { t' with payload := (t.payload.assignAliasNumbers n).2 }) (fun _ => rfl) list
    rw [hself, h]
    rfl
  exact (aliases_of_find hfind).trans hlist

end TopicList

namespace SparkplugDevice
variable {P : Platform}

/-- The numbers in the DBIRTH payload. -/
def aliases (d : SparkplugDevice P) : List UInt64 := d.topicList.aliases (str "DBIRTH")

theorem Owns.aliases {d : SparkplugDevice P} {death birth : Topic P} (h : d.Owns death birth) :
    d.aliases = birth.payload.aliases := TopicList.aliases_of_find h.findBirth

theorem aliases_setAllMetricsInvalid {d : SparkplugDevice P} (h : d.HasTopics) :
    d.setAllMetricsInvalid.aliases = d.aliases := by
  obtain ⟨death, birth, howns⟩ := h
  have hdeath : isBirth death = false := by simp [isBirth, howns.deathType]; decide
  have hbirth : isBirth birth = true := by simp [isBirth, howns.birthType]
  have hnext : d.setAllMetricsInvalid.Owns death birth.setAllMetricsInvalid :=
    ⟨by simp [setAllMetricsInvalid, howns.list, hdeath, hbirth], howns.deathType,
      howns.birthType, howns.deathSpace, howns.birthSpace⟩
  rw [hnext.aliases, howns.aliases]
  exact Payload.aliases_of_bindings (Payload.bindings_setAllMetricsInvalid _)

theorem aliases_publishDeviceBirth {d : SparkplugDevice P} (h : d.HasTopics) (key : Str)
    (parent : ParentView) (now : UInt64) (o : Outbox P) :
    (d.publishDeviceBirth key parent now o).1.aliases = d.aliases := by
  obtain ⟨death, birth, howns⟩ := h
  have htype : birth.messageType ≠ [] := by
    rw [howns.birthType]
    decide
  obtain ⟨hmessageType, hnameSpace, _⟩ := sent_topic parent
    (d.topicPath (str "DBIRTH") parent.name) (.deviceBirth key) now o howns.birthSpace htype
  unfold publishDeviceBirth publishMessage
  rw [howns.findBirth, howns.aliases]
  refine (Owns.aliases (howns.updateBirth rfl ?_ ?_)).trans ?_
  · exact hmessageType
  · exact hnameSpace
  · exact Payload.aliases_of_bindings (Topic.bindings_sent birth parent _ _ now o)

theorem aliases_publishDeviceDeath {d : SparkplugDevice P} (h : d.HasTopics) (key : Str)
    (parent : ParentView) (now : UInt64) (o : Outbox P) :
    (d.publishDeviceDeath key parent now o).1.aliases = d.aliases := by
  obtain ⟨death, birth, howns⟩ := h
  have htype : death.messageType ≠ [] := by
    rw [howns.deathType]
    decide
  obtain ⟨hmessageType, hnameSpace, _⟩ := sent_topic parent
    (d.topicPath (str "DDEATH") parent.name) (.deviceDeath key) now o howns.deathSpace htype
  unfold publishDeviceDeath publishMessage
  rw [howns.findDeath, howns.aliases]
  refine Owns.aliases (howns.updateDeath rfl ?_ ?_)
  · exact hmessageType
  · exact hnameSpace

theorem aliases_poll {d : SparkplugDevice P} (h : d.HasTopics) (key : Str) (parent : ParentView)
    (now : UInt64) (o : Outbox P) : (d.poll key parent now o).1.aliases = d.aliases := by
  unfold poll
  split
  · split
    · have hsent := (publishDeviceDeath_sends h key parent now o).hasTopics
      exact (aliases_setAllMetricsInvalid hsent).trans (aliases_publishDeviceDeath h key parent now o)
    · rfl
  · split
    · exact aliases_publishDeviceBirth h key parent now o
    · rfl
  · exact aliases_setAllMetricsInvalid h

theorem aliases_stop {d : SparkplugDevice P} (h : d.HasTopics) (key : Str) (parent : ParentView)
    (now : UInt64) (o : Outbox P) : (d.stop key parent now o).1.aliases = d.aliases := by
  unfold stop
  dsimp only
  split
  · exact (aliases_publishDeviceDeath h.setAllMetricsInvalid key parent now o).trans
      (aliases_setAllMetricsInvalid h)
  · exact aliases_setAllMetricsInvalid h

theorem aliases_start {d : SparkplugDevice P} (h : d.HasTopics) : d.start.aliases = d.aliases := by
  have hidle : HasTopics { d with deviceState := .idle } := h.of_same rfl
  exact aliases_setAllMetricsInvalid hidle

/-- A metric for the device, which keeps its DBIRTH topic. -/
theorem aliases_addMetric {d : SparkplugDevice P} {death birth : Topic P}
    (h : d.Owns death birth) (m : Metric) :
    (d.addMetric m).aliases = (birth.payload.addMetric m).aliases := by
  have hnext := h.updateBirth (e := d.addMetric m) (f := fun t => t.onPayload fun p => p.addMetric m)
    rfl rfl rfl
  exact hnext.aliases

end SparkplugDevice

namespace SparkplugNode
variable {P : Platform}

/-- `Start` sets the publish flag of the NBIRTH topic, and nothing takes it away. -/
def isStarted (n : SparkplugNode P) : Bool :=
  (n.topicList.getTopicByMessageType (str "NBIRTH")).any Topic.publish

def deviceAliases (n : SparkplugNode P) : List UInt64 :=
  n.deviceList.entries.flatMap fun e => e.2.aliases

/-- The numbers in the NBIRTH payload and in the DBIRTH payloads of all the devices. -/
def aliases (n : SparkplugNode P) : List UInt64 :=
  n.topicList.aliases (str "NBIRTH") ++ n.deviceAliases

theorem Owns.isStarted {n : SparkplugNode P} {birth death : Topic P} (h : n.Owns birth death) :
    n.isStarted = birth.publish := by
  rw [SparkplugNode.isStarted, h.findBirth, Option.any_some]

theorem Owns.aliases {n : SparkplugNode P} {birth death : Topic P} (h : n.Owns birth death) :
    n.aliases = birth.payload.aliases ++ n.deviceAliases := by
  rw [SparkplugNode.aliases, TopicList.aliases_of_find h.findBirth]

structure SameNumbers (n m : SparkplugNode P) : Prop where
  isStarted : m.isStarted = n.isStarted
  aliases : m.aliases = n.aliases

theorem SameNumbers.refl (n : SparkplugNode P) : SameNumbers n n := ⟨rfl, rfl⟩

theorem SameNumbers.trans {n m k : SparkplugNode P} (hnm : n.SameNumbers m)
    (hmk : m.SameNumbers k) : n.SameNumbers k :=
  ⟨hmk.isStarted.trans hnm.isStarted, hmk.aliases.trans hnm.aliases⟩

theorem SameNumbers.of_same {n m : SparkplugNode P} (hlist : m.topicList = n.topicList)
    (hdevices : m.deviceList = n.deviceList) : n.SameNumbers m := by
  constructor
  · rw [SparkplugNode.isStarted, SparkplugNode.isStarted, hlist]
  · rw [SparkplugNode.aliases, SparkplugNode.aliases, deviceAliases, deviceAliases, hlist, hdevices]

theorem SameNumbers.of_owns {n m : SparkplugNode P} {birth death next last : Topic P}
    (h : n.Owns birth death) (hm : m.Owns next last) (hpublish : next.publish = birth.publish)
    (hbindings : next.payload.bindings = birth.payload.bindings)
    (hdevices : m.deviceAliases = n.deviceAliases) : n.SameNumbers m := by
  constructor
  · rw [hm.isStarted, h.isStarted, hpublish]
  · rw [hm.aliases, h.aliases, hdevices, Payload.aliases_of_bindings hbindings]

/-- Devices with the same names and numbers. -/
theorem deviceAliases_of_view {n m : SparkplugNode P}
    (h : m.deviceList.entries.map (fun e => (e.1, e.2.aliases)) =
      n.deviceList.entries.map fun e => (e.1, e.2.aliases)) :
    m.deviceAliases = n.deviceAliases := by
  have hflat := congrArg (fun es : List (Str × List UInt64) => es.flatMap Prod.snd) h
  simp only [List.flatMap_map] at hflat
  exact hflat

theorem sameNumbers_updateDevice {n : SparkplugNode P} {birth death : Topic P}
    (h : n.Owns birth death) (name : Str) {f : SparkplugDevice P → SparkplugDevice P}
    (hf : ∀ d, d.HasTopics → (f d).aliases = d.aliases) : n.SameNumbers (n.updateDevice name f) := by
  refine ⟨rfl, congrArg (n.topicList.aliases (str "NBIRTH") ++ ·) ?_⟩
  apply deviceAliases_of_view
  exact Entries.map_updateFirst_of_same (fun e he => hf e.2 (h.devices e he)) _

theorem sameNumbers_devices {n m : SparkplugNode P} {birth death : Topic P}
    (h : n.Owns birth death) {f : Outbox P → Str → SparkplugDevice P → Outbox P × SparkplugDevice P}
    (hf : ∀ o key d, d.HasTopics → (f o key d).2.aliases = d.aliases) {o : Outbox P}
    (hlist : m.topicList = n.topicList) (hm : m.deviceList = (n.deviceList.mapAccum f o).2) :
    n.SameNumbers m := by
  have hview : m.deviceAliases = n.deviceAliases := by
    apply deviceAliases_of_view
    rw [hm, FoldedMap.entries_mapAccum]
    exact Entries.map_mapAccum_of_same (fun o k e he => hf o k e.2 (h.devices e he)) o
  constructor
  · rw [SparkplugNode.isStarted, SparkplugNode.isStarted, hlist]
  · rw [SparkplugNode.aliases, SparkplugNode.aliases, hlist, hview]

theorem sameNumbers_pollDevices {n : SparkplugNode P} {birth death : Topic P}
    (h : n.Owns birth death) (isOnline connected : Bool) (now : UInt64) :
    n.SameNumbers (n.pollDevices isOnline connected now).1 :=
  sameNumbers_devices h (fun o key _ hd => SparkplugDevice.aliases_poll hd key _ now o) rfl rfl

/-- A change of the NBIRTH payload that keeps the numbers. -/
theorem sameNumbers_birth (n : SparkplugNode P) {f : Payload P → Payload P}
    (hf : ∀ p, (f p).bindings = p.bindings) :
    n.SameNumbers (n.onTopics fun list => list.update (str "NBIRTH") fun t => t.onPayload f) := by
  have hfind := @TopicList.find_update_self P (str "NBIRTH") (fun t => t.onPayload f)
    (fun _ => rfl) n.topicList
  constructor
  · change (TopicList.getTopicByMessageType _ (TopicList.update _ _ n.topicList)).any _ = _
    rw [hfind, Option.any_map]
    rfl
  · refine congrArg (· ++ n.deviceAliases) ?_
    cases hbirth : n.topicList.getTopicByMessageType (str "NBIRTH") with
    | none =>
      rw [hbirth] at hfind
      exact TopicList.aliases_congr (hfind.trans hbirth.symm)
    | some t =>
      rw [hbirth, Option.map_some] at hfind
      rw [TopicList.aliases_of_find hbirth]
      exact (TopicList.aliases_of_find hfind).trans (Payload.aliases_of_bindings (hf _))

theorem sameNumbers_publishNodeBirth {n : SparkplugNode P} {birth death : Topic P}
    (h : n.Owns birth death) (connected : Bool) (now : UInt64) :
    n.SameNumbers (n.publishNodeBirth connected now).1 := by
  let stamped := birth.onPayload fun p => p.setTimestamp now false
  unfold publishNodeBirth publishMessage
  split
  · rw [h.findBirth]
    have hnext := h.updateBirth (m := { n with
        topicList := n.topicList.update (str "NBIRTH") fun _ =>
          SparkplugTopic.doPublish n.sequenceNumber stamped })
      (f := fun _ => SparkplugTopic.doPublish n.sequenceNumber stamped) rfl rfl rfl
      (by simp [stamped]) (by simp [stamped])
    have hsame : n.SameNumbers _ := .of_owns h hnext (by simp [stamped])
      ((Topic.bindings_doPublish _ _).trans (Payload.bindings_setTimestamp now _)) rfl
    exact hsame.trans (.of_same rfl rfl)
  · exact .refl n

theorem sameNumbers_publishNodeDeath {n : SparkplugNode P} {birth death : Topic P}
    (h : n.Owns birth death) (connected : Bool) (now : UInt64) :
    n.SameNumbers (n.publishNodeDeath connected now).1 := by
  let stamped := death.onPayload fun p => p.setTimestamp now false
  unfold publishNodeDeath publishMessage
  split
  · rw [h.findDeath]
    have hnext := h.updateDeath (m := { n with
        topicList := n.topicList.update (str "NDEATH") fun _ =>
          SparkplugTopic.doPublish n.sequenceNumber stamped })
      (f := fun _ => SparkplugTopic.doPublish n.sequenceNumber stamped) rfl rfl rfl
      (by simp [stamped])
    have hsame : n.SameNumbers _ := .of_owns h hnext rfl rfl rfl
    exact hsame.trans (.of_same rfl rfl)
  · exact .refl n

theorem sameNumbers_generateWill {n : SparkplugNode P} {birth death : Topic P}
    (h : n.Owns birth death) (now : UInt64) : n.SameNumbers (n.generateWill now) := by
  have hnext := h.updateDeath (m := n.generateWill now) (f := fun t => t.onPayload _)
    rfl rfl rfl rfl
  exact .of_owns h hnext rfl rfl rfl

/-- A node that is started afterwards was started before, with the same numbers. -/
def Quiet (n m : SparkplugNode P) : Prop :=
  m.isStarted = true → n.isStarted = true ∧ m.aliases = n.aliases

theorem SameNumbers.quiet {n m : SparkplugNode P} (h : n.SameNumbers m) : n.Quiet m :=
  fun hm => ⟨h.isStarted ▸ hm, h.aliases⟩

theorem Quiet.trans {n m k : SparkplugNode P} (hnm : n.Quiet m) (hmk : m.Quiet k) : n.Quiet k := by
  intro hk
  obtain ⟨hm, haliases⟩ := hmk hk
  obtain ⟨hn, hsame⟩ := hnm hm
  exact ⟨hn, haliases.trans hsame⟩

theorem Quiet.of_stopped {n m : SparkplugNode P} (h : m.isStarted = false) : n.Quiet m :=
  fun hm => absurd (h.symm.trans hm) Bool.false_ne_true

/-- The NBIRTH topic of a started node is not overwritten by a message. -/
theorem quiet_onBirth (n : SparkplugNode P) {f : TopicList P → TopicList P}
    (hstopped : ∀ list : TopicList P,
      ((f list).getTopicByMessageType (str "NBIRTH")).any Topic.publish =
        (list.getTopicByMessageType (str "NBIRTH")).any Topic.publish)
    (hstarted : ∀ list : TopicList P,
      (list.getTopicByMessageType (str "NBIRTH")).any Topic.publish = true →
      (f list).aliases (str "NBIRTH") = list.aliases (str "NBIRTH")) :
    n.Quiet (n.onTopics f) := by
  intro hm
  have hn : n.isStarted = true := (hstopped n.topicList).symm.trans hm
  exact ⟨hn, congrArg (· ++ n.deviceAliases) (hstarted n.topicList hn)⟩

theorem quiet_receiveBirth (store : Payload P → Payload P) (n : SparkplugNode P) :
    n.Quiet (n.onTopics fun list => list.receive (str "NBIRTH") store) := by
  apply quiet_onBirth
  · intro list
    rw [TopicList.find_receive, Option.any_map]
    congr 1
    funext t
    change (if t.publish then t else t.onPayload store).publish = t.publish
    split
    · rfl
    · rfl
  · intro list hstarted
    apply TopicList.aliases_congr
    rw [TopicList.find_receive]
    cases hbirth : list.getTopicByMessageType (str "NBIRTH") with
    | none => rfl
    | some t =>
      rw [hbirth, Option.any_some] at hstarted
      rw [Option.map_some, if_pos hstarted]

theorem quiet_receiveState (store : Payload P → Payload P) (n : SparkplugNode P) :
    n.Quiet (n.onTopics fun list => list.receive (str "STATE") store) := by
  have hsame : ∀ list : TopicList P,
      (list.receive (str "STATE") store).getTopicByMessageType (str "NBIRTH") =
        list.getTopicByMessageType (str "NBIRTH") :=
    fun list => TopicList.find_receive_ne (by decide) store list
  apply quiet_onBirth
  · intro list
    rw [hsame]
  · intro list _
    exact TopicList.aliases_congr (hsame list)

/-- An NDEATH message leaves the numbers, whether it is stored or not. -/
theorem quiet_receiveDeath (store : Payload P → Payload P) (n : SparkplugNode P) :
    n.Quiet (n.onTopics fun list => list.receiveDeath (str "NBIRTH") (str "NDEATH") store) := by
  have hfind : ∀ list : TopicList P,
      (list.receiveDeath (str "NBIRTH") (str "NDEATH") store).getTopicByMessageType
          (str "NBIRTH") = list.getTopicByMessageType (str "NBIRTH") ∨
        (list.receiveDeath (str "NBIRTH") (str "NDEATH") store).getTopicByMessageType
          (str "NBIRTH") =
          (list.getTopicByMessageType (str "NBIRTH")).map Topic.setAllMetricsInvalid := by
    intro list
    unfold TopicList.receiveDeath
    split
    · split
      · exact .inl rfl
      · have hdeath := @TopicList.find_update_ne P (str "NDEATH") (str "NBIRTH")
          (fun t => t.onPayload store) (fun _ => rfl) (by decide) list
        have hbirth := @TopicList.find_update_self P (str "NBIRTH") Topic.setAllMetricsInvalid
          (fun _ => rfl) (list.update (str "NDEATH") fun t => t.onPayload store)
        exact .inr (hbirth.trans (congrArg _ hdeath))
    · exact .inl rfl
  apply quiet_onBirth
  · intro list
    rcases hfind list with h | h
    · rw [h]
    · rw [h, Option.any_map]
      rfl
  · intro list _
    rcases hfind list with h | h
    · exact TopicList.aliases_congr h
    · cases hbirth : list.getTopicByMessageType (str "NBIRTH") with
      | none =>
        rw [hbirth] at h
        exact TopicList.aliases_congr (h.trans hbirth.symm)
      | some t =>
        rw [hbirth, Option.map_some] at h
        rw [TopicList.aliases_of_find h, TopicList.aliases_of_find hbirth]
        exact Payload.aliases_of_bindings (Payload.bindings_setAllMetricsInvalid _)

/-- A node that is not started yet has given no promise about its numbers. -/
def Quietly (first n : SparkplugNode P) : Prop :=
  n.Devices SparkplugDevice.Publishes ∧ first.Quiet n

theorem quiet_onDevice {n : SparkplugNode P} (h : n.Devices SparkplugDevice.Publishes)
    (device : Str) {f : TopicList P → TopicList P}
    (hf : ∀ list : TopicList P, list.AllPublish → f list = list) :
    n.onDevice device f = n :=
  onDevice_same (fun e he => hf _ (h e he)) device

theorem deviceBirth_started {n : SparkplugNode P} (h : n.isStarted = true) (device : Str)
    (now : UInt64) (body : BodyList) : Receiver.deviceBirth device now body n = n := by
  unfold Receiver.deviceBirth
  split
  · rfl
  · rename_i t ht
    rw [isStarted, ht, Option.any_some] at h
    rw [if_pos h]

theorem quietly_invariant (first : SparkplugNode P) :
    Receiver.SelfInvariant (P := P) (Quietly first) where
  state body n h := ⟨h.1, h.2.trans (quiet_receiveState _ n)⟩
  birth now body n h := ⟨h.1, h.2.trans (quiet_receiveBirth _ n)⟩
  death now body n h := ⟨h.1, h.2.trans (quiet_receiveDeath _ n)⟩
  command now body n h :=
    ⟨h.1, h.2.trans (n.sameNumbers_birth (Payload.bindings_receive_data now body)).quiet⟩
  data now body n h := ⟨h.1, h.2.trans (quiet_receiveBirth _ n)⟩
  deviceBirth device now body n h := by
    refine ⟨(devices_invariant SparkplugDevice.publishes_invariant).deviceBirth
      device now body n h.1, h.2.trans ?_⟩
    cases hstarted : n.isStarted with
    | false =>
      apply Quiet.of_stopped
      rw [isStarted, Receiver.deviceBirth_topicList]
      exact hstarted
    | true =>
      rw [deviceBirth_started hstarted]
      exact (SameNumbers.refl n).quiet
  deviceDeath device now body n h := by
    rw [quiet_onDevice h.1 device fun _ hlist => TopicList.receiveDeath_published hlist _ _ _]
    exact h
  deviceUpdate device now body n h := by
    rw [quiet_onDevice h.1 device fun _ hlist => TopicList.receive_published hlist _ _]
    exact h

/-- A message leaves the numbers of a started node, also one that is addressed to it. -/
theorem quiet_message {r : Receiver P} (h : r.self.Devices SparkplugDevice.Publishes)
    (topicName : Str) (now : UInt64) (body : BodyList) :
    r.self.Quiet (r.message topicName now body).self :=
  (Receiver.self_message_keeps (quietly_invariant r.self) ⟨h, (SameNumbers.refl r.self).quiet⟩
    topicName now body).2

end SparkplugNode
end PubSub
