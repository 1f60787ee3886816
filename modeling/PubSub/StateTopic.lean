import PubSub.HostAgreement
import PubSub.HostView
import PubSub.JsonRoundTrip
import PubSub.MessageGrammar
import PubSub.PublishSettings

/-!
# The STATE topic of a host

Every metric that a host puts into its STATE payload has a datatype of its own and a value
that JSON carries, and once the host is started the topic bears its name. A node that gets a
message of the topic therefore hears of the host what the host has said.
-/

namespace PubSub
open DecimalText
set_option autoImplicit false

/-- The metrics of a STATE payload and their datatypes. -/
def stateTypes : List (Str × MetricType) :=
  [(str "online", .boolean), (str "timestamp", .uint64),
    (str "Properties/Hardware Make", .string), (str "Properties/Hardware Model", .string),
    (str "Properties/OS", .string), (str "Properties/OS Version", .string),
    (str "Properties/Sparkplug Version", .string), (str "Properties/MQTT Version", .string)]

theorem stateTypes_apart : ∀ a ∈ stateTypes, ∀ b ∈ stateTypes,
    lower (cString a.1) = lower (cString b.1) → a = b := by
  decide +kernel

theorem isUtf8_ascii : ∀ a ∈ stateTypes, IsUtf8 a.1 := by
  intro a ha
  refine ⟨a.1.map fun b => Char.ofNat b.toNat, ?_⟩
  revert a
  decide +kernel

namespace Metric
variable (P : Platform)

/-- A value of the datatype that JSON carries. -/
structure Carries (type : MetricType) (m : Metric) : Prop where
  datatype : m.datatype = type
  notNull : m.isNull = false
  set : ∃ v, m.SetTo P v

theorem carries_setBool {m : Metric} (ht : m.datatype = .boolean) (hm : m.isNull = false)
    (v : Bool) : (m.setBool v).Carries P .boolean where
  datatype := ht
  notNull := hm
  set := by
    refine ⟨.boolean v, ?_, ?_, nofun, m, rfl, rfl⟩
    · exact ht ▸ rfl
    · exact ht ▸ rfl

theorem carries_setInt {m : Metric} (ht : m.datatype = .uint64) (hm : m.isNull = false)
    (v : UInt64) : (m.setInt v.toNat).Carries P .uint64 where
  datatype := ht
  notNull := hm
  set := by
    refine ⟨.uint64 v, ?_, ?_, nofun, m, rfl, rfl⟩
    · exact ht ▸ rfl
    · exact ht ▸ rfl

theorem carries_setString {m : Metric} (ht : m.datatype = .string) (hm : m.isNull = false)
    {v : Str} (hv : IsUtf8 v) : (m.setString P v).Carries P .string where
  datatype := (congrArg Metric.datatype (m.setString_frame P v)).trans ht
  notNull := (m.setString_isNull P v).trans hm
  set := by
    have htype : (m.setString P v).datatype = .string :=
      (congrArg Metric.datatype (m.setString_frame P v)).trans ht
    refine ⟨.text v, ?_, ?_, ?_, m, ht.trans htype.symm, rfl⟩
    · exact htype ▸ rfl
    · exact htype ▸ rfl
    · rintro t ⟨⟩
      exact hv

end Metric

namespace Payload
variable {P : Platform}

/-- The metrics are those of a STATE payload, and one of them is `online`. -/
structure IsState (p : Payload P) : Prop where
  metrics : ∀ e ∈ p.metricList.entries, ∃ type, (e.1, type) ∈ stateTypes ∧ e.2.Carries P type
  online : ∃ m, (str "online", m) ∈ p.metricList.entries

theorem mem_updateMetric {p : Payload P} {name : Str} {f : Metric → Metric} {m : Metric}
    (h : (str "online", m) ∈ p.metricList.entries) :
    ∃ n, (str "online", n) ∈ (p.updateMetric name f).metricList.entries := by
  have hkeys := Entries.updateFirst_keys (Entries.sameKey P.foldKey name) f p.metricList.entries
  have hmem : str "online" ∈ p.metricList.entries.map Prod.fst := List.mem_map_of_mem h
  rw [← hkeys] at hmem
  obtain ⟨⟨a, n⟩, hn, rfl⟩ := List.mem_map.mp hmem
  exact ⟨n, hn⟩

/-- Each name of a STATE payload has one datatype. -/
theorem IsState.type_unique {name : Str} {a : Str × MetricType} (hname : a ∈ stateTypes)
    {type : MetricType} (hmem : (name, type) ∈ stateTypes)
    (hkey : P.foldKey name = P.foldKey a.1) : type = a.2 :=
  congrArg Prod.snd
    (stateTypes_apart (name, type) hmem a hname (P.lower_eq_of_foldKey _ _ hkey))

/-- An update of a metric of a STATE payload. -/
theorem IsState.updateMetric {p : Payload P} (h : p.IsState) {name : Str} {type : MetricType}
    (hname : (name, type) ∈ stateTypes) {f : Metric → Metric}
    (hf : ∀ m, m.datatype = type → m.isNull = false → (f m).Carries P type) :
    (p.updateMetric name f).IsState where
  metrics e he := by
    rcases Entries.mem_update_key p.metricList.sorted he with ⟨-, hold⟩ | ⟨hkey, m, hm, hnew⟩
    · exact h.metrics e hold
    · obtain ⟨old, hmem, hcarries⟩ := h.metrics (e.1, m) hm
      have hsame := IsState.type_unique hname hmem hkey
      refine ⟨old, hmem, ?_⟩
      rw [hnew, hsame]
      exact hf m (hcarries.datatype.trans hsame) hcarries.notNull
  online := mem_updateMetric h.online.choose_spec

/-- `CreateMetric` with the settings that follow it, for a metric of a STATE payload. -/
theorem IsState.withMetric {p : Payload P} (h : p.IsState) {name : Str} {type : MetricType}
    (hname : (name, type) ∈ stateTypes) {f : Metric → Metric}
    (hf : ∀ m, m.isNull = false → (f m).Carries P type) : (p.withMetric name f).IsState where
  metrics e he := by
    rcases Entries.mem_update_key (p.createMetric name).metricList.sorted he with
      ⟨hne, hold⟩ | ⟨hkey, m, hm, hnew⟩
    · rcases Entries.mem_insert_subset hold with rfl | hin
      · exact absurd rfl hne
      · exact h.metrics e hin
    · rcases Entries.mem_insert_subset hm with hcreated | hin
      · obtain ⟨hfirst, rfl⟩ := Prod.mk.inj hcreated
        refine ⟨type, hfirst ▸ hname, ?_⟩
        rw [hnew]
        exact hf _ rfl
      · obtain ⟨old, hmem, hcarries⟩ := h.metrics (e.1, m) hin
        refine ⟨old, hmem, ?_⟩
        rw [hnew, IsState.type_unique hname hmem hkey]
        exact hf m hcarries.notNull
  online := by
    obtain ⟨m, hm⟩ := h.online
    exact mem_updateMetric (p := p.createMetric name) (Entries.mem_insert_of_mem hm)

theorem IsState.setBoolValue {p : Payload P} (h : p.IsState) (online : Bool) :
    (p.setBoolValue (str "online") online).IsState :=
  have hname : (str "online", MetricType.boolean) ∈ stateTypes := by decide
  h.updateMetric hname fun _ ht hm => Metric.carries_setBool P ht hm online

theorem IsState.setTimestamp {p : Payload P} (h : p.IsState) (ms : UInt64) :
    (p.setTimestamp ms false).IsState := by
  have hstamped : ({ p with timestamp := ms } : Payload P).IsState := ⟨h.metrics, h.online⟩
  have hname : (str "timestamp", MetricType.uint64) ∈ stateTypes := by decide
  exact hstamped.updateMetric hname fun _ ht hm => Metric.carries_setInt P ht hm ms

theorem IsState.setStringValue {p : Payload P} (h : p.IsState) {name v : Str}
    (hname : (name, .string) ∈ stateTypes) (hv : IsUtf8 v) : (p.setStringValue name v).IsState :=
  h.updateMetric hname fun _ ht hm => Metric.carries_setString P ht hm hv

theorem IsState.withString {p : Payload P} (h : p.IsState) {name v : Str}
    (hname : (name, .string) ∈ stateTypes) (hv : IsUtf8 v) : (p.withString name v).IsState :=
  h.withMetric hname fun m hm =>
    Metric.carries_setString P (m := { m with datatype := .string }) rfl hm hv

theorem IsState.withHardware {p : Payload P} (h : p.IsState) {name v : Str}
    (hname : (name, .string) ∈ stateTypes) (hv : IsUtf8 v) : (p.withHardware name v).IsState := by
  unfold Payload.withHardware
  split
  · exact h
  · exact h.withString hname hv

theorem IsState.generateJson {p : Payload P} (h : p.IsState) : p.generateJson.IsState :=
  ⟨h.metrics, h.online⟩

theorem IsState.carried {p : Payload P} (h : p.IsState) : p.Carried := by
  intro e he _
  obtain ⟨type, hmem, hcarries⟩ := h.metrics e he
  exact ⟨isUtf8_ascii (e.1, type) hmem, .inr hcarries.set⟩

/-- The member that tells whether the host is online has exactly that name. -/
theorem IsState.mem_online {p : Payload P} (h : p.IsState) {online : Bool}
    (htold : p.jsonMember? (str "online") = some (.bool online)) :
    (str "online", .bool online) ∈ p.jsonMembers := by
  obtain ⟨m, hm⟩ := h.online
  have hnamed : str "online" ≠ [] := by decide
  obtain ⟨json, hjson, -⟩ := h.carried.jsonValue_eq hm hnamed
  have hmember : (str "online", json) ∈ p.jsonMembers :=
    mem_jsonMembers.mpr ⟨m, hm, hnamed, hjson⟩
  obtain ⟨found, hfound, hvalue⟩ := Option.map_eq_some_iff.mp htold
  have hequal : P.iEquals found.1 (str "online") = true := by
    simpa using List.find?_some hfound
  have hkey := (P.iEquals_iff _ _).mp hequal
  have hsame := List.inj_on_of_nodup_map p.jsonMembers_folded (List.mem_of_find?_eq_some hfound)
    hmember hkey
  rw [hsame] at hvalue
  rw [← hvalue]
  exact hmember

/-- What a STATE payload says can be read from its JSON text. -/
theorem IsState.announces {p : Payload P} (h : p.IsState) (laws : JsonLaws P) {online : Bool}
    (htold : p.Says online) : ∃ members, P.parseJson (cString p.body) = some members ∧
      AnnouncesOnce P members ∧ members.findSome? onlineMember = some online := by
  have hplain := h.carried.plain
  have hparsed : P.parseJson (cString p.body) =
      some (p.jsonMembers.map fun m => (m.1, m.2.reparsed)) := by
    rw [htold.1]
    unfold makeJsonString
    rw [cString_eq (laws.zeroFree _ hplain)]
    exact laws.parse_serialize _ hplain
  obtain ⟨before, after, hsplit⟩ := List.append_of_mem (h.mem_online htold.2)
  have hothers : ∀ m ∈ before ++ after, P.foldKey m.1 ≠ P.foldKey (str "online") := by
    have hnodup := p.jsonMembers_folded
    rw [hsplit] at hnodup
    intro m hm hkey
    have hperm : (before ++ (str "online", .bool online) :: after).Perm
        ((str "online", .bool online) :: (before ++ after)) := List.perm_middle
    have hmoved := hperm.map fun m => P.foldKey m.1
    have hfirst := (List.nodup_cons.mp (hmoved.nodup hnodup)).1
    exact hfirst (List.mem_map.mpr ⟨m, hm, hkey⟩)
  have hreparsed : ∀ m ∈ (before.map fun m => (m.1, m.2.reparsed)) ++
      after.map fun m => (m.1, m.2.reparsed), P.foldKey m.1 ≠ P.foldKey (str "online") := by
    rw [← List.map_append]
    intro m hm
    obtain ⟨n, hn, rfl⟩ := List.mem_map.mp hm
    exact hothers n hn
  rw [hsplit, List.map_append, List.map_cons] at hparsed
  exact ⟨_, hparsed, ⟨_, online, _, rfl, hreparsed⟩, Receiver.findSome?_announced hreparsed⟩

end Payload

namespace Payload
variable {P : Platform}

theorem isState_online : (({} : Payload P).withBoolean (str "online")).IsState := by
  have hentries : (({} : Payload P).withBoolean (str "online")).metricList.entries =
      [(str "online", Metric.setBool { name := str "online", datatype := .boolean } false)] := by
    change Entries.updateFirst (Entries.sameKey P.foldKey (str "online")) _
      [(str "online", ({ name := str "online" } : Metric))] = _
    simp [Entries.updateFirst, Entries.sameKey]
  refine ⟨fun e he => ?_, _, hentries ▸ List.mem_singleton.mpr rfl⟩
  rw [hentries, List.mem_singleton] at he
  rw [he]
  exact ⟨.boolean, by decide, Metric.carries_setBool P rfl rfl false⟩

/-- The metrics that the constructor puts into the STATE payload. -/
theorem isState_created (ms : UInt64) :
    (((({} : Payload P).withBoolean (str "online")).withMetric (str "timestamp")
      fun m => { m with datatype := .uint64 }).setTimestamp ms false).IsState := by
  have hname : (str "timestamp", MetricType.uint64) ∈ stateTypes := by decide
  have hset := (isState_online (P := P)).withMetric hname
    (f := fun m => Metric.setInt { m with datatype := .uint64 } ms.toNat)
    fun m hm => Metric.carries_setInt P (m := { m with datatype := .uint64 }) rfl hm ms
  have hmetrics : (((({} : Payload P).withBoolean (str "online")).withMetric (str "timestamp")
      fun m => { m with datatype := .uint64 }).setTimestamp ms false).metricList =
      ((({} : Payload P).withBoolean (str "online")).withMetric (str "timestamp")
        fun m => Metric.setInt { m with datatype := .uint64 } ms.toNat).metricList :=
    FoldedMap.update_update _ _ _ _
  refine ⟨?_, ?_⟩
  · rw [hmetrics]
    exact hset.metrics
  · rw [hmetrics]
    exact hset.online

end Payload

namespace SparkplugHost
variable {P : Platform}

/-- What the application has set up: the name, and the texts that become metrics. -/
def setup (n : SparkplugNode P) : Str × List Str :=
  (n.name, [n.hardwareMake, n.hardwareModel, n.operatingSystem, n.osVersion, n.sparkplugVersion])

/-- The name is a level of a topic name, and the texts can be written as JSON. -/
def Legible (n : SparkplugNode P) : Prop :=
  IsName (setup n).1 ∧ ∀ text ∈ (setup n).2, IsUtf8 text

theorem utf8_versionAsString (c : PubSubClient P) : IsUtf8 c.versionAsString := by
  unfold PubSubClient.versionAsString
  cases c.version with
  | mqtt31 => exact ⟨"MQTT 3.1".toList, by decide +kernel⟩
  | mqtt5 => exact ⟨"MQTT 5.0".toList, by decide +kernel⟩
  | mqtt311 => exact ⟨"MQTT 3.1.1".toList, by decide +kernel⟩

def withDefaultMetrics (n : SparkplugNode P) (p : Payload P) : Payload P :=
  (((((p.withHardware (str "Properties/Hardware Make") n.hardwareMake).withHardware
    (str "Properties/Hardware Model") n.hardwareModel).withHardware
    (str "Properties/OS") n.operatingSystem).withHardware
    (str "Properties/OS Version") n.osVersion).withString
    (str "Properties/Sparkplug Version") n.sparkplugVersion).withString
    (str "Properties/MQTT Version") n.versionAsString

theorem Legible.defaultMetrics {n : SparkplugNode P} (h : Legible n) {p : Payload P}
    (hp : p.IsState) : (withDefaultMetrics n p).IsState := by
  have htexts : ∀ text ∈ [n.hardwareMake, n.hardwareModel, n.operatingSystem, n.osVersion,
      n.sparkplugVersion], IsUtf8 text := h.2
  simp only [List.forall_mem_cons] at htexts
  obtain ⟨hmake, hmodel, hsystem, hversion, hsparkplug, -⟩ := htexts
  apply Payload.IsState.withString _ (by decide) (utf8_versionAsString _)
  apply Payload.IsState.withString _ (by decide) hsparkplug
  apply Payload.IsState.withHardware _ (by decide) hversion
  apply Payload.IsState.withHardware _ (by decide) hsystem
  apply Payload.IsState.withHardware _ (by decide) hmodel
  exact hp.withHardware (by decide) hmake

theorem created_tells {n : SparkplugNode P}
    (hnone : n.topicList.getTopicByMessageType (str "STATE") = none) :
    ∃ t, (createStateTopic n).topicList.getTopicByMessageType (str "STATE") = some t ∧
      t.payload.IsState ∧ t.retained = true := by
  have hothers : ∀ t ∈ n.topicList, TopicList.hasMessageType (str "STATE") t = false := by
    rw [TopicList.getTopicByMessageType, List.find?_eq_none] at hnone
    exact fun t ht => by simpa using hnone t ht
  unfold createStateTopic
  rw [hnone]
  refine ⟨_, (TopicList.find_append_ne _ hothers).trans (TopicList.find_cons_self [] rfl), ?_, rfl⟩
  have hempty : ((SparkplugTopic.create (P := P)).setTopic (statePath n)).payload = {} :=
    Topic.setTopic_payload _ _
  have hpayload := Payload.isState_created (P := P) n.startTime
  rw [← hempty] at hpayload
  exact hpayload

theorem statePath_ne_nil (n : SparkplugNode P) : statePath n ≠ [] := by
  unfold statePath joinLevels
  simp [List.intercalate]

/-- A STATE topic of the name that a node can read. -/
structure Speaks (path : Str) (t : Topic P) : Prop where
  payload : t.payload.IsState
  retained : t.retained = true
  named : t.topic = path

end SparkplugHost

namespace HostSys
variable {P : Platform}

/-- The STATE topic of a host tells what the host is, and so did its messages. -/
structure Tells (s : HostSys P) (host : Str) (state : Topic P) : Prop where
  name : s.self.name = host
  owns : s.Owns state
  legible : SparkplugHost.Legible s.self
  payload : state.payload.IsState
  retained : state.retained = true
  named : s.handle.isSome = true → state.topic = SparkplugHost.statePath s.self
  session : ∀ p, .publish p ∈ s.session →
    SparkplugHost.Speaks (SparkplugHost.statePath s.self) p.topic

/-- The topics, the setup and the messages are as they were. -/
structure Frame (s t : HostSys P) : Prop where
  isHost : t.self.isHost = s.self.isHost
  setup : SparkplugHost.setup t.self = SparkplugHost.setup s.self
  handle : t.handle.isSome = true → s.handle.isSome = true
  session : ∀ p, .publish p ∈ t.session → .publish p ∈ s.session

theorem Frame.statePath {s t : HostSys P} (h : s.Frame t) :
    SparkplugHost.statePath t.self = SparkplugHost.statePath s.self := by
  have hname : t.self.name = s.self.name := congrArg Prod.fst h.setup
  unfold SparkplugHost.statePath
  rw [hname]

theorem Frame.legible {s t : HostSys P} (h : s.Frame t) (hs : SparkplugHost.Legible s.self) :
    SparkplugHost.Legible t.self := by
  unfold SparkplugHost.Legible
  rw [h.setup]
  exact hs

theorem Frame.speaks {s t : HostSys P} (h : s.Frame t) {a : Topic P}
    (ha : SparkplugHost.Speaks (SparkplugHost.statePath s.self) a) :
    SparkplugHost.Speaks (SparkplugHost.statePath t.self) a := by
  rw [h.statePath]
  exact ha

variable {host : Str}

theorem Tells.frame {s t : HostSys P} {state : Topic P} (h : s.Tells host state)
    (hframe : s.Frame t) (hlist : t.self.topicList = s.self.topicList) : t.Tells host state where
  name := (congrArg Prod.fst hframe.setup).trans h.name
  owns := h.owns.of_same hframe.isHost hlist hframe.handle
  legible := hframe.legible h.legible
  payload := h.payload
  retained := h.retained
  named hsome := (h.named (hframe.handle hsome)).trans hframe.statePath.symm
  session p hp := hframe.speaks (h.session p (hframe.session p hp))

/-- A change of the payload of the STATE topic. -/
theorem Tells.write {s t : HostSys P} {state : Topic P} (h : s.Tells host state)
    {f : Payload P → Payload P} (hframe : s.Frame t)
    (hlist : t.self.topicList = s.self.topicList.update (str "STATE") fun t => t.onPayload f)
    (hpayload : (f state.payload).IsState)
    (hannounceable : SparkplugHost.Announceable (f state.payload)) :
    t.Tells host (state.onPayload f) where
  name := (congrArg Prod.fst hframe.setup).trans h.name
  owns := h.owns.update hframe.isHost hlist rfl hannounceable
    fun hsome => h.owns.publish (hframe.handle hsome)
  legible := hframe.legible h.legible
  payload := hpayload
  retained := h.retained
  named hsome := (h.named (hframe.handle hsome)).trans hframe.statePath.symm
  session p hp := hframe.speaks (h.session p (hframe.session p hp))

theorem Tells.publishState {s : HostSys P} {state : Topic P} (h : s.Tells host state)
    (online : Bool) :
    (s.publishState online).Tells host (state.onPayload fun p =>
      (p.setBoolValue (str "online") online).generateJson).cacheTopic := by
  obtain ⟨n, hhost, hlist, hs⟩ := publishState_eq h.owns online
  have hsetup : SparkplugHost.setup n = SparkplugHost.setup s.self := by
    have hself : n = (s.publishState online).self := by
      rw [hs]
      rfl
    rw [hself]
    change SparkplugHost.setup (SparkplugHost.publishState online s.self).1 = _
    unfold SparkplugHost.publishState
    split <;> rfl
  have hframe : s.Frame (s.withSelf n) := ⟨hhost, hsetup, id, fun _ => id⟩
  have hnamed : s.handle.isSome = true →
      (state.onPayload fun p => (p.setBoolValue (str "online") online).generateJson).topicName =
        SparkplugHost.statePath n := by
    intro hsome
    rw [Topic.topicName_of_topic (t := state.onPayload _) (h.named hsome)
      (SparkplugHost.statePath_ne_nil s.self)]
    exact hframe.statePath.symm
  have hpayload := (h.payload.setBoolValue online).generateJson
  rw [hs]
  refine ⟨(congrArg Prod.fst hsetup).trans h.name,
    h.owns.update (f := fun t => (t.onPayload fun p =>
      (p.setBoolValue (str "online") online).generateJson).cacheTopic)
      hhost hlist rfl (h.owns.announceable.setBoolValue online) h.owns.publish,
    hframe.legible h.legible, hpayload, h.retained, hnamed, ?_⟩
  intro p hp
  by_cases hconnected : s.isConnected = true
  · dsimp only at hp
    rw [if_pos hconnected] at hp
    rcases List.mem_append.mp hp with hold | hnew
    · exact hframe.speaks (h.session p hold)
    · have hsome : s.handle.isSome = true := by
        cases hhandle : s.handle with
        | none => simp [isConnected, Mqtt.isConnected, hhandle] at hconnected
        | some handle => rfl
      cases List.mem_singleton.mp hnew
      exact ⟨hpayload, h.retained, hnamed hsome⟩
  · dsimp only at hp
    rw [if_neg hconnected] at hp
    exact hframe.speaks (h.session p hp)

theorem Tells.sendConnect {s : HostSys P} {state : Topic P} (h : s.Tells host state)
    (io : Outcomes) :
    ∃ next, (s.sendConnect io).1.Tells host next := by
  have hpayload := ((h.payload.setTimestamp s.self.startTime).setBoolValue false).generateJson
  have hannounceable : SparkplugHost.Announceable
      ((state.payload.setTimestamp s.self.startTime false).setBoolValue (str "online") false) :=
    (h.owns.announceable.setTimestamp _).setBoolValue false
  unfold HostSys.sendConnect
  rw [h.owns.self.find]
  dsimp only
  split
  · refine ⟨_, h.write ⟨rfl, rfl, ?_, fun _ => id⟩ rfl hpayload hannounceable⟩
    simp [setConnectionLost]
  · exact ⟨_, h.write ⟨rfl, rfl, id, fun _ => id⟩ rfl hpayload hannounceable⟩

theorem Tells.connectReplied {s : HostSys P} {state : Topic P} (h : s.Tells host state) :
    ∃ next, (s.connectReplied state).Tells host next := by
  have hannounceable : SparkplugHost.Announceable
      (state.payload.setStringValue (str "Properties/MQTT Version") s.self.versionAsString) :=
    h.owns.announceable.updateMetric _ (by decide)
  have hname : (str "Properties/MQTT Version", MetricType.string) ∈ stateTypes := by decide
  have hpayload := h.payload.setStringValue hname
    (SparkplugHost.utf8_versionAsString s.self.toPubSubClient)
  refine ⟨_, h.write ⟨rfl, rfl, ?_, fun _ => id⟩ rfl hpayload hannounceable⟩
  simp [HostSys.connectReplied, startSubscription]

theorem Tells.sendDisconnect {s : HostSys P} {state : Topic P} (h : s.Tells host state)
    (io : Outcomes) : (s.sendDisconnect io).Tells host state := by
  rcases s.sendDisconnect_cases io with ⟨_, hs⟩ | hs
  · rw [hs]
    refine h.frame ⟨rfl, rfl, by simp, fun p hp => ?_⟩ rfl
    simpa using hp
  · rw [hs]
    exact h.frame ⟨rfl, rfl, id, fun _ => id⟩ rfl

theorem Tells.doWaitOnConnect {s : HostSys P} {state : Topic P} (h : s.Tells host state) :
    ∃ next, s.doWaitOnConnect.Tells host next := by
  unfold HostSys.doWaitOnConnect
  split
  · exact ⟨state, h.frame ⟨rfl, rfl, id, fun _ => id⟩ rfl⟩
  · split
    · exact ⟨state, h⟩
    · rw [h.owns.self.find]
      dsimp only
      obtain ⟨replied, hreplied⟩ := h.connectReplied
      split
      · exact ⟨_, (hreplied.publishState true).frame ⟨rfl, rfl, id, fun _ => id⟩ rfl⟩
      · exact ⟨_, (hreplied.publishState false).frame ⟨rfl, rfl, id, fun _ => id⟩ rfl⟩

theorem Tells.stateStep {s : HostSys P} {state : Topic P} (h : s.Tells host state) (io : Outcomes) :
    ∃ next, (s.stateStep io).Tells host next := by
  unfold HostSys.stateStep
  split
  · unfold doIdle
    split
    · exact ⟨state, h⟩
    · have hwaiting : HostSys.Tells
          { s with hostTimer := s.clock + 10000, workState := .waitOnConnect } host state :=
        h.frame ⟨rfl, rfl, id, fun _ => id⟩ rfl
      obtain ⟨next, hnext⟩ := hwaiting.sendConnect io
      dsimp only
      split
      · exact ⟨next, hnext⟩
      · exact ⟨next, hnext.frame ⟨rfl, rfl, id, fun _ => id⟩ rfl⟩
  · exact h.doWaitOnConnect
  · unfold doOnline
    have hpublished := h.publishState false
    split
    · have htimer :
          HostSys.Tells { s.publishState false with hostTimer := s.clock + 5000 } host _ :=
        hpublished.frame ⟨rfl, rfl, id, fun _ => id⟩ rfl
      exact ⟨_, (htimer.sendDisconnect io).frame ⟨rfl, rfl, id, fun _ => id⟩ rfl⟩
    · split
      · exact ⟨_, hpublished.frame ⟨rfl, rfl, id, fun _ => id⟩ rfl⟩
      · exact ⟨state, h⟩
  · unfold doOffline
    split
    · have htimer : HostSys.Tells { s with hostTimer := s.clock + 5000 } host state :=
        h.frame ⟨rfl, rfl, id, fun _ => id⟩ rfl
      exact ⟨state, (htimer.sendDisconnect io).frame ⟨rfl, rfl, id, fun _ => id⟩ rfl⟩
    · split
      · exact ⟨_, (h.publishState true).frame ⟨rfl, rfl, id, fun _ => id⟩ rfl⟩
      · exact ⟨state, h⟩
  · unfold doWaitOnDisconnect
    split
    · exact ⟨state, h.frame ⟨rfl, rfl, id, fun _ => id⟩ rfl⟩
    · exact ⟨state, h⟩

theorem Tells.work {s : HostSys P} {state : Topic P} (h : s.Tells host state) (io : Outcomes) :
    ∃ next, (s.work io).Tells host next := by
  unfold HostSys.work
  split
  · exact ⟨state, h.frame ⟨rfl, rfl, id, fun _ => id⟩ rfl⟩
  · split
    · unfold leaveLoop
      split
      · dsimp only
        split
        · exact ⟨state, (h.sendDisconnect io).frame ⟨rfl, rfl, id, fun _ => id⟩ rfl⟩
        · exact ⟨state, h.frame ⟨rfl, rfl, id, fun _ => id⟩ rfl⟩
      · exact ⟨state, h.frame ⟨rfl, rfl, id, fun _ => id⟩ rfl⟩
    · exact ⟨state, h.frame ⟨rfl, rfl, id, fun _ => id⟩ rfl⟩
  · obtain ⟨next, hnext⟩ := h.stateStep io
    exact ⟨next, hnext.frame ⟨rfl, rfl, id, fun _ => id⟩ rfl⟩
  · split
    · exact ⟨state, h.frame ⟨rfl, rfl, id, fun _ => id⟩ rfl⟩
    · exact ⟨state, h.frame ⟨rfl, rfl, id, fun _ => id⟩ rfl⟩
  · exact ⟨state, h⟩
  · exact ⟨state, h⟩

/-- `Start` names the STATE topic and sets its publish flag. -/
theorem Tells.startNode {s : HostSys P} {state : Topic P} (h : s.Tells host state) (now : UInt64) :
    let n := SparkplugHost.start now s.self
    let next := { (state.onPayload (SparkplugHost.withDefaultMetrics s.self)).setTopic
      (SparkplugHost.statePath s.self) with publish := true }
    SparkplugHost.Owns n next ∧ SparkplugHost.Announceable next.payload ∧
      next.payload.IsState ∧ next.retained = true ∧ next.topic = SparkplugHost.statePath n := by
  have hmetrics := h.owns.self.update
    (m := SparkplugHost.addDefaultMetrics { s.self with startTime := now })
    (f := fun t => t.onPayload (SparkplugHost.withDefaultMetrics s.self))
    h.owns.self.messageType rfl rfl
  have htype : (state.onPayload (SparkplugHost.withDefaultMetrics s.self)).messageType =
      str "STATE" := h.owns.self.messageType
  have hnonempty : (state.onPayload (SparkplugHost.withDefaultMetrics s.self)).messageType ≠ [] :=
    htype ▸ (by decide)
  have hpayload := Topic.setTopic_payload (SparkplugHost.statePath s.self)
    (state.onPayload (SparkplugHost.withDefaultMetrics s.self))
  have hsettings := Topic.setTopic_settings (SparkplugHost.statePath s.self)
    (state.onPayload (SparkplugHost.withDefaultMetrics s.self))
  dsimp only
  refine ⟨hmetrics.update (m := SparkplugHost.start now s.self)
    (f := fun t => { t.setTopic _ with publish := true }) ?_ rfl rfl, ?_, ?_, ?_, ?_⟩
  · exact (Topic.setTopic_messageType hnonempty (.inl htype)).trans htype
  · rw [hpayload]
    apply SparkplugHost.Announceable.withMetric _ _ (by decide)
    apply SparkplugHost.Announceable.withMetric _ _ (by decide)
    apply SparkplugHost.Announceable.withHardware _ _ (by decide)
    apply SparkplugHost.Announceable.withHardware _ _ (by decide)
    apply SparkplugHost.Announceable.withHardware _ _ (by decide)
    exact h.owns.announceable.withHardware _ (by decide)
  · rw [hpayload]
    exact h.legible.defaultMetrics h.payload
  · exact (congrArg Settings.retained hsettings).trans h.retained
  · rw [Topic.setTopic_topic]
    rfl

theorem Tells.start {s : HostSys P} {state : Topic P} (h : s.Tells host state) (io : Outcomes) :
    ∃ next, (s.start io).Tells host next := by
  obtain ⟨howns, hannounceable, hpayload, hretained, hnamed⟩ := h.startNode s.now
  have hsetup : SparkplugHost.setup (SparkplugHost.start s.now s.self) =
      SparkplugHost.setup s.self := rfl
  unfold HostSys.start
  generalize SparkplugHost.start s.now s.self = n at howns hnamed hsetup
  have hname : n.name = host := (congrArg Prod.fst hsetup).trans h.name
  have hpath : SparkplugHost.statePath n = SparkplugHost.statePath s.self := by
    unfold SparkplugHost.statePath
    rw [hname, h.name]
  have hlegible : SparkplugHost.Legible n := by
    unfold SparkplugHost.Legible
    rw [hsetup]
    exact h.legible
  have hsession : ∀ p, .publish p ∈ s.session →
      SparkplugHost.Speaks (SparkplugHost.statePath n) p.topic := hpath ▸ h.session
  split
  · exact ⟨state, h⟩
  · dsimp only
    split
    · exact ⟨_, hname, ⟨howns, hannounceable, fun _ => rfl⟩, hlegible, hpayload, hretained,
        fun _ => hnamed, hsession⟩
    · exact ⟨_, hname, ⟨howns.of_same rfl rfl, hannounceable, fun _ => rfl⟩, hlegible, hpayload,
        hretained, fun _ => hnamed, hsession⟩
    · exact ⟨_, hname, ⟨howns.of_same rfl rfl, hannounceable, fun _ => rfl⟩, hlegible, hpayload,
        hretained, fun _ => hnamed, hsession⟩

theorem Tells.message {s : HostSys P} {state : Topic P} (h : s.Tells host state)
    (topicName : Str) (body : BodyList) : (s.message topicName body).Tells host state := by
  have howns := owns_message h.owns topicName body
  unfold HostSys.message at howns ⊢
  split
  · rename_i hreceives
    rw [if_pos hreceives] at howns
    have hbase := (Receiver.self_message (r := s.receiver) (.inl h.owns.self.isHost) topicName
      s.now body).base
    have hsetup : SparkplugHost.setup (s.receiver.message topicName s.now body).self =
        SparkplugHost.setup s.self := by
      rw [hbase]
      rfl
    have hframe : s.Frame { s with receiver := s.receiver.message topicName s.now body } := by
      refine ⟨?_, hsetup, id, fun _ => id⟩
      change (s.receiver.message topicName s.now body).self.isHost = s.self.isHost
      rw [hbase]
      rfl
    exact ⟨(congrArg Prod.fst hsetup).trans h.name, howns, hframe.legible h.legible, h.payload,
      h.retained,
      fun hsome => (h.named hsome).trans hframe.statePath.symm,
      fun p hp => hframe.speaks (h.session p hp)⟩
  · exact h

/-- Every event keeps what the STATE topic of a host tells. -/
theorem Tells.step {s : HostSys P} {state : Topic P} (h : s.Tells host state) (e : HostEvent) :
    ∃ next, (s.step e).Tells host next := by
  cases e with
  | work elapsed io =>
    have htick : (s.tick elapsed).Tells host state := h.frame ⟨rfl, rfl, id, fun _ => id⟩ rfl
    exact htick.work io
  | link event =>
    refine ⟨state, h.frame ⟨rfl, rfl, ?_, fun p hp => ?_⟩ rfl⟩
    · simp [HostSys.step, linkEvent, Mqtt.link]
    · simp only [HostSys.step, linkEvent] at hp
      split at hp
      · cases hp
      · exact hp
  | connectionLost =>
    simp only [HostSys.step, connectionLost]
    split
    · exact ⟨state, h.frame ⟨rfl, rfl, by simp [setConnectionLost, Mqtt.lose], fun _ => id⟩ rfl⟩
    · exact ⟨state, h⟩
  | callback hasResponse version =>
    simp only [HostSys.step, callback]
    split
    · exact ⟨state, h⟩
    · split
      · exact ⟨state, h.frame ⟨rfl, rfl, by simp [Mqtt.popCallback], fun _ => id⟩ rfl⟩
      · exact ⟨state, h.frame ⟨rfl, rfl, by simp [Mqtt.popCallback], fun _ => id⟩ rfl⟩
  | message topicName body => exact ⟨state, h.message topicName body⟩
  | start io => exact h.start io
  | stop => exact ⟨state, h.frame ⟨rfl, rfl, id, fun _ => id⟩ rfl⟩
  | stopReturns =>
    simp only [HostSys.step, stopReturns]
    split
    · exact ⟨state, h.frame ⟨rfl, rfl, by simp, fun _ => id⟩ rfl⟩
    · exact ⟨state, h⟩
  | inService on => exact ⟨state, h.frame ⟨rfl, rfl, id, fun _ => id⟩ rfl⟩

theorem configure_topicList (n : SparkplugNode P) (setups : List HostSetup) :
    (setups.foldl SparkplugHost.configure n).topicList = n.topicList := by
  induction setups generalizing n with
  | nil => rfl
  | cons setup setups ih =>
    rw [List.foldl_cons, ih]
    cases setup <;> rfl

/-- The STATE topic of a host that is not started yet. -/
theorem tells_init (hostName : Option Str) (now : UInt64) (setups : List HostSetup)
    (hlegible : SparkplugHost.Legible (init (P := P) hostName now setups).self) :
    ∃ state, (init (P := P) hostName now setups).Tells (init (P := P) hostName now setups).self.name
      state := by
  obtain ⟨state, howns⟩ := owns_init (P := P) hostName now setups
  have hcreated : ∃ t, (init (P := P) hostName now setups).self.topicList.getTopicByMessageType
      (str "STATE") = some t ∧ t.payload.IsState ∧ t.retained = true := by
    cases hostName with
    | none =>
      have hsame : (init (P := P) none now setups).self.topicList =
          (SparkplugHost.create now).topicList := configure_topicList _ setups
      rw [hsame]
      exact SparkplugHost.created_tells rfl
    | some name =>
      have hsame : (init (P := P) (some name) now setups).self.topicList =
          (SparkplugHost.createNamed name now).topicList := configure_topicList _ setups
      rw [hsame]
      apply SparkplugHost.created_tells
      rw [TopicList.getTopicByMessageType, List.find?_eq_none]
      intro t ht
      obtain ⟨birth, death, hlist, hbirth, hdeath, -⟩ :=
        SparkplugNode.create_topicList (P := P) now
      have hmem : t ∈ [birth, death] := hlist ▸ ht
      have hbirth' : TopicList.hasMessageType (str "STATE") birth = false :=
        TopicList.hasMessageType_ne hbirth (by decide)
      have hdeath' : TopicList.hasMessageType (str "STATE") death = false :=
        TopicList.hasMessageType_ne hdeath (by decide)
      simp only [List.mem_cons, List.not_mem_nil, or_false] at hmem
      rcases hmem with rfl | rfl
      · simp [hbirth']
      · simp [hdeath']
  obtain ⟨t, hfind, hpayload, hretained⟩ := hcreated
  obtain rfl := Option.some.inj (howns.self.find.symm.trans hfind)
  exact ⟨state, rfl, howns, hlegible, hpayload, hretained,
    fun hsome => absurd hsome Bool.false_ne_true, fun p hp => absurd hp List.not_mem_nil⟩

end HostSys

/-- A JSON text reads back, and it is not empty. -/
structure JsonText (P : Platform) : Prop extends JsonLaws P where
  nonempty : ∀ ms : JsonMembers, P.serializeJson ms ≠ []

theorem JsonText.reference : JsonText .reference where
  toJsonLaws := .reference
  nonempty _ := List.cons_ne_nil _ _

namespace Delivery
variable {P : Platform}

/-- The message is a STATE message of the host of that name. -/
def IsOf (P : Platform) (host : Str) (online : Bool) (m : Delivery) : Prop :=
  m.report P = some (host, online) ∧
    ∀ members, m.stateMembers P = some members → AnnouncesOnce P members

/-- A node hears what the STATE topic says. -/
theorem isOf_state (laws : JsonText P) {n : SparkplugNode P} (hname : IsName n.name)
    {p : Payload P} (hp : p.IsState) {online : Bool} (htold : p.Says online) {m : Delivery}
    (htopic : m.topicName = SparkplugHost.statePath n) (hbody : m.body = p.body) :
    m.IsOf P n.name online := by
  obtain ⟨members, hparsed, hannounces, honline⟩ := hp.announces laws.toJsonLaws htold
  have hlevels : levels m.topicName = [str "spBv1.0", str "STATE", n.name] :=
    htopic ▸ Receiver.levels_state hname
  have hparse : m.topic P = { Receiver.unshifted P m.topicName with
      nodeId := level 2 m.topicName, messageType := str "STATE", groupId := [] } :=
    Receiver.parseTopic_state (by rw [level, hlevels]; rfl)
  have hnode : (m.topic P).nodeId = n.name := by
    rw [hparse]
    dsimp only
    rw [level, hlevels]
    rfl
  have htype : (m.topic P).messageType = str "STATE" := by rw [hparse]
  have hnonempty : m.body ≠ [] := by
    rw [hbody, htold.1]
    exact laws.nonempty _
  have hmembers : m.stateMembers P = some members := by
    unfold stateMembers
    rw [if_pos ⟨htype, hnode ▸ hname.1, hnonempty⟩, hbody]
    exact hparsed
  constructor
  · unfold report
    rw [hmembers, Option.bind_some, honline, hnode]
    rfl
  · intro other hother
    rw [hmembers] at hother
    exact Option.some.inj hother ▸ hannounces

end Delivery
end PubSub
