import PubSub.DeviceMirror
import PubSub.Isolation
import PubSub.MirrorIdentity

/-!
# The mirror of a node that died

A death message makes the NBIRTH metrics of the mirror invalid, whatever birth/death number
it carries, and it leaves the devices of the mirror alone. So it does what it should do if the
mirror has no devices and the numbers are equal, or if there is nothing left to change.
-/

namespace PubSub
set_option autoImplicit false

namespace Delivery

/-- The birth/death number that the body carries. -/
def bdSeq (P : Platform) (m : Delivery) : Option UInt64 :=
  ((m.metrics P).find? fun pb => decide (pb.name = some (str "bdSeq"))).bind fun pb =>
    match pb.value with
    | .longValue v => some v
    | .intValue v => some v.toUInt64
    | _ => none

/-- An NBIRTH of the node. -/
def IsBirthOf (P : Platform) (group node : Str) (m : Delivery) : Prop :=
  (m.topic P).messageType = str "NBIRTH" ∧ P.iEquals (m.topic P).groupId group = true ∧
    P.iEquals (m.topic P).nodeId node = true

instance (P : Platform) (group node : Str) (m : Delivery) : Decidable (m.IsBirthOf P group node) :=
  inferInstanceAs (Decidable (_ ∧ _ ∧ _))

end Delivery

/-- The last NBIRTH of the node among the events. -/
def lastBirth (P : Platform) (group node : Str) (es : List (ReceiverEvent P)) : Option Delivery :=
  (es.filterMap fun e =>
    match e with
    | .message m => if m.IsBirthOf P group node then some m else none
    | .own _ => none).getLast?

namespace SparkplugNode
variable {P : Platform}

def nodeMetrics (n : SparkplugNode P) : List (Str × Metric) := n.topicList.metricsOf (str "NBIRTH")

def deviceMetrics (n : SparkplugNode P) : List (Str × Metric) :=
  n.deviceList.entries.flatMap fun e => e.2.topicList.metricsOf (str "DBIRTH")

/-- No metric of the births is valid. -/
def Stale (n : SparkplugNode P) : Prop :=
  ∀ e ∈ n.nodeMetrics ++ n.deviceMetrics, e.2.valid = false

def validity (n : SparkplugNode P) : List (Str × Bool) :=
  (n.nodeMetrics ++ n.deviceMetrics).map fun e => (e.1, e.2.valid)

end SparkplugNode

/-- What a receiver has seen of other nodes, and an NDEATH of a node that it mirrors. -/
structure DeathStory (P : Platform) where
  receiver : Receiver P
  fresh : receiver.nodeList = []
  before : List (ReceiverEvent P)
  death : Delivery
  deathType : (death.topic P).messageType = str "NDEATH"
  index : Nat
  found : (run Receiver.step receiver before).getNode (death.topic P).groupId
    (death.topic P).nodeId = some (.remote index)
  mirror : SparkplugNode P
  mirrored : (run Receiver.step receiver before).nodeList[index]? = some mirror
  isNode : mirror.isHost = false

namespace DeathStory
variable {P : Platform} (s : DeathStory P)

def beforeDeath : Receiver P := run Receiver.step s.receiver s.before

def afterDeath : Receiver P := s.beforeDeath.deliver s.death

def lastBirthSeq : Option UInt64 :=
  (lastBirth P (s.death.topic P).groupId (s.death.topic P).nodeId s.before).bind
    (Delivery.bdSeq P)

/-- The death is the one of the last birth. -/
def Current : Prop := ∃ v, s.death.bdSeq P = some v ∧ s.lastBirthSeq = some v

/-- The death is the one of another birth. -/
def Outdated : Prop :=
  ∃ v w, s.death.bdSeq P = some v ∧ s.lastBirthSeq = some w ∧ v ≠ w

/-- A current death makes the mirror stale, and an outdated one changes no validity. -/
def Heeded : Prop :=
  (s.Current → ∀ n, s.afterDeath.nodeList[s.index]? = some n → n.Stale) ∧
  (s.Outdated → s.afterDeath.nodeList.map SparkplugNode.validity =
    s.beforeDeath.nodeList.map SparkplugNode.validity)

end DeathStory

namespace SparkplugDevice
variable {P : Platform}

/-- The device is as its constructor made it, and it has metrics. -/
structure Stocked (d : SparkplugDevice P) : Prop where
  asCreated : d.AsCreated
  birth : ∃ t, d.topicList.getTopicByMessageType (str "DBIRTH") = some t ∧
    t.payload.metricList.entries ≠ []

theorem withHardware_ne_nil (name value : Str) {p : Payload P}
    (h : p.metricList.entries ≠ []) : (p.withHardware name value).metricList.entries ≠ [] := by
  unfold Payload.withHardware
  split
  · exact h
  · exact Payload.entries_withMetric_ne_nil _ _ p

theorem setTimestamp_ne_nil (now : UInt64) {p : Payload P} (h : p.metricList.entries ≠ []) :
    (p.setTimestamp now true).metricList.entries ≠ [] := by
  have hkeys : (p.setTimestamp now true).metricList.entries.map Prod.fst =
      p.metricList.entries.map Prod.fst :=
    Eq.trans (Entries.mapValues_keys (fun _ (m : Metric) => { m with timestamp := now }) _)
      (Entries.updateFirst_keys (Entries.sameKey P.foldKey (str "timestamp"))
        (fun m : Metric => m.setInt now.toNat) p.metricList.entries)
  intro hnil
  rw [hnil] at hkeys
  exact h (List.map_eq_nil_iff.mp hkeys.symm)

theorem defaultMetrics_ne_nil (d : SparkplugDevice P) (p : Payload P) :
    (d.defaultMetrics p).metricList.entries ≠ [] := by
  have hscan := Payload.entries_withMetric_ne_nil (str "Device Control/Scan Rate")
    (fun m => ({ m with datatype := .int64 }.setBool false).setUnit P (str "ms"))
    ((p.withBoolean (str "Device Control/Reboot")).withBoolean (str "Device Control/Rebirth"))
  unfold defaultMetrics
  exact withHardware_ne_nil _ _ (withHardware_ne_nil _ _
    (withHardware_ne_nil _ _ (withHardware_ne_nil _ _ hscan)))

theorem create_birth (parentName : Str) (now : UInt64) : ∃ (d : SparkplugDevice P) (t : Topic P),
    (create parentName now).topicList.getTopicByMessageType (str "DBIRTH") = some t ∧
      t.payload = (d.defaultMetrics {}).setTimestamp now true := by
  refine ⟨createDeviceDeathTopic parentName now {}, ?_⟩
  unfold create createDeviceBirthTopic createDeviceDeathTopic
  dsimp only
  rw [TopicList.deletePrevious_nil, List.nil_append, TopicList.deletePrevious_of_none]
  · refine ⟨_, TopicList.find_second (rfl : _ = str "DDEATH") (by decide) rfl, ?_⟩
    rw [Topic.onPayload_payload, baseTopic_payload]
  · rw [TopicList.find_cons_ne]
    · rfl
    · exact TopicList.hasMessageType_ne (rfl : _ = str "DDEATH") (by decide)

theorem stocked_create (parentName : Str) (now : UInt64) (group name : Str) :
    Stocked (P := P) { create parentName now with group := group, name := name } := by
  obtain ⟨d, t, ht, hpayload⟩ := create_birth (P := P) parentName now
  refine ⟨asCreated_create parentName now, t, ht, ?_⟩
  rw [hpayload]
  exact setTimestamp_ne_nil now (defaultMetrics_ne_nil d {})

theorem Stocked.metrics {d : SparkplugDevice P} (h : d.Stocked) :
    ∃ e ∈ d.topicList.metricsOf (str "DBIRTH"), e.2.valid = true := by
  obtain ⟨t, ht, hne⟩ := h.birth
  obtain ⟨e, he⟩ := List.exists_mem_of_ne_nil _ hne
  rw [TopicList.metricsOf_of_find ht]
  exact ⟨e, he, (h.asCreated t (List.mem_of_find?_eq_some ht)).2 e he⟩

end SparkplugDevice

namespace SparkplugNode
variable {P : Platform}

/-- The topics that a death message looks for, the NDEATH one without the publish flag. -/
def HearsDeath (list : TopicList P) : Prop := ∃ birth death,
  list.getTopicByMessageType (str "NBIRTH") = some birth ∧
    list.getTopicByMessageType (str "NDEATH") = some death ∧ death.publish = false

theorem HearsDeath.payloadsOnly {list changed : TopicList P} (h : HearsDeath list)
    (hsame : list.PayloadsOnly changed) : HearsDeath changed := by
  have hfind : ∀ messageType (s t : Topic P), Topic.PayloadOnly s t →
      TopicList.hasMessageType messageType t = TopicList.hasMessageType messageType s := by
    intro messageType s t hst
    unfold TopicList.hasMessageType
    rw [hst.messageType]
  obtain ⟨birth, death, hbirth, hdeath, hpublish⟩ := h
  obtain ⟨birth', hbirth', -⟩ := TopicList.find?_forall₂ (hfind _) hsame hbirth
  obtain ⟨death', hdeath', hsame'⟩ := TopicList.find?_forall₂ (hfind _) hsame hdeath
  exact ⟨birth', death', hbirth', hdeath', hsame'.publish.trans hpublish⟩

theorem hearsDeath_create (now : UInt64) :
    HearsDeath (SparkplugNode.create (P := P) now).topicList := by
  obtain ⟨birth, death, hlist, hbirth, hdeath, -, -, -, hpublish⟩ := create_topicList (P := P) now
  rw [hlist]
  exact ⟨birth, death, TopicList.find_first hbirth,
    TopicList.find_second hbirth (by decide) hdeath, hpublish⟩

theorem isHost_onDevice (device : Str) (f : TopicList P → TopicList P) (n : SparkplugNode P) :
    (n.onDevice device f).isHost = n.isHost :=
  congrArg Identity.isHost (identity_onDevice device f n)

theorem isHost_createHost (now : UInt64) : (SparkplugHost.create (P := P) now).isHost = true := by
  unfold SparkplugHost.create SparkplugHost.createStateTopic
  split <;> rfl

theorem hearsDeath_invariant :
    Receiver.MirrorInvariant (P := P) fun n => n.isHost = false → HearsDeath n.topicList where
  host name now h := by
    have hkind : (SparkplugHost.create (P := P) now).isHost = false := h
    rw [isHost_createHost] at hkind
    cases hkind
  node _ _ now _ := hearsDeath_create now
  state body n h hnode := (h hnode).payloadsOnly
    (TopicList.payloadsOnly_receive _ (Payload.keepsAliases_receiveJson body) n.topicList)
  birth now body n h hnode := (h hnode).payloadsOnly
    (TopicList.payloadsOnly_receive _ (Payload.keepsAliases_receiveProtobuf true now body) _)
  death now body n h hnode := (h hnode).payloadsOnly
    (TopicList.payloadsOnly_receiveDeath (Payload.keepsAliases_receiveProtobuf true now body)
      (by decide) (by decide) _)
  data now body n h hnode := (h hnode).payloadsOnly
    (TopicList.payloadsOnly_receive _ (Payload.keepsAliases_receiveProtobuf false now body) _)
  deviceBirth device now body n h hnode := by
    have hkind := congrArg Identity.isHost (identity_deviceBirth device now body n)
    rw [Receiver.deviceBirth_topicList]
    exact h (hkind.symm.trans hnode)
  deviceDeath device now body n h hnode := by
    rw [Receiver.onDevice_topicList]
    rw [isHost_onDevice] at hnode
    exact h hnode
  deviceUpdate device now body n h hnode := by
    rw [Receiver.onDevice_topicList]
    rw [isHost_onDevice] at hnode
    exact h hnode

theorem death_metrics {n : SparkplugNode P} (h : HearsDeath n.topicList)
    (store : Payload P → Payload P) :
    (n.onTopics fun list => list.receiveDeath (str "NBIRTH") (str "NDEATH") store).nodeMetrics =
        n.nodeMetrics.map (fun e => (e.1, { e.2 with valid := false })) ∧
      (n.onTopics fun list => list.receiveDeath (str "NBIRTH") (str "NDEATH") store).deviceMetrics =
        n.deviceMetrics := by
  obtain ⟨birth, death, hbirth, hdeath, hpublish⟩ := h
  refine ⟨?_, rfl⟩
  have hreceived : n.topicList.receiveDeath (str "NBIRTH") (str "NDEATH") store =
      (n.topicList.update (str "NDEATH") fun t => t.onPayload store).update (str "NBIRTH")
        Topic.setAllMetricsInvalid := by
    unfold TopicList.receiveDeath
    rw [hbirth, hdeath]
    dsimp only
    rw [if_neg (by simp [hpublish])]
  have hfound : TopicList.getTopicByMessageType (str "NBIRTH")
      (n.topicList.receiveDeath (str "NBIRTH") (str "NDEATH") store) =
        some birth.setAllMetricsInvalid := by
    rw [hreceived, TopicList.find_update_self (f := Topic.setAllMetricsInvalid) (fun _ => rfl)]
    have hother := @TopicList.find_update_ne P (str "NDEATH") (str "NBIRTH")
      (fun t => t.onPayload store) (fun _ => rfl) (by decide) n.topicList
    rw [hother, hbirth]
    rfl
  have hmetrics : n.nodeMetrics = birth.payload.metricList.entries :=
    TopicList.metricsOf_of_find hbirth
  rw [hmetrics]
  exact TopicList.metricsOf_of_find hfound

end SparkplugNode

namespace Receiver
variable {P : Platform} {Q : SparkplugNode P → Prop}

/-- A property of mirrors that the handlers keep holds of all the mirrors after any events. -/
theorem Mirrors.events {r : Receiver P} (h : r.Mirrors Q) (hQ : MirrorInvariant Q)
    (es : List (ReceiverEvent P)) : (PubSub.run step r es).Mirrors Q := by
  refine run_preserves (fun r e hr => ?_) es h
  cases e with
  | message m => exact hr.message hQ m.topicName m.now m.body
  | own self => exact hr

theorem message_nodeDeath {topicName : Str}
    (h : (parseTopic P topicName).messageType = str "NDEATH") (now : UInt64) (body : BodyList)
    (r : Receiver P) : r.message topicName now body =
      r.handleNodeDeathMessage (parseTopic P topicName).groupId (parseTopic P topicName).nodeId
        now body := by
  unfold message
  dsimp only
  rw [h, if_neg (by decide), if_neg (by decide), if_pos rfl]

end Receiver

namespace DeathStory
variable {P : Platform} (s : DeathStory P)

theorem mirrors {Q : SparkplugNode P → Prop} (hQ : Receiver.MirrorInvariant Q) :
    s.beforeDeath.Mirrors Q := by
  have hfresh : s.receiver.Mirrors Q := by
    intro n hn
    rw [s.fresh] at hn
    cases hn
  exact hfresh.events hQ s.before

def buried : SparkplugNode P := s.mirror.onTopics fun list =>
  list.receiveDeath (str "NBIRTH") (str "NDEATH")
    (Payload.receiveProtobuf true s.death.now s.death.body)

theorem afterDeath_nodeList : s.afterDeath.nodeList =
    s.beforeDeath.nodeList.modify s.index fun n => n.onTopics fun list =>
      list.receiveDeath (str "NBIRTH") (str "NDEATH")
        (Payload.receiveProtobuf true s.death.now s.death.body) := by
  have hmessage := Receiver.message_nodeDeath s.deathType s.death.now s.death.body s.beforeDeath
  have hfound : s.beforeDeath.getNode (Receiver.parseTopic P s.death.topicName).groupId
      (Receiver.parseTopic P s.death.topicName).nodeId = some (.remote s.index) := s.found
  unfold afterDeath Receiver.deliver
  rw [hmessage]
  unfold Receiver.handleNodeDeathMessage Receiver.onNode
  rw [hfound]
  rfl

theorem afterDeath_mirror : s.afterDeath.nodeList[s.index]? = some s.buried := by
  have hmirror : s.beforeDeath.nodeList[s.index]? = some s.mirror := s.mirrored
  rw [afterDeath_nodeList, List.getElem?_modify_eq, hmirror]
  rfl

/-- Only the mirror of the node can change its validity. -/
theorem afterDeath_validity : s.afterDeath.nodeList.map SparkplugNode.validity =
    s.beforeDeath.nodeList.map SparkplugNode.validity ↔
      s.buried.validity = s.mirror.validity := by
  have hmirror : s.beforeDeath.nodeList[s.index]? = some s.mirror := s.mirrored
  constructor
  · intro hsame
    have hindex := congrArg (fun list => list[s.index]?) hsame
    rw [List.getElem?_map, List.getElem?_map, s.afterDeath_mirror, hmirror] at hindex
    exact Option.some.inj hindex
  · intro hsame
    apply List.ext_getElem?
    intro i
    rw [List.getElem?_map, List.getElem?_map]
    by_cases hi : s.index = i
    · rw [← hi, s.afterDeath_mirror, hmirror, Option.map_some, Option.map_some, hsame]
    · rw [afterDeath_nodeList, List.getElem?_modify_ne _ _ hi]

/-- The devices of the mirror keep a valid metric. -/
theorem devices_valid : (∀ e ∈ s.mirror.deviceMetrics, e.2.valid = false) ↔
    s.mirror.deviceList.entries = [] := by
  have hstocked := s.mirrors (SparkplugNode.published_invariant
    (Q := SparkplugDevice.Stocked) SparkplugDevice.stocked_create
    fun _ h t ht => (h.asCreated t ht).1) s.mirror (List.mem_of_getElem? s.mirrored)
  constructor
  · intro hstale
    by_contra hne
    obtain ⟨d, hd⟩ := List.exists_mem_of_ne_nil _ hne
    obtain ⟨e, he, hvalid⟩ := (hstocked d hd).metrics
    have hfalse := hstale e (List.mem_flatMap.mpr ⟨d, hd, he⟩)
    rw [hvalid] at hfalse
    cases hfalse
  · intro hnone e he
    obtain ⟨d, hd, -⟩ := List.mem_flatMap.mp he
    rw [hnone] at hd
    cases hd

theorem buried_metrics :
    s.buried.nodeMetrics = s.mirror.nodeMetrics.map (fun e => (e.1, { e.2 with valid := false })) ∧
      s.buried.deviceMetrics = s.mirror.deviceMetrics :=
  SparkplugNode.death_metrics
    (s.mirrors SparkplugNode.hearsDeath_invariant s.mirror (List.mem_of_getElem? s.mirrored)
      s.isNode) _

/-- After a death the mirror is stale if it has no devices. -/
theorem buried_stale : s.buried.Stale ↔ s.mirror.deviceList.entries = [] := by
  obtain ⟨hnode, hdevice⟩ := s.buried_metrics
  rw [← s.devices_valid]
  unfold SparkplugNode.Stale
  rw [hnode, hdevice, List.forall_mem_append, List.forall_mem_map]
  exact and_iff_right fun _ _ => rfl

theorem buried_validity : s.buried.validity = s.mirror.validity ↔
    ∀ e ∈ s.mirror.nodeMetrics, e.2.valid = false := by
  obtain ⟨hnode, hdevice⟩ := s.buried_metrics
  unfold SparkplugNode.validity
  rw [hnode, hdevice, List.map_append, List.map_append, List.append_cancel_right_eq, List.map_map,
    List.map_inj_left]
  apply forall₂_congr
  intro e _
  rw [Function.comp_apply, Prod.mk.injEq, and_iff_right rfl]
  exact eq_comm

/-- A death is heeded exactly if the mirror of a current one has no devices, and the births of
an outdated one left no valid metric of the node. -/
theorem heeded_iff : s.Heeded ↔ (s.Current → s.mirror.deviceList.entries = []) ∧
    (s.Outdated → ∀ e ∈ s.mirror.nodeMetrics, e.2.valid = false) := by
  unfold Heeded
  rw [s.afterDeath_validity, s.buried_validity, s.afterDeath_mirror, ← s.buried_stale]
  apply and_congr_left'
  apply imp_congr_right
  intro _
  constructor
  · intro h
    exact h s.buried rfl
  · intro h n hn
    rw [← Option.some.inj hn]
    exact h

end DeathStory

section Examples
open Platform

/-- The body of a birth or a death with a number. -/
def numberedBody (bdSeq : UInt64) (others : List PbMetric) : BodyList :=
  ProtobufCodec.serialize
    { metrics :=
        { name := some (str "bdSeq"), datatype := some 8, value := .longValue bdSeq } :: others }

def birthOfR : ReceiverEvent reference :=
  .message
    { topicName := str "spBv1.0/G/NBIRTH/R"
      now := 1
      body := numberedBody 3
        [{ name := some (str "Temp"), datatype := some 3, value := .intValue 20 }] }

def birthOfD : ReceiverEvent reference :=
  .message { topicName := str "spBv1.0/G/DBIRTH/R/D", now := 2, body := [] }

def deathOfR (bdSeq : UInt64) : Delivery :=
  { topicName := str "spBv1.0/G/NDEATH/R", now := 3, body := numberedBody bdSeq [] }

def observer : Receiver reference where
  self := { SparkplugNode.create 0 with group := str "G", name := str "N" }

/-- The will of the session before the birth arrives late. -/
def lateDeath : DeathStory reference where
  receiver := observer
  fresh := rfl
  before := [birthOfR]
  death := deathOfR 2
  deathType := by decide +kernel
  index := 0
  found := by decide +kernel
  mirror := ((run Receiver.step observer [birthOfR]).nodeList[0]?).get (by decide +kernel)
  mirrored := (Option.some_get _).symm
  isNode := by decide +kernel

/-- The node dies while the receiver mirrors a device of it. -/
def orphanedDevice : DeathStory reference where
  receiver := observer
  fresh := rfl
  before := [birthOfR, birthOfD]
  death := deathOfR 3
  deathType := by decide +kernel
  index := 0
  found := by decide +kernel
  mirror := ((run Receiver.step observer [birthOfR, birthOfD]).nodeList[0]?).get
    (by decide +kernel)
  mirrored := (Option.some_get _).symm
  isNode := by decide +kernel

/-- A late will makes a living mirror stale, and a death leaves the devices valid. -/
theorem death_is_not_heeded : ¬ lateDeath.Heeded ∧ ¬ orphanedDevice.Heeded := by
  constructor
  · rintro ⟨-, houtdated⟩
    have hseqs : (lateDeath.death.bdSeq reference, lateDeath.lastBirthSeq) = (some 2, some 3) := by
      decide +kernel
    obtain ⟨hdeath, hbirth⟩ := Prod.mk.inj hseqs
    have hsame := lateDeath.afterDeath_validity.mp
      (houtdated ⟨2, 3, hdeath, hbirth, by decide⟩)
    have hvalid : (lateDeath.mirror.nodeMetrics.any fun e => e.2.valid) = true := by
      decide +kernel
    obtain ⟨e, he, hvalid⟩ := List.any_eq_true.mp hvalid
    rw [lateDeath.buried_validity.mp hsame e he] at hvalid
    cases hvalid
  · rintro ⟨hcurrent, -⟩
    have hseqs : (orphanedDevice.death.bdSeq reference, orphanedDevice.lastBirthSeq) =
        (some 3, some 3) := by
      decide +kernel
    obtain ⟨hdeath, hbirth⟩ := Prod.mk.inj hseqs
    have hstale := hcurrent ⟨3, hdeath, hbirth⟩ _ orphanedDevice.afterDeath_mirror
    have hdevices : orphanedDevice.mirror.deviceList.entries.length = 1 := by decide +kernel
    rw [orphanedDevice.buried_stale.mp hstale] at hdevices
    cases hdevices

end Examples
end PubSub
