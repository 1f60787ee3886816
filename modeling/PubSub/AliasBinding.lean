import PubSub.Aliases
import PubSub.Mirrors
import PubSub.Reference

/-!
# What an alias of a data message names

A birth binds an alias to every name it carries. The mirror keeps the first alias of a name
and never drops a name, and a data message resolves an alias to the first metric in name
order that has it. So an alias names what the first births bound, not what the latest did.
-/

namespace PubSub
set_option autoImplicit false

section Bindings
variable (P : Platform)

/-- A name keeps the alias of the first entry that carries it. -/
def bindEntry (b : FoldedMap P.foldKey UInt64) (pb : PbMetric) : FoldedMap P.foldKey UInt64 :=
  b.insert (pb.name.getD []) (pb.aliasNumber.getD 0)

def bindBirth (b : FoldedMap P.foldKey UInt64) (pb : PbPayload) : FoldedMap P.foldKey UInt64 :=
  pb.metrics.foldl (bindEntry P) b

def bindingsOf (births : List PbPayload) : FoldedMap P.foldKey UInt64 :=
  births.foldl (bindBirth P) FoldedMap.empty

/-- The first name in name order that has the alias by the first birth that carries it. -/
def firstName (births : List PbPayload) (a : UInt64) : Option Str :=
  ((bindingsOf P births).entries.find? fun e => a == e.2).map Prod.fst

/-- The name that the most recent birth binds to the alias. -/
def latestName (births : List PbPayload) (a : UInt64) : Option Str :=
  births.getLast?.bind fun pb =>
    (pb.metrics.find? fun m => m.aliasNumber == some a).bind PbMetric.name

end Bindings

/-- Every entry has a name and a non-zero alias, and no name and no alias comes twice. -/
structure PbPayload.IsBirth (P : Platform) (pb : PbPayload) : Prop where
  named : ∀ m ∈ pb.metrics, ∃ name a, m.name = some name ∧ name ≠ [] ∧
    m.aliasNumber = some a ∧ a ≠ 0
  names : (pb.metrics.map fun m => P.foldKey (m.name.getD [])).Nodup
  aliases : (pb.metrics.map PbMetric.aliasNumber).Nodup

/-- A message of the type from the node, with the payload in its body. -/
structure Delivery.Carries (P : Platform) (messageType group node : Str) (m : Delivery)
    (pb : PbPayload) : Prop where
  type : (m.topic P).messageType = messageType
  groupId : (m.topic P).groupId = group
  nodeId : (m.topic P).nodeId = node
  parsed : P.parseFromArray m.body = some pb
  flat : pb.body = none

/-- The NBIRTH and NDATA messages of a node, and the payloads of its births. -/
inductive NodeHistory (P : Platform) (group node : Str) :
    List Delivery → List PbPayload → Prop where
  | start : NodeHistory P group node [] []
  | birth {ms : List Delivery} {births : List PbPayload} {m : Delivery} {pb : PbPayload} :
    NodeHistory P group node ms births → m.Carries P (str "NBIRTH") group node pb →
    pb.IsBirth P → NodeHistory P group node (ms ++ [m]) (births ++ [pb])
  | data {ms : List Delivery} {births : List PbPayload} {m : Delivery} {pb : PbPayload} :
    NodeHistory P group node ms births → m.Carries P (str "NDATA") group node pb →
    NodeHistory P group node (ms ++ [m]) births

namespace Payload
variable {P : Platform}

def bindings (p : Payload P) : FoldedMap P.foldKey UInt64 := p.metricList.view Metric.aliasNumber

/-- The entry sets the metric with the name, and nothing else changes. -/
structure SetsOnly (p q : Payload P) (name : Str) (pb : PbMetric) : Prop where
  rest : q = { p with metricList := q.metricList }
  set : ∃ m, p.getMetric name = some m ∧
    q.getMetric name = some (PayloadHelper.parseMetric P false p.getTimestamp pb m)
  others : ∀ other, P.foldKey other ≠ P.foldKey name → q.getMetric other = p.getMetric other

/-- What a data entry does that should set the metric with the name, if there is a name. -/
def Resolves (name : Option Str) (p : Payload P) (pb : PbMetric) : Prop :=
  match name with
  | none => PayloadHelper.parseEntry false p pb = p
  | some name => p.SetsOnly (PayloadHelper.parseEntry false p pb) name pb

end Payload

namespace Receiver
variable {P : Platform}

/-- The entries of a data message are handled one after the other, and every entry that has
only an alias resolves to the name that `binding` gives. Without a mirror nothing happens. -/
def DataObeys (r : Receiver P) (group node : Str) (m : Delivery) (pb : PbPayload)
    (binding : UInt64 → Option Str) : Prop :=
  match r.nodeBirth group node with
  | none => r.deliver m = r
  | some t =>
    let opened := t.payload.opened m.now m.body pb
    ((r.deliver m).nodeBirth group node).map Topic.payload =
        some (pb.metrics.foldl (PayloadHelper.parseEntry false) opened) ∧
      ∀ pre e post a, pb.metrics = pre ++ e :: post → e.name = none → e.aliasNumber = some a →
        Payload.Resolves (binding a) (pre.foldl (PayloadHelper.parseEntry false) opened) e

end Receiver

namespace Payload
variable {P : Platform}

def Numbered (p : Payload P) : Prop := ∀ e ∈ p.metricList.entries, e.2.aliasNumber ≠ 0

theorem numbered_iff {p : Payload P} : p.Numbered ↔ ∀ e ∈ p.bindings.entries, e.2 ≠ 0 := by
  simp only [Numbered, bindings, FoldedMap.entries_view, List.forall_mem_map]

theorem bindings_setTimestamp (ms : UInt64) (p : Payload P) :
    (p.setTimestamp ms false).bindings = p.bindings :=
  FoldedMap.view_updateFirst_of_same (fun _ _ => rfl) _

theorem bindings_parseHeader (now : UInt64) (pb : PbPayload) (p : Payload P) :
    (PayloadHelper.parseHeader now pb p).bindings = p.bindings :=
  bindings_setTimestamp _ p

theorem bindings_opened (now : UInt64) (body : BodyList) (pb : PbPayload) (p : Payload P) :
    (p.opened now body pb).bindings = p.bindings := by
  unfold opened
  split
  · rfl
  · exact bindings_parseHeader now pb _

/-- A birth entry binds its name, unless the name is bound. -/
theorem bindings_parseEntry_birth {p : Payload P} (hp : p.Numbered) {pb : PbMetric} {name : Str}
    {a : UInt64} (hname : pb.name = some name) (hne : name ≠ [])
    (halias : pb.aliasNumber = some a) (ha : a ≠ 0) :
    (PayloadHelper.parseEntry true p pb).bindings = bindEntry P p.bindings pb := by
  have hmatch : PayloadHelper.entryMatches P pb = Entries.sameKey P.foldKey name := by
    simp [PayloadHelper.entryMatches, hname]
  have hbind : bindEntry P p.bindings pb = p.bindings.insert name a := by
    simp [bindEntry, hname, halias]
  rw [hbind]
  cases hfound : p.getMetric name with
  | some m =>
    have hbound : p.bindings.get? name = some m.aliasNumber := by
      rw [bindings, FoldedMap.get?_view]
      exact congrArg (Option.map Metric.aliasNumber) hfound
    have hentry : p.metricList.findFirst? (PayloadHelper.entryMatches P pb) = some m := by
      rw [hmatch]
      exact hfound
    rw [FoldedMap.insert_of_get?_some hbound, PayloadHelper.parseEntry_found hentry]
    apply FoldedMap.view_updateFirst_of_same
    intro e he
    exact PayloadHelper.parseMetric_alias P (.inl (hp e he)) _ pb
  | none =>
    have hcreated : (PayloadHelper.createdMetric name pb).aliasNumber = a := by
      simp [PayloadHelper.createdMetric, halias]
    have hinserted : (p.metricList.insert name (PayloadHelper.createdMetric name pb)).view
        Metric.aliasNumber = p.bindings.insert name a := by
      rw [FoldedMap.view_insert, hcreated]
      rfl
    rw [← hinserted, PayloadHelper.parseEntry_created hname hne hfound]
    apply FoldedMap.view_updateFirst_of_same
    intro e he
    have hnumber : e.2.aliasNumber ≠ 0 := by
      rcases Entries.mem_insert_subset he with rfl | he
      · exact hcreated.symm ▸ ha
      · exact hp e he
    exact PayloadHelper.parseMetric_alias P (.inl hnumber) _ pb

theorem bindings_parseEntry_data (p : Payload P) (pb : PbMetric) :
    (PayloadHelper.parseEntry false p pb).bindings = p.bindings := by
  cases hfound : p.metricList.findFirst? (PayloadHelper.entryMatches P pb) with
  | none => rw [PayloadHelper.parseEntry_ignored hfound]
  | some m =>
    rw [PayloadHelper.parseEntry_found hfound]
    apply FoldedMap.view_updateFirst_of_same
    intro e _
    exact PayloadHelper.parseMetric_alias P (.inr rfl) _ pb

theorem bindings_foldl_data (ms : List PbMetric) (p : Payload P) :
    (ms.foldl (PayloadHelper.parseEntry false) p).bindings = p.bindings := by
  induction ms generalizing p with
  | nil => rfl
  | cons m ms ih => rw [List.foldl_cons, ih, bindings_parseEntry_data]

theorem bindings_foldl_birth {ms : List PbMetric}
    (hms : ∀ m ∈ ms, ∃ name a, m.name = some name ∧ name ≠ [] ∧ m.aliasNumber = some a ∧ a ≠ 0)
    {p : Payload P} (hp : p.Numbered) :
    (ms.foldl (PayloadHelper.parseEntry true) p).bindings = ms.foldl (bindEntry P) p.bindings ∧
      (ms.foldl (PayloadHelper.parseEntry true) p).Numbered := by
  induction ms generalizing p with
  | nil => exact ⟨rfl, hp⟩
  | cons m ms ih =>
    obtain ⟨name, a, hname, hne, halias, ha⟩ := hms m List.mem_cons_self
    have hbound := bindings_parseEntry_birth hp hname hne halias ha
    have hnumbered : (PayloadHelper.parseEntry true p m).Numbered := by
      rw [numbered_iff, hbound]
      intro e he
      rcases Entries.mem_insert_subset he with rfl | he
      · simpa [halias] using ha
      · exact numbered_iff.mp hp e he
    rw [List.foldl_cons, List.foldl_cons, ← hbound]
    exact ih (fun m hm => hms m (List.mem_cons_of_mem _ hm)) hnumbered

/-- A data entry with an alias alone sets the first metric that has the alias. -/
theorem resolves_alias (p : Payload P) {pb : PbMetric} {a : UInt64} (hname : pb.name = none)
    (halias : pb.aliasNumber = some a) :
    p.Resolves ((p.bindings.entries.find? fun e => a == e.2).map Prod.fst) pb := by
  have hmatch : PayloadHelper.entryMatches P pb = hasAlias a := by
    simp [PayloadHelper.entryMatches, hname, halias]
  have hfind : p.bindings.entries.find? (fun e => a == e.2) =
      (p.metricList.entries.find? fun e => hasAlias a e.1 e.2).map
        fun e => (e.1, e.2.aliasNumber) := by
    rw [bindings, FoldedMap.entries_view, List.find?_map]
    rfl
  rw [hfind]
  cases hfound : p.metricList.entries.find? (fun e => hasAlias a e.1 e.2) with
  | none =>
    apply PayloadHelper.parseEntry_ignored
    rw [hmatch, FoldedMap.findFirst?, Entries.findFirst?, hfound]
    rfl
  | some e =>
    have hsome : p.metricList.findFirst? (PayloadHelper.entryMatches P pb) = some e.2 := by
      rw [hmatch, FoldedMap.findFirst?, Entries.findFirst?, hfound]
      rfl
    have hparsed : PayloadHelper.parseEntry false p pb = { p with
        metricList := p.metricList.update e.1
          (PayloadHelper.parseMetric P false p.getTimestamp pb) } := by
      rw [PayloadHelper.parseEntry_found hsome, hmatch, FoldedMap.updateFirst_eq_update hfound]
    have hget : p.getMetric e.1 = some e.2 :=
      FoldedMap.get?_of_mem (List.mem_of_find?_eq_some hfound) rfl
    change p.SetsOnly (PayloadHelper.parseEntry false p pb) e.1 pb
    rw [hparsed]
    refine ⟨rfl, ⟨e.2, hget, ?_⟩, ?_⟩
    · refine (FoldedMap.get?_update_self p.metricList e.1 _).trans ?_
      exact congrArg (Option.map _) hget
    · intro other hother
      exact FoldedMap.get?_update_ne p.metricList _ hother

end Payload

namespace Receiver
variable {P : Platform}

/-- Before the first birth there is no mirror; then the mirror has the bindings of the
births. -/
def Tracks (r : Receiver P) (group node : Str) (births : List PbPayload) : Prop :=
  (births = [] ∧ r.getNode group node = none) ∨
  ∃ t, r.nodeBirth group node = some t ∧ t.publish = false ∧ t.payload.Numbered ∧
    t.payload.bindings = bindingsOf P births

theorem Tracks.birth {r : Receiver P} {group node : Str} {births : List PbPayload}
    (h : r.Tracks group node births) (hgroup : group ≠ []) (hnode : node ≠ []) {m : Delivery}
    {pb : PbPayload} (hm : m.Carries P (str "NBIRTH") group node pb) (hpb : pb.IsBirth P) :
    (r.deliver m).Tracks group node (births ++ [pb]) := by
  have hopen : ∃ t, (r.ensureNode group node m.now).nodeBirth group node = some t ∧
      t.publish = false ∧ t.payload.Numbered ∧ t.payload.bindings = bindingsOf P births := by
    rcases h with ⟨rfl, hnone⟩ | ⟨t, ht, hrest⟩
    · obtain ⟨t, ht, hpublish, hempty⟩ := nodeBirth_ensureNode_none hgroup hnode hnone m.now
      refine ⟨t, ht, hpublish, ?_, ?_⟩
      · intro e he
        rw [hempty] at he
        cases he
      · rw [Payload.bindings, hempty]
        rfl
    · cases htarget : r.getNode group node with
      | none => simp [nodeBirth, findNode_of_none htarget] at ht
      | some target =>
        rw [ensureNode_some htarget]
        exact ⟨t, ht, hrest⟩
  obtain ⟨t, ht, hpublish, hnumbered, hbindings⟩ := hopen
  have hopened : (t.payload.opened m.now m.body pb).Numbered := by
    rw [Payload.numbered_iff, Payload.bindings_opened]
    exact Payload.numbered_iff.mp hnumbered
  obtain ⟨hbound, hkept⟩ := Payload.bindings_foldl_birth hpb.named hopened
  refine .inr ⟨t.onPayload (Payload.receiveProtobuf true m.now m.body), ?_, hpublish, ?_, ?_⟩
  · have hmessage := message_nodeBirth (r := r) hm.type m.now m.body
    rw [deliver, hmessage]
    change (r.handleNodeBirthMessage (m.topic P).groupId (m.topic P).nodeId m.now
      m.body).nodeBirth group node = _
    rw [hm.groupId, hm.nodeId, nodeBirth_handleNodeBirth hgroup hnode, ht]
    simp [hpublish]
  · rw [Topic.onPayload_payload, Payload.receiveProtobuf_eq hm.parsed hm.flat]
    exact hkept
  · rw [Topic.onPayload_payload, Payload.receiveProtobuf_eq hm.parsed hm.flat, hbound,
      Payload.bindings_opened, hbindings, bindingsOf, bindingsOf, List.foldl_append]
    rfl

theorem nodeBirth_deliver_data {r : Receiver P} {group node : Str} {m : Delivery}
    {pb : PbPayload} (hm : m.Carries P (str "NDATA") group node pb) {t : Topic P}
    (ht : r.nodeBirth group node = some t) (hpublish : t.publish = false) :
    (r.deliver m).nodeBirth group node =
      some (t.onPayload (Payload.receiveProtobuf false m.now m.body)) := by
  have hmessage := message_nodeData (r := r) hm.type m.now m.body
  rw [deliver, hmessage]
  change (r.handleNodeDataMessage (m.topic P).groupId (m.topic P).nodeId m.now
    m.body).nodeBirth group node = _
  rw [hm.groupId, hm.nodeId, nodeBirth_handleNodeData, ht]
  simp [hpublish]

theorem deliver_data_unseen {r : Receiver P} {group node : Str} {m : Delivery}
    {pb : PbPayload} (hm : m.Carries P (str "NDATA") group node pb)
    (h : r.getNode group node = none) : r.deliver m = r := by
  have hmessage := message_nodeData (r := r) hm.type m.now m.body
  rw [deliver, hmessage]
  change r.handleNodeDataMessage (m.topic P).groupId (m.topic P).nodeId m.now m.body = r
  rw [hm.groupId, hm.nodeId]
  unfold handleNodeDataMessage onNode
  rw [h]

theorem Tracks.data {r : Receiver P} {group node : Str} {births : List PbPayload}
    (h : r.Tracks group node births) {m : Delivery} {pb : PbPayload}
    (hm : m.Carries P (str "NDATA") group node pb) :
    (r.deliver m).Tracks group node births := by
  rcases h with ⟨hbirths, hnone⟩ | ⟨t, ht, hpublish, hnumbered, hbindings⟩
  · rw [deliver_data_unseen hm hnone]
    exact .inl ⟨hbirths, hnone⟩
  · have hkept : (t.payload.receiveProtobuf false m.now m.body).bindings = t.payload.bindings := by
      rw [Payload.receiveProtobuf_eq hm.parsed hm.flat, Payload.bindings_foldl_data,
        Payload.bindings_opened]
    refine .inr ⟨_, nodeBirth_deliver_data hm ht hpublish, hpublish, ?_, ?_⟩
    · rw [Topic.onPayload_payload, Payload.numbered_iff, hkept]
      exact Payload.numbered_iff.mp hnumbered
    · rw [Topic.onPayload_payload, hkept, hbindings]

theorem tracks_run {r : Receiver P} {group node : Str} {ms : List Delivery}
    {births : List PbPayload} (h : NodeHistory P group node ms births) (hgroup : group ≠ [])
    (hnode : node ≠ []) (hunseen : r.getNode group node = none) :
    (run deliver r ms).Tracks group node births := by
  induction h with
  | start => exact .inl ⟨rfl, hunseen⟩
  | birth _ hm hpb ih =>
    rw [run_append]
    exact ih.birth hgroup hnode hm hpb
  | data _ hm ih =>
    rw [run_append]
    exact ih.data hm

/-- A mirror resolves an alias by the bindings of the births it tracks. -/
theorem Tracks.dataObeys {r : Receiver P} {group node : Str} {births : List PbPayload}
    (h : r.Tracks group node births) {m : Delivery} {pb : PbPayload}
    (hm : m.Carries P (str "NDATA") group node pb) :
    r.DataObeys group node m pb (firstName P births) := by
  unfold DataObeys
  rcases h with ⟨hbirths, hnone⟩ | ⟨t, ht, hpublish, hnumbered, hbindings⟩
  · rw [nodeBirth, findNode_of_none hnone]
    exact deliver_data_unseen hm hnone
  · rw [ht]
    refine ⟨?_, ?_⟩
    · rw [nodeBirth_deliver_data hm ht hpublish, Option.map_some, Topic.onPayload_payload,
        Payload.receiveProtobuf_eq hm.parsed hm.flat]
    · intro pre e post a _ hname halias
      have hresolves := Payload.resolves_alias
        (pre.foldl (PayloadHelper.parseEntry false) (t.payload.opened m.now m.body pb))
        hname halias
      rw [Payload.bindings_foldl_data, Payload.bindings_opened, hbindings] at hresolves
      exact hresolves

end Receiver

/-- After any history of a node, the alias of a data entry stands for the first metric in
name order that the births bound to it when they named it first. -/
theorem alias_follows_first_birth {P : Platform} {group node : Str} {ms : List Delivery}
    {births : List PbPayload} (history : NodeHistory P group node ms births)
    (hgroup : group ≠ []) (hnode : node ≠ []) {r : Receiver P}
    (hunseen : r.getNode group node = none) {m : Delivery} {pb : PbPayload}
    (hm : m.Carries P (str "NDATA") group node pb) :
    (run Receiver.deliver r ms).DataObeys group node m pb (firstName P births) :=
  (Receiver.tracks_run history hgroup hnode hunseen).dataObeys hm

section Swapped

/-- A birth with two metrics. -/
def pairBirth (a b : UInt64) : PbPayload where
  timestamp := some 1
  metrics :=
    [{ name := some (str "A")
       aliasNumber := some a
       datatype := some 3
       value := .intValue 5 },
     { name := some (str "B")
       aliasNumber := some b
       datatype := some 3
       value := .intValue 5 }]

def setsFirst : PbMetric where
  aliasNumber := some 1
  value := .intValue 9

def firstData : PbPayload where
  timestamp := some 2
  metrics := [setsFirst]

def swapReceiver : Receiver Platform.reference where
  self := { SparkplugNode.create 0 with group := str "G", name := str "N" }

def birthDelivery (pb : PbPayload) : Delivery where
  topicName := str "spBv1.0/G/NBIRTH/R"
  now := 1
  body := ProtobufCodec.serialize pb

def dataDelivery (pb : PbPayload) : Delivery where
  topicName := str "spBv1.0/G/NDATA/R"
  now := 2
  body := ProtobufCodec.serialize pb

theorem birthDelivery_carries {pb : PbPayload} (h : pb.body = none) :
    (birthDelivery pb).Carries Platform.reference (str "NBIRTH") (str "G") (str "R") pb where
  type := show (Receiver.parseTopic Platform.reference (str "spBv1.0/G/NBIRTH/R")).messageType =
    str "NBIRTH" by decide +kernel
  groupId := show (Receiver.parseTopic Platform.reference (str "spBv1.0/G/NBIRTH/R")).groupId =
    str "G" by decide +kernel
  nodeId := show (Receiver.parseTopic Platform.reference (str "spBv1.0/G/NBIRTH/R")).nodeId =
    str "R" by decide +kernel
  parsed := ProtobufCodec.parse_serialize pb
  flat := h

theorem dataDelivery_carries {pb : PbPayload} (h : pb.body = none) :
    (dataDelivery pb).Carries Platform.reference (str "NDATA") (str "G") (str "R") pb where
  type := show (Receiver.parseTopic Platform.reference (str "spBv1.0/G/NDATA/R")).messageType =
    str "NDATA" by decide +kernel
  groupId := show (Receiver.parseTopic Platform.reference (str "spBv1.0/G/NDATA/R")).groupId =
    str "G" by decide +kernel
  nodeId := show (Receiver.parseTopic Platform.reference (str "spBv1.0/G/NDATA/R")).nodeId =
    str "R" by decide +kernel
  parsed := ProtobufCodec.parse_serialize pb
  flat := h

theorem pairBirth_isBirth {a b : UInt64} (ha : a ≠ 0) (hb : b ≠ 0) (hab : a ≠ b) :
    (pairBirth a b).IsBirth Platform.reference where
  named := by
    intro m hm
    simp only [pairBirth, List.mem_cons, List.not_mem_nil, or_false] at hm
    rcases hm with rfl | rfl
    · exact ⟨str "A", a, rfl, by decide, rfl, ha⟩
    · exact ⟨str "B", b, rfl, by decide, rfl, hb⟩
  names := by
    simp only [pairBirth, List.map_cons, List.map_nil]
    decide +kernel
  aliases := by simp [pairBirth, hab]

/-- Two births that bind the two aliases the other way round. -/
theorem swapped_history : NodeHistory Platform.reference (str "G") (str "R")
    [birthDelivery (pairBirth 1 2), birthDelivery (pairBirth 2 1)]
    [pairBirth 1 2, pairBirth 2 1] :=
  .birth (.birth .start (birthDelivery_carries rfl)
    (pairBirth_isBirth (by decide) (by decide) (by decide))) (birthDelivery_carries rfl)
    (pairBirth_isBirth (by decide) (by decide) (by decide))

def swappedReceiver : Receiver Platform.reference :=
  run Receiver.deliver swapReceiver
    [birthDelivery (pairBirth 1 2), birthDelivery (pairBirth 2 1)]

theorem swapped_alias_follows_first :
    swappedReceiver.DataObeys (str "G") (str "R") (dataDelivery firstData) firstData
      (firstName Platform.reference [pairBirth 1 2, pairBirth 2 1]) := by
  have hunseen : swapReceiver.getNode (str "G") (str "R") = none := by decide +kernel
  have hm : (dataDelivery firstData).Carries Platform.reference (str "NDATA") (str "G")
      (str "R") firstData := dataDelivery_carries rfl
  unfold swappedReceiver
  exact alias_follows_first_birth swapped_history (by decide) (by decide) hunseen hm

/-- The value of `A` before and after the data entry. -/
def firstValues (p : Payload Platform.reference) : Option Str × Option Str :=
  let opened := p.opened 2 (dataDelivery firstData).body firstData
  ((opened.getMetric (str "A")).map Metric.value,
    ((PayloadHelper.parseEntry false opened setsFirst).getMetric (str "A")).map Metric.value)

/-- After the births the alias of `B` sets `A`. -/
theorem swapped_alias_misses_latest :
    swapReceiver.getNode (str "G") (str "R") = none ∧
    NodeHistory Platform.reference (str "G") (str "R")
      [birthDelivery (pairBirth 1 2), birthDelivery (pairBirth 2 1)]
      [pairBirth 1 2, pairBirth 2 1] ∧
    (dataDelivery firstData).Carries Platform.reference (str "NDATA") (str "G") (str "R")
      firstData ∧
    ¬ swappedReceiver.DataObeys (str "G") (str "R") (dataDelivery firstData) firstData
      (latestName [pairBirth 1 2, pairBirth 2 1]) := by
  refine ⟨by decide +kernel, swapped_history, dataDelivery_carries rfl, ?_⟩
  have hlatest : latestName [pairBirth 1 2, pairBirth 2 1] 1 = some (str "B") := by
    decide +kernel
  have hvalues : (swappedReceiver.nodeBirth (str "G") (str "R")).map
      (fun t => (firstValues t.payload)) = some (some (str "5"), some (str "9")) := by
    decide +kernel
  intro h
  unfold Receiver.DataObeys at h
  generalize swappedReceiver.nodeBirth (str "G") (str "R") = mirror at h hvalues
  cases mirror with
  | none => cases hvalues
  | some t =>
    have hsets := h.2 [] setsFirst [] 1 rfl rfl rfl
    rw [hlatest] at hsets
    have hother := hsets.others (str "A") (by decide +kernel)
    rw [List.foldl_nil] at hother
    obtain ⟨hbefore, hafter⟩ := Prod.mk.inj (Option.some.inj hvalues)
    have hsame := hafter.symm.trans ((congrArg (Option.map Metric.value) hother).trans hbefore)
    revert hsame
    decide

end Swapped

end PubSub
