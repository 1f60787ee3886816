import PubSub.Mirrors
import PubSub.NodeSession
import PubSub.Reference

/-!
# A birth and its mirror

A node writes its NBIRTH with the switch that leaves out the names of numbered metrics, and
a receiver makes metrics from names alone. All the metrics of a started node are numbered,
so a new mirror never has a number, and it never is a replica.
-/

namespace PubSub
set_option autoImplicit false

namespace Metric

/-- What a mirror should have of a metric. -/
def content (P : Platform) (m : Metric) : UInt64 × MetricType × TypedValue :=
  (m.aliasNumber, m.datatype, m.typedValue P)

end Metric

namespace Payload
variable {P : Platform}

/-- The payloads have metrics with the same names, and the metrics of a name agree. -/
def Replicates (p q : Payload P) : Prop :=
  ∀ name, (p.getMetric name).map (Metric.content P) = (q.getMetric name).map (Metric.content P)

def NoAlias (p : Payload P) : Prop := ∀ e ∈ p.metricList.entries, e.2.aliasNumber = 0

theorem NoAlias.updateFirst {p : Payload P} (h : p.NoAlias) (test : Str → Metric → Bool)
    {f : Metric → Metric} (hf : ∀ m, m.aliasNumber = 0 → (f m).aliasNumber = 0) :
    NoAlias { p with metricList := p.metricList.updateFirst test f } := by
  intro e he
  rcases Entries.mem_updateFirst he with he | ⟨m, hm, heq⟩
  · exact h e he
  · rw [heq]
    exact hf m (h _ hm)

theorem NoAlias.find {p : Payload P} (h : p.NoAlias) {a : UInt64} (ha : a ≠ 0) :
    p.metricList.findFirst? (hasAlias a) = none := by
  apply Entries.findFirst?_eq_none.mpr
  intro e he
  simp [hasAlias, h e he, ha]

theorem NoAlias.parseEntry {p : Payload P} (h : p.NoAlias) (m : Metric) :
    (PayloadHelper.parseEntry true p (PayloadHelper.writeMetric P false m)).NoAlias := by
  by_cases ha : m.aliasNumber = 0
  · have hparsed : ∀ t n, n.aliasNumber = 0 → (PayloadHelper.parseMetric P true t
        (PayloadHelper.writeMetric P false m) n).aliasNumber = 0 := by
      intro t n hn
      have hidentity := PayloadHelper.parseMetric_identity P true t
        (PayloadHelper.writeMetric P false m) n
      have halias := congrArg (fun i => i.2.1) hidentity
      refine halias.trans ?_
      simp [Metric.identity, PayloadHelper.parseMetricHeader, PayloadHelper.writeMetric, hn, ha]
    rcases PayloadHelper.parseEntry_cases true p (PayloadHelper.writeMetric P false m) with
      hsame | hfound | ⟨name, hname, hcreated⟩
    · rw [hsame]
      exact h
    · rw [hfound]
      exact h.updateFirst _ (hparsed _)
    · rw [hcreated]
      apply NoAlias.updateFirst _ _ (hparsed _)
      intro e he
      rcases Entries.mem_insert_subset he with rfl | he
      · exact ha
      · exact h e he
  · have hname : (PayloadHelper.writeMetric P false m).name = none := by
      simp [PayloadHelper.writeMetric, ha]
    have hmatch : PayloadHelper.entryMatches P (PayloadHelper.writeMetric P false m) =
        hasAlias m.aliasNumber := by
      simp [PayloadHelper.entryMatches, PayloadHelper.writeMetric, ha]
    have hnone : p.metricList.findFirst? (PayloadHelper.entryMatches P
        (PayloadHelper.writeMetric P false m)) = none := by
      rw [hmatch]
      exact h.find ha
    have hsame : PayloadHelper.parseEntry true p (PayloadHelper.writeMetric P false m) = p := by
      unfold PayloadHelper.parseEntry
      rw [PayloadHelper.findMetric_eq, hnone, hname]
    rw [hsame]
    exact h

theorem NoAlias.foldl {p : Payload P} (h : p.NoAlias) (ms : List Metric) :
    ((ms.map (PayloadHelper.writeMetric P false)).foldl (PayloadHelper.parseEntry true)
      p).NoAlias := by
  induction ms generalizing p with
  | nil => exact h
  | cons m ms ih => exact ih (h.parseEntry m)

theorem NoAlias.opened {p : Payload P} (h : p.NoAlias) (now : UInt64) (body : BodyList)
    (pb : PbPayload) : (p.opened now body pb).NoAlias := by
  unfold Payload.opened
  split
  · exact h
  · exact h.updateFirst (Entries.sameKey P.foldKey (str "timestamp")) fun _ hm => hm

theorem NoAlias.receive_generated {p : Payload P} (h : p.NoAlias) (q : Payload P)
    (now : UInt64) : (p.receiveProtobuf true now q.generateProtobuf.body).NoAlias := by
  change (p.receiveProtobuf true now
    ((P.serializeToArray (PayloadHelper.protobufOf false q)).getD [])).NoAlias
  cases hserialize : P.serializeToArray (PayloadHelper.protobufOf false q) with
  | none => exact h
  | some b =>
    rw [Option.getD_some, receiveProtobuf_eq (P.parse_serialize _ _ hserialize) rfl]
    have hmetrics : (PayloadHelper.protobufOf false q).metrics =
        ((q.metricList.entries.filter (PayloadHelper.includes false)).map Prod.snd).map
          (PayloadHelper.writeMetric P false) := by
      simp [PayloadHelper.protobufOf]
    rw [hmetrics]
    exact (h.opened now b _).foldl _

theorem hasAlias_generateProtobuf {q : Payload P} (h : q.HasAlias) :
    q.generateProtobuf.HasAlias := h.kept (keepsAliases_writeProtobuf false q)

/-- A payload with a number has no replica without numbers. -/
theorem NoAlias.not_replicated {p q : Payload P} (hq : q.NoAlias) (hp : p.HasAlias) :
    ¬ p.Replicates q := by
  obtain ⟨e, he, hne⟩ := hp
  intro h
  have hget : p.getMetric e.1 = some e.2 := FoldedMap.get?_of_mem he rfl
  have hsame := h e.1
  rw [hget, Option.map_some] at hsame
  obtain ⟨m, hm, hcontent⟩ := Option.map_eq_some_iff.mp hsame.symm
  obtain ⟨k, hk, -⟩ := FoldedMap.get?_mem hm
  have halias : m.aliasNumber = e.2.aliasNumber := congrArg Prod.fst hcontent
  exact hne (halias.symm.trans (hq _ hk))

end Payload

namespace Receiver
variable {P : Platform}

/-- A mirror of the node whose NBIRTH payload is a replica of `p`. -/
def HasReplica (group node : Str) (p : Payload P) (r : Receiver P) : Prop :=
  ∃ t, r.nodeBirth group node = some t ∧ p.Replicates t.payload

/-- The first birth of a node gives its mirror no numbers. -/
theorem noAlias_first_birth {r : Receiver P} {group node : Str}
    (h : r.getNode group node = none) (q : Payload P) (now : UInt64) {t : Topic P}
    (ht : (r.handleNodeBirthMessage group node now q.generateProtobuf.body).nodeBirth group
      node = some t) : t.payload.NoAlias := by
  by_cases hnames : group = [] ∨ node = []
  · unfold handleNodeBirthMessage at ht
    rw [if_pos hnames, nodeBirth, findNode_of_none h] at ht
    cases ht
  · obtain ⟨hgroup, hnode⟩ := not_or.mp hnames
    obtain ⟨s, hs, hpublish, hempty⟩ := nodeBirth_ensureNode_none hgroup hnode h now
    have hnone : s.payload.NoAlias := by
      intro e he
      rw [hempty] at he
      cases he
    rw [nodeBirth_handleNodeBirth hgroup hnode, hs, Option.map_some, hpublish] at ht
    rw [← Option.some.inj ht]
    exact hnone.receive_generated q now

end Receiver

/-- No NBIRTH of any run makes a replica at a receiver that has not seen the node. -/
theorem birth_is_never_replicated {P : Platform} (start : UInt64) (setups : List Setup)
    (es : List (NodeEvent P)) {p : Publication P}
    (hp : Action.publish p ∈ (run NodeSys.step (NodeSys.init start setups) es).session)
    (hkind : p.kind = .nodeBirth) {r : Receiver P} {group node : Str}
    (hunseen : r.getNode group node = none) (now : UInt64) :
    ¬ (r.handleNodeBirthMessage group node now p.topic.payload.body).HasReplica group node
      p.topic.payload := by
  obtain ⟨birth, death, howns⟩ := NodeSys.owns_run (P := P) start setups es
  obtain ⟨q, hq, halias⟩ := howns.births p hp hkind
  rintro ⟨t, ht, hreplica⟩
  rw [hq] at ht hreplica
  exact (Receiver.noAlias_first_birth hunseen q now ht).not_replicated
    (Payload.hasAlias_generateProtobuf halias) hreplica

section FirstSession

def firstSession : NodeSys Platform.reference :=
  run NodeSys.step (NodeSys.init 0 [.group (str "G"), .name (str "N")])
    [.start, .work 0 {}, .work 0 {}, .work 0 {}, .link .accepted, .callback true .mqtt311,
      .work 0 {}, .work 0 {}]

def birthOf (action : Action Platform.reference) : Option (Publication Platform.reference) :=
  match action with
  | .publish p => if p.kind = .nodeBirth then some p else none
  | .disconnect => none

theorem mem_births {actions : List (Action Platform.reference)}
    {p : Publication Platform.reference} (h : p ∈ actions.filterMap birthOf) :
    Action.publish p ∈ actions ∧ p.kind = .nodeBirth := by
  obtain ⟨action, haction, hp⟩ := List.mem_filterMap.mp h
  cases action with
  | publish q =>
    change (if q.kind = .nodeBirth then some q else none) = some p at hp
    split at hp
    · rename_i hkind
      obtain rfl := Option.some.inj hp
      exact ⟨haction, hkind⟩
    · cases hp
  | disconnect => cases hp

def neighbour : Receiver Platform.reference where
  self := { SparkplugNode.create 0 with group := str "G", name := str "H" }

theorem first_birth_makes_no_replica :
    ∃ p, Action.publish p ∈ firstSession.session ∧ p.kind = .nodeBirth ∧
      ¬ (neighbour.handleNodeBirthMessage (str "G") (str "N") 1 p.topic.payload.body).HasReplica
        (str "G") (str "N") p.topic.payload := by
  have hbirths : (firstSession.session.filterMap birthOf).length = 1 := by decide +kernel
  obtain ⟨p, hp⟩ := List.length_eq_one_iff.mp hbirths
  have hmem : p ∈ firstSession.session.filterMap birthOf := by
    rw [hp]
    exact List.mem_singleton_self p
  obtain ⟨hpublished, hkind⟩ := mem_births hmem
  have hunseen : neighbour.getNode (str "G") (str "N") = none := by decide +kernel
  unfold firstSession at hpublished
  exact ⟨p, hpublished, hkind, birth_is_never_replicated 0 _ _ hpublished hkind hunseen 1⟩

def sequenceMetrics (p : Publication Platform.reference) : Bool × Option Bool :=
  ((p.topic.payload.getMetric (str "bdSeq")).isSome,
    ((neighbour.handleNodeBirthMessage (str "G") (str "N") 1 p.topic.payload.body).nodeBirth
      (str "G") (str "N")).map fun t => (t.payload.getMetric (str "bdSeq")).isSome)

/-- The metrics of the NBIRTH that a new node sends do not reach the mirror. -/
theorem mirror_has_no_bdSeq :
    ∃ p, Action.publish p ∈ firstSession.session ∧ p.kind = .nodeBirth ∧
      ¬ ∃ t, (neighbour.handleNodeBirthMessage (str "G") (str "N") 1
          p.topic.payload.body).nodeBirth (str "G") (str "N") = some t ∧
        p.topic.payload.Replicates t.payload := by
  have hmetrics : (firstSession.session.filterMap birthOf).map sequenceMetrics =
      [(true, some false)] := by decide +kernel
  obtain ⟨p, hp, hvalues⟩ := List.map_eq_singleton_iff.mp hmetrics
  have hmem : p ∈ firstSession.session.filterMap birthOf := by
    rw [hp]
    exact List.mem_singleton_self p
  obtain ⟨hpublished, hkind⟩ := mem_births hmem
  refine ⟨p, hpublished, hkind, ?_⟩
  rintro ⟨t, ht, h⟩
  obtain ⟨hsent, hmirror⟩ := Prod.mk.inj hvalues
  rw [ht] at hmirror
  have hsame := congrArg Option.isSome (h (str "bdSeq"))
  rw [Option.isSome_map, Option.isSome_map, hsent] at hsame
  rw [Option.map_some, ← hsame] at hmirror
  cases hmirror

end FirstSession

end PubSub
