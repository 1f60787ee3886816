import PubSub.PayloadHelper
import PubSub.Reference
import PubSub.Shared.Aligned

/-!
# What a message leaves of the structure of its payload

A data message writes values into what is there. Names, alias numbers, datatypes and the keys
of the properties stay, at every depth; only a text with a unit behind it brings the key of the
unit. A birth may add metrics and properties, and it fills in what a metric does not have yet.
-/

namespace PubSub
set_option autoImplicit false

/-- The key of a property with the keys in its property sets. -/
inductive KeyTree where
  | node (key : Str) (sets : List (List KeyTree))

namespace MetricProperty

mutual
def keySets : MetricProperty → List (List KeyTree)
  | ⟨_, _, _, _, propArray⟩ => arrayKeys propArray

def arrayKeys : List (List (Str × MetricProperty)) → List (List KeyTree)
  | [] => []
  | list :: lists => listKeys list :: arrayKeys lists

def listKeys : List (Str × MetricProperty) → List KeyTree
  | [] => []
  | e :: es => entryKeys e :: listKeys es

def entryKeys : Str × MetricProperty → KeyTree
  | (key, p) => .node key p.keySets
end

theorem keySets_eq (p : MetricProperty) : p.keySets = arrayKeys p.propArray := by
  cases p
  rfl

theorem keySets_congr {p q : MetricProperty} (h : p.propArray = q.propArray) :
    p.keySets = q.keySets := by
  rw [keySets_eq, keySets_eq, h]

theorem listKeys_cons (e : Str × MetricProperty) (es : MetricPropertyList) :
    listKeys (e :: es) = .node e.1 e.2.keySets :: listKeys es := by
  cases e
  rfl

theorem keys_of_listKeys {as bs : MetricPropertyList} (h : listKeys as = listKeys bs) :
    as.map Prod.fst = bs.map Prod.fst := by
  induction as generalizing bs with
  | nil =>
    cases bs with
    | nil => rfl
    | cons b bs => cases h
  | cons a as ih =>
    cases bs with
    | nil => cases h
    | cons b bs =>
      rw [listKeys_cons, listKeys_cons] at h
      obtain ⟨hhead, htail⟩ := List.cons.inj h
      rw [List.map_cons, List.map_cons, ih htail, (KeyTree.node.inj hhead).1]

theorem listKeys_updateFirst {test : Str → MetricProperty → Bool}
    {f : MetricProperty → MetricProperty} (hf : ∀ p, (f p).keySets = p.keySets)
    (list : MetricPropertyList) :
    listKeys (Entries.updateFirst test f list) = listKeys list := by
  induction list with
  | nil => rfl
  | cons e es ih =>
    unfold Entries.updateFirst
    split
    · rw [listKeys_cons, listKeys_cons, hf]
    · rw [listKeys_cons, listKeys_cons, ih]

section Insert
variable (P : Platform)

theorem get?_none_of_listKeys {as bs : MetricPropertyList} (h : listKeys as = listKeys bs)
    {key : Str} (has : Entries.get? P.foldKey key as = none) :
    Entries.get? P.foldKey key bs = none := by
  rw [Entries.get?_eq_none] at has ⊢
  intro e he
  have hkey : e.1 ∈ as.map Prod.fst := by
    rw [keys_of_listKeys h]
    exact List.mem_map_of_mem he
  obtain ⟨d, hd, hde⟩ := List.mem_map.mp hkey
  rw [← hde]
  exact has d hd

theorem listKeys_insert {p q : MetricProperty} (hpq : p.keySets = q.keySets) (key : Str)
    {as bs : MetricPropertyList} (h : listKeys as = listKeys bs) :
    listKeys (Entries.insert P.foldKey key p as) = listKeys (Entries.insert P.foldKey key q bs) := by
  induction as generalizing bs with
  | nil =>
    cases bs with
    | nil => rw [Entries.insert, Entries.insert, listKeys_cons, listKeys_cons, hpq]
    | cons b bs => cases h
  | cons a as ih =>
    cases bs with
    | nil => cases h
    | cons b bs =>
      rw [listKeys_cons, listKeys_cons] at h
      obtain ⟨hhead, htail⟩ := List.cons.inj h
      obtain ⟨hkey, hsets⟩ := KeyTree.node.inj hhead
      unfold Entries.insert
      rw [hkey]
      split
      · rw [listKeys_cons, listKeys_cons, listKeys_cons, listKeys_cons, hpq, hkey, hsets, htail]
      · split
        · rw [listKeys_cons, listKeys_cons, hkey, hsets, htail]
        · rw [listKeys_cons, listKeys_cons, hkey, hsets, ih htail]

end Insert
end MetricProperty

namespace PayloadHelper
open MetricProperty
variable (P : Platform)

mutual
theorem parsePropertyValue_keys : ∀ (v : PbPropertyValue) (p : MetricProperty),
    (parsePropertyValue P false v p).keySets = p.keySets
  | .mk _ isNull arm, p => by
    rw [parsePropertyValue, parsePropertyArm_keys arm]
    exact keySets_congr rfl

theorem parsePropertyArm_keys : ∀ (arm : PbPropertyArm) (p : MetricProperty),
    (parsePropertyArm P false arm p).keySets = p.keySets
  | .notSet, p => by
    rw [parsePropertyArm]
  | .intValue v, p => by
    rw [parsePropertyArm]
    exact keySets_congr rfl
  | .longValue v, p => by
    rw [parsePropertyArm]
    exact keySets_congr rfl
  | .floatValue bits, p => by
    rw [parsePropertyArm]
    exact keySets_congr rfl
  | .doubleValue bits, p => by
    rw [parsePropertyArm]
    exact keySets_congr rfl
  | .booleanValue v, p => by
    rw [parsePropertyArm]
    exact keySets_congr rfl
  | .stringValue v, p => by
    rw [parsePropertyArm]
    exact keySets_congr rfl
  | .propertysetValue keys values, p => by
    rw [parsePropertyArm]
    split
    · rw [if_neg (by decide)]
    · rename_i first rest hsets
      have hfirst := parsePropertySet_keys keys values first
      rw [keySets_eq, keySets_eq, hsets]
      dsimp only
      rw [arrayKeys, arrayKeys, hfirst]

/-- Without `createMetrics` a property set keeps its keys, at every depth. -/
theorem parsePropertySet_keys : ∀ (keys : List Str) (values : List PbPropertyValue)
    (list : MetricPropertyList),
    listKeys (parsePropertySet P false keys values list) = listKeys list
  | [], values, list => by
    rw [parsePropertySet]
    intro _ _ _ _ hkeys
    cases hkeys
  | key :: keys, [], list => by
    rw [parsePropertySet]
    intro _ _ _ _ _ hvalues
    cases hvalues
  | key :: keys, value :: values, list => by
    rw [parsePropertySet]
    split
    · exact parsePropertySet_keys keys values list
    · split
      · rw [parsePropertySet_keys keys values]
        exact listKeys_updateFirst (parsePropertyValue_keys value) list
      · rw [if_neg (by decide)]
        exact parsePropertySet_keys keys values list
end

end PayloadHelper

namespace Metric
variable (P : Platform)

def keyTrees (m : Metric) : List KeyTree := MetricProperty.listKeys m.propertyList

/-- A text on a numeric metric brings the key of its unit, unless the metric has one. -/
theorem setString_keys (m : Metric) (v : Str) : (m.setString P v).keyTrees = m.keyTrees ∨
    (32 ∈ v ∧ m.datatype.isNumeric = true ∧ m.getProperty P (str "unit") = none ∧
      (m.setString P v).keyTrees = (m.createProperty P (str "unit")).keyTrees) := by
  unfold setString
  split
  · rename_i hunit
    obtain ⟨hnumeric, hspace⟩ := Bool.and_eq_true_iff.mp hunit
    cases hget : m.getProperty P (str "unit") with
    | some _ => exact .inl rfl
    | none =>
      refine .inr ⟨by simpa using hspace, hnumeric, rfl, ?_⟩
      dsimp only
      unfold setUnit addProperty
      rw [hget]
      change MetricProperty.listKeys (Entries.insert P.foldKey (str "unit") _ m.propertyList) =
        MetricProperty.listKeys (Entries.insert P.foldKey (str "unit") _ m.propertyList)
      apply MetricProperty.listKeys_insert P _ _ rfl
      exact MetricProperty.keySets_congr rfl
  · exact .inl rfl

end Metric

def PbValue.mayBringUnit : PbValue → Bool
  | .stringValue v | .bytesValue v => v.contains 32
  | _ => false

namespace PayloadHelper
variable (P : Platform)

theorem parseMetricProperty_keys (m : Metric) (entry : Str × PbPropertyValue) :
    (parseMetricProperty P false m entry).keyTrees = m.keyTrees := by
  unfold parseMetricProperty
  split
  · rfl
  · split
    · exact MetricProperty.listKeys_updateFirst (parsePropertyValue_keys P entry.2) _
    · rw [if_neg (by decide)]

theorem parseMetricProperties_keys (pb : PbPropertySet) (m : Metric) :
    (parseMetricProperties P false pb m).keyTrees = m.keyTrees := by
  unfold parseMetricProperties
  induction pb.keys.zip pb.values generalizing m with
  | nil => rfl
  | cons entry entries ih =>
    rw [List.foldl_cons, ih, parseMetricProperty_keys]

theorem parseMetricValue_keys (v : PbValue) (m : Metric) :
    (parseMetricValue P v m).keyTrees = m.keyTrees ∨
    (v.mayBringUnit = true ∧ m.datatype.isNumeric = true ∧
      m.getProperty P (str "unit") = none ∧
      (parseMetricValue P v m).keyTrees = (m.createProperty P (str "unit")).keyTrees) := by
  have htext : ∀ text : Str, (m.setString P text).keyTrees = m.keyTrees ∨
      (text.contains 32 = true ∧ m.datatype.isNumeric = true ∧
        m.getProperty P (str "unit") = none ∧
        (m.setString P text).keyTrees = (m.createProperty P (str "unit")).keyTrees) := by
    intro text
    rcases m.setString_keys P text with h | ⟨hspace, h⟩
    · exact .inl h
    · exact .inr ⟨by simpa using hspace, h⟩
  cases v with
  | notSet => exact .inl rfl
  | intValue v =>
    refine .inl ?_
    unfold parseMetricValue
    dsimp only
    split
    · rfl
    · rfl
  | longValue v =>
    refine .inl ?_
    unfold parseMetricValue
    dsimp only
    split
    · rfl
    · rfl
  | floatValue bits => exact .inl rfl
  | doubleValue bits => exact .inl rfl
  | booleanValue v => exact .inl rfl
  | stringValue text => exact htext text
  | bytesValue text => exact htext text

/-- Only the value of an entry can bring a key. -/
theorem parseMetric_keys (sourceTimestamp : UInt64) (pb : PbMetric) (m : Metric) :
    (parseMetric P false sourceTimestamp pb m).keyTrees =
      (parseMetricValue P pb.value
        (parseMetricHeader false sourceTimestamp pb m)).keyTrees := by
  unfold parseMetric
  dsimp only
  split
  · cases pb.metadata with
    | none => rfl
    | some md => rfl
  · rw [parseMetricProperties_keys]
    cases pb.metadata with
    | none => rfl
    | some md => rfl

theorem parseMetricHeader_data (sourceTimestamp : UInt64) (pb : PbMetric) (m : Metric) :
    (parseMetricHeader false sourceTimestamp pb m).identity = m.identity := by
  simp [parseMetricHeader, Metric.identity]

end PayloadHelper

/-- What a data message leaves of a metric: its identity, and the keys of its properties but
for the key of a unit, which comes with a text. -/
structure SameStructure (P : Platform) (brings : Prop) (m n : Metric) : Prop where
  identity : n.identity = m.identity
  keys : n.keyTrees = m.keyTrees ∨
    (brings ∧ m.datatype.isNumeric = true ∧ m.getProperty P (str "unit") = none ∧
      n.keyTrees = (m.createProperty P (str "unit")).keyTrees)

/-- A birth fills in only what a metric does not have. -/
def Metric.KeepsIdentity (m n : Metric) : Prop :=
  m.name ≠ [] → m.aliasNumber ≠ 0 → m.datatype ≠ .unknown → n.identity = m.identity

theorem Metric.KeepsIdentity.trans {m n k : Metric} (hmn : m.KeepsIdentity n)
    (hnk : n.KeepsIdentity k) : m.KeepsIdentity k := by
  intro hname halias htype
  have hfirst := hmn hname halias htype
  obtain ⟨hn, hrest⟩ := Prod.mk.inj hfirst
  obtain ⟨ha, ht⟩ := Prod.mk.inj hrest
  exact (hnk (hn ▸ hname) (ha ▸ halias) (ht ▸ htype)).trans hfirst

namespace PayloadHelper
variable {P : Platform}

theorem sameStructure_refl (brings : Prop) (m : Metric) : SameStructure P brings m m :=
  ⟨rfl, .inl rfl⟩

theorem sameStructure_of_keys {brings : Prop} {m n k : Metric} (h : SameStructure P brings m n)
    (hidentity : k.identity = n.identity) (hkeys : k.keyTrees = n.keyTrees) :
    SameStructure P brings m k := by
  refine ⟨hidentity.trans h.identity, ?_⟩
  rw [hkeys]
  exact h.keys

/-- The key of the unit is brought once. -/
theorem sameStructure_parseMetric {brings : Prop} {m n : Metric} {pb : PbMetric}
    (h : SameStructure P brings m n) (hpb : pb.value.mayBringUnit = true → brings)
    (sourceTimestamp : UInt64) :
    SameStructure P brings m (parseMetric P false sourceTimestamp pb n) := by
  let header := parseMetricHeader false sourceTimestamp pb n
  have hheader : header.identity = n.identity := parseMetricHeader_data sourceTimestamp pb n
  have hproperties : header.propertyList = n.propertyList := rfl
  have hidentity := (parseMetric_identity P false sourceTimestamp pb n).trans hheader
  have hkeys := parseMetric_keys P sourceTimestamp pb n
  rcases parseMetricValue_keys P pb.value header with hsame | ⟨hbring, hnumeric, hnone, hadded⟩
  · exact sameStructure_of_keys h hidentity (hkeys.trans hsame)
  · have hnone : n.getProperty P (str "unit") = none := hnone
    have hadded : (parseMetric P false sourceTimestamp pb n).keyTrees =
      (n.createProperty P (str "unit")).keyTrees := hkeys.trans hadded
    refine ⟨hidentity.trans h.identity, .inr ?_⟩
    have htype : header.datatype = m.datatype :=
      congrArg (fun i => i.2.2) (hheader.trans h.identity)
    rcases h.keys with hold | ⟨_, _, hmnone, hold⟩
    · refine ⟨hpb hbring, htype ▸ hnumeric, ?_, ?_⟩
      · exact MetricProperty.get?_none_of_listKeys P hold hnone
      · rw [hadded]
        exact MetricProperty.listKeys_insert P rfl _ hold
    · have hfound := MetricProperty.get?_none_of_listKeys P hold hnone
      exact absurd hfound (Entries.get?_insert_ne_none _ _ _)

/-- An entry is for a metric by its key and its alias, which stay. -/
theorem entryMatches_of_identity {m n : Metric} (h : n.identity = m.identity) (pb : PbMetric)
    (key : Str) : entryMatches P pb key n = entryMatches P pb key m := by
  have halias : n.aliasNumber = m.aliasNumber := congrArg (fun i => i.2.1) h
  unfold entryMatches
  cases pb.name with
  | some name => rfl
  | none =>
    cases pb.aliasNumber with
    | none => rfl
    | some a => exact congrArg (a == ·) halias

/-- One of the entries is for the metric and has a text that may bring a unit. -/
def BringsUnit (P : Platform) (pbs : List PbMetric) (e : Str × Metric) : Prop :=
  ∃ pb ∈ pbs, pb.value.mayBringUnit = true ∧ entryMatches P pb e.1 e.2 = true

/-- The metric is still there under its key. -/
structure SameEntry (P : Platform) (pbs : List PbMetric) (e d : Str × Metric) : Prop where
  key : d.1 = e.1
  shape : SameStructure P (BringsUnit P pbs e) e.2 d.2

theorem sameEntry_refl (pbs : List PbMetric) (es : List (Str × Metric)) :
    List.Forall₂ (SameEntry P pbs) es es :=
  List.forall₂_same.mpr fun e _ => ⟨rfl, sameStructure_refl _ e.2⟩

theorem sameEntry_parseEntry {pbs : List PbMetric} {es : List (Str × Metric)} {p : Payload P}
    (h : List.Forall₂ (SameEntry P pbs) es p.metricList.entries) {pb : PbMetric}
    (hpb : pb ∈ pbs) :
    List.Forall₂ (SameEntry P pbs) es (parseEntry false p pb).metricList.entries := by
  cases hfound : p.metricList.findFirst? (entryMatches P pb) with
  | none =>
    rw [parseEntry_ignored hfound]
    exact h
  | some m =>
    rw [parseEntry_found hfound]
    refine Entries.forall₂_updateFirst h fun e d _ hmatch hed => ⟨hed.key, ?_⟩
    have hbrings : pb.value.mayBringUnit = true → BringsUnit P pbs e := by
      intro htext
      refine ⟨pb, hpb, htext, ?_⟩
      rw [← entryMatches_of_identity hed.shape.identity, ← hed.key]
      exact hmatch
    exact sameStructure_parseMetric hed.shape hbrings p.getTimestamp

theorem sameEntry_foldl {pbs rest : List PbMetric} (hrest : ∀ pb ∈ rest, pb ∈ pbs)
    {es : List (Str × Metric)} {p : Payload P}
    (h : List.Forall₂ (SameEntry P pbs) es p.metricList.entries) :
    List.Forall₂ (SameEntry P pbs) es
      (rest.foldl (parseEntry false) p).metricList.entries := by
  induction rest generalizing p with
  | nil => exact h
  | cons pb rest ih =>
    have hfirst := sameEntry_parseEntry h (hrest pb List.mem_cons_self)
    exact ih (fun next hnext => hrest next (List.mem_cons_of_mem pb hnext)) hfirst

theorem sameEntry_parseHeader (pbs : List PbMetric) (now : UInt64) (pb : PbPayload)
    (p : Payload P) : List.Forall₂ (SameEntry P pbs) p.metricList.entries
      (parseHeader now pb p).metricList.entries :=
  Entries.forall₂_updateFirst (sameEntry_refl pbs _) fun _ _ _ _ hed =>
    ⟨hed.key, sameStructure_of_keys hed.shape rfl rfl⟩

theorem keepsIdentity_parseMetric (sourceTimestamp : UInt64) (pb : PbMetric) (m : Metric) :
    m.KeepsIdentity (parseMetric P true sourceTimestamp pb m) := by
  intro hname halias htype
  rw [parseMetric_identity]
  simp [parseMetricHeader, Metric.identity, hname, halias, htype]

theorem keepsIdentity_parseEntry (p : Payload P) (pb : PbMetric) :
    Entries.Extends Metric.KeepsIdentity p.metricList.entries
      (parseEntry true p pb).metricList.entries := by
  have hrefl : ∀ m : Metric, m.KeepsIdentity m := fun _ _ _ _ => rfl
  have htrans : ∀ m n k : Metric, m.KeepsIdentity n → n.KeepsIdentity k → m.KeepsIdentity k :=
    fun _ _ _ => Metric.KeepsIdentity.trans
  rcases parseEntry_cases true p pb with h | h | ⟨name, _, h⟩
  · rw [h]
    exact .refl hrefl _
  · rw [h]
    exact Entries.extends_updateFirst hrefl (keepsIdentity_parseMetric _ pb) _ _
  · rw [h]
    exact Entries.Extends.trans htrans (Entries.extends_insert hrefl name _ _)
      (Entries.extends_updateFirst hrefl (keepsIdentity_parseMetric _ pb) _ _)

theorem keepsIdentity_foldl (pbs : List PbMetric) (p : Payload P) :
    Entries.Extends Metric.KeepsIdentity p.metricList.entries
      (pbs.foldl (parseEntry true) p).metricList.entries := by
  induction pbs generalizing p with
  | nil => exact .refl (fun _ _ _ _ => rfl) _
  | cons pb pbs ih =>
    exact Entries.Extends.trans (fun _ _ _ => Metric.KeepsIdentity.trans)
      (keepsIdentity_parseEntry p pb) (ih (parseEntry true p pb))

theorem keepsIdentity_parseHeader (now : UInt64) (pb : PbPayload) (p : Payload P) :
    Entries.Extends Metric.KeepsIdentity p.metricList.entries
      (parseHeader now pb p).metricList.entries :=
  Entries.extends_updateFirst (fun _ _ _ _ => rfl) (fun _ _ _ _ => rfl) _ _

end PayloadHelper

namespace Payload
variable {P : Platform}

/-- The entries of the message in the body. -/
def bodyMetrics (p : Payload P) : List PbMetric :=
  match P.parseFromArray p.body with
  | none => []
  | some pb => pb.metrics

/-- A data message leaves every metric its structure. A birth removes no metric, and a metric
that has a name, an alias and a datatype keeps them. -/
theorem parse_keeps_structure (p : Payload P) (now : UInt64) :
    List.Forall₂ (PayloadHelper.SameEntry P p.bodyMetrics) p.metricList.entries
      (p.parseSparkplugProtobuf false now).metricList.entries ∧
    Entries.Extends Metric.KeepsIdentity p.metricList.entries
      (p.parseSparkplugProtobuf true now).metricList.entries := by
  have hsame := PayloadHelper.sameEntry_refl (P := P) p.bodyMetrics p.metricList.entries
  have hkept : Entries.Extends Metric.KeepsIdentity p.metricList.entries p.metricList.entries :=
    .refl (fun _ _ _ _ => rfl) _
  unfold parseSparkplugProtobuf PayloadHelper.parseProtobuf
  split
  · exact ⟨hsame, hkept⟩
  · split
    · exact ⟨hsame, hkept⟩
    · rename_i msg hmsg
      obtain ⟨pb, hpb, hinner⟩ := Option.bind_eq_some_iff.mp hmsg
      have hentries : ∀ e ∈ msg.metrics, e ∈ p.bodyMetrics := by
        intro e he
        unfold PayloadHelper.innerMessage at hinner
        split at hinner
        · rw [P.parse_nil] at hinner
          rw [← Option.some.inj hinner] at he
          cases he
        · rw [← Option.some.inj hinner] at he
          unfold bodyMetrics
          rw [hpb]
          exact he
      refine ⟨?_, ?_⟩
      · exact PayloadHelper.sameEntry_foldl hentries
          (PayloadHelper.sameEntry_parseHeader _ now msg p)
      · exact Entries.Extends.trans (fun _ _ _ => Metric.KeepsIdentity.trans)
          (PayloadHelper.keepsIdentity_parseHeader now msg p)
          (PayloadHelper.keepsIdentity_foldl msg.metrics _)

/-- A metric whose own name is empty, under a key that the message names. -/
def unnamed : Payload Platform.reference where
  metricList := FoldedMap.empty.insert (str "a") { aliasNumber := 1, datatype := .int8 }
  body := ProtobufCodec.serialize { metrics := [{ name := some (str "a") }] }

/-- A birth gives a name to a metric that has an alias and a datatype. -/
theorem birth_names_metric :
    ¬ ∀ e ∈ unnamed.metricList.entries, e.2.aliasNumber ≠ 0 → e.2.datatype ≠ .unknown →
      ∃ m, (e.1, m) ∈ (unnamed.parseSparkplugProtobuf true 0).metricList.entries ∧
        m.identity = e.2.identity := by
  intro h
  have hentries : unnamed.metricList.entries =
      [(str "a", { aliasNumber := 1, datatype := .int8 })] := rfl
  have hnames : (unnamed.parseSparkplugProtobuf true 0).metricList.entries.map
      (fun e => e.2.name) = [str "a"] := by
    decide +kernel
  rw [hentries] at h
  obtain ⟨m, hm, hidentity⟩ := h _ List.mem_cons_self (by decide) (by decide)
  have hname : m.name ∈ [str "a"] := by
    rw [← hnames]
    exact List.mem_map.mpr ⟨_, hm, rfl⟩
  have hempty : m.name = [] := congrArg Prod.fst hidentity
  rw [List.mem_singleton.mp hname] at hempty
  exact absurd hempty (by decide)

end Payload
end PubSub
