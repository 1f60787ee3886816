import Mathlib.Data.List.Nodup
import PubSub.StructureFrame
import PubSub.Reference
import PubSub.Shared.Fill

/-!
# Property sets within property sets

The loops over a property set read a key and a value at each index, and the values are read
only where there is one. The properties of a metric get the declared type before they get the
value. Those of a nested set never get it, and a set that is nested in there is lost when the
new property is copied into the map. So a tree of property sets is decoded as it is declared
exactly where its nested sets are flat and declare strings only.
-/

namespace PubSub
open DecimalText
set_option autoImplicit false

namespace PayloadHelper

def isEmptyKey (key : Str) : Bool := decide (key = [])

mutual
/-- `ParsePropertyValue`, `none` where a set reads an element that is not there. -/
def parsePropertyValue? (P : Platform) (createMetrics : Bool) :
    PbPropertyValue → MetricProperty → Option MetricProperty
  | .mk _ isNull arm, property =>
    parsePropertyArm? P createMetrics arm { property with isNull := isNull.getD false }
termination_by value => sizeOf value

def parsePropertyArm? (P : Platform) (createMetrics : Bool) :
    PbPropertyArm → MetricProperty → Option MetricProperty
  | .propertysetValue keys values, property =>
    match property.propArray with
    | [] =>
      if createMetrics then
        (parsePropertySet? P createMetrics keys values []).map fun list =>
          { property with value := [], propArray := [list] }
      else some property
    | first :: rest =>
      (parsePropertySet? P createMetrics keys values first).map fun list =>
        { property with propArray := list :: rest }
  | arm, property => some (parsePropertyArm P createMetrics arm property)
termination_by arm => sizeOf arm

/-- `ParsePropertySet`, by indices. -/
def parsePropertySet? (P : Platform) (createMetrics : Bool) (keys : List Str)
    (values : List PbPropertyValue) (list : MetricPropertyList) : Option MetricPropertyList :=
  indexLoop isEmptyKey (fun list key (value : { v // v ∈ values }) =>
    match Entries.get? P.foldKey key list with
    | some property =>
      (parsePropertyValue? P createMetrics value.1 property).map fun parsed =>
        Entries.updateFirst (Entries.sameKey P.foldKey key) (fun _ => parsed) list
    | none =>
      if createMetrics then
        (parsePropertyValue? P createMetrics value.1 { key := key }).map fun parsed =>
          Entries.insert P.foldKey key parsed.copy list
      else some list) keys values.attach list
termination_by sizeOf values
decreasing_by all_goals exact List.sizeOf_lt_of_mem value.2
end

variable (P : Platform) (createMetrics : Bool)

def putProperty (list : MetricPropertyList) (e : Str × PbPropertyValue) : MetricPropertyList :=
  match Entries.get? P.foldKey e.1 list with
  | some _ =>
    Entries.updateFirst (Entries.sameKey P.foldKey e.1)
      (parsePropertyValue P createMetrics e.2) list
  | none =>
    if createMetrics then
      Entries.insert P.foldKey e.1 (parsePropertyValue P createMetrics e.2 { key := e.1 }).copy list
    else list

theorem parsePropertySet_eq (keys : List Str) (values : List PbPropertyValue)
    (list : MetricPropertyList) : parsePropertySet P createMetrics keys values list =
      (keptPairs isEmptyKey keys values).foldl (putProperty P createMetrics) list := by
  induction keys generalizing values list with
  | nil => simp [parsePropertySet, keptPairs]
  | cons key keys ih =>
    cases values with
    | nil => simp [parsePropertySet, keptPairs]
    | cons value values =>
      unfold parsePropertySet keptPairs
      rw [List.zip_cons_cons]
      by_cases hkey : key = []
      · rw [if_pos hkey, List.filter_cons_of_neg (by simp [isEmptyKey, hkey])]
        exact ih values list
      · rw [if_neg hkey, List.filter_cons_of_pos (by simp [isEmptyKey, hkey]), List.foldl_cons]
        unfold putProperty
        cases Entries.get? P.foldKey key list with
        | some property => exact ih values _
        | none =>
          cases createMetrics with
          | true => exact ih values _
          | false => exact ih values _

theorem updateFirst_const {key : Str} {property : MetricProperty} {list : MetricPropertyList}
    (h : Entries.get? P.foldKey key list = some property) (f : MetricProperty → MetricProperty) :
    Entries.updateFirst (Entries.sameKey P.foldKey key) (fun _ => f property) list =
      Entries.updateFirst (Entries.sameKey P.foldKey key) f list := by
  induction list with
  | nil => rfl
  | cons e list ih =>
    unfold Entries.updateFirst
    cases he : Entries.sameKey P.foldKey key e.1 e.2 with
    | true =>
      have hproperty : e.2 = property := by
        simpa [Entries.get?, Entries.findFirst?, he] using h
      rw [if_pos rfl, if_pos rfl, hproperty]
    | false =>
      have hrest : Entries.get? P.foldKey key list = some property := by
        simpa [Entries.get?, Entries.findFirst?, he] using h
      rw [if_neg Bool.false_ne_true, if_neg Bool.false_ne_true, ih hrest]

/-- If the values of a set are parsed without a failed read, so is the set. -/
theorem parsePropertySet?_eq (keys : List Str) {values : List PbPropertyValue}
    (list : MetricPropertyList)
    (h : ∀ value ∈ values, ∀ property, parsePropertyValue? P createMetrics value property =
      some (parsePropertyValue P createMetrics value property)) :
    parsePropertySet? P createMetrics keys values list =
      some (parsePropertySet P createMetrics keys values list) := by
  have hattach : keptPairs isEmptyKey keys values =
      (keptPairs isEmptyKey keys values.attach).map fun e => (e.1, e.2.1) := by
    have hzip : keys.zip values =
        (keys.zip values.attach).map fun e => (e.1, e.2.1) := by
      have hvalues := List.attach_map_subtype_val values
      calc keys.zip values = keys.zip (values.attach.map Subtype.val) := by rw [hvalues]
        _ = (keys.zip values.attach).map (Prod.map id Subtype.val) := List.zip_map_right
    unfold keptPairs
    rw [hzip, List.filter_map]
    rfl
  rw [parsePropertySet?, indexLoop_eq isEmptyKey (fun list key value =>
    putProperty P createMetrics list (key, value.1)) keys list, parsePropertySet_eq, hattach,
    List.foldl_map]
  intro value _ s key _
  unfold putProperty
  cases hfound : Entries.get? P.foldKey key s with
  | some property =>
    dsimp only
    rw [h value.1 value.2, Option.map_some, updateFirst_const P hfound]
  | none =>
    dsimp only
    split
    · rw [h value.1 value.2]
      rfl
    · rfl

mutual
theorem parsePropertyValue?_eq : (value : PbPropertyValue) → ∀ property : MetricProperty,
    parsePropertyValue? P createMetrics value property =
      some (parsePropertyValue P createMetrics value property)
  | .mk _ _ arm, property => by
    rw [parsePropertyValue?, parsePropertyValue]
    exact parsePropertyArm?_eq arm _

theorem parsePropertyArm?_eq : (arm : PbPropertyArm) → ∀ property : MetricProperty,
    parsePropertyArm? P createMetrics arm property =
      some (parsePropertyArm P createMetrics arm property)
  | .propertysetValue keys values, property => by
    have hset := fun list => parsePropertySet?_eq P createMetrics keys list
      (parsePropertyValues?_eq values)
    rw [parsePropertyArm?, parsePropertyArm]
    cases property.propArray with
    | nil =>
      dsimp only
      split
      · rw [hset]
        rfl
      · rfl
    | cons first rest =>
      dsimp only
      rw [hset]
      rfl
  | .notSet, _ | .intValue _, _ | .longValue _, _ | .floatValue _, _ | .doubleValue _, _
  | .booleanValue _, _ | .stringValue _, _ => by
    simp only [parsePropertyArm?]

theorem parsePropertyValues?_eq : (values : List PbPropertyValue) → ∀ value ∈ values,
    ∀ property : MetricProperty, parsePropertyValue? P createMetrics value property =
      some (parsePropertyValue P createMetrics value property)
  | [], value, h => absurd h List.not_mem_nil
  | first :: rest, value, h => by
    rcases List.mem_cons.mp h with hfirst | hrest
    · rw [hfirst]
      exact parsePropertyValue?_eq first
    · exact parsePropertyValues?_eq rest value hrest
end

/-- The property loop of `ParseMetric`, by indices. -/
def parseMetricProperties? (pb : PbPropertySet) (m : Metric) : Option Metric :=
  indexLoop isEmptyKey (fun m key value =>
    match m.getProperty P key with
    | some property =>
      (parsePropertyValue? P createMetrics value property).map fun parsed =>
        m.updateProperty P key fun _ => parsed
    | none =>
      if createMetrics then
        (parsePropertyValue? P createMetrics value
          (match value with
            | .mk (some type) _ _ => { key := key, type := MetricType.ofDataType type }
            | .mk none _ _ => { key := key })).map fun parsed =>
          (m.createProperty P key).updateProperty P key fun _ => parsed
      else some m) pb.keys pb.values m

/-- `ParseMetric`, `none` where it reads an element that is not there. -/
def parseMetric? (sourceTimestamp : UInt64) (pb : PbMetric) (m : Metric) : Option Metric :=
  let m := parseMetricHeader createMetrics sourceTimestamp pb m
  let m := parseMetricValue P pb.value m
  let m := match pb.metadata with
    | none => m
    | some md => { m with metaData := some (parseMetaData md (m.metaData.getD {})) }
  match pb.properties with
  | none => some m
  | some ps => parseMetricProperties? P createMetrics ps m

theorem parseMetricProperties_kept (pb : PbPropertySet) (m : Metric) :
    parseMetricProperties P createMetrics pb m =
      (keptPairs isEmptyKey pb.keys pb.values).foldl (parseMetricProperty P createMetrics) m := by
  unfold parseMetricProperties keptPairs
  induction pb.keys.zip pb.values generalizing m with
  | nil => rfl
  | cons e pairs ih =>
    rw [List.foldl_cons]
    by_cases hkey : e.1 = []
    · have hskip : parseMetricProperty P createMetrics m e = m := if_pos hkey
      rw [hskip, List.filter_cons_of_neg (by simp [isEmptyKey, hkey]), ih]
    · rw [List.filter_cons_of_pos (by simp [isEmptyKey, hkey]), List.foldl_cons, ih]

/-- No read of a value fails, in any set of the tree. -/
theorem parseMetric?_eq (sourceTimestamp : UInt64) (pb : PbMetric) (m : Metric) :
    parseMetric? P createMetrics sourceTimestamp pb m =
      some (parseMetric P createMetrics sourceTimestamp pb m) := by
  have hloop : ∀ (ps : PbPropertySet) (m : Metric),
      parseMetricProperties? P createMetrics ps m =
        some (parseMetricProperties P createMetrics ps m) := by
    intro ps m
    rw [parseMetricProperties_kept]
    refine indexLoop_eq isEmptyKey (fun m key value =>
      parseMetricProperty P createMetrics m (key, value)) ps.keys m fun value _ m key hkey => ?_
    have hne : key ≠ [] := of_decide_eq_false hkey
    unfold parseMetricProperty
    rw [if_neg hne]
    cases hfound : m.getProperty P key with
    | some property =>
      dsimp only
      rw [parsePropertyValue?_eq, Option.map_some]
      exact congrArg (fun list => some { m with propertyList := list })
        (updateFirst_const P hfound _)
    | none =>
      dsimp only
      split
      · rw [parsePropertyValue?_eq, Option.map_some]
        have hcreated : Entries.get? P.foldKey key (Entries.insert P.foldKey key
            ({ key := key } : MetricProperty) m.propertyList) = some { key := key } :=
          Entries.get?_insert_self hfound
        refine congrArg (fun list => some { m with propertyList := list }) ?_
        refine Eq.trans ?_ (updateFirst_const P hcreated _)
        cases value with
        | mk type isNull arm => cases type <;> rfl
      · rfl
  unfold parseMetric? parseMetric
  cases pb.properties with
  | none => rfl
  | some ps => exact hloop ps _

end PayloadHelper

namespace PbPropertyValue

/-- The declared type, or the one of a property without a declaration. -/
def declaredType : PbPropertyValue → MetricType
  | .mk type _ _ => (type.map MetricType.ofDataType).getD .string

def isSet : PbPropertyValue → Bool
  | .mk _ _ (.propertysetValue _ _) => true
  | _ => false

end PbPropertyValue

mutual
/-- The property has the declared type, the declared null flag, and the declared value under
that type or the declared set. Floating-point values are left open. -/
def Decodes (P : Platform) : PbPropertyValue → MetricProperty → Prop
  | .mk type isNull arm, p =>
    p.type = (PbPropertyValue.mk type isNull arm).declaredType ∧
      p.isNull = isNull.getD false ∧ DecodesArm P arm p

def DecodesArm (P : Platform) : PbPropertyArm → MetricProperty → Prop
  | .intValue v, p =>
    p.value = if PayloadHelper.signedOrReal p.type then intText v.toInt32.toInt
      else natText v.toNat
  | .longValue v, p =>
    p.value = if PayloadHelper.signedOrReal p.type then intText v.toInt64.toInt
      else natText v.toNat
  | .booleanValue v, p => p.value = Text.ofBool v
  | .stringValue v, p => p.value = v
  | .propertysetValue keys values, p =>
    ∃ list rest, p.propArray = list :: rest ∧ Entries.Sorted P.foldKey list ∧
      DecodesAll P keys values list ∧
      ∀ key, Entries.get? P.foldKey key list ≠ none →
        ∃ e ∈ keptPairs PayloadHelper.isEmptyKey keys values, P.foldKey key = P.foldKey e.1
  | .notSet, _ | .floatValue _, _ | .doubleValue _, _ => True

/-- Every index below both lengths with a key has its property. -/
def DecodesAll (P : Platform) : List Str → List PbPropertyValue → MetricPropertyList → Prop
  | key :: keys, value :: values, list =>
    (key ≠ [] → ∃ p, Entries.get? P.foldKey key list = some p ∧ Decodes P value p) ∧
      DecodesAll P keys values list
  | _, _, _ => True
end

/-- A property list is the decoding of a set: a map with one property for each index below both
lengths with a key, and no other. -/
structure DecodedSet (P : Platform) (keys : List Str) (values : List PbPropertyValue)
    (list : MetricPropertyList) : Prop where
  sorted : Entries.Sorted P.foldKey list
  found : ∀ e ∈ keptPairs PayloadHelper.isEmptyKey keys values,
    ∃ p, Entries.get? P.foldKey e.1 list = some p ∧ Decodes P e.2 p
  others : ∀ key, Entries.get? P.foldKey key list ≠ none →
    ∃ e ∈ keptPairs PayloadHelper.isEmptyKey keys values, P.foldKey key = P.foldKey e.1

def DistinctKeys (P : Platform) (keys : List Str) : Prop :=
  ((keys.filter fun key => !PayloadHelper.isEmptyKey key).map P.foldKey).Nodup

mutual
/-- The keys are distinct at every level of a value. -/
def DistinctTree (P : Platform) : PbPropertyValue → Prop
  | .mk _ _ arm => DistinctArm P arm

def DistinctArm (P : Platform) : PbPropertyArm → Prop
  | .propertysetValue keys values => DistinctKeys P keys ∧ DistinctTrees P values
  | .notSet | .intValue _ | .longValue _ | .floatValue _ | .doubleValue _ | .booleanValue _
  | .stringValue _ => True

def DistinctTrees (P : Platform) : List PbPropertyValue → Prop
  | [] => True
  | value :: values => DistinctTree P value ∧ DistinctTrees P values
end

section Decoding
variable {P : Platform}
open PayloadHelper

theorem decodesAll_iff (keys : List Str) (values : List PbPropertyValue)
    (list : MetricPropertyList) : DecodesAll P keys values list ↔
      ∀ e ∈ keptPairs isEmptyKey keys values,
        ∃ p, Entries.get? P.foldKey e.1 list = some p ∧ Decodes P e.2 p := by
  induction keys generalizing values with
  | nil => simp [DecodesAll, keptPairs]
  | cons key keys ih =>
    cases values with
    | nil => simp [DecodesAll, keptPairs]
    | cons value values =>
      unfold DecodesAll keptPairs
      rw [List.zip_cons_cons, ih]
      by_cases hkey : key = []
      · rw [List.filter_cons_of_neg (by simp [isEmptyKey, hkey])]
        exact and_iff_right fun hne => absurd hkey hne
      · rw [List.filter_cons_of_pos (by simp [isEmptyKey, hkey]), List.forall_mem_cons]
        exact and_congr_left fun _ => imp_iff_right hkey

theorem decodesArm_set {keys : List Str} {values : List PbPropertyValue} {p : MetricProperty} :
    DecodesArm P (.propertysetValue keys values) p ↔
      ∃ list rest, p.propArray = list :: rest ∧ DecodedSet P keys values list := by
  unfold DecodesArm
  simp only [decodesAll_iff]
  constructor
  · rintro ⟨list, rest, harray, hsorted, hfound, hothers⟩
    exact ⟨list, rest, harray, hsorted, hfound, hothers⟩
  · rintro ⟨list, rest, harray, hsorted, hfound, hothers⟩
    exact ⟨list, rest, harray, hsorted, hfound, hothers⟩

theorem DistinctKeys.nodup {keys : List Str} (h : DistinctKeys P keys)
    (values : List PbPropertyValue) :
    ((keptPairs isEmptyKey keys values).map fun e => P.foldKey e.1).Nodup := by
  have hmap := (keptPairs_keys isEmptyKey keys values).map P.foldKey
  rw [List.map_map] at hmap
  exact hmap.nodup h

theorem distinctTrees_iff {values : List PbPropertyValue} :
    DistinctTrees P values ↔ ∀ value ∈ values, DistinctTree P value := by
  induction values with
  | nil => simp [DistinctTrees]
  | cons value values ih => rw [DistinctTrees, ih, List.forall_mem_cons]

theorem DistinctTrees.of_kept {keys : List Str} {values : List PbPropertyValue}
    (h : DistinctTrees P values) {e : Str × PbPropertyValue}
    (he : e ∈ keptPairs isEmptyKey keys values) : DistinctTree P e.2 :=
  distinctTrees_iff.mp h e.2 (List.of_mem_zip (List.mem_filter.mp he).1).2

theorem parsed_type (arm : PbPropertyArm) (q : MetricProperty) :
    (parsePropertyArm P true arm q).type = q.type ∧
      (parsePropertyArm P true arm q).isNull = q.isNull := by
  cases arm with
  | propertysetValue keys values =>
    unfold parsePropertyArm
    cases q.propArray with
    | nil => exact ⟨rfl, rfl⟩
    | cons first rest => exact ⟨rfl, rfl⟩
  | _ => exact ⟨rfl, rfl⟩

theorem decodesArm_parsed {arm : PbPropertyArm} (q : MetricProperty)
    (h : ∀ keys values, arm ≠ .propertysetValue keys values) :
    DecodesArm P arm (parsePropertyArm P true arm q) := by
  cases arm with
  | propertysetValue keys values => exact absurd rfl (h keys values)
  | notSet | floatValue bits | doubleValue bits => exact trivial
  | _ => rfl

theorem decodes_parsed (type : Option UInt32) (isNull : Option Bool) (arm : PbPropertyArm)
    {q : MetricProperty} (hq : q.propArray = []) :
    Decodes P (.mk type isNull arm) (parsePropertyValue P true (.mk type isNull arm) q) ↔
      q.type = (PbPropertyValue.mk type isNull arm).declaredType ∧
        ∀ keys values, arm = .propertysetValue keys values →
          DecodedSet P keys values (parsePropertySet P true keys values []) := by
  have hparsed := parsed_type (P := P) arm { q with isNull := isNull.getD false }
  unfold Decodes parsePropertyValue
  rw [hparsed.1, hparsed.2]
  refine and_congr_right fun _ => (and_iff_right rfl).trans ?_
  cases arm with
  | propertysetValue keys values =>
    rw [decodesArm_set, parsePropertyArm, hq]
    constructor
    · rintro ⟨list, rest, harray, hlist⟩ keys' values' heq
      cases heq
      cases harray
      exact hlist
    · intro h
      exact ⟨_, [], rfl, h keys values rfl⟩
  | _ => exact iff_of_true (decodesArm_parsed _ nofun) nofun

/-- In a nested set the property is copied, so that a set in it is lost. -/
theorem decodes_copied (type : Option UInt32) (isNull : Option Bool) (arm : PbPropertyArm)
    (q : MetricProperty) :
    Decodes P (.mk type isNull arm) (parsePropertyValue P true (.mk type isNull arm) q).copy ↔
      q.type = (PbPropertyValue.mk type isNull arm).declaredType ∧
        (PbPropertyValue.mk type isNull arm).isSet = false := by
  have hparsed := parsed_type (P := P) arm { q with isNull := isNull.getD false }
  unfold Decodes parsePropertyValue
  generalize hresult : parsePropertyArm P true arm { q with isNull := isNull.getD false } = p
    at hparsed ⊢
  change p.type = _ ∧ p.isNull = _ ∧ DecodesArm P arm p.copy ↔ _
  rw [hparsed.1, hparsed.2]
  refine and_congr_right fun _ => (and_iff_right rfl).trans ?_
  cases arm with
  | propertysetValue keys values =>
    rw [decodesArm_set]
    refine iff_of_false ?_ nofun
    rintro ⟨list, rest, harray, -⟩
    cases harray
  | notSet | floatValue bits | doubleValue bits => exact iff_of_true trivial rfl
  | _ =>
    subst hresult
    exact iff_of_true rfl rfl

/-- A property list that is filled pair by pair is the decoding of the set if every pair is
decoded, and what was in the list before has a pair. -/
theorem decodedSet_fill {put : MetricPropertyList → Str × PbPropertyValue → MetricPropertyList}
    {value : Str × PbPropertyValue → Option MetricProperty → MetricProperty}
    (hput : Puts P.foldKey put value) {keys : List Str} (hkeys : DistinctKeys P keys)
    (values : List PbPropertyValue) {list : MetricPropertyList}
    (hlist : Entries.Sorted P.foldKey list) :
    DecodedSet P keys values ((keptPairs isEmptyKey keys values).foldl put list) ↔
      (∀ e ∈ keptPairs isEmptyKey keys values,
        Decodes P e.2 (value e (Entries.get? P.foldKey e.1 list))) ∧
      ∀ key, Entries.get? P.foldKey key list ≠ none →
        ∃ e ∈ keptPairs isEmptyKey keys values, P.foldKey key = P.foldKey e.1 := by
  have hnodup := hkeys.nodup values
  constructor
  · intro h
    constructor
    · intro e he
      obtain ⟨p, hp, hdecodes⟩ := h.found e he
      rw [hput.get?_fill_mem hlist hnodup he] at hp
      exact Option.some.inj hp ▸ hdecodes
    · intro key hkey
      by_contra hnone
      apply hnone
      apply h.others key
      rw [hput.get?_fill_ne hlist fun e he heq => hnone ⟨e, he, heq⟩]
      exact hkey
  · rintro ⟨hfound, hothers⟩
    refine ⟨hput.sorted_fill hlist _, fun e he => ?_, fun key hkey => ?_⟩
    · exact ⟨_, hput.get?_fill_mem hlist hnodup he, hfound e he⟩
    · rcases hput.fill_keys hlist hkey with hold | hpair
      · exact hothers key hold
      · exact hpair

theorem puts_property : Puts P.foldKey (putProperty P true) fun e old =>
    match old with
    | some q => parsePropertyValue P true e.2 q
    | none => (parsePropertyValue P true e.2 { key := e.1 }).copy where
  sorted := by
    intro list e hlist
    unfold putProperty
    cases Entries.get? P.foldKey e.1 list with
    | some q => exact Entries.sorted_of_keys (Entries.updateFirst_keys _ _ _) hlist
    | none => exact Entries.insert_sorted hlist
  get?_put := by
    intro list e key hlist
    unfold putProperty
    by_cases hkey : P.foldKey key = P.foldKey e.1
    · rw [if_pos hkey, Entries.get?_congr hkey]
      cases hfound : Entries.get? P.foldKey e.1 list with
      | some q =>
        dsimp only
        rw [Entries.get?_updateFirst_self, hfound, Option.map_some]
      | none => exact Entries.get?_insert_self hfound
    · rw [if_neg hkey]
      cases Entries.get? P.foldKey e.1 list with
      | some q => exact Entries.get?_updateFirst_ne _ hkey
      | none => exact Entries.get?_insert_ne _ hkey

/-- A nested set is decoded as declared exactly where it is flat and declares strings only. -/
theorem decodedSet_nested {keys : List Str} (hkeys : DistinctKeys P keys)
    (values : List PbPropertyValue) :
    DecodedSet P keys values (parsePropertySet P true keys values []) ↔
      ∀ e ∈ keptPairs isEmptyKey keys values,
        e.2.declaredType = .string ∧ e.2.isSet = false := by
  rw [parsePropertySet_eq, decodedSet_fill puts_property hkeys values List.Pairwise.nil]
  have hnil : ∀ key, Entries.get? P.foldKey key ([] : MetricPropertyList) = none := fun _ => rfl
  simp only [hnil, ne_eq, not_true_eq_false, false_imp_iff, implies_true, and_true]
  refine forall₂_congr fun e _ => ?_
  obtain ⟨key, type, isNull, arm⟩ := e
  exact (decodes_copied type isNull arm _).trans (and_congr_left fun _ => eq_comm)

def putMetricProperty (P : Platform) (list : MetricPropertyList) (e : Str × PbPropertyValue) :
    MetricPropertyList :=
  match Entries.get? P.foldKey e.1 list with
  | some _ =>
    Entries.updateFirst (Entries.sameKey P.foldKey e.1) (parsePropertyValue P true e.2) list
  | none =>
    Entries.updateFirst (Entries.sameKey P.foldKey e.1)
      (fun p => parsePropertyValue P true e.2
        (match e.2 with
          | .mk (some type) _ _ => { p with type := MetricType.ofDataType type }
          | .mk none _ _ => p))
      (Entries.insert P.foldKey e.1 { key := e.1 } list)

theorem propertyList_parsed (pb : PbPropertySet) (m : Metric) :
    (parseMetricProperties P true pb m).propertyList =
      (keptPairs isEmptyKey pb.keys pb.values).foldl (putMetricProperty P) m.propertyList := by
  have hkept : ∀ e ∈ keptPairs isEmptyKey pb.keys pb.values, e.1 ≠ [] := by
    intro e he hkey
    have hpassed := (List.mem_filter.mp he).2
    simp [isEmptyKey, hkey] at hpassed
  rw [parseMetricProperties_kept]
  generalize keptPairs isEmptyKey pb.keys pb.values = pairs at hkept
  induction pairs generalizing m with
  | nil => rfl
  | cons e pairs ih =>
    have hturn : (parseMetricProperty P true m e).propertyList =
        putMetricProperty P m.propertyList e := by
      unfold parseMetricProperty putMetricProperty
      rw [if_neg (hkept e List.mem_cons_self)]
      unfold Metric.getProperty
      cases Entries.get? P.foldKey e.1 m.propertyList with
      | some q => rfl
      | none => rfl
    rw [List.foldl_cons, List.foldl_cons,
      ih _ fun d hd => hkept d (List.mem_cons_of_mem e hd), hturn]

theorem puts_metricProperty : Puts P.foldKey (putMetricProperty P) fun e old =>
    match old with
    | some q => parsePropertyValue P true e.2 q
    | none => parsePropertyValue P true e.2 { key := e.1, type := e.2.declaredType } where
  sorted := by
    intro list e hlist
    unfold putMetricProperty
    cases Entries.get? P.foldKey e.1 list with
    | some q => exact Entries.sorted_of_keys (Entries.updateFirst_keys _ _ _) hlist
    | none =>
      exact Entries.sorted_of_keys (Entries.updateFirst_keys _ _ _) (Entries.insert_sorted hlist)
  get?_put := by
    intro list e key hlist
    unfold putMetricProperty
    by_cases hkey : P.foldKey key = P.foldKey e.1
    · rw [if_pos hkey, Entries.get?_congr hkey]
      cases hfound : Entries.get? P.foldKey e.1 list with
      | some q =>
        dsimp only
        rw [Entries.get?_updateFirst_self, hfound, Option.map_some]
      | none =>
        dsimp only
        rw [Entries.get?_updateFirst_self, Entries.get?_insert_self hfound, Option.map_some]
        obtain ⟨k, type, isNull, arm⟩ := e
        cases type <;> rfl
    · rw [if_neg hkey]
      cases Entries.get? P.foldKey e.1 list with
      | some q => exact Entries.get?_updateFirst_ne _ hkey
      | none =>
        dsimp only
        rw [Entries.get?_updateFirst_ne _ hkey, Entries.get?_insert_ne _ hkey]

end Decoding

/-- A nested set is flat, and declares strings only. -/
def PbPropertyValue.Shallow : PbPropertyValue → Prop
  | .mk _ _ (.propertysetValue keys values) =>
    ∀ e ∈ keptPairs PayloadHelper.isEmptyKey keys values,
      e.2.declaredType = .string ∧ e.2.isSet = false
  | _ => True

namespace PbMetric

def propertySet (pb : PbMetric) : PbPropertySet := pb.properties.getD {}

def pairs (pb : PbMetric) : List (Str × PbPropertyValue) :=
  keptPairs PayloadHelper.isEmptyKey pb.propertySet.keys pb.propertySet.values

/-- The value of the message is a number with a unit behind it. -/
def bringsUnit (pb : PbMetric) : Bool :=
  ((pb.datatype.map MetricType.ofDataType).getD .unknown).isNumeric && pb.value.mayBringUnit

/-- The nested sets are flat sets of strings, and a unit that comes with the value is declared
as a string. -/
def DeclaresStrings (P : Platform) (pb : PbMetric) : Prop :=
  (∀ e ∈ pb.pairs, e.2.Shallow) ∧
    (pb.bringsUnit = true →
      ∃ e ∈ pb.pairs, P.foldKey (str "unit") = P.foldKey e.1 ∧ e.2.declaredType = .string)

end PbMetric

namespace PayloadHelper
variable {P : Platform}

/-- A text brings a unit to a metric without properties if the metric is numeric and there is
a blank in the text. -/
theorem propertyList_setString {m : Metric} (hlist : m.propertyList = []) (text : Str) :
    (m.setString P text).propertyList = [] ∧ (m.datatype.isNumeric && text.contains 32) = false ∨
      ∃ unit, (m.setString P text).propertyList =
        [(str "unit", { key := str "unit", value := unit })] ∧
        (m.datatype.isNumeric && text.contains 32) = true := by
  have hnone : m.getProperty P (str "unit") = none := by
    unfold Metric.getProperty
    rw [hlist]
    rfl
  unfold Metric.setString
  cases hunit : m.datatype.isNumeric && text.contains 32 with
  | false => exact Or.inl ⟨hlist, rfl⟩
  | true =>
    refine Or.inr ⟨(text.dropWhile (· ≠ 32)).tail, ?_, rfl⟩
    rw [if_pos rfl, hnone]
    dsimp only
    unfold Metric.setUnit Metric.addProperty
    dsimp only
    rw [hnone]
    change Entries.insert P.foldKey (str "unit") _ m.propertyList = _
    rw [hlist]
    rfl

theorem propertyList_valued (sourceTimestamp : UInt64) (pb : PbMetric) :
    (parseMetricValue P pb.value (parseMetricHeader true sourceTimestamp pb {})).propertyList =
        [] ∧ pb.bringsUnit = false ∨
      ∃ text, (parseMetricValue P pb.value
          (parseMetricHeader true sourceTimestamp pb {})).propertyList =
        [(str "unit", { key := str "unit", value := text })] ∧ pb.bringsUnit = true := by
  generalize hheader : parseMetricHeader true sourceTimestamp pb {} = m
  have htype : m.datatype = (pb.datatype.map MetricType.ofDataType).getD .unknown := by
    rw [← hheader]
    rfl
  have hlist : m.propertyList = [] := by
    rw [← hheader]
    rfl
  unfold PbMetric.bringsUnit PbValue.mayBringUnit
  rw [← htype]
  cases pb.value with
  | stringValue text => exact propertyList_setString hlist text
  | bytesValue text => exact propertyList_setString hlist text
  | intValue v =>
    refine Or.inl ⟨?_, Bool.and_false _⟩
    dsimp only [parseMetricValue]
    split
    · exact hlist
    · exact hlist
  | longValue v =>
    refine Or.inl ⟨?_, Bool.and_false _⟩
    dsimp only [parseMetricValue]
    split
    · exact hlist
    · exact hlist
  | notSet | floatValue bits | doubleValue bits | booleanValue v =>
    exact Or.inl ⟨hlist, Bool.and_false _⟩

theorem propertyList_parseMetric (sourceTimestamp : UInt64) (pb : PbMetric) :
    (parseMetric P true sourceTimestamp pb {}).propertyList =
      pb.pairs.foldl (putMetricProperty P) (parseMetricValue P pb.value
        (parseMetricHeader true sourceTimestamp pb {})).propertyList := by
  unfold parseMetric PbMetric.pairs PbMetric.propertySet
  cases pb.properties with
  | none => cases pb.metadata <;> rfl
  | some ps =>
    refine (propertyList_parsed ps _).trans ?_
    cases pb.metadata <;> rfl

/-- The value of a pair is decoded in a property of another type only if it has no set that is
not shallow. -/
theorem decodes_top {e : Str × PbPropertyValue} (hdistinct : DistinctTree P e.2)
    {q : MetricProperty} (hq : q.propArray = []) :
    Decodes P e.2 (parsePropertyValue P true e.2 q) ↔
      q.type = e.2.declaredType ∧ e.2.Shallow := by
  obtain ⟨key, type, isNull, arm⟩ := e
  refine (decodes_parsed type isNull arm hq).trans (and_congr_right fun _ => ?_)
  unfold PbPropertyValue.Shallow
  cases arm with
  | propertysetValue keys values =>
    have hkeys : DistinctKeys P keys := by
      unfold DistinctTree DistinctArm at hdistinct
      exact hdistinct.1
    dsimp only
    rw [← decodedSet_nested hkeys values]
    constructor
    · exact fun h => h keys values rfl
    · intro h keys' values' heq
      cases heq
      exact h
  | _ => exact iff_of_true nofun trivial

theorem decodedSet_top {keys : List Str} (hkeys : DistinctKeys P keys)
    {values : List PbPropertyValue} (hvalues : DistinctTrees P values) :
    DecodedSet P keys values
        ((keptPairs isEmptyKey keys values).foldl (putMetricProperty P) []) ↔
      ∀ e ∈ keptPairs isEmptyKey keys values, e.2.Shallow := by
  refine (decodedSet_fill puts_metricProperty hkeys _ List.Pairwise.nil).trans ?_
  refine (and_iff_left fun key hkey => absurd rfl hkey).trans (forall₂_congr fun e he => ?_)
  exact (decodes_top (hvalues.of_kept he) rfl).trans (and_iff_right rfl)

/-- The pairs of a message put into the list of one property: its key must have a pair, which
declares the type of that property. -/
theorem decodedSet_top_after {keys : List Str} (hkeys : DistinctKeys P keys)
    {values : List PbPropertyValue} (hvalues : DistinctTrees P values) (first : Str)
    {q : MetricProperty} (hq : q.propArray = []) :
    DecodedSet P keys values
        ((keptPairs isEmptyKey keys values).foldl (putMetricProperty P) [(first, q)]) ↔
      (∀ e ∈ keptPairs isEmptyKey keys values, e.2.Shallow) ∧
        ∃ e ∈ keptPairs isEmptyKey keys values,
          P.foldKey first = P.foldKey e.1 ∧ e.2.declaredType = q.type := by
  have hdecodes : ∀ e ∈ keptPairs isEmptyKey keys values,
      (Decodes P e.2 (match Entries.get? P.foldKey e.1 [(first, q)] with
        | some q => parsePropertyValue P true e.2 q
        | none => parsePropertyValue P true e.2 { key := e.1, type := e.2.declaredType }) ↔
      (P.foldKey first = P.foldKey e.1 → e.2.declaredType = q.type) ∧ e.2.Shallow) := by
    intro e he
    rw [Entries.get?_singleton]
    by_cases hkey : P.foldKey first = P.foldKey e.1
    · rw [if_pos hkey, imp_iff_right hkey, eq_comm]
      exact decodes_top (hvalues.of_kept he) hq
    · rw [if_neg hkey, and_iff_right fun h => absurd h hkey]
      exact (decodes_top (hvalues.of_kept he) rfl).trans (and_iff_right rfl)
  refine (decodedSet_fill puts_metricProperty hkeys _ (List.pairwise_singleton _ _)).trans ?_
  constructor
  · rintro ⟨hpairs, hothers⟩
    obtain ⟨e, he, hkey⟩ := hothers first (by simp [Entries.get?_singleton])
    refine ⟨fun d hd => ((hdecodes d hd).mp (hpairs d hd)).2, e, he, hkey, ?_⟩
    exact ((hdecodes e he).mp (hpairs e he)).1 hkey
  · rintro ⟨hshallow, e, he, hkey, htype⟩
    constructor
    · intro d hd
      refine (hdecodes d hd).mpr ⟨fun hd' => ?_, hshallow d hd⟩
      have hde : d = e :=
        List.inj_on_of_nodup_map (hkeys.nodup values) hd he (hd'.symm.trans hkey)
      rw [hde]
      exact htype
    · intro key hne
      rw [Entries.get?_singleton] at hne
      by_cases hfirst : P.foldKey first = P.foldKey key
      · exact ⟨e, he, hfirst.symm.trans hkey⟩
      · exact absurd (if_neg hfirst) hne

/-- No value is read out of range, and the tree of property sets is decoded as declared exactly
where its nested sets are flat sets of strings and no other unit comes with the value. -/
theorem nested_properties_decode_iff (P : Platform) (sourceTimestamp : UInt64) {pb : PbMetric}
    (hkeys : DistinctKeys P pb.propertySet.keys)
    (hvalues : DistinctTrees P pb.propertySet.values) :
    parseMetric? P true sourceTimestamp pb {} =
        some (parseMetric P true sourceTimestamp pb {}) ∧
      (DecodedSet P pb.propertySet.keys pb.propertySet.values
          (parseMetric P true sourceTimestamp pb {}).propertyList ↔ pb.DeclaresStrings P) := by
  refine ⟨parseMetric?_eq P true sourceTimestamp pb {}, ?_⟩
  unfold PbMetric.DeclaresStrings
  rw [propertyList_parseMetric]
  rcases propertyList_valued (P := P) sourceTimestamp pb with ⟨hlist, hunit⟩ | ⟨text, hlist, hunit⟩
  · rw [hlist, hunit, and_iff_left nofun]
    exact decodedSet_top hkeys hvalues
  · rw [hlist, hunit, imp_iff_right rfl]
    exact decodedSet_top_after hkeys hvalues (str "unit") rfl

def declaredStrings : PbMetric where
  datatype := some 3
  value := .stringValue (str "5 mm")
  properties := some
    { keys := [str "Unit", str "limits"]
      values := [.mk (some 12) none (.stringValue (str "cm")),
        .mk none none (.propertysetValue [str "low"] [.mk (some 12) none (.stringValue [])])] }

theorem nested_properties_decode_iff_holds :
    DecodedSet Platform.reference declaredStrings.propertySet.keys
      declaredStrings.propertySet.values
      (parseMetric Platform.reference true 0 declaredStrings {}).propertyList := by
  have hkeys : DistinctKeys Platform.reference declaredStrings.propertySet.keys := by
    unfold DistinctKeys
    decide +kernel
  have hvalues : DistinctTrees Platform.reference declaredStrings.propertySet.values := by
    rw [distinctTrees_iff]
    intro value hvalue
    rcases List.mem_cons.mp hvalue with rfl | hset
    · unfold DistinctTree DistinctArm
      exact trivial
    · rw [List.mem_singleton.mp hset]
      unfold DistinctTree DistinctArm DistinctKeys DistinctTrees DistinctTree DistinctArm
        DistinctTrees
      exact ⟨by decide +kernel, trivial, trivial⟩
  refine (nested_properties_decode_iff Platform.reference 0 hkeys hvalues).2.mpr ⟨?_, fun _ => ?_⟩
  · intro e he
    rcases List.mem_cons.mp he with rfl | hset
    · exact trivial
    · rw [List.mem_singleton.mp hset]
      unfold PbPropertyValue.Shallow
      decide +kernel
  · exact ⟨_, List.mem_cons_self, by decide +kernel, by decide +kernel⟩
def nestedLow : PbMetric where
  properties := some
    { keys := [str "limits"]
      values := [.mk none none
        (.propertysetValue [str "low"] [.mk (some 3) none (.intValue (-5))])] }

theorem nested_integer_is_unsigned :
    DistinctKeys Platform.reference nestedLow.propertySet.keys ∧
      DistinctTrees Platform.reference nestedLow.propertySet.values ∧
      ¬ DecodedSet Platform.reference nestedLow.propertySet.keys nestedLow.propertySet.values
        (parseMetric Platform.reference true 0 nestedLow {}).propertyList := by
  refine ⟨by unfold DistinctKeys; decide +kernel, ?_, fun h => ?_⟩
  · rw [distinctTrees_iff]
    intro value hvalue
    rw [List.mem_singleton.mp hvalue]
    unfold DistinctTree DistinctArm
    refine ⟨by unfold DistinctKeys; decide +kernel, ?_⟩
    unfold DistinctTrees DistinctTree DistinctArm DistinctTrees
    exact ⟨trivial, trivial⟩
  · have hparsed : ((Entries.get? Platform.reference.foldKey (str "limits")
        (parseMetric Platform.reference true 0 nestedLow {}).propertyList).bind fun p =>
          p.propArray.head?.bind (Entries.get? Platform.reference.foldKey (str "low"))).map
          MetricProperty.type = some .string := by decide +kernel
    obtain ⟨p, hp, hdecodes⟩ := h.found (str "limits", _) List.mem_cons_self
    unfold Decodes at hdecodes
    obtain ⟨list, rest, harray, hset⟩ := decodesArm_set.mp hdecodes.2.2
    obtain ⟨low, hlow, htype⟩ := hset.found (str "low", _) List.mem_cons_self
    unfold Decodes at htype
    dsimp only at hp hlow
    rw [hp, Option.bind_some, harray, List.head?_cons, Option.bind_some, hlow, Option.map_some,
      htype.1] at hparsed
    revert hparsed
    decide +kernel

end PayloadHelper
end PubSub
