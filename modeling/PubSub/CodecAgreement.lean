import PubSub.MetricWire
import PubSub.Reference

/-!
# The codecs of metrics and of properties

The value switches for metrics and for properties are written twice. They choose the same arm
for every datatype but `DateTime`, which a metric sends as its text and a property as a number,
and they read an integer as the same text unless the datatype is `Float` or `Double` and the
top bit is set.
-/

namespace PubSub
open DecimalText
set_option autoImplicit false

namespace PayloadHelper

/-- The arms of the two messages with the same field in both, and with the same content. -/
inductive SameArm : PbValue → PbPropertyArm → Prop
  | notSet : SameArm .notSet .notSet
  | intValue (v : UInt32) : SameArm (.intValue v) (.intValue v)
  | longValue (v : UInt64) : SameArm (.longValue v) (.longValue v)
  | floatValue (bits : UInt32) : SameArm (.floatValue bits) (.floatValue bits)
  | doubleValue (bits : UInt64) : SameArm (.doubleValue bits) (.doubleValue bits)
  | booleanValue (v : Bool) : SameArm (.booleanValue v) (.booleanValue v)
  | stringValue (v : Str) : SameArm (.stringValue v) (.stringValue v)

/-- An integer or a boolean. -/
def isDiscrete : PbValue → Bool
  | .intValue _ | .longValue _ | .booleanValue _ => true
  | _ => false

/-- The top bit of an integer, which is the sign if it is read as a signed one. -/
def signBit : PbValue → Bool
  | .intValue v => 2147483648 ≤ v.toNat
  | .longValue v => 9223372036854775808 ≤ v.toNat
  | _ => false

def isReal (t : MetricType) : Bool := t = .float || t = .double

section Write
variable (P : Platform)

theorem sameArm_written {m : Metric} {p : MetricProperty} (htype : p.type = m.datatype)
    (hvalue : p.value = m.value) :
    SameArm (metricValue P m) (propertyValue P p) ↔ m.datatype ≠ .dateTime := by
  unfold metricValue propertyValue
  rw [htype, hvalue]
  cases m.datatype with
  | dateTime => exact iff_of_false nofun (fun h => h rfl)
  | _ => exact iff_of_true (by constructor) nofun

/-- A property of a list is the only one that is written under its key. -/
theorem mem_writePropertySet (writeAll : Bool) {list : FoldedMap P.foldKey MetricProperty}
    {key : Str} {p : MetricProperty} (h : (key, p) ∈ list.entries) (hkey : key ≠ []) :
    ∃ set type isNull, writePropertySet P writeAll list.entries = some set ∧
      ∀ v, (key, v) ∈ set.keys.zip set.values ↔ v = .mk type isNull (propertyValue P p) := by
  have hwritten : (key, p) ∈ list.entries.filter fun e => e.1 ≠ [] :=
    List.mem_filter.mpr ⟨h, decide_eq_true hkey⟩
  have hne : (list.entries.filter fun e => e.1 ≠ []) ≠ [] := List.ne_nil_of_mem hwritten
  unfold writePropertySet
  dsimp only
  rw [if_neg hne]
  refine ⟨_, if writeAll then some p.type.toUInt32 else none, some p.isNull, rfl, fun v => ?_⟩
  rw [List.zip_map']
  constructor
  · intro hv
    obtain ⟨e, he, hsame⟩ := List.mem_map.mp hv
    obtain ⟨rfl, rfl⟩ := Prod.mk.inj hsame
    have honly : e = (e.1, p) :=
      Entries.eq_of_sameKey list.sorted (List.mem_filter.mp he).1 h rfl
    rw [honly]
  · rintro rfl
    exact List.mem_map.mpr ⟨(key, p), hwritten, rfl⟩

end Write

section Parse

theorem intText_injective {v w : Int} (h : intText v = intText w) : v = w := by
  have hnumber := congrArg Text.number h
  rwa [Text.number_intText, Text.number_intText] at hnumber

theorem toInt_toInt32 (v : UInt32) :
    v.toInt32.toInt = if 2147483648 ≤ v.toNat then (v.toNat : Int) - 4294967296 else v.toNat := by
  change v.toBitVec.toInt = _
  rw [BitVec.toInt_eq_toNat_cond]
  change (if 2 * v.toNat < 2 ^ 32 then (v.toNat : Int) else (v.toNat : Int) - (2 ^ 32 : Nat)) = _
  split <;> split <;> omega

theorem toInt_toInt64 (v : UInt64) :
    v.toInt64.toInt =
      if 9223372036854775808 ≤ v.toNat then (v.toNat : Int) - 18446744073709551616
      else v.toNat := by
  change v.toBitVec.toInt = _
  rw [BitVec.toInt_eq_toNat_cond]
  change (if 2 * v.toNat < 2 ^ 64 then (v.toNat : Int) else (v.toNat : Int) - (2 ^ 64 : Nat)) = _
  split <;> split <;> omega

theorem intText_toInt32 (v : UInt32) :
    intText v.toInt32.toInt = intText v.toNat ↔ signBit (.intValue v) = false := by
  have htop : signBit (.intValue v) = false ↔ ¬ 2147483648 ≤ v.toNat := decide_eq_false_iff_not
  rw [htop]
  constructor
  · intro h
    have hsame := intText_injective h
    rw [toInt_toInt32] at hsame
    split at hsame <;> omega
  · intro h
    rw [toInt_toInt32, if_neg h]

theorem intText_toInt64 (v : UInt64) :
    intText v.toInt64.toInt = intText v.toNat ↔ signBit (.longValue v) = false := by
  have htop : signBit (.longValue v) = false ↔ ¬ 9223372036854775808 ≤ v.toNat :=
    decide_eq_false_iff_not
  rw [htop]
  constructor
  · intro h
    have hsame := intText_injective h
    rw [toInt_toInt64] at hsame
    split at hsame <;> omega
  · intro h
    rw [toInt_toInt64, if_neg h]

variable (P : Platform)

/-- The signs of an integer agree where both readers take the type for a signed one or both do
not, or where there is no sign. -/
theorem sameText_parsed (createMetrics : Bool) {v : PbValue} {arm : PbPropertyArm} {m : Metric}
    {p : MetricProperty} (hdiscrete : isDiscrete v = true) (harm : SameArm v arm)
    (htype : p.type = m.datatype) :
    (parseMetricValue P v m).value = (parsePropertyArm P createMetrics arm p).value ↔
      ¬ (isReal m.datatype = true ∧ signBit v = true) := by
  have hsigns : signedOrReal m.datatype = (signedInt m.datatype || isReal m.datatype) := by
    cases m.datatype <;> rfl
  have hboth : signedInt m.datatype = true → isReal m.datatype = false := by
    cases m.datatype <;> simp [signedInt, isReal]
  have hread : ∀ (signed unsigned : Int),
      (intText signed = intText unsigned ↔ signBit v = false) →
      ((if signedInt m.datatype then m.setInt signed else m.setInt unsigned).value =
        (if signedOrReal m.datatype then intText signed else intText unsigned) ↔
      ¬ (isReal m.datatype = true ∧ signBit v = true)) := by
    intro signed unsigned hsame
    rw [apply_ite Metric.value, hsigns]
    change (if signedInt m.datatype then intText signed else intText unsigned) = _ ↔ _
    cases hsigned : signedInt m.datatype with
    | true => simp [hboth hsigned]
    | false =>
      cases hreal : isReal m.datatype with
      | false => simp
      | true =>
        change intText unsigned = intText signed ↔ _
        rw [eq_comm (a := intText unsigned), hsame]
        simp
  cases harm with
  | intValue v =>
    unfold parsePropertyArm
    rw [htype, ← intText_natCast]
    exact hread _ _ (intText_toInt32 v)
  | longValue v =>
    unfold parsePropertyArm
    rw [htype, ← intText_natCast]
    exact hread _ _ (intText_toInt64 v)
  | booleanValue v => exact iff_of_true rfl (fun h => Bool.false_ne_true h.2)
  | notSet => cases hdiscrete
  | floatValue bits => cases hdiscrete
  | doubleValue bits => cases hdiscrete
  | stringValue text => cases hdiscrete

end Parse

/-- A metric and a property with one datatype and one text are written alike exactly for the
types other than `DateTime`, and discrete values are read alike exactly where they have no top
bit or the type is neither `Float` nor `Double`. -/
theorem codecs_agree_iff (P : Platform) :
    (∀ (writeAll : Bool) (m : Metric) (list : FoldedMap P.foldKey MetricProperty) (key : Str)
        (p : MetricProperty),
      (key, p) ∈ list.entries → key ≠ [] → p.type = m.datatype → p.value = m.value →
      ∃ set type isNull arm, writePropertySet P writeAll list.entries = some set ∧
        (∀ v, (key, v) ∈ set.keys.zip set.values ↔ v = .mk type isNull arm) ∧
        (SameArm (writeMetric P writeAll m).value arm ↔ m.datatype ≠ .dateTime)) ∧
    ∀ (createMetrics : Bool) (sourceTimestamp : UInt64) (pb : PbMetric) (m : Metric)
        (type : Option UInt32) (isNull : Option Bool) (arm : PbPropertyArm)
        (p : MetricProperty),
      isDiscrete pb.value = true → SameArm pb.value arm →
      p.type = (parseMetric P createMetrics sourceTimestamp pb m).datatype →
      ((parseMetric P createMetrics sourceTimestamp pb m).value =
          (parsePropertyValue P createMetrics (.mk type isNull arm) p).value ↔
        ¬ (isReal p.type = true ∧ signBit pb.value = true)) := by
  constructor
  · intro writeAll m list key p hmem hkey htype hvalue
    obtain ⟨set, type, isNull, hset, hin⟩ := mem_writePropertySet P writeAll hmem hkey
    exact ⟨set, type, isNull, _, hset, hin, sameArm_written P htype hvalue⟩
  · intro createMetrics sourceTimestamp pb m type isNull arm p hdiscrete harm htype
    have hheader : (parseMetric P createMetrics sourceTimestamp pb m).datatype =
        (parseMetricHeader createMetrics sourceTimestamp pb m).datatype :=
      congrArg (fun i => i.2.2) (parseMetric_identity P createMetrics sourceTimestamp pb m)
    rw [hheader] at htype
    rw [parseMetric_value, htype]
    unfold parsePropertyValue
    exact sameText_parsed P createMetrics hdiscrete harm htype

/-- A `DateTime` is a string in a metric and a number in a property, and the word of -1 is read
with a sign by a `Float` property only. -/
theorem codecs_differ :
    let time : Metric := { name := str "t", datatype := .dateTime, value := str "5" }
    let timeProperty : MetricProperty := { key := str "t", type := .dateTime, value := str "5" }
    let real : Metric := { name := str "r", datatype := .float }
    let realProperty : MetricProperty := { key := str "r", type := .float }
    metricValue Platform.reference time = .stringValue (str "5") ∧
      propertyValue Platform.reference timeProperty = .longValue 5 ∧
      (parseMetric Platform.reference false 0 { value := .intValue 4294967295 } real).value =
        str "4294967295" ∧
      (parsePropertyValue Platform.reference false (.mk none none (.intValue 4294967295))
        realProperty).value = str "-1" := by
  refine ⟨rfl, rfl, ?_, ?_⟩
  · decide +kernel
  · decide +kernel

theorem codecs_agree_iff_holds :
    let m : Metric := { name := str "m", datatype := .int32, value := str "5" }
    let p : MetricProperty := { key := str "p", type := .int32, value := str "5" }
    (∃ set type isNull arm,
      writePropertySet Platform.reference true [(str "p", p)] = some set ∧
      (∀ v, (str "p", v) ∈ set.keys.zip set.values ↔ v = .mk type isNull arm) ∧
      (SameArm (writeMetric Platform.reference true m).value arm ↔
        m.datatype ≠ .dateTime)) ∧
    ((parseMetric Platform.reference true 0 { value := .intValue 7 } m).value =
        (parsePropertyValue Platform.reference true (.mk none none (.intValue 7)) p).value ↔
      ¬ (isReal p.type = true ∧ signBit (.intValue 7) = true)) :=
  ⟨(codecs_agree_iff Platform.reference).1 true _ ⟨[(str "p", _)], List.pairwise_singleton _ _⟩ _ _
      List.mem_cons_self (by decide) rfl rfl,
    (codecs_agree_iff Platform.reference).2 true 0 _ _ none none _ _ rfl (.intValue 7) rfl⟩

end PayloadHelper
end PubSub
