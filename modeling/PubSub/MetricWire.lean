import PubSub.CodecSimulation
import PubSub.Reference

/-!
# One metric on the wire

`GetBody` writes everything of a metric that the writer knows, and a parse into an empty
metric reads it back. The values of all datatypes but the floating-point ones return, and so
does a flat property list. The writer knows neither metadata nor nested property sets, so
these return only where there are none.
-/

namespace PubSub
open DecimalText
set_option autoImplicit false

/-- The bytes of a metric message on its own; parsing undoes serializing. -/
structure MetricWire where
  serialize : PbMetric → BodyList
  parse : BodyList → Option PbMetric
  parse_serialize : ∀ pb, parse (serialize pb) = some pb

namespace MetricWire

def reference : MetricWire where
  serialize := ProtobufCodec.metricBytes
  parse := ProtobufCodec.decodeMetric
  parse_serialize := ProtobufCodec.decode_metricBytes

variable (W : MetricWire) (P : Platform)

def getBody (m : Metric) : BodyList := W.serialize (PayloadHelper.writeMetric P true m)

/-- The body parsed into a default metric with `CreateMetrics(true)`. -/
def receive (sourceTimestamp : UInt64) (body : BodyList) : Option Metric :=
  (W.parse body).map fun pb => PayloadHelper.parseMetric P true sourceTimestamp pb {}

theorem receive_getBody (sourceTimestamp : UInt64) (m : Metric) :
    W.receive P sourceTimestamp (W.getBody P m) = some
      (PayloadHelper.parseMetric P true sourceTimestamp
        (PayloadHelper.writeMetric P true m) {}) := by
  unfold receive getBody
  rw [W.parse_serialize]
  rfl

end MetricWire

namespace MetricType

def isReal : MetricType → Bool
  | .float | .double => true
  | _ => false

/-- The datatype with the same C++ type among those that have one of their own; all others
are texts. -/
def cppType (t : MetricType) : MetricType :=
  if t.isNumeric || t == .boolean then t else .string

/-- The least and the greatest value of an integer type of properties. -/
def bounds : MetricType → Option (Int × Int)
  | .int8 => some (-128, 127)
  | .int16 => some (-32768, 32767)
  | .int32 => some (-2147483648, 2147483647)
  | .int64 => some (-9223372036854775808, 9223372036854775807)
  | .uint8 => some (0, 255)
  | .uint16 => some (0, 65535)
  | .uint32 => some (0, 4294967295)
  | .uint64 | .dateTime => some (0, 18446744073709551615)
  | _ => none

end MetricType

/-- A value of the C++ type is a text for a datatype without a type of its own, or has the
datatype itself. -/
theorem TypedValue.text_or_own {v : TypedValue} {t : MetricType} (h : v.type = t.cppType) :
    (∃ text, v = .text text ∧ t.isNumeric = false ∧ t ≠ .boolean) ∨
      (v.type = t ∧ t ≠ .string) := by
  unfold MetricType.cppType at h
  split at h
  · rename_i hown
    refine .inr ⟨h, ?_⟩
    rintro rfl
    revert hown
    decide
  · rename_i hown
    simp only [Bool.not_eq_true, Bool.or_eq_false_iff, beq_eq_false_iff_ne] at hown
    cases v with
    | text text => exact .inl ⟨text, rfl, hown.1, hown.2⟩
    | _ => cases h

namespace Text

def number (t : Str) : Int :=
  match readInteger t with
  | none => 0
  | some (neg, n) => if neg then -(n : Int) else n

theorem number_intText (v : Int) : number (intText v) = v := by
  simp only [number, readInteger_intText, decide_eq_true_eq]
  split <;> omega

theorem number_of_none {t : Str} (h : readInteger t = none) : number t = 0 := by
  simp [number, h]

theorem number_of_some {t : Str} {neg : Bool} {n : Nat} (h : readInteger t = some (neg, n)) :
    number t = if neg then -(n : Int) else n := by
  simp [number, h]

theorem extractSigned_number {lo hi : Int} {t : Str} (hlo : lo ≤ number t) (hhi : number t ≤ hi) :
    extractSigned lo hi t = number t := by
  cases hread : readInteger t with
  | none => simp [extractSigned, hread, number_of_none hread]
  | some r =>
    have hnumber := number_of_some hread
    simp only [extractSigned, hread, ← hnumber]
    omega

/-- A text with a number that is not negative has a minus sign only in front of zero. -/
theorem number_nonneg {t : Str} {neg : Bool} {n : Nat} (h : readInteger t = some (neg, n))
    (hlo : 0 ≤ number t) : number t = n ∧ (neg = true → n = 0) := by
  rw [number_of_some h] at hlo ⊢
  cases neg with
  | true =>
    simp only [if_true] at hlo ⊢
    omega
  | false => simp

theorem extractUnsigned_number {size : Nat} {t : Str} (hlo : 0 ≤ number t)
    (hhi : number t < size) : extractUnsigned size t = (number t).toNat := by
  cases hread : readInteger t with
  | none => simp [extractUnsigned, hread, number_of_none hread]
  | some r =>
    obtain ⟨hnumber, hzero⟩ := number_nonneg hread hlo
    rw [hnumber] at hhi ⊢
    simp only [extractUnsigned, hread]
    rw [if_neg (by omega)]
    split
    · rename_i hneg
      rw [hzero hneg]
      simp
    · simp

theorem valueInt8_number {t : Str} (hlo : -128 ≤ number t) (hhi : number t ≤ 127) :
    valueInt8 t = Int8.ofInt (number t) := by
  cases hread : readInteger t with
  | none => simp [valueInt8, hread, number_of_none hread]
  | some r =>
    have hnumber := number_of_some hread
    simp only [valueInt8, hread, ← hnumber]
    exact if_pos ⟨by omega, by omega⟩

theorem valueUInt8_number {t : Str} (hlo : 0 ≤ number t) (hhi : number t ≤ 255) :
    valueUInt8 t = UInt8.ofNat (number t).toNat := by
  cases hread : readInteger t with
  | none => simp [valueUInt8, hread, number_of_none hread]
  | some r =>
    obtain ⟨hnumber, hzero⟩ := number_nonneg hread hlo
    rw [hnumber] at hhi ⊢
    simp only [valueUInt8, hread]
    rw [if_pos (by omega)]
    split
    · rename_i hneg
      rw [hzero hneg]
      rfl
    · simp

theorem valueInt16_number {t : Str} (hlo : -32768 ≤ number t) (hhi : number t ≤ 32767) :
    valueInt16 t = Int16.ofInt (number t) := congrArg Int16.ofInt (extractSigned_number hlo hhi)

theorem valueInt32_number {t : Str} (hlo : -2147483648 ≤ number t)
    (hhi : number t ≤ 2147483647) : valueInt32 t = Int32.ofInt (number t) :=
  congrArg Int32.ofInt (extractSigned_number hlo hhi)

theorem valueInt64_number {t : Str} (hlo : -9223372036854775808 ≤ number t)
    (hhi : number t ≤ 9223372036854775807) : valueInt64 t = Int64.ofInt (number t) :=
  congrArg Int64.ofInt (extractSigned_number hlo hhi)

theorem valueUInt16_number {t : Str} (hlo : 0 ≤ number t) (hhi : number t ≤ 65535) :
    valueUInt16 t = UInt16.ofNat (number t).toNat :=
  congrArg UInt16.ofNat (extractUnsigned_number hlo (by omega))

theorem valueUInt32_number {t : Str} (hlo : 0 ≤ number t) (hhi : number t ≤ 4294967295) :
    valueUInt32 t = UInt32.ofNat (number t).toNat :=
  congrArg UInt32.ofNat (extractUnsigned_number hlo (by omega))

theorem valueUInt64_number {t : Str} (hlo : 0 ≤ number t)
    (hhi : number t ≤ 18446744073709551615) : valueUInt64 t = UInt64.ofNat (number t).toNat :=
  congrArg UInt64.ofNat (extractUnsigned_number hlo (by omega))

theorem value_of_number {β : Type} {get : Str → β} {f : Int → β} {lo hi : Int}
    (hget : ∀ {t : Str}, lo ≤ number t → number t ≤ hi → get t = f (number t)) {s t : Str}
    (hs : lo ≤ number s ∧ number s ≤ hi) (h : number t = number s) : get t = get s := by
  rw [hget hs.1 hs.2, hget (h ▸ hs.1) (h ▸ hs.2), h]

end Text

namespace MetricProperty

/-- The value read through the getter of the type's C++ type. -/
def typedValue (P : Platform) (p : MetricProperty) : TypedValue :=
  match p.type with
  | .int8 => .int8 (Text.valueInt8 p.value)
  | .int16 => .int16 (Text.valueInt16 p.value)
  | .int32 => .int32 (Text.valueInt32 p.value)
  | .int64 => .int64 (Text.valueInt64 p.value)
  | .uint8 => .uint8 (Text.valueUInt8 p.value)
  | .uint16 => .uint16 (Text.valueUInt16 p.value)
  | .uint32 => .uint32 (Text.valueUInt32 p.value)
  | .uint64 | .dateTime => .uint64 (Text.valueUInt64 p.value)
  | .float => .float (P.extractFloat p.value)
  | .double => .double (P.extractDouble p.value)
  | .boolean => .boolean (Text.valueBool p.value)
  | _ => .text p.value

def InRange (p : MetricProperty) : Prop :=
  ∀ b ∈ p.type.bounds, b.1 ≤ Text.number p.value ∧ Text.number p.value ≤ b.2

variable {P : Platform}

theorem typedValue_number {p q : MetricProperty} (htype : q.type = p.type) (hp : p.InRange)
    (hinteger : p.type.bounds.isSome = true)
    (hnumber : Text.number q.value = Text.number p.value) :
    q.typedValue P = p.typedValue P := by
  unfold InRange at hp
  unfold typedValue
  rw [htype]
  cases ht : p.type with
  | int8 =>
    rw [ht] at hp
    exact congrArg TypedValue.int8 (Text.value_of_number Text.valueInt8_number (hp _ rfl) hnumber)
  | int16 =>
    rw [ht] at hp
    exact congrArg TypedValue.int16
      (Text.value_of_number Text.valueInt16_number (hp _ rfl) hnumber)
  | int32 =>
    rw [ht] at hp
    exact congrArg TypedValue.int32
      (Text.value_of_number Text.valueInt32_number (hp _ rfl) hnumber)
  | int64 =>
    rw [ht] at hp
    exact congrArg TypedValue.int64
      (Text.value_of_number Text.valueInt64_number (hp _ rfl) hnumber)
  | uint8 =>
    rw [ht] at hp
    exact congrArg TypedValue.uint8 (Text.value_of_number (f := fun v => UInt8.ofNat v.toNat)
      Text.valueUInt8_number (hp _ rfl) hnumber)
  | uint16 =>
    rw [ht] at hp
    exact congrArg TypedValue.uint16 (Text.value_of_number (f := fun v => UInt16.ofNat v.toNat)
      Text.valueUInt16_number (hp _ rfl) hnumber)
  | uint32 =>
    rw [ht] at hp
    exact congrArg TypedValue.uint32 (Text.value_of_number (f := fun v => UInt32.ofNat v.toNat)
      Text.valueUInt32_number (hp _ rfl) hnumber)
  | uint64 =>
    rw [ht] at hp
    exact congrArg TypedValue.uint64 (Text.value_of_number (f := fun v => UInt64.ofNat v.toNat)
      Text.valueUInt64_number (hp _ rfl) hnumber)
  | dateTime =>
    rw [ht] at hp
    exact congrArg TypedValue.uint64 (Text.value_of_number (f := fun v => UInt64.ofNat v.toNat)
      Text.valueUInt64_number (hp _ rfl) hnumber)
  | _ =>
    rw [ht] at hinteger
    cases hinteger

end MetricProperty

namespace PayloadHelper
variable {P : Platform}

/-- A property as it comes back: written with its type and read into a new property. -/
def returned (P : Platform) (key : Str) (p : MetricProperty) : MetricProperty :=
  parsePropertyArm P true (propertyValue P p) { key := key, type := p.type, isNull := p.isNull }

theorem number_signed32 {p : MetricProperty} (hlo : -2147483648 ≤ Text.number p.value)
    (hhi : Text.number p.value ≤ 2147483647) :
    Text.number (intText (Text.valueInt32 p.value).toUInt32.toInt32.toInt) =
      Text.number p.value := by
  rw [Text.valueInt32_number hlo hhi, Text.number_intText]
  exact Int32.toInt_ofInt_of_le (by simpa using hlo) (by simpa using by omega)

theorem number_signed64 {p : MetricProperty} (hlo : -9223372036854775808 ≤ Text.number p.value)
    (hhi : Text.number p.value ≤ 9223372036854775807) :
    Text.number (intText (Text.valueInt64 p.value).toUInt64.toInt64.toInt) =
      Text.number p.value := by
  rw [Text.valueInt64_number hlo hhi, Text.number_intText]
  exact Int64.toInt_ofInt_of_le (by simpa using hlo) (by simpa using by omega)

theorem number_unsigned32 {p : MetricProperty} (hlo : 0 ≤ Text.number p.value)
    (hhi : Text.number p.value ≤ 4294967295) :
    Text.number (natText (Text.valueUInt32 p.value).toNat) = Text.number p.value := by
  rw [Text.valueUInt32_number hlo hhi, ← intText_natCast, Text.number_intText,
    UInt32.toNat_ofNat_of_lt' (by simp; omega)]
  exact Int.toNat_of_nonneg hlo

theorem number_unsigned64 {p : MetricProperty} (hlo : 0 ≤ Text.number p.value)
    (hhi : Text.number p.value ≤ 18446744073709551615) :
    Text.number (natText (Text.valueUInt64 p.value).toNat) = Text.number p.value := by
  rw [Text.valueUInt64_number hlo hhi, ← intText_natCast, Text.number_intText,
    UInt64.toNat_ofNat_of_lt' (by simp; omega)]
  exact Int.toNat_of_nonneg hlo

/-- A returned property has the key, the type and the null flag, and no nested sets. -/
theorem returned_eq (key : Str) (p : MetricProperty) : ∃ text, returned P key p =
    { key := key, type := p.type, isNull := p.isNull, value := text } := by
  unfold returned propertyValue
  split
  all_goals exact ⟨_, rfl⟩

theorem returned_type (key : Str) (p : MetricProperty) : (returned P key p).type = p.type := by
  obtain ⟨text, h⟩ := returned_eq (P := P) key p
  rw [h]

theorem returned_signed32 {p : MetricProperty} (key : Str)
    (ht : p.type = .int8 ∨ p.type = .int16 ∨ p.type = .int32) :
    (returned P key p).value = intText (Text.valueInt32 p.value).toUInt32.toInt32.toInt := by
  unfold returned propertyValue
  rcases ht with ht | ht | ht
  · simp only [ht, parsePropertyArm, signedOrReal, if_true]
  · simp only [ht, parsePropertyArm, signedOrReal, if_true]
  · simp only [ht, parsePropertyArm, signedOrReal, if_true]

theorem returned_unsigned32 {p : MetricProperty} (key : Str)
    (ht : p.type = .uint8 ∨ p.type = .uint16 ∨ p.type = .uint32) :
    (returned P key p).value = natText (Text.valueUInt32 p.value).toNat := by
  unfold returned propertyValue
  rcases ht with ht | ht | ht
  · simp only [ht, parsePropertyArm, signedOrReal, Bool.false_eq_true, if_false]
  · simp only [ht, parsePropertyArm, signedOrReal, Bool.false_eq_true, if_false]
  · simp only [ht, parsePropertyArm, signedOrReal, Bool.false_eq_true, if_false]

theorem returned_unsigned64 {p : MetricProperty} (key : Str)
    (ht : p.type = .uint64 ∨ p.type = .dateTime) :
    (returned P key p).value = natText (Text.valueUInt64 p.value).toNat := by
  unfold returned propertyValue
  rcases ht with ht | ht
  · simp only [ht, parsePropertyArm, signedOrReal, Bool.false_eq_true, if_false]
  · simp only [ht, parsePropertyArm, signedOrReal, Bool.false_eq_true, if_false]

theorem returned_number {p : MetricProperty} (key : Str) (hp : p.InRange)
    (hinteger : p.type.bounds.isSome = true) :
    Text.number (returned P key p).value = Text.number p.value := by
  unfold MetricProperty.InRange at hp
  cases ht : p.type with
  | int8 =>
    rw [ht] at hp
    obtain ⟨hlo, hhi⟩ := hp _ rfl
    rw [returned_signed32 key (.inl ht)]
    exact number_signed32 (by dsimp only at hlo; omega) (by dsimp only at hhi; omega)
  | int16 =>
    rw [ht] at hp
    obtain ⟨hlo, hhi⟩ := hp _ rfl
    rw [returned_signed32 key (.inr (.inl ht))]
    exact number_signed32 (by dsimp only at hlo; omega) (by dsimp only at hhi; omega)
  | int32 =>
    rw [ht] at hp
    obtain ⟨hlo, hhi⟩ := hp _ rfl
    rw [returned_signed32 key (.inr (.inr ht))]
    exact number_signed32 hlo hhi
  | int64 =>
    rw [ht] at hp
    obtain ⟨hlo, hhi⟩ := hp _ rfl
    have hvalue : (returned P key p).value =
        intText (Text.valueInt64 p.value).toUInt64.toInt64.toInt := by
      unfold returned propertyValue
      simp only [ht, parsePropertyArm, signedOrReal, if_true]
    rw [hvalue]
    exact number_signed64 hlo hhi
  | uint8 =>
    rw [ht] at hp
    obtain ⟨hlo, hhi⟩ := hp _ rfl
    rw [returned_unsigned32 key (.inl ht)]
    exact number_unsigned32 hlo (by dsimp only at hhi; omega)
  | uint16 =>
    rw [ht] at hp
    obtain ⟨hlo, hhi⟩ := hp _ rfl
    rw [returned_unsigned32 key (.inr (.inl ht))]
    exact number_unsigned32 hlo (by dsimp only at hhi; omega)
  | uint32 =>
    rw [ht] at hp
    obtain ⟨hlo, hhi⟩ := hp _ rfl
    rw [returned_unsigned32 key (.inr (.inr ht))]
    exact number_unsigned32 hlo hhi
  | uint64 =>
    rw [ht] at hp
    obtain ⟨hlo, hhi⟩ := hp _ rfl
    rw [returned_unsigned64 key (.inl ht)]
    exact number_unsigned64 hlo hhi
  | dateTime =>
    rw [ht] at hp
    obtain ⟨hlo, hhi⟩ := hp _ rfl
    rw [returned_unsigned64 key (.inr ht)]
    exact number_unsigned64 hlo hhi
  | _ =>
    rw [ht] at hinteger
    cases hinteger

theorem returned_typedValue {p : MetricProperty} (key : Str) (hp : p.InRange)
    (hreal : p.type.isReal = false) :
    (returned P key p).typedValue P = p.typedValue P := by
  have htype := returned_type (P := P) key p
  cases hinteger : p.type.bounds.isSome with
  | true => exact MetricProperty.typedValue_number htype hp hinteger (returned_number key hp hinteger)
  | false =>
    unfold MetricProperty.typedValue
    rw [htype]
    unfold returned propertyValue
    cases ht : p.type with
    | boolean => exact congrArg TypedValue.boolean (Text.valueBool_ofBool _)
    | float =>
      rw [ht] at hreal
      cases hreal
    | double =>
      rw [ht] at hreal
      cases hreal
    | int8 | int16 | int32 | int64 | uint8 | uint16 | uint32 | uint64 | dateTime =>
      rw [ht] at hinteger
      cases hinteger
    | _ => rfl

/-- What `WritePropertySet` makes of a property. -/
def written (P : Platform) (p : MetricProperty) : PbPropertyValue :=
  .mk (some p.type.toUInt32) (some p.isNull) (propertyValue P p)

theorem parseMetricProperty_written {r : Metric} {e : Str × MetricProperty} (hne : e.1 ≠ [])
    (hlast : ∀ d ∈ r.propertyList, P.foldKey d.1 < P.foldKey e.1) :
    parseMetricProperty P true r (e.1, written P e.2) =
      { r with propertyList := r.propertyList ++ [(e.1, returned P e.1 e.2)] } := by
  have hnone : r.getProperty P e.1 = none :=
    Entries.get?_eq_none.mpr fun d hd => (hlast d hd).ne
  have hother : ∀ d ∈ r.propertyList, Entries.sameKey P.foldKey e.1 d.1 d.2 = false :=
    fun d hd => Entries.sameKey_eq_false (hlast d hd).ne d.2
  unfold parseMetricProperty
  rw [if_neg hne, hnone, if_pos rfl]
  unfold Metric.createProperty Metric.updateProperty
  dsimp only
  rw [Entries.insert_last hlast, Entries.updateFirst_append hother, Entries.updateFirst,
    if_pos ((Entries.sameKey_iff _).mpr rfl)]
  unfold returned written
  dsimp only
  rw [parsePropertyValue, MetricType.ofDataType_toUInt32]
  rfl

/-- The written properties of a sorted list come back in their order. -/
theorem parseMetricProperties_written {r : Metric} {list : MetricPropertyList}
    (hne : ∀ e ∈ list, e.1 ≠ []) (hsorted : Entries.Sorted P.foldKey (r.propertyList ++ list)) :
    (list.map fun e => (e.1, written P e.2)).foldl (parseMetricProperty P true) r =
      { r with propertyList := r.propertyList ++ list.map fun e => (e.1, returned P e.1 e.2) } := by
  induction list generalizing r with
  | nil => simp
  | cons e list ih =>
    have hlast : ∀ d ∈ r.propertyList, P.foldKey d.1 < P.foldKey e.1 := by
      intro d hd
      exact (List.pairwise_append.mp hsorted).2.2 d hd e List.mem_cons_self
    have hnext : Entries.Sorted P.foldKey
        ((r.propertyList ++ [(e.1, returned P e.1 e.2)]) ++ list) := by
      refine Entries.sorted_of_keys ?_ hsorted
      simp
    rw [List.map_cons, List.foldl_cons,
      parseMetricProperty_written (hne e List.mem_cons_self) hlast,
      ih (fun d hd => hne d (List.mem_cons_of_mem e hd)) hnext]
    simp

/-- The value of a written metric is one text, and it brings no unit. -/
theorem parseMetricValue_written (m : Metric) {r : Metric} (hr : r.datatype = m.datatype) :
    ∃ text, parseMetricValue P (metricValue P m) r = r.setText text := by
  have htext : ∀ text, m.datatype.isNumeric = false → r.setString P text = r.setText text := by
    intro text hnumeric
    unfold Metric.setString
    rw [hr, hnumeric]
    rfl
  unfold metricValue
  cases ht : m.datatype with
  | float => exact ⟨_, rfl⟩
  | double => exact ⟨_, rfl⟩
  | boolean => exact ⟨_, rfl⟩
  | int8 | int16 | int32 | int64 =>
    unfold parseMetricValue
    dsimp only
    rw [if_pos (by rw [hr, ht]; rfl)]
    exact ⟨_, rfl⟩
  | uint8 | uint16 | uint32 | uint64 =>
    unfold parseMetricValue
    dsimp only
    rw [if_neg (by rw [hr, ht]; decide)]
    exact ⟨_, rfl⟩
  | _ => exact ⟨_, htext _ (by rw [ht]; rfl)⟩

end PayloadHelper

namespace Metric
variable {P : Platform}

/-- The header fields that `GetBody` writes. -/
structure SameHeader (m r : Metric) : Prop where
  name : r.name = m.name
  aliasNumber : r.aliasNumber = m.aliasNumber
  timestamp : r.timestamp = m.timestamp
  datatype : r.datatype = m.datatype
  isHistorical : r.isHistorical = m.isHistorical
  isTransient : r.isTransient = m.isTransient
  isNull : r.isNull = m.isNull

/-- A metric with that header and nothing else. -/
def headerOf (m : Metric) : Metric where
  name := m.name
  aliasNumber := m.aliasNumber
  timestamp := m.timestamp
  datatype := m.datatype
  isHistorical := m.isHistorical
  isTransient := m.isTransient
  isNull := m.isNull

theorem parseMetricHeader_written (sourceTimestamp : UInt64) (m : Metric) :
    PayloadHelper.parseMetricHeader true sourceTimestamp (PayloadHelper.writeMetric P true m) {} =
      m.headerOf := by
  simp [PayloadHelper.parseMetricHeader, PayloadHelper.writeMetric, headerOf,
    MetricType.ofDataType_toUInt32]

/-- The written metric, read into a default one. -/
def returned (P : Platform) (sourceTimestamp : UInt64) (m : Metric) : Metric :=
  PayloadHelper.parseMetric P true sourceTimestamp (PayloadHelper.writeMetric P true m) {}

theorem returned_eq (sourceTimestamp : UInt64) (m : Metric) : returned P sourceTimestamp m =
    match PayloadHelper.writePropertySet P true m.propertyList with
    | none => PayloadHelper.parseMetricValue P (PayloadHelper.metricValue P m) m.headerOf
    | some ps => PayloadHelper.parseMetricProperties P true ps
        (PayloadHelper.parseMetricValue P (PayloadHelper.metricValue P m) m.headerOf) := by
  unfold returned PayloadHelper.parseMetric
  rw [parseMetricHeader_written]
  rfl

/-- The header comes back, with a text and some properties. -/
theorem returned_text (sourceTimestamp : UInt64) (m : Metric) : ∃ text list,
    PayloadHelper.parseMetricValue P (PayloadHelper.metricValue P m) m.headerOf =
      m.headerOf.setText text ∧
    returned P sourceTimestamp m = { m.headerOf.setText text with propertyList := list } := by
  obtain ⟨text, htext⟩ := PayloadHelper.parseMetricValue_written (P := P) m (r := m.headerOf) rfl
  rw [returned_eq, htext]
  split
  · exact ⟨text, _, rfl, rfl⟩
  · exact ⟨text, _, rfl, PayloadHelper.parseMetricProperties_eq P true _ _⟩

theorem returned_header (sourceTimestamp : UInt64) (m : Metric) :
    m.SameHeader (returned P sourceTimestamp m) := by
  obtain ⟨text, list, _, h⟩ := returned_text (P := P) sourceTimestamp m
  rw [h]
  exact ⟨rfl, rfl, rfl, rfl, rfl, rfl, rfl⟩

theorem returned_metaData (sourceTimestamp : UInt64) (m : Metric) :
    (returned P sourceTimestamp m).metaData = none := by
  obtain ⟨text, list, _, h⟩ := returned_text (P := P) sourceTimestamp m
  rw [h]
  rfl

theorem returned_value (sourceTimestamp : UInt64) (m : Metric) :
    (returned P sourceTimestamp m).value =
      (PayloadHelper.parseMetricValue P (PayloadHelper.metricValue P m) m.headerOf).value := by
  obtain ⟨text, list, htext, h⟩ := returned_text (P := P) sourceTimestamp m
  rw [h, htext]

/-- A property list as the map keeps it: sorted, with keys that are not empty. -/
structure Keyed (P : Platform) (list : MetricPropertyList) : Prop where
  sorted : Entries.Sorted P.foldKey list
  keys : ∀ e ∈ list, e.1 ≠ []

theorem returned_properties (sourceTimestamp : UInt64) {m : Metric} (h : Keyed P m.propertyList) :
    (returned P sourceTimestamp m).propertyList =
      m.propertyList.map fun e => (e.1, PayloadHelper.returned P e.1 e.2) := by
  obtain ⟨text, htext⟩ := PayloadHelper.parseMetricValue_written (P := P) m (r := m.headerOf) rfl
  have hall : (m.propertyList.filter fun e => e.1 ≠ []) = m.propertyList :=
    List.filter_eq_self.mpr fun e he => decide_eq_true (h.keys e he)
  rw [returned_eq, htext, PayloadHelper.writePropertySet, hall]
  by_cases hempty : m.propertyList = []
  · rw [if_pos hempty, hempty]
    rfl
  · rw [if_neg hempty]
    dsimp only
    unfold PayloadHelper.parseMetricProperties
    have hentries : (m.propertyList.map Prod.fst).zip
        (m.propertyList.map fun e => PayloadHelper.written P e.2) =
        m.propertyList.map fun e => (e.1, PayloadHelper.written P e.2) := List.zip_map'
    exact (congrArg (fun es => (es.foldl (PayloadHelper.parseMetricProperty P true)
      (m.headerOf.setText text)).propertyList) hentries).trans
      (congrArg Metric.propertyList (PayloadHelper.parseMetricProperties_written h.keys h.sorted))

/-- A property list whose values are in range and not floating-point. -/
structure Plain (P : Platform) (list : MetricPropertyList) : Prop extends Keyed P list where
  exact : ∀ e ∈ list, e.2.type.isReal = false
  range : ∀ e ∈ list, e.2.InRange

/-- The property came back under its key, with its type, null flag and typed value. -/
structure SameProperty (P : Platform) (e d : Str × MetricProperty) : Prop where
  key : d.1 = e.1
  type : d.2.type = e.2.type
  isNull : d.2.isNull = e.2.isNull
  value : d.2.typedValue P = e.2.typedValue P

theorem sameProperty_returned {e : Str × MetricProperty} (hrange : e.2.InRange)
    (hreal : e.2.type.isReal = false) :
    SameProperty P e (e.1, PayloadHelper.returned P e.1 e.2) := by
  obtain ⟨text, h⟩ := PayloadHelper.returned_eq (P := P) e.1 e.2
  refine ⟨rfl, PayloadHelper.returned_type e.1 e.2, ?_,
    PayloadHelper.returned_typedValue e.1 hrange hreal⟩
  change (PayloadHelper.returned P e.1 e.2).isNull = e.2.isNull
  rw [h]

theorem metricValue_text {m : Metric} (hnumeric : m.datatype.isNumeric = false)
    (hboolean : m.datatype ≠ .boolean) : PayloadHelper.metricValue P m = .stringValue m.value := by
  unfold PayloadHelper.metricValue
  cases ht : m.datatype with
  | boolean => exact absurd ht hboolean
  | int8 | int16 | int32 | int64 | uint8 | uint16 | uint32 | uint64 | float | double =>
    rw [ht] at hnumeric
    cases hnumeric
  | _ => rfl

theorem setString_of_text {m : Metric} (h : m.datatype.isNumeric = false) (v : Str) :
    m.setString P v = m.setText v := by
  unfold setString
  rw [h]
  rfl

/-- The setter of the C++ type stores a text and nothing else. -/
theorem setValue_eq {m : Metric} {v : TypedValue} (hv : v.type = m.datatype.cppType) :
    ∃ text, m.setValue P v = m.setText text := by
  rcases TypedValue.text_or_own hv with ⟨text, rfl, hnumeric, -⟩ | ⟨htype, hstring⟩
  · exact ⟨text, setString_of_text hnumeric text⟩
  · cases v with
    | text text => exact absurd htype.symm hstring
    | _ => exact ⟨_, rfl⟩

/-- The text that a setter left goes over the wire. -/
theorem setValue_returned (sourceTimestamp : UInt64) {m : Metric} {v : TypedValue}
    (hv : v.type = m.datatype.cppType) (hreal : m.datatype.isReal = false) :
    (returned P sourceTimestamp (m.setValue P v)).value = (m.setValue P v).value := by
  rw [returned_value]
  rcases TypedValue.text_or_own hv with ⟨text, rfl, hnumeric, hboolean⟩ | ⟨htype, hstring⟩
  · change (PayloadHelper.parseMetricValue P (PayloadHelper.metricValue P (m.setString P text))
      (m.setString P text).headerOf).value = (m.setString P text).value
    rw [setString_of_text hnumeric]
    rw [metricValue_text (m := m.setText text) hnumeric hboolean]
    change ((m.setText text).headerOf.setString P text).value = text
    rw [setString_of_text (m := (m.setText text).headerOf) hnumeric]
    rfl
  · have hdatatype : (m.setValue P v).datatype = m.datatype :=
      congrArg (fun i => i.2.2) (m.setValue_identity v)
    have hset : m.datatype.isExact = true ∧
        (m.setValue P v).value = ((m.setValue P v).setValue P v).value := by
      rw [← htype] at hreal hstring ⊢
      cases v with
      | float bits => cases hreal
      | double bits => cases hreal
      | text text => exact absurd rfl hstring
      | _ => exact ⟨rfl, rfl⟩
    exact PayloadHelper.value_received
      ⟨hdatatype ▸ hset.1, v, htype.trans hdatatype.symm, hset.2⟩ rfl

/-- A metric with any name, alias, timestamp and flags, any value of the C++ type of its
datatype, and a plain property list comes back from its body. -/
theorem getBody_returns (W : MetricWire) (sourceTimestamp : UInt64) {m : Metric} {v : TypedValue}
    (hv : v.type = m.datatype.cppType) (hreal : m.datatype.isReal = false)
    (hproperties : Plain P m.propertyList) :
    ∃ r, W.receive P sourceTimestamp (W.getBody P (m.setValue P v)) = some r ∧
      (m.setValue P v).SameHeader r ∧ r.typedValue P = (m.setValue P v).typedValue P ∧
      List.Forall₂ (SameProperty P) (m.setValue P v).propertyList r.propertyList := by
  have hheader := returned_header (P := P) sourceTimestamp (m.setValue P v)
  have hvalue := setValue_returned (P := P) sourceTimestamp hv hreal
  have hlist : (m.setValue P v).propertyList = m.propertyList := by
    obtain ⟨text, htext⟩ := setValue_eq (P := P) hv
    rw [htext]
    rfl
  refine ⟨_, W.receive_getBody P sourceTimestamp _, hheader, ?_, ?_⟩
  · change (returned P sourceTimestamp (m.setValue P v)).typedValue P = _
    unfold typedValue
    rw [hheader.datatype, hvalue]
  · change List.Forall₂ _ _ (returned P sourceTimestamp (m.setValue P v)).propertyList
    rw [returned_properties sourceTimestamp (hlist ▸ hproperties.toKeyed), hlist,
      List.forall₂_map_right_iff, List.forall₂_same]
    exact fun e he => sameProperty_returned (hproperties.range e he) (hproperties.exact e he)

/-- A metric like the one that the tests write. -/
def sample : Metric where
  name := str "Metric 1"
  aliasNumber := 11
  timestamp := 1700000000000
  datatype := .int8
  isHistorical := true
  isTransient := true
  isNull := true
  propertyList :=
    [(str "Description", { key := str "Description", value := str "Descriptive text" }),
      (str "Read-Only", { key := str "Read-Only", type := .boolean, value := str "true" }),
      (str "Scan Rate", { key := str "Scan Rate", type := .uint16, value := str "100" })]

theorem sample_returns :
    ∃ r, MetricWire.reference.receive .reference 0
        (MetricWire.reference.getBody .reference (sample.setValue .reference (.int8 (-11)))) =
          some r ∧
      (sample.setValue .reference (.int8 (-11))).SameHeader r ∧
      r.typedValue .reference = (sample.setValue .reference (.int8 (-11))).typedValue .reference ∧
      List.Forall₂ (SameProperty .reference)
        (sample.setValue .reference (.int8 (-11))).propertyList r.propertyList := by
  have hplain : Plain .reference sample.propertyList := by
    refine ⟨⟨?_, ?_⟩, ?_, ?_⟩
    · unfold Entries.Sorted
      decide +kernel
    · decide +kernel
    · decide +kernel
    · unfold sample
      simp only [List.forall_mem_cons]
      refine ⟨?_, ?_, ?_, nofun⟩
      · intro b hb
        cases hb
      · intro b hb
        cases hb
      · intro b hb
        cases hb
        decide +kernel
  exact getBody_returns MetricWire.reference 0 rfl rfl hplain

/-- The nested property sets, by the key of their property. -/
def nestedSets (m : Metric) : List (Str × List MetricPropertyList) :=
  (m.propertyList.filter fun e => !e.2.propArray.isEmpty).map fun e => (e.1, e.2.propArray)

theorem nestedSets_eq_nil {m : Metric} :
    m.nestedSets = [] ↔ ∀ e ∈ m.propertyList, e.2.propArray = [] := by
  simp [nestedSets]

end Metric

namespace PayloadHelper
variable {P : Platform}

theorem propArray_written (p q : MetricProperty) :
    (parsePropertyValue P true (written P p) q).propArray = q.propArray := by
  unfold written propertyValue
  split
  all_goals rfl

/-- A written property brings no nested set. -/
theorem propArray_parseMetricProperty {r : Metric}
    (h : ∀ e ∈ r.propertyList, e.2.propArray = []) (key : Str) (p : MetricProperty) :
    ∀ e ∈ (parseMetricProperty P true r (key, written P p)).propertyList,
      e.2.propArray = [] := by
  unfold parseMetricProperty
  split
  · exact h
  · split
    · refine Entries.forall_updateFirst (Q := fun q : MetricProperty => q.propArray = []) h ?_
      exact fun e he _ => (propArray_written p e.2).trans (h e he)
    · rw [if_pos rfl]
      have hcreated : ∀ e ∈ (r.createProperty P key).propertyList, e.2.propArray = [] := by
        intro e he
        rcases Entries.mem_insert_subset he with rfl | he
        · rfl
        · exact h e he
      refine Entries.forall_updateFirst (Q := fun q : MetricProperty => q.propArray = [])
        hcreated ?_
      exact fun e he _ => (propArray_written p _).trans (hcreated e he)

theorem propArray_parseMetricProperties (list : MetricPropertyList) {r : Metric}
    (h : ∀ e ∈ r.propertyList, e.2.propArray = []) :
    ∀ e ∈ ((list.map fun e => (e.1, written P e.2)).foldl (parseMetricProperty P true)
      r).propertyList, e.2.propArray = [] := by
  induction list generalizing r with
  | nil => exact h
  | cons e list ih => exact ih (propArray_parseMetricProperty h e.1 e.2)

end PayloadHelper

namespace Metric
variable {P : Platform}

theorem returned_nestedSets (sourceTimestamp : UInt64) (m : Metric) :
    (returned P sourceTimestamp m).nestedSets = [] := by
  rw [nestedSets_eq_nil]
  obtain ⟨text, htext⟩ := PayloadHelper.parseMetricValue_written (P := P) m (r := m.headerOf) rfl
  have hnone : ∀ e ∈ (m.headerOf.setText text).propertyList, e.2.propArray = [] := by
    intro e he
    cases he
  rw [returned_eq, htext]
  split
  · exact hnone
  · rename_i ps hps
    unfold PayloadHelper.writePropertySet at hps
    dsimp only at hps
    split at hps
    · cases hps
    · rw [← Option.some.inj hps]
      unfold PayloadHelper.parseMetricProperties
      dsimp only
      rw [List.zip_map']
      exact PayloadHelper.propArray_parseMetricProperties _ hnone

/-- Metadata and nested property sets come back from a metric that has neither. -/
theorem structure_returns_iff (W : MetricWire) (sourceTimestamp : UInt64) (m : Metric) :
    ∃ r, W.receive P sourceTimestamp (W.getBody P m) = some r ∧
      ((r.metaData = m.metaData ∧ r.nestedSets = m.nestedSets) ↔
        (m.metaData = none ∧ ∀ e ∈ m.propertyList, e.2.propArray = [])) := by
  refine ⟨_, W.receive_getBody P sourceTimestamp m, ?_⟩
  have hmetaData := returned_metaData (P := P) sourceTimestamp m
  have hnested := returned_nestedSets (P := P) sourceTimestamp m
  unfold returned at hmetaData hnested
  rw [hmetaData, hnested, ← nestedSets_eq_nil]
  exact ⟨fun h => ⟨h.1.symm, h.2.symm⟩, fun h => ⟨h.1.symm, h.2.symm⟩⟩

/-- A metric with a description and a property set inside a property. -/
def documented : Metric where
  name := str "Metric 1"
  datatype := .string
  metaData := some { description := str "Descriptive text" }
  propertyList :=
    [(str "Limits",
      { key := str "Limits"
        propArray := [[(str "High", { key := str "High", value := str "10" })]] })]

/-- Its description and its nested set are lost on the wire. -/
theorem documented_is_stripped :
    ¬ ∃ r, MetricWire.reference.receive .reference 0
        (MetricWire.reference.getBody .reference documented) = some r ∧
      r.metaData = documented.metaData ∧ r.nestedSets = documented.nestedSets := by
  rw [MetricWire.receive_getBody]
  rintro ⟨r, hr, hmetaData, hnested⟩
  have hnone := returned_metaData (P := .reference) 0 documented
  rw [← Option.some.inj hr] at hmetaData
  exact absurd (hnone.symm.trans hmetaData) (by decide)

end Metric
end PubSub
