import PubSub.SparkplugProto
import PubSub.Shared.Wire

/-!
# The messages of `sparkplug_b.proto` on the wire

Field numbers and field types of the proto file over the wire format, for the fields of
the message model. Reading undoes writing, also for property sets nested in themselves.
-/

namespace PubSub
set_option autoImplicit false

namespace ProtobufCodec
open Wire

def uint64Field (n : Nat) (v : Option UInt64) : List Field := single n (fun v => .varint v) v

def uint32Field (n : Nat) (v : Option UInt32) : List Field :=
  single n (fun v => .varint v.toUInt64) v

def boolField (n : Nat) (v : Option Bool) : List Field :=
  single n (fun v => .varint (if v then 1 else 0)) v

def bytesField (n : Nat) (v : Option Bytes) : List Field := single n (fun b => .len b) v

def readUInt64 (n : Nat) (fs : List Field) : Option UInt64 := (varints n fs).getLast?

def readUInt32 (n : Nat) (fs : List Field) : Option UInt32 :=
  (readUInt64 n fs).map UInt64.toUInt32

def readBool (n : Nat) (fs : List Field) : Option Bool := (readUInt64 n fs).map (· ≠ 0)

def readBytes (n : Nat) (fs : List Field) : Option Bytes := (lens n fs).getLast?

def decodeAll {α : Type} (f : Bytes → Option α) : List Bytes → Option (List α)
  | [] => some []
  | b :: bs => (f b).bind fun a => (decodeAll f bs).map (a :: ·)

/-- An embedded message that may be missing. -/
def decodeOptional {α : Type} (f : Bytes → Option α) : Option Bytes → Option (Option α)
  | none => some none
  | some b => (f b).map some

/-- The fields of a `oneof`, of which the last one counts. -/
def lastOf (low high : Nat) (fs : List Field) : Option Field :=
  (fs.filter fun f => low ≤ f.number && f.number ≤ high).getLast?

mutual
def propertyValueBytes : PbPropertyValue → Bytes
  | .mk type isNull arm => encode (uint32Field 1 type ++ boolField 2 isNull ++ armFields arm)

def armFields : PbPropertyArm → List Field
  | .notSet => []
  | .intValue v => [⟨3, .varint v.toUInt64⟩]
  | .longValue v => [⟨4, .varint v⟩]
  | .floatValue bits => [⟨5, .i32 bits⟩]
  | .doubleValue bits => [⟨6, .i64 bits⟩]
  | .booleanValue v => [⟨7, .varint (if v then 1 else 0)⟩]
  | .stringValue v => [⟨8, .len v⟩]
  | .propertysetValue keys values =>
    [⟨9, .len (encode (repeated 1 keys ++ repeated 2 (propertyValuesBytes values)))⟩]

def propertyValuesBytes : List PbPropertyValue → List Bytes
  | [] => []
  | v :: vs => propertyValueBytes v :: propertyValuesBytes vs
end

def decodeSet (value : Bytes → Option PbPropertyValue) (b : Bytes) : Option PbPropertySet :=
  (decode b).bind fun fs =>
    (decodeAll value (lens 2 fs)).map fun values => { keys := lens 1 fs, values := values }

def armOf (set : Bytes → Option PbPropertySet) : Option Field → Option PbPropertyArm
  | some ⟨3, .varint v⟩ => some (.intValue v.toUInt32)
  | some ⟨4, .varint v⟩ => some (.longValue v)
  | some ⟨5, .i32 bits⟩ => some (.floatValue bits)
  | some ⟨6, .i64 bits⟩ => some (.doubleValue bits)
  | some ⟨7, .varint v⟩ => some (.booleanValue (v ≠ 0))
  | some ⟨8, .len b⟩ => some (.stringValue b)
  | some ⟨9, .len b⟩ => (set b).map fun s => .propertysetValue s.keys s.values
  | _ => some .notSet

/-- The bound limits the nesting of property sets. -/
def decodePropertyValue : Nat → Bytes → Option PbPropertyValue
  | 0, _ => none
  | bound + 1, b => (decode b).bind fun fs =>
    (armOf (decodeSet (decodePropertyValue bound)) (lastOf 3 9 fs)).map fun arm =>
      .mk (readUInt32 1 fs) (readBool 2 fs) arm

def propertySetBytes (s : PbPropertySet) : Bytes :=
  encode (repeated 1 s.keys ++ repeated 2 (propertyValuesBytes s.values))

def decodePropertySet (b : Bytes) : Option PbPropertySet :=
  decodeSet (decodePropertyValue b.length) b

def metaDataBytes (m : PbMetaData) : Bytes :=
  encode (boolField 1 m.isMultiPart ++ bytesField 2 m.contentType ++ uint64Field 3 m.size ++
    uint64Field 4 m.seq ++ bytesField 5 m.fileName ++ bytesField 6 m.fileType ++
    bytesField 7 m.md5 ++ bytesField 8 m.description)

def decodeMetaData (b : Bytes) : Option PbMetaData :=
  (decode b).map fun fs =>
    { isMultiPart := readBool 1 fs
      contentType := readBytes 2 fs
      size := readUInt64 3 fs
      seq := readUInt64 4 fs
      fileName := readBytes 5 fs
      fileType := readBytes 6 fs
      md5 := readBytes 7 fs
      description := readBytes 8 fs }

def valueFields : PbValue → List Field
  | .notSet => []
  | .intValue v => [⟨10, .varint v.toUInt64⟩]
  | .longValue v => [⟨11, .varint v⟩]
  | .floatValue bits => [⟨12, .i32 bits⟩]
  | .doubleValue bits => [⟨13, .i64 bits⟩]
  | .booleanValue v => [⟨14, .varint (if v then 1 else 0)⟩]
  | .stringValue v => [⟨15, .len v⟩]
  | .bytesValue v => [⟨16, .len v⟩]

def valueOf : Option Field → PbValue
  | some ⟨10, .varint v⟩ => .intValue v.toUInt32
  | some ⟨11, .varint v⟩ => .longValue v
  | some ⟨12, .i32 bits⟩ => .floatValue bits
  | some ⟨13, .i64 bits⟩ => .doubleValue bits
  | some ⟨14, .varint v⟩ => .booleanValue (v ≠ 0)
  | some ⟨15, .len b⟩ => .stringValue b
  | some ⟨16, .len b⟩ => .bytesValue b
  | _ => .notSet

def metricBytes (m : PbMetric) : Bytes :=
  encode (bytesField 1 m.name ++ uint64Field 2 m.aliasNumber ++ uint64Field 3 m.timestamp ++
    uint32Field 4 m.datatype ++ boolField 5 m.isHistorical ++ boolField 6 m.isTransient ++
    boolField 7 m.isNull ++ bytesField 8 (m.metadata.map metaDataBytes) ++
    bytesField 9 (m.properties.map propertySetBytes) ++ valueFields m.value)

def decodeMetric (b : Bytes) : Option PbMetric :=
  (decode b).bind fun fs =>
    (decodeOptional decodeMetaData (readBytes 8 fs)).bind fun metadata =>
      (decodeOptional decodePropertySet (readBytes 9 fs)).map fun properties =>
        { name := readBytes 1 fs
          aliasNumber := readUInt64 2 fs
          timestamp := readUInt64 3 fs
          datatype := readUInt32 4 fs
          isHistorical := readBool 5 fs
          isTransient := readBool 6 fs
          isNull := readBool 7 fs
          metadata := metadata
          properties := properties
          value := valueOf (lastOf 10 16 fs) }

def serialize (p : PbPayload) : Bytes :=
  encode (uint64Field 1 p.timestamp ++ repeated 2 (p.metrics.map metricBytes) ++
    uint64Field 3 p.seq ++ bytesField 4 p.uuid ++ bytesField 5 p.body)

def parse (b : Bytes) : Option PbPayload :=
  (decode b).bind fun fs =>
    (decodeAll decodeMetric (lens 2 fs)).map fun metrics =>
      { timestamp := readUInt64 1 fs
        metrics := metrics
        seq := readUInt64 3 fs
        uuid := readBytes 4 fs
        body := readBytes 5 fs }

section RoundTrip

theorem varints_uint64Field (n m : Nat) (v : Option UInt64) :
    varints n (uint64Field m v) = if m = n then v.toList else [] := by
  rw [uint64Field, varints_single_varint n m (fun v => v) v, Option.map_id']

theorem varints_uint32Field (n m : Nat) (v : Option UInt32) :
    varints n (uint32Field m v) = if m = n then (v.map UInt32.toUInt64).toList else [] :=
  varints_single_varint n m UInt32.toUInt64 v

theorem varints_boolField (n m : Nat) (v : Option Bool) : varints n (boolField m v) =
    if m = n then (v.map fun v => if v then (1 : UInt64) else 0).toList else [] :=
  varints_single_varint n m _ v

theorem varints_bytesField (n m : Nat) (v : Option Bytes) : varints n (bytesField m v) = [] :=
  varints_single_len n m (fun b => b) v

theorem lens_uint64Field (n m : Nat) (v : Option UInt64) : lens n (uint64Field m v) = [] :=
  lens_single_varint n m (fun v => v) v

theorem lens_uint32Field (n m : Nat) (v : Option UInt32) : lens n (uint32Field m v) = [] :=
  lens_single_varint n m UInt32.toUInt64 v

theorem lens_boolField (n m : Nat) (v : Option Bool) : lens n (boolField m v) = [] :=
  lens_single_varint n m _ v

theorem lens_bytesField (n m : Nat) (v : Option Bytes) :
    lens n (bytesField m v) = if m = n then v.toList else [] := by
  rw [bytesField, lens_single_len n m (fun b => b) v, Option.map_id']

theorem varints_armFields {n : Nat} (h : n < 3) (arm : PbPropertyArm) :
    varints n (armFields arm) = [] := by
  cases arm <;> simp [armFields, varints] <;> omega

theorem varints_valueFields {n : Nat} (h : n < 10) (v : PbValue) :
    varints n (valueFields v) = [] := by
  cases v <;> simp [valueFields, varints] <;> omega

theorem lens_valueFields {n : Nat} (h : n < 10) (v : PbValue) :
    lens n (valueFields v) = [] := by
  cases v <;> simp [valueFields, lens] <;> omega

theorem readBool_of {n : Nat} {fs : List Field} {v : Option Bool}
    (h : varints n fs = (v.map fun v => if v then (1 : UInt64) else 0).toList) :
    readBool n fs = v := by
  rw [readBool, readUInt64, h, getLast?_toList]
  cases v with
  | none => rfl
  | some v => cases v <;> rfl

theorem readUInt32_of {n : Nat} {fs : List Field} {v : Option UInt32}
    (h : varints n fs = (v.map UInt32.toUInt64).toList) : readUInt32 n fs = v := by
  rw [readUInt32, readUInt64, h, getLast?_toList]
  cases v with
  | none => rfl
  | some v => simp

theorem readUInt64_of {n : Nat} {fs : List Field} {v : Option UInt64}
    (h : varints n fs = v.toList) : readUInt64 n fs = v := by
  rw [readUInt64, h, getLast?_toList]

theorem readBytes_of {n : Nat} {fs : List Field} {v : Option Bytes}
    (h : lens n fs = v.toList) : readBytes n fs = v := by
  rw [readBytes, h, getLast?_toList]

/-- Fields of other numbers do not hide the fields of a `oneof`. -/
theorem lastOf_append_left {low high : Nat} {fs gs : List Field}
    (h : ∀ f ∈ fs, f.number < low) : lastOf low high (fs ++ gs) = lastOf low high gs := by
  have hfs : fs.filter (fun f => low ≤ f.number && f.number ≤ high) = [] := by
    apply List.filter_eq_nil_iff.mpr
    intro f hf
    have hlt := h f hf
    simp
    omega
  simp [lastOf, hfs]

theorem number_single {α : Type} {n : Nat} {value : α → Value} {v : Option α} {f : Field}
    (h : f ∈ single n value v) : f.number = n := by
  cases v with
  | none => simp [single] at h
  | some a =>
    simp only [single, Option.map_some, Option.toList_some, List.mem_singleton] at h
    rw [h]

theorem valueOf_valueFields (v : PbValue) : valueOf (lastOf 10 16 (valueFields v)) = v := by
  cases v with
  | booleanValue v => cases v <;> rfl
  | intValue v => simp [valueFields, lastOf, valueOf]
  | _ => rfl

theorem decodeAll_map {α : Type} {f : Bytes → Option α} {g : α → Bytes} {as : List α}
    (h : ∀ a ∈ as, f (g a) = some a) : decodeAll f (as.map g) = some as := by
  induction as with
  | nil => rfl
  | cons a as ih =>
    have ha := h a List.mem_cons_self
    have has := ih fun b hb => h b (List.mem_cons_of_mem a hb)
    simp only [List.map_cons, decodeAll, ha, has, Option.bind_some, Option.map_some]

theorem decodeOptional_map {α : Type} {f : Bytes → Option α} {g : α → Bytes} (v : Option α)
    (h : ∀ a, f (g a) = some a) : decodeOptional f (v.map g) = some v := by
  cases v with
  | none => rfl
  | some a => simp only [Option.map_some, decodeOptional, h]

theorem decodeSet_encode {value : Bytes → Option PbPropertyValue} {keys : List Str}
    {values : List PbPropertyValue}
    (h : decodeAll value (propertyValuesBytes values) = some values) :
    decodeSet value (encode (repeated 1 keys ++ repeated 2 (propertyValuesBytes values))) =
      some { keys := keys, values := values } := by
  simp [decodeSet, decode_encode, lens_append, lens_repeated, h]

mutual
theorem decode_propertyValueBytes : ∀ (v : PbPropertyValue) {bound : Nat},
    (propertyValueBytes v).length < bound →
      decodePropertyValue bound (propertyValueBytes v) = some v
  | .mk type isNull arm, 0, h => by simp at h
  | .mk type isNull arm, bound + 1, h => by
    have harm : armOf (decodeSet (decodePropertyValue bound)) (lastOf 3 9 (armFields arm)) =
        some arm := by
      apply armOf_armFields
      intro b hb
      have hmem : (⟨9, .len b⟩ : Field) ∈
          uint32Field 1 type ++ boolField 2 isNull ++ armFields arm :=
        List.mem_append_right _ hb
      have hlt := length_lt_encode hmem
      rw [propertyValueBytes] at h
      omega
    have hlast : lastOf 3 9 (uint32Field 1 type ++ boolField 2 isNull ++ armFields arm) =
        lastOf 3 9 (armFields arm) := by
      apply lastOf_append_left
      intro f hf
      rcases List.mem_append.mp hf with hf | hf
      · rw [number_single hf]
        omega
      · rw [number_single hf]
        omega
    have hone := varints_armFields (n := 1) (by omega) arm
    have htwo := varints_armFields (n := 2) (by omega) arm
    simp only [decodePropertyValue, propertyValueBytes, decode_encode, Option.bind_some, hlast,
      harm, Option.map_some]
    rw [readUInt32_of (n := 1) (v := type), readBool_of (n := 2) (v := isNull)]
    · simp [varints_append, varints_uint32Field, varints_boolField, htwo]
    · simp [varints_append, varints_uint32Field, varints_boolField, hone]

theorem armOf_armFields : ∀ (arm : PbPropertyArm) {bound : Nat},
    (∀ b, ⟨9, .len b⟩ ∈ armFields arm → b.length < bound) →
      armOf (decodeSet (decodePropertyValue bound)) (lastOf 3 9 (armFields arm)) = some arm
  | .notSet, _, _ => rfl
  | .intValue v, _, _ => by simp [armFields, lastOf, armOf]
  | .longValue v, _, _ => rfl
  | .floatValue bits, _, _ => rfl
  | .doubleValue bits, _, _ => rfl
  | .booleanValue v, _, _ => by cases v <;> rfl
  | .stringValue v, _, _ => rfl
  | .propertysetValue keys values, bound, h => by
    have hlt := h _ (by rw [armFields]; exact List.mem_singleton_self _)
    have hvalues : decodeAll (decodePropertyValue bound) (propertyValuesBytes values) =
        some values := by
      apply decodeAll_propertyValuesBytes
      intro b hb
      have hmem : (⟨2, .len b⟩ : Field) ∈
          repeated 1 keys ++ repeated 2 (propertyValuesBytes values) :=
        List.mem_append_right _ (List.mem_map.mpr ⟨b, hb, rfl⟩)
      have hshort := length_lt_encode hmem
      omega
    have hset := @decodeSet_encode _ keys _ hvalues
    simp [armFields, lastOf, armOf, hset]

theorem decodeAll_propertyValuesBytes : ∀ (vs : List PbPropertyValue) {bound : Nat},
    (∀ b ∈ propertyValuesBytes vs, b.length < bound) →
      decodeAll (decodePropertyValue bound) (propertyValuesBytes vs) = some vs
  | [], _, _ => rfl
  | v :: vs, bound, h => by
    rw [propertyValuesBytes] at h ⊢
    have hv := decode_propertyValueBytes v (h _ List.mem_cons_self)
    have hvs := decodeAll_propertyValuesBytes vs fun b hb => h b (List.mem_cons_of_mem _ hb)
    simp only [decodeAll, hv, hvs, Option.bind_some, Option.map_some]
end

theorem decode_propertySetBytes (s : PbPropertySet) :
    decodePropertySet (propertySetBytes s) = some s := by
  apply decodeSet_encode
  apply decodeAll_propertyValuesBytes
  intro b hb
  exact length_lt_encode (n := 2)
    (List.mem_append_right _ (List.mem_map.mpr ⟨b, hb, rfl⟩))

theorem decode_metaDataBytes (m : PbMetaData) : decodeMetaData (metaDataBytes m) = some m := by
  rw [decodeMetaData, metaDataBytes, decode_encode, Option.map_some]
  rw [readBool_of (n := 1) (v := m.isMultiPart), readBytes_of (n := 2) (v := m.contentType),
    readUInt64_of (n := 3) (v := m.size), readUInt64_of (n := 4) (v := m.seq),
    readBytes_of (n := 5) (v := m.fileName),
    readBytes_of (n := 6) (v := m.fileType), readBytes_of (n := 7) (v := m.md5),
    readBytes_of (n := 8) (v := m.description)]
  all_goals simp [varints_append, lens_append, varints_uint64Field, varints_boolField,
    varints_bytesField, lens_uint64Field, lens_boolField, lens_bytesField]

theorem decode_metricBytes (m : PbMetric) : decodeMetric (metricBytes m) = some m := by
  have hlast : ∀ fs : List Field, (∀ f ∈ fs, f.number < 10) →
      valueOf (lastOf 10 16 (fs ++ valueFields m.value)) = m.value := by
    intro fs hfs
    rw [lastOf_append_left hfs, valueOf_valueFields]
  have hv : ∀ n, n < 10 → varints n (valueFields m.value) = [] := fun n hn =>
    varints_valueFields hn m.value
  have hl : ∀ n, n < 10 → lens n (valueFields m.value) = [] := fun n hn =>
    lens_valueFields hn m.value
  rw [decodeMetric, metricBytes, decode_encode, Option.bind_some]
  rw [readBytes_of (n := 8) (v := m.metadata.map metaDataBytes),
    readBytes_of (n := 9) (v := m.properties.map propertySetBytes),
    decodeOptional_map _ decode_metaDataBytes, Option.bind_some,
    decodeOptional_map _ decode_propertySetBytes, Option.map_some,
    readBytes_of (n := 1) (v := m.name),
    readUInt64_of (n := 2) (v := m.aliasNumber), readUInt64_of (n := 3) (v := m.timestamp),
    readUInt32_of (n := 4) (v := m.datatype), readBool_of (n := 5) (v := m.isHistorical),
    readBool_of (n := 6) (v := m.isTransient), readBool_of (n := 7) (v := m.isNull), hlast]
  · intro f hf
    simp only [List.mem_append] at hf
    rcases hf with (((((((hf | hf) | hf) | hf) | hf) | hf) | hf) | hf) | hf
    all_goals
      rw [number_single hf]
      omega
  all_goals simp [varints_append, lens_append, varints_uint64Field, varints_uint32Field,
    varints_boolField, varints_bytesField, lens_uint64Field, lens_uint32Field, lens_boolField,
    lens_bytesField, hv, hl]

/-- Reading undoes writing. -/
theorem parse_serialize (p : PbPayload) : parse (serialize p) = some p := by
  have hmetrics : decodeAll decodeMetric (p.metrics.map metricBytes) = some p.metrics :=
    decodeAll_map fun m _ => decode_metricBytes m
  have hlens : lens 2 (uint64Field 1 p.timestamp ++ repeated 2 (p.metrics.map metricBytes) ++
      uint64Field 3 p.seq ++ bytesField 4 p.uuid ++ bytesField 5 p.body) =
        p.metrics.map metricBytes := by
    simp [lens_append, lens_uint64Field, lens_bytesField, lens_repeated]
  rw [parse, serialize, decode_encode, Option.bind_some, hlens, hmetrics, Option.map_some]
  rw [readUInt64_of (n := 1) (v := p.timestamp), readUInt64_of (n := 3) (v := p.seq),
    readBytes_of (n := 4) (v := p.uuid), readBytes_of (n := 5) (v := p.body)]
  all_goals simp [varints_append, lens_append, varints_uint64Field, varints_bytesField,
    lens_uint64Field, lens_bytesField, varints_repeated, lens_repeated]

theorem parse_nil : parse [] = some {} := rfl

end RoundTrip
end ProtobufCodec
end PubSub
