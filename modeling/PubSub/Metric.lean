import PubSub.Platform
import PubSub.Shared.FoldedMap
import PubSub.Shared.DecimalText

/-!
# Metrics and their properties

A metric keeps its value as text. A typed setter writes decimal text and raises the
updated flag when the text changes; a typed getter reads the text back. Property
lists are sorted maps ignoring case, kept as raw entry lists because the type is
nested in itself.
-/

namespace PubSub
open DecimalText
set_option autoImplicit false

inductive MetricType where
  | unknown
  | int8 | int16 | int32 | int64
  | uint8 | uint16 | uint32 | uint64
  | float | double | boolean | string | dateTime | text
  | uuid | dataSet | bytes | file | template
  | propertySet | propertySetList
  | int8Array | int16Array | int32Array | int64Array
  | uint8Array | uint16Array | uint32Array | uint64Array
  | floatArray | doubleArray | booleanArray | stringArray | dateTimeArray
  deriving DecidableEq, Repr

namespace MetricType

def all : List MetricType :=
  [unknown, int8, int16, int32, int64, uint8, uint16, uint32, uint64, float, double,
    boolean, string, dateTime, text, uuid, dataSet, bytes, file, template, propertySet,
    propertySetList, int8Array, int16Array, int32Array, int64Array, uint8Array,
    uint16Array, uint32Array, uint64Array, floatArray, doubleArray, booleanArray,
    stringArray, dateTimeArray]

/-- The enumerator's value, which the proto file's `DataType` shares. -/
def toUInt32 (t : MetricType) : UInt32 := UInt32.ofNat t.ctorIdx

/-- `ProtobufDataTypeToMetricType`. -/
def ofDataType (pb : UInt32) : MetricType := all.getD pb.toNat unknown

theorem ofDataType_toUInt32 (t : MetricType) : ofDataType t.toUInt32 = t := by
  cases t <;> rfl

/-- `Int8` up to `Double`, the types that may carry a unit behind the value. -/
def isNumeric (t : MetricType) : Bool := 0 < t.ctorIdx && t.ctorIdx ≤ double.ctorIdx

end MetricType

namespace Text

def valueInt32 (t : Str) : Int32 := Int32.ofInt (extractSigned (-2147483648) 2147483647 t)

def valueInt64 (t : Str) : Int64 :=
  Int64.ofInt (extractSigned (-9223372036854775808) 9223372036854775807 t)

def valueInt16 (t : Str) : Int16 := Int16.ofInt (extractSigned (-32768) 32767 t)

def valueUInt16 (t : Str) : UInt16 := UInt16.ofNat (extractUnsigned 65536 t)

def valueUInt32 (t : Str) : UInt32 := UInt32.ofNat (extractUnsigned 4294967296 t)

def valueUInt64 (t : Str) : UInt64 := UInt64.ofNat (extractUnsigned 18446744073709551616 t)

/-- `std::stoi`; an exception leaves zero. -/
def valueInt8 (t : Str) : Int8 :=
  match readInteger t with
  | none => 0
  | some (neg, n) =>
    let v : Int := if neg then -(n : Int) else n
    if -2147483648 ≤ v ∧ v ≤ 2147483647 then Int8.ofInt v else 0

/-- `std::stoul` of a 64-bit `unsigned long`; an exception leaves zero. -/
def valueUInt8 (t : Str) : UInt8 :=
  match readInteger t with
  | none => 0
  | some (neg, n) =>
    if n < 18446744073709551616 then
      UInt8.ofNat (if neg then 18446744073709551616 - n else n)
    else 0

def valueBool : Str → Bool
  | [] => false
  | c :: _ => [89, 121, 84, 116, 49].contains c

def ofBool (b : Bool) : Str := if b then [49] else [48]

theorem valueBool_ofBool (b : Bool) : valueBool (ofBool b) = b := by
  cases b <;> rfl

theorem valueUInt64_natText (v : UInt64) : valueUInt64 (natText v.toNat) = v := by
  rw [valueUInt64, extractUnsigned_natText v.toNat_lt]
  exact UInt64.ofNat_toNat

end Text

structure MetricProperty where
  key : Str := []
  type : MetricType := .string
  isNull : Bool := false
  value : Str := []
  propArray : List (List (Str × MetricProperty)) := []

abbrev MetricPropertyList := List (Str × MetricProperty)

namespace MetricProperty

/-- The copy constructor leaves the property array out. -/
def copy (p : MetricProperty) : MetricProperty := { p with propArray := [] }

/-- `operator=` leaves the property array of the target as it is. -/
def assign (p q : MetricProperty) : MetricProperty := { q with propArray := p.propArray }

end MetricProperty

structure MetricMetadata where
  isMultiPart : Bool := false
  contentType : Str := []
  size : UInt64 := 0
  sequenceNumber : UInt64 := 0
  fileName : Str := []
  fileType : Str := []
  md5 : Str := []
  description : Str := []
  deriving DecidableEq

structure Metric where
  name : Str := []
  aliasNumber : UInt64 := 0
  timestamp : UInt64 := 0
  datatype : MetricType := .unknown
  isHistorical : Bool := false
  isTransient : Bool := false
  isNull : Bool := false
  valid : Bool := false
  readOnly : Bool := false
  propertyList : MetricPropertyList := []
  value : Str := []
  metaData : Option MetricMetadata := none
  updated : Bool := false

inductive TypedValue where
  | int8 (v : Int8) | int16 (v : Int16) | int32 (v : Int32) | int64 (v : Int64)
  | uint8 (v : UInt8) | uint16 (v : UInt16) | uint32 (v : UInt32) | uint64 (v : UInt64)
  | float (bits : UInt32) | double (bits : UInt64)
  | boolean (v : Bool)
  | text (v : Str)
  deriving DecidableEq

/-- The datatype whose C++ type the value has; texts are those of `String`. -/
def TypedValue.type : TypedValue → MetricType
  | .int8 _ => .int8
  | .int16 _ => .int16
  | .int32 _ => .int32
  | .int64 _ => .int64
  | .uint8 _ => .uint8
  | .uint16 _ => .uint16
  | .uint32 _ => .uint32
  | .uint64 _ => .uint64
  | .float _ => .float
  | .double _ => .double
  | .boolean _ => .boolean
  | .text _ => .string

namespace Metric

/-- The common end of the setters: store the text, mark the metric valid, and raise
the updated flag if the text is another one. -/
def setText (m : Metric) (text : Str) : Metric :=
  { m with value := text, valid := true, updated := m.updated || text != m.value }

/-- `Value(T)` of an integer type. -/
def setInt (m : Metric) (v : Int) : Metric := m.setText (intText v)

def setBool (m : Metric) (v : Bool) : Metric := m.setText (Text.ofBool v)

variable (P : Platform)

/-- A decimal comma becomes a point. -/
def setFloatText (m : Metric) (text : Str) : Metric :=
  let pos := text.idxOf 44
  m.setText (if pos < text.length then text.set pos 46 else text)

def setFloat (m : Metric) (bits : UInt32) : Metric := m.setFloatText (P.floatToString bits)

def setDouble (m : Metric) (bits : UInt64) : Metric := m.setFloatText (P.doubleToString bits)

def getProperty (m : Metric) (key : Str) : Option MetricProperty :=
  Entries.get? P.foldKey key m.propertyList

def updateProperty (m : Metric) (key : Str) (f : MetricProperty → MetricProperty) : Metric :=
  { m with propertyList :=
      Entries.updateFirst (Entries.sameKey P.foldKey key) f m.propertyList }

def addProperty (m : Metric) (property : MetricProperty) : Metric :=
  match m.getProperty P property.key with
  | none =>
    { m with propertyList :=
        Entries.insert P.foldKey property.key property.copy m.propertyList }
  | some _ => m.updateProperty P property.key fun p => p.assign property

def createProperty (m : Metric) (key : Str) : Metric :=
  { m with propertyList := Entries.insert P.foldKey key { key := key } m.propertyList }

def setUnit (m : Metric) (unit : Str) : Metric :=
  m.addProperty P { key := str "unit", value := unit }

def unit (m : Metric) : Str :=
  match m.getProperty P (str "unit") with
  | none => []
  | some p => p.value

/-- `Value(std::string)`: a numeric value may be followed by a space and a unit. -/
def setString (m : Metric) (value : Str) : Metric :=
  if m.datatype.isNumeric && value.contains 32 then
    let rest := (value.dropWhile (· ≠ 32)).tail
    let m := match m.getProperty P (str "unit") with
      | none => m.setUnit P rest
      | some _ => m
    m.setText (value.takeWhile (· ≠ 32))
  else m.setText value

/-- `Value(T)` with the C++ type of the value. -/
def setValue (v : TypedValue) (m : Metric) : Metric :=
  match v with
  | .int8 v => m.setInt v.toInt
  | .int16 v => m.setInt v.toInt
  | .int32 v => m.setInt v.toInt
  | .int64 v => m.setInt v.toInt
  | .uint8 v => m.setInt v.toNat
  | .uint16 v => m.setInt v.toNat
  | .uint32 v => m.setInt v.toNat
  | .uint64 v => m.setInt v.toNat
  | .float bits => m.setFloat P bits
  | .double bits => m.setDouble P bits
  | .boolean v => m.setBool v
  | .text v => m.setString P v

def getMqttString (m : Metric) : Str :=
  let unit := m.unit P
  if m.isNull then []
  else if unit = [] then m.value
  else m.value ++ 32 :: unit

/-- The value read through the getter of the datatype's C++ type. -/
def typedValue (m : Metric) : TypedValue :=
  match m.datatype with
  | .int8 => .int8 (Text.valueInt8 m.value)
  | .int16 => .int16 (Text.valueInt16 m.value)
  | .int32 => .int32 (Text.valueInt32 m.value)
  | .int64 => .int64 (Text.valueInt64 m.value)
  | .uint8 => .uint8 (Text.valueUInt8 m.value)
  | .uint16 => .uint16 (Text.valueUInt16 m.value)
  | .uint32 => .uint32 (Text.valueUInt32 m.value)
  | .uint64 => .uint64 (Text.valueUInt64 m.value)
  | .float => .float (P.extractFloat m.value)
  | .double => .double (P.extractDouble m.value)
  | .boolean => .boolean (Text.valueBool m.value)
  | _ => .text m.value

@[simp] theorem setText_name (m : Metric) (t : Str) : (m.setText t).name = m.name := rfl

@[simp] theorem setText_alias (m : Metric) (t : Str) :
    (m.setText t).aliasNumber = m.aliasNumber := rfl

@[simp] theorem setText_datatype (m : Metric) (t : Str) :
    (m.setText t).datatype = m.datatype := rfl

@[simp] theorem setText_value (m : Metric) (t : Str) : (m.setText t).value = t := rfl

@[simp] theorem setText_updated (m : Metric) (t : Str) :
    (m.setText t).updated = (m.updated || t != m.value) := rfl

/-- Name, alias and datatype: what a value never changes. -/
def identity (m : Metric) : Str × UInt64 × MetricType := (m.name, m.aliasNumber, m.datatype)

/-- A property that is added changes nothing but the property list. -/
theorem addProperty_eq (m : Metric) (p : MetricProperty) :
    m.addProperty P p = { m with propertyList := (m.addProperty P p).propertyList } := by
  unfold addProperty
  split <;> rfl

theorem addProperty_identity (m : Metric) (p : MetricProperty) :
    (m.addProperty P p).identity = m.identity := by
  rw [addProperty_eq]
  rfl

@[simp] theorem setText_valid (m : Metric) (t : Str) : (m.setText t).valid = true := rfl

theorem addProperty_valid (m : Metric) (p : MetricProperty) :
    (m.addProperty P p).valid = m.valid := by rw [addProperty_eq]

/-- A string is stored as a text, beside a unit in the property list. -/
theorem setString_frame (m : Metric) (v : Str) : m.setString P v =
    { m.setText (m.setString P v).value with
      propertyList := (m.setString P v).propertyList } := by
  unfold setString
  split
  · cases m.getProperty P (str "unit") with
    | none =>
      dsimp only [setUnit]
      rw [addProperty_eq]
      rfl
    | some _ => rfl
  · rfl

theorem setString_valid (m : Metric) (v : Str) : (m.setString P v).valid = true := by
  rw [setString_frame]
  rfl

theorem setString_isNull (m : Metric) (v : Str) : (m.setString P v).isNull = m.isNull := by
  rw [setString_frame]
  rfl

theorem setString_identity (m : Metric) (v : Str) :
    (m.setString P v).identity = m.identity := by
  rw [setString_frame]
  rfl

variable {P} in
theorem setValue_identity (v : TypedValue) (m : Metric) :
    (m.setValue P v).identity = m.identity := by
  cases v with
  | text v => exact m.setString_identity P v
  | _ => rfl

/-- A text that `Value(std::string)` does not take for a value with a unit. -/
def BlankFree (m : Metric) (text : Str) : Prop := m.datatype.isNumeric = true → 32 ∉ text

theorem blankFree_of_string {m : Metric} (h : m.datatype = .string) (text : Str) :
    m.BlankFree text := by
  intro hnumeric
  rw [h] at hnumeric
  exact absurd hnumeric (by decide)

theorem setString_eq {m : Metric} {text : Str} (h : m.BlankFree text) :
    m.setString P text = m.setText text := by
  unfold setString
  rw [if_neg]
  intro hand
  obtain ⟨hnumeric, hblank⟩ := Bool.and_eq_true_iff.mp hand
  exact h hnumeric (List.contains_iff_mem.mp hblank)

theorem setString_value (m : Metric) {text : Str} (h : m.BlankFree text) :
    (m.setString P text).value = text := by
  rw [setString_eq P h]
  rfl

end Metric
end PubSub
