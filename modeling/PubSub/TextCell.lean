import PubSub.Reference
import PubSub.TextRoundTrip

/-!
# The text cell of a metric

A metric holds its value as text. An integer written through one C++ type reads back
through every type that has it, and a value with a unit behind it is taken apart at the
first space.
-/

namespace PubSub
open DecimalText
set_option autoImplicit false

inductive IntegerType where
  | int8 | int16 | int32 | int64 | uint8 | uint16 | uint32 | uint64
  deriving DecidableEq

namespace IntegerType

abbrev Carrier : IntegerType → Type
  | int8 => Int8
  | int16 => Int16
  | int32 => Int32
  | int64 => Int64
  | uint8 => UInt8
  | uint16 => UInt16
  | uint32 => UInt32
  | uint64 => UInt64

def toInt : (t : IntegerType) → t.Carrier → Int
  | int8, v => Int8.toInt v
  | int16, v => Int16.toInt v
  | int32, v => Int32.toInt v
  | int64, v => Int64.toInt v
  | uint8, v => UInt8.toNat v
  | uint16, v => UInt16.toNat v
  | uint32, v => UInt32.toNat v
  | uint64, v => UInt64.toNat v

def value : (t : IntegerType) → Metric → t.Carrier
  | int8, m => Text.valueInt8 m.value
  | int16, m => Text.valueInt16 m.value
  | int32, m => Text.valueInt32 m.value
  | int64, m => Text.valueInt64 m.value
  | uint8, m => Text.valueUInt8 m.value
  | uint16, m => Text.valueUInt16 m.value
  | uint32, m => Text.valueUInt32 m.value
  | uint64, m => Text.valueUInt64 m.value

/-- The text of an integer reads back as each value that stands for the integer. -/
theorem value_setInt (u : IntegerType) (w : u.Carrier) (m : Metric) :
    u.value (m.setInt (u.toInt w)) = w := by
  cases u with
  | int8 => exact Text.valueInt8_intText w
  | int16 => exact Text.valueInt16_intText w
  | int32 => exact Text.valueInt32_intText w
  | int64 => exact Text.valueInt64_intText w
  | uint8 => exact Text.valueUInt8_intText w
  | uint16 => exact Text.valueUInt16_intText w
  | uint32 => exact Text.valueUInt32_intText w
  | uint64 => exact Text.valueUInt64_intText w

end IntegerType

/-- After `Value<T>(v)` the read `Value<U>()` is `v` for `T` itself, and for every type
that has a value `w` which stands for the same integer. -/
theorem integer_reads_back (t : IntegerType) (v : t.Carrier) (m : Metric) :
    t.value (m.setInt (t.toInt v)) = v ∧
      ∀ (u : IntegerType) (w : u.Carrier), u.toInt w = t.toInt v →
        u.value (m.setInt (t.toInt v)) = w := by
  refine ⟨t.value_setInt v m, ?_⟩
  intro u w hsame
  rw [← hsame]
  exact u.value_setInt w m

/-- The largest `uint8_t` in a metric of type `String` that held a text. -/
theorem max_uint8_reads_back :
    let m : Metric := { datatype := .string, value := str "-7 bar" }
    IntegerType.uint8.value (m.setInt 255) = (255 : UInt8) ∧
      IntegerType.int16.value (m.setInt 255) = (255 : Int16) :=
  ⟨(integer_reads_back .uint8 (255 : UInt8) _).1,
    (integer_reads_back .uint8 (255 : UInt8) _).2 .int16 (255 : Int16) (by decide)⟩

namespace Metric
variable {P : Platform}

theorem cut_at_blank {value unit : Str} (h : 32 ∉ value) :
    (value ++ 32 :: unit).takeWhile (· ≠ 32) = value ∧
      ((value ++ 32 :: unit).dropWhile (· ≠ 32)).tail = unit := by
  have hfree : ∀ c ∈ value, decide (c ≠ 32) = true :=
    fun c hc => decide_eq_true fun heq => h (heq ▸ hc)
  refine ⟨?_, ?_⟩
  · rw [List.takeWhile_append_of_pos hfree, List.takeWhile_cons_of_neg (by decide),
      List.append_nil]
  · rw [List.dropWhile_append_of_pos hfree, List.dropWhile_cons_of_neg (by decide),
      List.tail_cons]

theorem unit_setText (m : Metric) (text : Str) : (m.setText text).unit P = m.unit P := rfl

theorem unit_of_none {m : Metric} (h : m.getProperty P (str "unit") = none) :
    m.unit P = [] := by
  rw [unit, h]

theorem unit_setUnit {m : Metric} (h : m.getProperty P (str "unit") = none) (unit : Str) :
    (m.setUnit P unit).unit P = unit := by
  have hadded : (m.setUnit P unit).getProperty P (str "unit") =
      some { key := str "unit", value := unit } := by
    unfold setUnit addProperty
    dsimp only
    rw [h]
    exact Entries.get?_insert_self h
  rw [Metric.unit, hadded]

theorem setString_with_unit {r : Metric} {value unit : Str} (hnumeric : r.datatype.isNumeric = true)
    (hblank : 32 ∉ value) (hfresh : r.getProperty P (str "unit") = none) :
    r.setString P (value ++ 32 :: unit) = (r.setUnit P unit).setText value := by
  obtain ⟨htake, hdrop⟩ := @cut_at_blank value unit hblank
  unfold setString
  rw [if_pos (by simp [hnumeric])]
  dsimp only
  rw [htake, hdrop, hfresh]

end Metric

/-- The value text and the unit of a numeric metric survive `GetMqttString` and
`Value(std::string)` of a metric of the type without a unit. -/
theorem value_with_unit_returns (P : Platform) (m r : Metric)
    (hnumeric : m.datatype.isNumeric = true) (htype : r.datatype = m.datatype)
    (hnull : m.isNull = false) (hblank : 32 ∉ m.value)
    (hfresh : r.getProperty P (str "unit") = none) :
    (r.setString P (m.getMqttString P)).value = m.value ∧
      (r.setString P (m.getMqttString P)).unit P = m.unit P := by
  have hsent : m.getMqttString P =
      if m.unit P = [] then m.value else m.value ++ 32 :: m.unit P := by
    simp only [Metric.getMqttString, hnull, Bool.false_eq_true, if_false]
  rw [hsent]
  split
  · rename_i hunit
    have hfree : r.BlankFree m.value := fun _ => hblank
    rw [Metric.setString_eq P hfree]
    refine ⟨rfl, ?_⟩
    rw [Metric.unit_setText, Metric.unit_of_none hfresh, hunit]
  · rw [Metric.setString_with_unit (htype ▸ hnumeric) hblank hfresh]
    refine ⟨rfl, ?_⟩
    rw [Metric.unit_setText, Metric.unit_setUnit hfresh]

/-- A unit with a space in it. -/
theorem cubic_metres_return :
    let m := ({ datatype := .float, value := str "1.5" } : Metric).setUnit .reference (str "m 3")
    let r : Metric := { datatype := .float }
    (r.setString .reference (m.getMqttString .reference)).value = m.value ∧
      (r.setString .reference (m.getMqttString .reference)).unit .reference =
        m.unit .reference :=
  value_with_unit_returns .reference _ _ (by decide +kernel) (by decide +kernel)
    (by decide +kernel) (by decide +kernel) (by decide +kernel)

end PubSub
