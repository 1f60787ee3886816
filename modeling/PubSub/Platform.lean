import PubSub.SparkplugProto
import Mathlib.Order.Basic
import Mathlib.Data.List.Lex

/-!
# What the library takes from outside

`util::string`, the protobuf runtime, `boost::json`, the floating-point conversions
and `util::hw_info` are parameters. The laws are the ones their documentation
gives: the comparison ignores case and nothing else, parsing undoes serializing, no
bytes at all are the message without fields, and the text of a JSON object tells the
names of its members.
-/

namespace PubSub
set_option autoImplicit false

def lowerByte (c : UInt8) : UInt8 := if 65 ≤ c ∧ c ≤ 90 then c + 32 else c

def lower (s : Str) : Str := s.map lowerByte

/-- The text in front of the first zero byte. -/
def cString (s : Str) : Str := s.takeWhile (· ≠ 0)

/-- The kinds of `boost::json` values a member can have; nested contents are not read. -/
inductive JsonValue where
  | null
  | bool (v : Bool)
  | int64 (v : Int64)
  | uint64 (v : UInt64)
  | double (bits : UInt64)
  | string (v : Str)
  | array
  | object
  deriving DecidableEq

abbrev JsonMembers := List (Str × JsonValue)

structure Platform where
  -- `util::string::IgnoreCase` orders names by this key, `IEquals` compares it
  foldKey : Str → List Nat
  foldKey_eq_of_lower : ∀ a b, lower a = lower b → foldKey a = foldKey b
  lower_eq_of_foldKey : ∀ a b, foldKey a = foldKey b → lower (cString a) = lower (cString b)
  floatToString : UInt32 → Str
  doubleToString : UInt64 → Str
  -- `std::to_string` and stream extraction of floating-point numbers
  stdFloatText : UInt32 → Str
  stdDoubleText : UInt64 → Str
  extractFloat : Str → UInt32
  extractDouble : Str → UInt64
  -- `none` when `SerializeToArray` returns false
  serializeToArray : PbPayload → Option BodyList
  -- `none` when `ParseFromArray` returns false
  parseFromArray : BodyList → Option PbPayload
  parse_serialize : ∀ p b, serializeToArray p = some b → parseFromArray b = some p
  parse_nil : parseFromArray [] = some {}
  serializeJson : JsonMembers → Str
  json_names : ∀ ms ns, (ms.map Prod.fst).Nodup → (ns.map Prod.fst).Nodup →
    serializeJson ms = serializeJson ns → ms.map Prod.fst = ns.map Prod.fst
  -- the members of a JSON object, `none` for any other text
  parseJson : Str → Option JsonMembers
  cpuVendor : Str
  cpuModel : Str
  osName : Str
  osKernel : Str

namespace Platform
variable (P : Platform)

def iEquals (a b : Str) : Bool := decide (P.foldKey a = P.foldKey b)

@[simp] theorem iEquals_iff (a b : Str) : P.iEquals a b = true ↔ P.foldKey a = P.foldKey b := by
  simp [iEquals]

theorem iEquals_self (a : Str) : P.iEquals a a = true := by simp

/-- Names that differ in more than case have different keys. -/
theorem foldKey_ne {a b : Str} (h : lower (cString a) ≠ lower (cString b)) :
    P.foldKey a ≠ P.foldKey b := fun he => h (P.lower_eq_of_foldKey a b he)

theorem iEquals_eq_false {a b : Str} (h : lower (cString a) ≠ lower (cString b)) :
    P.iEquals a b = false := by
  simp [iEquals, P.foldKey_ne h]

end Platform
end PubSub
