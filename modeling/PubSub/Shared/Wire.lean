import Mathlib.Algebra.Group.Nat.Defs
import Mathlib.Data.List.Basic

/-!
# The protobuf wire format

A message on the wire is a list of numbered fields, each with a variable-length number,
a fixed number or a run of bytes. Encoding and decoding are structural, on the bytes or
on a bound that the length of the bytes provides, and decoding undoes encoding.
-/

namespace PubSub
set_option autoImplicit false

namespace Wire

abbrev Bytes := List UInt8

def varintBounded : Nat → Nat → Bytes
  | 0, n => [UInt8.ofNat n]
  | bound + 1, n =>
    if n < 128 then [UInt8.ofNat n]
    else UInt8.ofNat (n % 128 + 128) :: varintBounded bound (n / 128)

/-- Seven bits a byte, lowest first; every byte but the last has its high bit set. -/
def varint (n : Nat) : Bytes := varintBounded n n

def readVarint : Bytes → Option (Nat × Bytes)
  | [] => none
  | b :: bs =>
    if b.toNat < 128 then some (b.toNat, bs)
    else (readVarint bs).map fun r => (b.toNat - 128 + 128 * r.1, r.2)

/-- Little-endian, `k` bytes. -/
def fixed : Nat → Nat → Bytes
  | 0, _ => []
  | k + 1, n => UInt8.ofNat (n % 256) :: fixed k (n / 256)

def readFixed : Nat → Bytes → Option (Nat × Bytes)
  | 0, bs => some (0, bs)
  | _ + 1, [] => none
  | k + 1, b :: bs => (readFixed k bs).map fun r => (b.toNat + 256 * r.1, r.2)

inductive Value where
  | varint (v : UInt64)
  | i64 (v : UInt64)
  | len (b : Bytes)
  | i32 (v : UInt32)
  deriving DecidableEq

structure Field where
  number : Nat
  value : Value
  deriving DecidableEq

namespace Value

def wireType : Value → Nat
  | varint _ => 0
  | i64 _ => 1
  | len _ => 2
  | i32 _ => 5

def encode : Value → Bytes
  | varint v => Wire.varint v.toNat
  | i64 v => fixed 8 v.toNat
  | len b => Wire.varint b.length ++ b
  | i32 v => fixed 4 v.toNat

def read (wireType : Nat) (bs : Bytes) : Option (Value × Bytes) :=
  match wireType with
  | 0 => (readVarint bs).map fun r => (varint (UInt64.ofNat r.1), r.2)
  | 1 => (readFixed 8 bs).map fun r => (i64 (UInt64.ofNat r.1), r.2)
  | 2 => (readVarint bs).bind fun r =>
    if r.1 ≤ r.2.length then some (len (r.2.take r.1), r.2.drop r.1) else none
  | 5 => (readFixed 4 bs).map fun r => (i32 (UInt32.ofNat r.1), r.2)
  | _ => none

end Value

def Field.encode (f : Field) : Bytes :=
  varint (f.number * 8 + f.value.wireType) ++ f.value.encode

def Field.read (bs : Bytes) : Option (Field × Bytes) :=
  (readVarint bs).bind fun tag =>
    (Value.read (tag.1 % 8) tag.2).map fun r => (⟨tag.1 / 8, r.1⟩, r.2)

def encode (fs : List Field) : Bytes := fs.flatMap Field.encode

def readFields : Nat → Bytes → Option (List Field)
  | _, [] => some []
  | 0, _ :: _ => none
  | bound + 1, b :: bs =>
    (Field.read (b :: bs)).bind fun r => (readFields bound r.2).map (r.1 :: ·)

def decode (bs : Bytes) : Option (List Field) := readFields bs.length bs

theorem toNat_ofNat {n : Nat} (h : n < 256) : (UInt8.ofNat n).toNat = n := by
  rw [UInt8.toNat_ofNat']
  exact Nat.mod_eq_of_lt h

theorem readVarint_bounded {bound n : Nat} (h : n ≤ bound) (rest : Bytes) :
    readVarint (varintBounded bound n ++ rest) = some (n, rest) := by
  induction bound generalizing n with
  | zero =>
    have hn : n = 0 := Nat.le_zero.mp h
    subst hn
    rfl
  | succ bound ih =>
    unfold varintBounded
    split
    · rename_i hlt
      have hbyte := toNat_ofNat (show n < 256 by omega)
      simp [readVarint, hbyte, hlt]
    · rename_i hge
      have hbyte := toNat_ofNat (show n % 128 + 128 < 256 by omega)
      have hrest := ih (show n / 128 ≤ bound by omega)
      have hhigh : ¬ n % 128 + 128 < 128 := by omega
      simp only [List.cons_append, readVarint, hbyte, if_neg hhigh, hrest, Option.map_some]
      congr 2
      omega

theorem readVarint_varint (n : Nat) (rest : Bytes) :
    readVarint (varint n ++ rest) = some (n, rest) :=
  readVarint_bounded (Nat.le_refl n) rest

theorem readFixed_fixed {k n : Nat} (h : n < 256 ^ k) (rest : Bytes) :
    readFixed k (fixed k n ++ rest) = some (n, rest) := by
  induction k generalizing n with
  | zero =>
    have hn : n = 0 := by simpa using h
    subst hn
    rfl
  | succ k ih =>
    have hbyte := toNat_ofNat (Nat.mod_lt n (show 0 < 256 by omega))
    have hrest := ih (show n / 256 < 256 ^ k by
      rw [Nat.pow_succ] at h
      exact Nat.div_lt_of_lt_mul (by omega))
    simp only [fixed, List.cons_append, readFixed, hrest, hbyte, Option.map_some]
    congr 2
    omega

theorem Value.read_encode (v : Value) (rest : Bytes) :
    Value.read v.wireType (v.encode ++ rest) = some (v, rest) := by
  cases v with
  | varint v =>
    simp only [wireType, read, encode, readVarint_varint, Option.map_some, UInt64.ofNat_toNat]
  | i64 v =>
    have h := readFixed_fixed (show v.toNat < 256 ^ 8 from v.toNat_lt) rest
    simp only [wireType, read, encode, h, Option.map_some, UInt64.ofNat_toNat]
  | len b =>
    simp only [wireType, read, encode, List.append_assoc, readVarint_varint, Option.bind_some]
    simp
  | i32 v =>
    have h := readFixed_fixed (show v.toNat < 256 ^ 4 from v.toNat_lt) rest
    simp only [wireType, read, encode, h, Option.map_some, UInt32.ofNat_toNat]

theorem Value.wireType_lt (v : Value) : v.wireType < 8 := by
  cases v <;> simp [wireType]

theorem Field.read_encode (f : Field) (rest : Bytes) :
    Field.read (f.encode ++ rest) = some (f, rest) := by
  have hlt := f.value.wireType_lt
  have hmod : (f.number * 8 + f.value.wireType) % 8 = f.value.wireType := by omega
  have hdiv : (f.number * 8 + f.value.wireType) / 8 = f.number := by omega
  simp only [Field.read, Field.encode, List.append_assoc, readVarint_varint, Option.bind_some,
    hmod, hdiv, Value.read_encode, Option.map_some]

theorem varint_ne_nil (n : Nat) : varint n ≠ [] := by
  unfold varint
  cases n with
  | zero => simp [varintBounded]
  | succ n =>
    unfold varintBounded
    split <;> simp

theorem Field.encode_ne_nil (f : Field) : f.encode ≠ [] := by
  simp [Field.encode, varint_ne_nil]

theorem readFields_encode {bound : Nat} {fs : List Field} (h : fs.length ≤ bound) :
    readFields bound (encode fs) = some fs := by
  induction fs generalizing bound with
  | nil => simp [encode, readFields]
  | cons f fs ih =>
    cases bound with
    | zero => simp at h
    | succ bound =>
      have hread := f.read_encode (encode fs)
      have hrest := ih (show fs.length ≤ bound by simpa using h)
      have hcons : encode (f :: fs) = f.encode ++ encode fs := List.flatMap_cons
      rw [hcons]
      cases hbytes : f.encode ++ encode fs with
      | nil => exact absurd (List.append_eq_nil_iff.mp hbytes).1 f.encode_ne_nil
      | cons b bs =>
        rw [hbytes] at hread
        simp only [readFields, hread, Option.bind_some, hrest, Option.map_some]

theorem length_encode (fs : List Field) : fs.length ≤ (encode fs).length := by
  induction fs with
  | nil => simp
  | cons f fs ih =>
    have hpos := List.length_pos_iff.mpr f.encode_ne_nil
    simp only [encode, List.flatMap_cons, List.length_append, List.length_cons] at ih ⊢
    omega

theorem decode_encode (fs : List Field) : decode (encode fs) = some fs :=
  readFields_encode (length_encode fs)

/-- A run of bytes is shorter than the message that has it as a field. -/
theorem length_lt_encode {fs : List Field} {n : Nat} {b : Bytes} (h : ⟨n, .len b⟩ ∈ fs) :
    b.length < (encode fs).length := by
  induction fs with
  | nil => simp at h
  | cons f fs ih =>
    have hpos := List.length_pos_iff.mpr (varint_ne_nil (f.number * 8 + f.value.wireType))
    simp only [encode, List.flatMap_cons, List.length_append] at ih ⊢
    rcases List.mem_cons.mp h with rfl | h
    · simp only [Field.encode, Value.encode, List.length_append] at hpos ⊢
      omega
    · have := ih h
      omega

section Fields

/-- The fields of a number, by the kind of their value. -/
def varints (n : Nat) (fs : List Field) : List UInt64 :=
  fs.filterMap fun f => match f.value with
    | .varint v => if f.number = n then some v else none
    | _ => none

def lens (n : Nat) (fs : List Field) : List Bytes :=
  fs.filterMap fun f => match f.value with
    | .len b => if f.number = n then some b else none
    | _ => none

/-- An optional field; of several the last one counts. -/
def single {α : Type} (n : Nat) (value : α → Value) (v : Option α) : List Field :=
  (v.map fun v => ⟨n, value v⟩).toList

def repeated (n : Nat) (bs : List Bytes) : List Field := bs.map fun b => ⟨n, .len b⟩

theorem varints_append (n : Nat) (fs gs : List Field) :
    varints n (fs ++ gs) = varints n fs ++ varints n gs := by
  simp [varints]

theorem lens_append (n : Nat) (fs gs : List Field) :
    lens n (fs ++ gs) = lens n fs ++ lens n gs := by
  simp [lens]

theorem varints_single_varint {α : Type} (n m : Nat) (f : α → UInt64) (v : Option α) :
    varints n (single m (fun a => .varint (f a)) v) =
      if m = n then (v.map f).toList else [] := by
  cases v with
  | none => simp [varints, single]
  | some a => by_cases h : m = n <;> simp [varints, single, h]

theorem varints_single_len {α : Type} (n m : Nat) (f : α → Bytes) (v : Option α) :
    varints n (single m (fun a => .len (f a)) v) = [] := by
  cases v <;> simp [varints, single]

theorem lens_single_varint {α : Type} (n m : Nat) (f : α → UInt64) (v : Option α) :
    lens n (single m (fun a => .varint (f a)) v) = [] := by
  cases v <;> simp [lens, single]

theorem lens_single_len {α : Type} (n m : Nat) (f : α → Bytes) (v : Option α) :
    lens n (single m (fun a => .len (f a)) v) = if m = n then (v.map f).toList else [] := by
  cases v with
  | none => simp [lens, single]
  | some a => by_cases h : m = n <;> simp [lens, single, h]

theorem varints_repeated (n m : Nat) (bs : List Bytes) : varints n (repeated m bs) = [] := by
  simp [varints, repeated]

theorem lens_repeated (n m : Nat) (bs : List Bytes) :
    lens n (repeated m bs) = if m = n then bs else [] := by
  by_cases h : m = n
  · simp [lens, repeated, h, List.filterMap_map]
  · simp [lens, repeated, h, List.filterMap_map]

theorem getLast?_toList {α : Type} (v : Option α) : v.toList.getLast? = v := by
  cases v <;> rfl

end Fields
end Wire
end PubSub
