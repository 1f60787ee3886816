import Mathlib.Data.List.TakeWhile
import Mathlib.Data.Int.Basic
import Mathlib.Tactic.Common

/-!
# Integers as decimal text

Texts are byte lists. Writing gives the shortest decimal form; reading follows the
stream extraction of the C++ standard library: skip white space, take a sign and the
digits after it, saturate a signed result at the bounds of the target type and
negate an unsigned one in that type. No digit reads as zero.
-/

namespace PubSub.DecimalText
set_option autoImplicit false

abbrev Text := List UInt8

def isDigit (c : UInt8) : Bool := 48 ≤ c && c ≤ 57

def isSpace (c : UInt8) : Bool := c == 32 || (9 ≤ c && c ≤ 13)

def digit (d : Nat) : UInt8 := UInt8.ofNat (48 + d)

def digitValue (c : UInt8) : Nat := c.toNat - 48

/-- Most significant digit first; the fuel bounds the number of digits. -/
def digits : Nat → Nat → Text
  | 0, _ => []
  | f + 1, n => if n < 10 then [digit n] else digits f (n / 10) ++ [digit (n % 10)]

def natText (n : Nat) : Text := digits (n + 1) n

/-- `std::to_string`. -/
def intText (v : Int) : Text := if v < 0 then 45 :: natText v.natAbs else natText v.natAbs

def natOfDigits (cs : Text) : Nat := cs.foldl (fun n c => 10 * n + digitValue c) 0

def splitSign : Text → Bool × Text
  | 45 :: cs => (true, cs)
  | 43 :: cs => (false, cs)
  | cs => (false, cs)

/-- Sign and magnitude of the leading number, if there is one. -/
def readInteger (text : Text) : Option (Bool × Nat) :=
  let signed := splitSign (text.dropWhile isSpace)
  let ds := signed.2.takeWhile isDigit
  if ds = [] then none else some (signed.1, natOfDigits ds)

/-- Stream extraction into a signed type with the bounds `lo` and `hi`. -/
def extractSigned (lo hi : Int) (text : Text) : Int :=
  match readInteger text with
  | none => 0
  | some (neg, n) => max lo (min hi (if neg then -(n : Int) else n))

/-- Stream extraction into an unsigned type with `size` values. -/
def extractUnsigned (size : Nat) (text : Text) : Nat :=
  match readInteger text with
  | none => 0
  | some (neg, n) => if size ≤ n then size - 1 else if neg then (size - n) % size else n

theorem digit_toNat {d : Nat} (h : d < 10) : (digit d).toNat = 48 + d := by
  simp only [digit, UInt8.toNat_ofNat']
  omega

theorem isDigit_digit {d : Nat} (h : d < 10) : isDigit (digit d) = true := by
  have hd := digit_toNat h
  simp only [isDigit, UInt8.le_iff_toNat_le, Bool.and_eq_true, decide_eq_true_eq, hd]
  exact ⟨by simp, by simp; omega⟩

theorem digitValue_digit {d : Nat} (h : d < 10) : digitValue (digit d) = d := by
  simp [digitValue, digit_toNat h]

theorem natOfDigits_append (cs : Text) (c : UInt8) :
    natOfDigits (cs ++ [c]) = 10 * natOfDigits cs + digitValue c := by
  simp [natOfDigits, List.foldl_append]

theorem digits_ne_nil (f n : Nat) : digits (f + 1) n ≠ [] := by
  simp only [digits]
  split <;> simp

theorem mem_digits {f n : Nat} {c : UInt8} (h : c ∈ digits f n) : isDigit c = true := by
  induction f generalizing n with
  | zero => simp [digits] at h
  | succ f ih =>
    simp only [digits] at h
    split at h
    · rename_i hn
      rw [List.mem_singleton.mp h]
      exact isDigit_digit hn
    · rcases List.mem_append.mp h with h | h
      · exact ih h
      · rw [List.mem_singleton.mp h]
        exact isDigit_digit (Nat.mod_lt n (by omega))

theorem natOfDigits_digits {f n : Nat} (h : n < f) : natOfDigits (digits f n) = n := by
  induction f generalizing n with
  | zero => omega
  | succ f ih =>
    simp only [digits]
    split
    · rename_i hn
      simp [natOfDigits, digitValue_digit hn]
    · rw [natOfDigits_append, ih (by omega), digitValue_digit (Nat.mod_lt n (by omega))]
      omega

theorem natOfDigits_natText (n : Nat) : natOfDigits (natText n) = n :=
  natOfDigits_digits (Nat.lt_succ_self n)

theorem natText_ne_nil (n : Nat) : natText n ≠ [] := digits_ne_nil n n

theorem natText_takeWhile (n : Nat) : (natText n).takeWhile isDigit = natText n := by
  rw [List.takeWhile_eq_self_iff]
  exact fun _ hc => mem_digits hc

theorem isDigit_not_space {c : UInt8} (h : isDigit c = true) :
    isSpace c = false ∧ c ≠ 45 ∧ c ≠ 43 := by
  simp only [isDigit, Bool.and_eq_true, decide_eq_true_eq, UInt8.le_iff_toNat_le] at h
  simp only [isSpace, Bool.or_eq_false_iff, Bool.and_eq_false_iff, beq_eq_false_iff_ne,
    decide_eq_false_iff_not, UInt8.le_iff_toNat_le, ne_eq, ← UInt8.toNat_inj]
  simp at h ⊢
  omega

theorem dropWhile_space {text : Text} (h : ∀ c ∈ text.head?, isSpace c = false) :
    text.dropWhile isSpace = text := by
  cases text with
  | nil => rfl
  | cons c cs => simp [h c (by simp)]

theorem splitSign_digit {text : Text} (h : ∀ c ∈ text.head?, isDigit c = true) :
    splitSign text = (false, text) := by
  cases text with
  | nil => rfl
  | cons c cs =>
    have hc := isDigit_not_space (h c (by simp))
    unfold splitSign
    split <;> simp_all

theorem natText_head {n : Nat} : ∀ c ∈ (natText n).head?, isDigit c = true :=
  fun _ hc => mem_digits (List.mem_of_mem_head? hc)

theorem readInteger_natText (n : Nat) : readInteger (natText n) = some (false, n) := by
  have hspace : (natText n).dropWhile isSpace = natText n :=
    dropWhile_space fun c hc => (isDigit_not_space (natText_head c hc)).1
  simp only [readInteger, hspace, splitSign_digit natText_head, natText_takeWhile,
    natOfDigits_natText]
  rw [if_neg (natText_ne_nil n)]

theorem readInteger_intText (v : Int) :
    readInteger (intText v) = some (decide (v < 0), v.natAbs) := by
  by_cases hv : v < 0
  · have hspace : (45 :: natText v.natAbs).dropWhile isSpace = 45 :: natText v.natAbs :=
      dropWhile_space fun c hc => by
        obtain rfl : 45 = c := by simpa using hc
        decide
    have htext : intText v = 45 :: natText v.natAbs := if_pos hv
    have hsign : splitSign (45 :: natText v.natAbs) = (true, natText v.natAbs) := rfl
    simp only [htext, readInteger, hspace, hsign, natText_takeWhile, natOfDigits_natText]
    simp [natText_ne_nil, hv]
  · simp [intText, hv, readInteger_natText]

/-- Text written for a signed value in range reads back as that value. -/
theorem extractSigned_intText {lo hi v : Int} (hlo : lo ≤ v) (hhi : v ≤ hi) :
    extractSigned lo hi (intText v) = v := by
  simp only [extractSigned, readInteger_intText, decide_eq_true_eq]
  split <;> omega

theorem intText_natCast (n : Nat) : intText (n : Int) = natText n := by
  simp [intText, Int.not_lt.mpr (Int.natCast_nonneg n)]

theorem extractUnsigned_natText {size n : Nat} (h : n < size) :
    extractUnsigned size (natText n) = n := by
  simp only [extractUnsigned, readInteger_natText]
  rw [if_neg (by omega)]
  simp

/-- The characters of a number are digits, behind a sign at most. -/
theorem mem_intText {v : Int} {c : UInt8} (h : c ∈ intText v) : isDigit c = true ∨ c = 45 := by
  unfold intText at h
  split at h
  · rcases List.mem_cons.mp h with rfl | h
    · exact .inr rfl
    · exact .inl (mem_digits h)
  · exact .inl (mem_digits h)

theorem intText_blank (v : Int) : 32 ∉ intText v := fun h => absurd (mem_intText h) (by decide)

theorem intText_zero (v : Int) : 0 ∉ intText v := fun h => absurd (mem_intText h) (by decide)

end PubSub.DecimalText
