import PubSub.Platform
import PubSub.Shared.DecimalText

/-!
# Flat JSON texts

Objects are written without white space. Quotes, backslashes and zero bytes of a string are
escaped, floating-point numbers are written as zero, and nested contents are left out. The
reader gets the members back; a number comes back as `int64` when it fits.
-/

namespace PubSub.FlatJson
open DecimalText
set_option autoImplicit false

def escape : Str → Str
  | [] => []
  | c :: cs =>
    if c = 0 then 92 :: 48 :: escape cs
    else if c = 34 ∨ c = 92 then 92 :: c :: escape cs
    else c :: escape cs

def quote (s : Str) : Str := 34 :: (escape s ++ [34])

def valueText : JsonValue → Str
  | .null => str "null"
  | .bool v => if v then str "true" else str "false"
  | .int64 v => intText v.toInt
  | .uint64 v => natText v.toNat
  | .double _ => str "0"
  | .string s => quote s
  | .array => str "[]"
  | .object => str "\x7b\x7d"

def memberText (m : Str × JsonValue) : Str := quote m.1 ++ 58 :: valueText m.2

def write (ms : JsonMembers) : Str := 123 :: (List.intercalate [44] (ms.map memberText) ++ [125])

/-- The string up to its closing quote, and the text behind the quote. The flag tells that
the last byte was a backslash. -/
def readString : Bool → Str → Option (Str × Str)
  | _, [] => none
  | true, c :: rest => (readString false rest).map fun r => ((if c = 48 then 0 else c) :: r.1, r.2)
  | false, c :: rest =>
    if c = 34 then some ([], rest)
    else if c = 92 then readString true rest
    else (readString false rest).map fun r => (c :: r.1, r.2)

def readNumber (t : Str) : Option JsonValue :=
  match readInteger t with
  | none => none
  | some (true, n) => some (.int64 (Int64.ofInt (-(n : Int))))
  | some (false, n) =>
    if n < 9223372036854775808 then some (.int64 (Int64.ofInt n))
    else some (.uint64 (UInt64.ofNat n))

def readScalar (t : Str) : Option JsonValue :=
  if t = str "true" then some (.bool true)
  else if t = str "false" then some (.bool false)
  else if t = str "null" then some .null
  else if t = str "[]" then some .array
  else readNumber t

def isPlain (c : UInt8) : Bool := c ≠ 44 && c ≠ 125

def readValue (t : Str) : Option (JsonValue × Str) :=
  match t with
  | [] => none
  | c :: rest =>
    if c = 34 then (readString false rest).map fun r => (.string r.1, r.2)
    else if c = 123 then some (.object, rest.tail)
    else (readScalar (t.takeWhile isPlain)).map fun v => (v, t.dropWhile isPlain)

def readMember (t : Str) : Option ((Str × JsonValue) × Str) :=
  (readString false t.tail).bind fun r => (readValue r.2.tail).map fun v => ((r.1, v.1), v.2)

/-- The members up to the closing brace; every member but the last is followed by a comma. -/
def readMembers : Nat → Str → Option JsonMembers
  | 0, _ => none
  | bound + 1, t => match readMember t with
    | none => none
    | some (m, rest) =>
      if rest = [125] then some [m] else (readMembers bound rest.tail).map (m :: ·)

def read (t : Str) : Option JsonMembers :=
  match t with
  | [] => none
  | c :: rest =>
    if c ≠ 123 then none else if rest = [125] then some [] else readMembers rest.length rest

/-- What the reader makes of a value that was written. -/
def reread : JsonValue → JsonValue
  | .uint64 v =>
    if v.toNat < 9223372036854775808 then .int64 (Int64.ofInt v.toNat) else .uint64 v
  | .double _ => .int64 0
  | v => v

theorem readString_escape (s rest : Str) :
    readString false (escape s ++ 34 :: rest) = some (s, rest) := by
  induction s with
  | nil => simp [escape, readString]
  | cons c cs ih =>
    unfold escape
    split
    · rename_i hzero
      simp [readString, ih, hzero]
    · rename_i hzero
      split
      · rename_i hquote
        have hc : c ≠ 48 := by
          rintro rfl
          revert hquote
          decide
        simp [readString, ih, hc]
      · rename_i hquote
        obtain ⟨h34, h92⟩ := not_or.mp hquote
        simp [readString, ih, h34, h92]

theorem natText_isPlain (n : Nat) : ∀ c ∈ natText n, isPlain c = true ∧ c ≠ 34 ∧ c ≠ 123 := by
  intro c hc
  have hd : isDigit c = true := mem_digits hc
  simp only [isDigit, Bool.and_eq_true, decide_eq_true_eq, UInt8.le_iff_toNat_le] at hd
  simp only [isPlain, Bool.and_eq_true, ne_eq, decide_not, Bool.not_eq_true',
    decide_eq_false_iff_not, ← UInt8.toNat_inj]
  simp at hd ⊢
  omega

theorem intText_isPlain (v : Int) : ∀ c ∈ intText v, isPlain c = true ∧ c ≠ 34 ∧ c ≠ 123 := by
  intro c hc
  unfold intText at hc
  split at hc
  · rcases List.mem_cons.mp hc with rfl | hc
    · decide
    · exact natText_isPlain _ c hc
  · exact natText_isPlain _ c hc

theorem intText_ne_nil (v : Int) : intText v ≠ [] := by
  unfold intText
  split
  · exact List.cons_ne_nil _ _
  · exact natText_ne_nil _

theorem readNumber_intText (v : Int64) : readNumber (intText v.toInt) = some (.int64 v) := by
  have hlo := v.le_toInt
  have hhi := v.toInt_lt
  have hback : Int64.ofInt v.toInt = v := Int64.ofInt_toInt v
  unfold readNumber
  rw [readInteger_intText]
  by_cases hv : v.toInt < 0
  · have habs : -(v.toInt.natAbs : Int) = v.toInt := by omega
    simp only [hv, decide_true, habs, hback]
  · have habs : (v.toInt.natAbs : Int) = v.toInt := by omega
    have hsmall : v.toInt.natAbs < 9223372036854775808 := by omega
    simp only [hv, decide_false, habs, hback, if_pos hsmall]

theorem readNumber_natText (v : UInt64) :
    readNumber (natText v.toNat) = some (reread (.uint64 v)) := by
  unfold readNumber reread
  rw [readInteger_natText]
  dsimp only
  split
  · rfl
  · rw [UInt64.ofNat_toNat]

/-- A text that stands for no word is read as a number. -/
theorem readScalar_number {t : Str} (h : readInteger t ≠ none) : readScalar t = readNumber t := by
  unfold readScalar
  have hword : ∀ w : Str, readInteger w = none → t ≠ w := by
    rintro w hw rfl
    exact h hw
  rw [if_neg (hword _ (by decide)), if_neg (hword _ (by decide)), if_neg (hword _ (by decide)),
    if_neg (hword _ (by decide))]

theorem readValue_plain {t rest : Str} {v : JsonValue} (hne : t ≠ [])
    (hplain : ∀ c ∈ t, isPlain c = true ∧ c ≠ 34 ∧ c ≠ 123) (hread : readScalar t = some v)
    (hrest : ∀ c ∈ rest.head?, isPlain c = false) : readValue (t ++ rest) = some (v, rest) := by
  have hall : ∀ c ∈ t, isPlain c = true := fun c hc => (hplain c hc).1
  have htake : (t ++ rest).takeWhile isPlain = t := by
    rw [List.takeWhile_append_of_pos hall]
    cases rest with
    | nil => simp
    | cons c cs => simp [hrest c rfl]
  have hdrop : (t ++ rest).dropWhile isPlain = rest := by
    rw [List.dropWhile_append_of_pos hall]
    cases rest with
    | nil => rfl
    | cons c cs => simp [hrest c rfl]
  cases t with
  | nil => exact absurd rfl hne
  | cons c cs =>
    obtain ⟨_, h34, h123⟩ := hplain c List.mem_cons_self
    rw [List.cons_append] at htake hdrop ⊢
    simp only [readValue, h34, h123, if_false, htake, hdrop, hread, Option.map_some]

theorem readValue_valueText (v : JsonValue) {rest : Str}
    (hrest : ∀ c ∈ rest.head?, isPlain c = false) :
    readValue (valueText v ++ rest) = some (reread v, rest) := by
  cases v with
  | null => exact readValue_plain (by decide) (by decide +kernel) (by decide) hrest
  | bool b =>
    cases b with
    | false => exact readValue_plain (by decide) (by decide +kernel) (by decide) hrest
    | true => exact readValue_plain (by decide) (by decide +kernel) (by decide) hrest
  | int64 v =>
    have hnumber : readInteger (intText v.toInt) ≠ none := by simp [readInteger_intText]
    refine readValue_plain (intText_ne_nil _) (intText_isPlain _) ?_ hrest
    exact (readScalar_number hnumber).trans (readNumber_intText v)
  | uint64 v =>
    have hnumber : readInteger (natText v.toNat) ≠ none := by simp [readInteger_natText]
    refine readValue_plain (natText_ne_nil _) (natText_isPlain _) ?_ hrest
    exact (readScalar_number hnumber).trans (readNumber_natText v)
  | double bits =>
    have hzero : readScalar (str "0") = some (.int64 0) := by decide
    exact readValue_plain (t := str "0") (by decide) (by decide +kernel) hzero hrest
  | string s => simp [valueText, quote, readValue, readString_escape, reread]
  | array => exact readValue_plain (by decide) (by decide +kernel) (by decide) hrest
  | object => rfl

theorem readMember_memberText (m : Str × JsonValue) {rest : Str}
    (hrest : ∀ c ∈ rest.head?, isPlain c = false) :
    readMember (memberText m ++ rest) = some ((m.1, reread m.2), rest) := by
  have hvalue := readValue_valueText m.2 hrest
  simp [readMember, memberText, quote, readString_escape, hvalue]

theorem readMembers_write {bound : Nat} {m : Str × JsonValue} {ms : JsonMembers}
    (h : ms.length < bound) :
    readMembers bound (List.intercalate [44] ((m :: ms).map memberText) ++ [125]) =
      some ((m :: ms).map fun m => (m.1, reread m.2)) := by
  induction ms generalizing bound m with
  | nil =>
    cases bound with
    | zero => exact absurd h (by decide)
    | succ bound =>
      have hlast : readMember (memberText m ++ [125]) = some ((m.1, reread m.2), [125]) :=
        readMember_memberText m (by decide +kernel)
      simp [readMembers, List.intercalate, hlast]
  | cons n ns ih =>
    cases bound with
    | zero => exact absurd h (Nat.not_lt_zero _)
    | succ bound =>
      have hrest := @ih bound n (Nat.lt_of_succ_lt_succ h)
      generalize htext : List.intercalate [44] ((n :: ns).map memberText) ++ [125] = text at hrest
      have hcut : List.intercalate [44] ((m :: n :: ns).map memberText) ++ [125] =
          memberText m ++ 44 :: text := by
        rw [← htext]
        simp [List.intercalate]
      have hfirst : readMember (memberText m ++ 44 :: text) =
          some ((m.1, reread m.2), 44 :: text) := readMember_memberText m (by simp [isPlain])
      rw [hcut]
      simp [readMembers, hfirst, hrest]

theorem length_le_intercalate (ms : JsonMembers) :
    ms.length ≤ (List.intercalate [44] (ms.map memberText)).length := by
  induction ms with
  | nil => exact Nat.le_refl 0
  | cons m ms ih =>
    cases ms with
    | nil => simp [List.intercalate, memberText, quote]
    | cons n ns =>
      have hmember : 0 < (memberText m).length := by simp [memberText, quote]
      rw [List.map_cons, List.map_cons, List.intercalate_cons_cons, List.length_append,
        List.length_append]
      simp only [List.length_cons, List.length_nil, List.map_cons] at ih ⊢
      omega

theorem read_write (ms : JsonMembers) :
    read (write ms) = some (ms.map fun m => (m.1, reread m.2)) := by
  cases ms with
  | nil => rfl
  | cons m ms =>
    have hlength := length_le_intercalate (m :: ms)
    have hne : List.intercalate [44] ((m :: ms).map memberText) ++ [125] ≠ [125] := by
      intro h
      have := congrArg List.length h
      simp only [List.length_append, List.length_cons, List.length_nil] at this hlength
      omega
    have hbound : ms.length <
        (List.intercalate [44] ((m :: ms).map memberText) ++ [125]).length := by
      simp only [List.length_append, List.length_cons, List.length_nil] at hlength ⊢
      omega
    unfold read write
    dsimp only
    rw [if_neg (by decide), if_neg hne, readMembers_write hbound]

theorem escape_zero (s : Str) : 0 ∉ escape s := by
  induction s with
  | nil => exact List.not_mem_nil
  | cons c cs ih =>
    unfold escape
    split
    · simp [ih]
    · rename_i hzero
      split
      · simp [ih, Ne.symm hzero]
      · simp [ih, Ne.symm hzero]

theorem quote_zero (s : Str) : 0 ∉ quote s := by
  unfold quote
  simp [escape_zero]

theorem valueText_zero (v : JsonValue) : 0 ∉ valueText v := by
  cases v with
  | null => decide +kernel
  | bool b => cases b <;> decide +kernel
  | int64 v => exact intText_zero _
  | uint64 v =>
    change 0 ∉ natText v.toNat
    rw [← intText_natCast]
    exact intText_zero _
  | double bits =>
    change 0 ∉ str "0"
    decide +kernel
  | string s => exact quote_zero s
  | array => decide +kernel
  | object => decide +kernel

/-- No zero byte is written. -/
theorem write_zero (ms : JsonMembers) : 0 ∉ write ms := by
  have hmembers : 0 ∉ List.intercalate [44] (ms.map memberText) := by
    induction ms with
    | nil => exact List.not_mem_nil
    | cons m ms ih =>
      have hmember : 0 ∉ memberText m := by
        unfold memberText
        simp [quote_zero, valueText_zero]
      cases ms with
      | nil => simpa using hmember
      | cons n ns =>
        rw [List.map_cons, List.map_cons, List.intercalate_cons_cons]
        simpa [hmember] using ih
  unfold write
  simp [hmembers]

/-- The text of an object tells the names of its members. -/
theorem write_names {ms ns : JsonMembers} (h : write ms = write ns) :
    ms.map Prod.fst = ns.map Prod.fst := by
  have hread := (read_write ms).symm.trans ((congrArg read h).trans (read_write ns))
  have hnames := congrArg (List.map Prod.fst) (Option.some.inj hread)
  simpa [List.map_map, Function.comp_def] using hnames

end PubSub.FlatJson
