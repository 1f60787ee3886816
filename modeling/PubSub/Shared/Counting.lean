import Mathlib.Algebra.Group.Nat.Defs
import Mathlib.Data.List.Nodup

/-!
# Counting with a counter that wraps

The numbers that a counter hands out, one after the other. A counter of a fixed width
starts again at zero, so they are distinct as long as there are fewer of them than values.
-/

namespace PubSub
set_option autoImplicit false

universe u

section Counter
variable {α : Type u} [Add α] [OfNat α 1]

/-- The counter after `k` steps. -/
def countOn (n : α) : Nat → α
  | 0 => n
  | k + 1 => countOn (n + 1) k

/-- The `k` numbers from `n` on. -/
def countFrom (n : α) : Nat → List α
  | 0 => []
  | k + 1 => n :: countFrom (n + 1) k

theorem countFrom_add (n : α) (j k : Nat) :
    countFrom n (j + k) = countFrom n j ++ countFrom (countOn n j) k := by
  induction j generalizing n with
  | zero => rw [Nat.zero_add, countFrom, countOn, List.nil_append]
  | succ j ih => rw [Nat.succ_add, countFrom, countFrom, countOn, ih, List.cons_append]

theorem mem_countFrom {n a : α} {k : Nat} : a ∈ countFrom n k ↔ ∃ i < k, a = countOn n i := by
  induction k generalizing n with
  | zero => simp [countFrom]
  | succ k ih =>
    rw [countFrom, List.mem_cons, ih]
    constructor
    · rintro (rfl | ⟨i, hi, rfl⟩)
      · exact ⟨0, Nat.succ_pos k, rfl⟩
      · exact ⟨i + 1, Nat.succ_lt_succ hi, rfl⟩
    · rintro ⟨i, hi, rfl⟩
      cases i with
      | zero => exact .inl rfl
      | succ i => exact .inr ⟨i, Nat.lt_of_succ_lt_succ hi, rfl⟩

end Counter

theorem toNat_countOn (n : UInt64) (k : Nat) :
    (countOn n k).toNat = (n.toNat + k) % 2 ^ 64 := by
  induction k generalizing n with
  | zero =>
    have h := n.toNat_lt
    rw [countOn, Nat.add_zero, Nat.mod_eq_of_lt h]
  | succ k ih =>
    rw [countOn, ih, UInt64.toNat_add]
    have hone : (1 : UInt64).toNat = 1 := rfl
    omega

theorem nodup_countFrom (n : UInt64) {k : Nat} (h : k ≤ 2 ^ 64) : (countFrom n k).Nodup := by
  induction k generalizing n with
  | zero => exact List.nodup_nil
  | succ k ih =>
    refine List.nodup_cons.mpr ⟨?_, ih (n + 1) (Nat.le_of_succ_le h)⟩
    intro hmem
    obtain ⟨i, hi, heq⟩ := mem_countFrom.mp hmem
    have hnat := congrArg UInt64.toNat heq
    rw [toNat_countOn, UInt64.toNat_add] at hnat
    have hone : (1 : UInt64).toNat = 1 := rfl
    have hlt := n.toNat_lt
    omega

/-- From one on, zero comes after all the other values. -/
theorem zero_mem_countFrom_one {k : Nat} : (0 : UInt64) ∈ countFrom 1 k ↔ 2 ^ 64 ≤ k := by
  have hone : (1 : UInt64).toNat = 1 := rfl
  rw [mem_countFrom]
  constructor
  · rintro ⟨i, hi, heq⟩
    have hnat := congrArg UInt64.toNat heq
    rw [toNat_countOn, UInt64.toNat_zero] at hnat
    omega
  · intro h
    refine ⟨2 ^ 64 - 1, by omega, ?_⟩
    apply UInt64.toNat_inj.mp
    have hlast := toNat_countOn 1 (2 ^ 64 - 1)
    have hzero : (0 : UInt64).toNat = 0 := rfl
    omega

end PubSub
