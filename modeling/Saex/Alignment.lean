import Mathlib.Data.Nat.Basic
import Mathlib.Order.Bounds.Basic
import Mathlib.Tactic.Ring

/-! Alignment by masks: what `x & ~(a-1)` and `a & (a-1)` are in the naturals when `a` is a
power of two. -/
namespace Alignment

variable {w k : ℕ} {a : BitVec w}

theorem toNat_pred (h : 0 < a.toNat) : (a-1).toNat = a.toNat-1 := by
  have hone : (1#w).toNat = 1 := by
    rw [BitVec.toNat_ofNat, Nat.mod_eq_of_lt (lt_of_le_of_lt h a.isLt)]
  have hle : 1#w ≤ a := by rwa [BitVec.le_def, hone]
  have hsub := BitVec.toNat_sub_of_le hle
  rwa [hone] at hsub

theorem and_pred_eq_zero_iff (h : 0 < a.toNat) : a &&& (a-1) = 0 ↔ ∃ k, a.toNat = 2^k := by
  rw [← BitVec.toNat_inj, BitVec.toNat_and, toNat_pred h]
  exact Nat.and_sub_one_eq_zero_iff_isPowerOfTwo h.ne'

theorem getLsbD_pred (h : a.toNat = 2^k) (i : ℕ) : (a-1).getLsbD i = decide (i < k) := by
  have hpos : 0 < a.toNat := h ▸ Nat.two_pow_pos k
  rw [BitVec.getLsbD, toNat_pred hpos, h, Nat.testBit_two_pow_sub_one]

/-- Masking rounds down to a multiple. -/
theorem toNat_and_not_pred (h : a.toNat = 2^k) (x : BitVec w) :
    (x &&& ~~~(a-1)).toNat = x.toNat/2^k*2^k := by
  have hshift : x &&& ~~~(a-1) = (x >>> k) <<< k := by
    refine BitVec.eq_of_getLsbD_eq fun i hi => ?_
    rw [BitVec.getLsbD_and, BitVec.getLsbD_not, getLsbD_pred h, BitVec.getLsbD_shiftLeft,
      BitVec.getLsbD_ushiftRight]
    by_cases hk : i < k
    · simp [hk]
    · simp [hi, hk, Nat.add_sub_cancel' (not_lt.mp hk)]
  have hle : x.toNat/2^k*2^k ≤ x.toNat := Nat.div_mul_le_self ..
  rw [hshift, BitVec.toNat_shiftLeft, BitVec.toNat_ushiftRight, Nat.shiftLeft_eq,
    Nat.shiftRight_eq_div_pow, Nat.mod_eq_of_lt (hle.trans_lt x.isLt)]

/-- The next multiple strictly above. -/
theorem isLeast_next {a : ℕ} (ha : 0 < a) (r : ℕ) :
    IsLeast {n | a ∣ n ∧ r < n} ((r+a)/a*a) := by
  have hnext : (r+a)/a*a = r/a*a+a := by rw [Nat.add_div_right r ha, Nat.succ_mul]
  have hsplit := Nat.div_add_mod' r a
  have hmod := Nat.mod_lt r ha
  refine ⟨⟨Dvd.intro_left _ rfl,by omega⟩,?_⟩
  rintro n ⟨⟨c,rfl⟩,hlt⟩
  have hc : r/a < c := (Nat.div_lt_iff_lt_mul ha).mpr (by rwa [Nat.mul_comm])
  calc (r+a)/a*a = (r/a+1)*a := by rw [hnext, Nat.succ_mul]
    _ ≤ c*a := Nat.mul_le_mul_right a hc
    _ = a*c := Nat.mul_comm c a

end Alignment
