import Mathlib.Algebra.Order.Floor.Div
import Mathlib.Order.Bounds.Basic

/-! Rounding up to a multiple of a power of two, in machine words. -/

namespace Graft64.Library.Alignment

def roundUp (p n : ℕ) : ℕ := p * (n ⌈/⌉ p)

lemma isLeast_roundUp {p : ℕ} (hp : 0 < p) (n : ℕ) : IsLeast {m | p ∣ m ∧ n ≤ m} (roundUp p n) := by
  constructor
  · exact ⟨Dvd.intro _ rfl, le_smul_ceilDiv hp⟩
  · rintro m ⟨⟨q, rfl⟩, hm⟩
    exact Nat.mul_le_mul_left p ((ceilDiv_le_iff_le_smul hp).mpr hm)

lemma roundUp_eq_div (p n : ℕ) : roundUp p n = (n + p - 1) / p * p := by
  rw [roundUp, Nat.ceilDiv_eq_add_pred_div, Nat.mul_comm]

lemma roundUp_lt {p : ℕ} (hp : 0 < p) (n : ℕ) : roundUp p n < n + p := by
  have hle := Nat.div_mul_le_self (n + p - 1) p
  rw [roundUp_eq_div]
  omega

lemma toNat_and_not {w k : ℕ} (x mask : BitVec w) (hmask : mask.toNat = 2 ^ k - 1) :
    (x &&& ~~~mask).toNat = x.toNat / 2 ^ k * 2 ^ k := by
  have hshift : x &&& ~~~mask = x >>> k <<< k := by
    apply BitVec.eq_of_getLsbD_eq
    intro i hi
    have hbit : mask.getLsbD i = decide (i < k) := by
      rw [BitVec.getLsbD, hmask, Nat.testBit_two_pow_sub_one]
    rw [BitVec.getLsbD_and, BitVec.getLsbD_not, hbit, BitVec.getLsbD_shiftLeft, BitVec.getLsbD_ushiftRight]
    by_cases hik : i < k
    · simp [hik]
    · simp [hik, hi, Nat.add_sub_cancel' (Nat.le_of_not_lt hik)]
  have hle := Nat.div_mul_le_self x.toNat (2 ^ k)
  rw [hshift, BitVec.toNat_shiftLeft, BitVec.toNat_ushiftRight, Nat.shiftRight_eq_div_pow, Nat.shiftLeft_eq]
  exact Nat.mod_eq_of_lt (by omega)

lemma toNat_roundUp {w k : ℕ} (hk : k < w) {page : BitVec w} (hpage : page.toNat = 2 ^ k) (x : BitVec w) :
    ((x + page - 1) &&& ~~~(page - 1)).toNat =
      if roundUp (2 ^ k) x.toNat < 2 ^ w then roundUp (2 ^ k) x.toNat else 0 := by
  have hpos : 0 < 2 ^ k := Nat.two_pow_pos k
  have hpow : 2 ^ k < 2 ^ w := Nat.pow_lt_pow_right (by omega) hk
  have hx := x.isLt
  have hone : (1 : BitVec w).toNat = 1 := BitVec.toNat_one (by omega)
  have hmask : (page - 1).toNat = 2 ^ k - 1 := by
    rw [BitVec.toNat_sub, hone, hpage, ← Nat.mod_eq_of_lt (show 2 ^ k - 1 < 2 ^ w by omega),
      ← Nat.add_mod_right (2 ^ k - 1)]
    congr 1
    omega
  have hsum : (x + page - 1).toNat = (x.toNat + 2 ^ k - 1) % 2 ^ w := by
    have hassoc : x + page - 1 = x + (page - 1) := by
      rw [BitVec.sub_eq_add_neg, BitVec.sub_eq_add_neg, BitVec.add_assoc]
    rw [hassoc, BitVec.toNat_add, hmask]
    congr 1
    omega
  rw [toNat_and_not _ _ hmask, hsum, roundUp_eq_div]
  have hle := Nat.div_mul_le_self (x.toNat + 2 ^ k - 1) (2 ^ k)
  by_cases hfit : x.toNat + 2 ^ k - 1 < 2 ^ w
  · rw [Nat.mod_eq_of_lt hfit, if_pos (by omega)]
  · have hmod : (x.toNat + 2 ^ k - 1) % 2 ^ w < 2 ^ k := by
      rw [Nat.mod_eq_sub_mod (by omega)]
      exact lt_of_le_of_lt (Nat.mod_le _ _) (by omega)
    have hge : 2 ^ w ≤ (x.toNat + 2 ^ k - 1) / 2 ^ k * 2 ^ k := by
      obtain ⟨q, hq⟩ := Nat.pow_dvd_pow 2 hk.le
      rw [hq, Nat.mul_comm]
      apply Nat.mul_le_mul_right
      rw [Nat.le_div_iff_mul_le hpos, Nat.mul_comm, ← hq]
      omega
    rw [Nat.div_eq_of_lt hmod, if_neg (by omega), Nat.zero_mul]

end Graft64.Library.Alignment
