import Mathlib.Algebra.Group.Nat.Defs
import Mathlib.Data.Nat.Notation
import Mathlib.Tactic.Common

/-! Little-endian fields of byte strings. -/

namespace Graft64.Library.LittleEndian

def encode : ℕ → ℕ → List UInt8
  | 0, _ => []
  | w + 1, n => UInt8.ofNat n :: encode w (n / 256)

def value : List UInt8 → ℕ
  | [] => 0
  | b :: bs => b.toNat + 256 * value bs

def field (bs : List UInt8) (offset w : ℕ) : ℕ := value ((bs.drop offset).take w)

@[simp] lemma encode_length (w n : ℕ) : (encode w n).length = w := by
  induction w generalizing n with
  | zero => rfl
  | succ w ih => simp [encode, ih]

lemma value_encode {w n : ℕ} (h : n < 256 ^ w) : value (encode w n) = n := by
  induction w generalizing n with
  | zero => simp_all [value, encode]
  | succ w ih =>
    have hd : n / 256 < 256 ^ w := Nat.div_lt_of_lt_mul (by rwa [Nat.pow_succ, Nat.mul_comm] at h)
    simp only [encode, value, ih hd, UInt8.toNat_ofNat']
    omega

lemma value_lt (bs : List UInt8) : value bs < 256 ^ bs.length := by
  induction bs with
  | nil => simp [value]
  | cons b bs ih =>
    have hb := b.toNat_lt
    simp only [value, List.length_cons, Nat.pow_succ]
    omega

lemma field_encode {front back : List UInt8} {offset w n : ℕ} (ho : front.length = offset) (h : n < 256 ^ w) :
    field (front ++ (encode w n ++ back)) offset w = n := by
  rw [field, ← ho, List.drop_left, List.take_left' (encode_length w n), value_encode h]

lemma field_encode_zero {back : List UInt8} {w n : ℕ} (h : n < 256 ^ w) : field (encode w n ++ back) 0 w = n :=
  field_encode (List.length_nil) h

end Graft64.Library.LittleEndian
