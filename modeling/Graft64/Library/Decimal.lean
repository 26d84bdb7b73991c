import Mathlib.Data.Int.Notation
import Mathlib.Data.Nat.Digits.Lemmas

/-! Strings as lists of code points, and decimal numerals. -/

namespace Graft64.Library

/-- A string as a sequence of code points; lone surrogates are allowed. -/
abbrev Str := List ℕ

def lit (s : String) : Str := s.toList.map Char.toNat

lemma lit_ofList (cs : List Char) : lit (String.ofList cs) = cs.map Char.toNat := by
  rw [lit, String.toList_ofList]

namespace Decimal

def isDigit (c : ℕ) : Bool := decide (48 ≤ c ∧ c ≤ 57)

def digit (d : ℕ) : ℕ := 48 + d

def ofNat (n : ℕ) : Str := if n = 0 then [48] else (Nat.digits 10 n).reverse.map digit

def ofInt : ℤ → Str
  | .ofNat n => ofNat n
  | .negSucc n => 45 :: ofNat (n + 1)

def value (ds : Str) : ℕ := ds.foldl (fun n c => 10 * n + (c - 48)) 0

lemma isDigit_digit {d : ℕ} (h : d < 10) : isDigit (digit d) = true := by
  simp [isDigit, digit]
  omega

lemma ofNat_ne_nil (n : ℕ) : ofNat n ≠ [] := by
  unfold ofNat
  split_ifs with h
  · simp
  · simpa [Nat.digits_eq_nil_iff_eq_zero] using h

lemma ofNat_isDigit {n : ℕ} {c : ℕ} (h : c ∈ ofNat n) : isDigit c = true := by
  unfold ofNat at h
  split_ifs at h with hn
  · obtain rfl := List.mem_singleton.mp h
    rfl
  · obtain ⟨d, hd, rfl⟩ := List.mem_map.mp h
    exact isDigit_digit (Nat.digits_lt_base (by omega : 1 < 10) (List.mem_reverse.mp hd))

lemma ofInt_lt {z : ℤ} {c : ℕ} (h : c ∈ ofInt z) : c < 128 := by
  have hd {n : ℕ} (hc : c ∈ ofNat n) : c < 128 := by
    have := ofNat_isDigit hc
    simp only [isDigit, decide_eq_true_eq] at this
    omega
  cases z with
  | ofNat n => exact hd h
  | negSucc n =>
    rcases List.mem_cons.mp h with rfl | h
    · decide
    · exact hd h

lemma ofNat_head {n : ℕ} (h : n ≠ 0) : (ofNat n).head? ≠ some 48 := by
  have hne : Nat.digits 10 n ≠ [] := Nat.digits_ne_nil_iff_ne_zero.mpr h
  have hl := Nat.getLast_digit_ne_zero 10 h
  simp only [ofNat, if_neg h, List.head?_map, List.head?_reverse, List.getLast?_eq_some_getLast hne,
    Option.map_some, ne_eq, Option.some.injEq, digit]
  omega

lemma value_append (xs ys : Str) (n : ℕ) :
    (xs ++ ys).foldl (fun n c => 10 * n + (c - 48)) n =
      ys.foldl (fun n c => 10 * n + (c - 48)) (xs.foldl (fun n c => 10 * n + (c - 48)) n) :=
  List.foldl_append

lemma value_digits (ds : List ℕ) : value (ds.reverse.map digit) = Nat.ofDigits 10 ds := by
  induction ds with
  | nil => rfl
  | cons d ds ih =>
    simp only [value] at ih
    rw [List.reverse_cons, List.map_append, value, value_append, ih, Nat.ofDigits_cons]
    simp [digit]
    omega

@[simp] lemma value_ofNat (n : ℕ) : value (ofNat n) = n := by
  unfold ofNat
  split_ifs with h
  · subst n
    rfl
  · rw [value_digits, Nat.ofDigits_digits]

lemma foldl_value_lt {ds : Str} (h : ∀ c ∈ ds, isDigit c = true) (n : ℕ) :
    ds.foldl (fun n c => 10 * n + (c - 48)) n < (n + 1) * 10 ^ ds.length := by
  induction ds generalizing n with
  | nil => simp
  | cons c ds ih =>
    obtain ⟨hc, hds⟩ := List.forall_mem_cons.mp h
    simp only [isDigit, decide_eq_true_eq] at hc
    calc ds.foldl (fun n c => 10 * n + (c - 48)) (10 * n + (c - 48))
        < (10 * n + (c - 48) + 1) * 10 ^ ds.length := ih hds _
      _ ≤ ((n + 1) * 10) * 10 ^ ds.length := Nat.mul_le_mul_right _ (by omega)
      _ = (n + 1) * 10 ^ (ds.length + 1) := by ring

lemma value_lt {ds : Str} (h : ∀ c ∈ ds, isDigit c = true) : value ds < 10 ^ ds.length := by
  have hv := foldl_value_lt h 0
  rwa [Nat.zero_add, Nat.one_mul] at hv

lemma ofNat_length_le_iff {n k : ℕ} (hk : 0 < k) : (ofNat n).length ≤ k ↔ n < 10 ^ k := by
  unfold ofNat
  split_ifs with h
  · subst n
    exact iff_of_true hk (Nat.pow_pos (by decide))
  · rw [List.length_map, List.length_reverse]
    exact Nat.digits_length_le_iff (by decide) n

lemma ofNat_length_le {ds : Str} (h : ∀ c ∈ ds, isDigit c = true) (hne : ds ≠ []) :
    (ofNat (value ds)).length ≤ ds.length :=
  (ofNat_length_le_iff (List.length_pos_of_ne_nil hne)).mpr (value_lt h)

end Decimal

end Graft64.Library
