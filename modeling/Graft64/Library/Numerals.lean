import Graft64.Library.Decimal
import Mathlib.Data.List.TakeWhile

/-! The conversions `strtol` and `strtoull` of the C library, in base 10 with 64-bit results. -/

namespace Graft64.Library.Numerals

open Decimal

def isSpace (c : ℕ) : Bool := decide (c = 32 ∨ 9 ≤ c ∧ c ≤ 13)

structure Subject where
  negative : Bool
  digits : Str
  rest : Str

def subject (s : Str) : Subject :=
  match s.dropWhile isSpace with
  | 45 :: u => ⟨true, u.takeWhile isDigit, u.dropWhile isDigit⟩
  | 43 :: u => ⟨false, u.takeWhile isDigit, u.dropWhile isDigit⟩
  | u => ⟨false, u.takeWhile isDigit, u.dropWhile isDigit⟩

def LONG_MAX : ℕ := 2 ^ 63 - 1
def ULLONG_MAX : ℕ := 2 ^ 64 - 1

def strtol (s : Str) : ℤ × Str :=
  let p := subject s
  if p.digits = [] then (0, s)
  else if p.negative then (-(min (value p.digits) (LONG_MAX + 1) : ℕ), p.rest)
  else ((min (value p.digits) LONG_MAX : ℕ), p.rest)

/-- A negative number in range is negated in the unsigned type. -/
def strtoull (s : Str) : ℕ × Str :=
  let p := subject s
  if p.digits = [] then (0, s)
  else if ULLONG_MAX < value p.digits then (ULLONG_MAX, p.rest)
  else if p.negative then ((ULLONG_MAX + 1 - value p.digits) % (ULLONG_MAX + 1), p.rest)
  else (value p.digits, p.rest)

lemma subject_ofNat (n : ℕ) : subject (ofNat n) = ⟨false, ofNat n, []⟩ := by
  have hd : ∀ c ∈ ofNat n, isDigit c = true := fun c hc => ofNat_isDigit hc
  have ht : (ofNat n).takeWhile isDigit = ofNat n := List.takeWhile_eq_self_iff.mpr hd
  have hr : (ofNat n).dropWhile isDigit = [] := List.dropWhile_eq_nil_iff.mpr hd
  have hne := ofNat_ne_nil n
  generalize ofNat n = s at hd ht hr hne
  cases s with
  | nil => exact absurd rfl hne
  | cons c u =>
    have hc := hd c List.mem_cons_self
    simp only [isDigit, decide_eq_true_eq] at hc
    have hs : isSpace c = false := by
      simp [isSpace]
      omega
    rw [subject, List.dropWhile_cons_of_neg (by simp [hs])]
    split
    · rename_i h
      obtain ⟨rfl, -⟩ := List.cons.inj h
      omega
    · rename_i h
      obtain ⟨rfl, -⟩ := List.cons.inj h
      omega
    · rw [ht, hr]

theorem strtol_ofNat {n : ℕ} (h : n ≤ LONG_MAX) : strtol (ofNat n) = ((n : ℤ), []) := by
  simp [strtol, subject_ofNat, ofNat_ne_nil, Nat.min_eq_left h]

theorem strtoull_ofNat {n : ℕ} (h : n ≤ ULLONG_MAX) : strtoull (ofNat n) = (n, []) := by
  simp [strtoull, subject_ofNat, ofNat_ne_nil, Nat.not_lt.mpr h]

end Graft64.Library.Numerals
