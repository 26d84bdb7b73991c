import Mathlib.Data.List.Infix
import Mathlib.Data.List.Basic

/-! Records that stand one after the other, each of which says where the next one starts. -/

namespace Graft64.Library.Records

variable {fits : ℕ → Prop} {next : ℕ → ℕ}

def Chain (fits : ℕ → Prop) (next : ℕ → ℕ) : ℕ → List ℕ → Prop
  | _, [] => True
  | o, r :: rs => r = o ∧ fits o ∧ Chain fits next (next o) rs

/-- A chain of at most `n` records that no other one is longer than. -/
structure Longest (fits : ℕ → Prop) (next : ℕ → ℕ) (n o : ℕ) (rs : List ℕ) : Prop where
  chain : Chain fits next o rs
  length_le : rs.length ≤ n
  le_length : ∀ rs', Chain fits next o rs' → rs'.length ≤ n → rs'.length ≤ rs.length

lemma Longest.zero (o : ℕ) : Longest fits next 0 o [] :=
  ⟨trivial, Nat.le_refl 0, fun _ _ h => h⟩

lemma Longest.of_not_fits {n o : ℕ} (h : ¬ fits o) : Longest fits next n o [] := by
  refine ⟨trivial, Nat.zero_le n, ?_⟩
  rintro (_ | ⟨r, rs⟩) hrs -
  · exact Nat.le_refl 0
  · exact absurd hrs.2.1 h

lemma Longest.cons {n o : ℕ} {rs : List ℕ} (h : fits o) (hrs : Longest fits next n (next o) rs) :
    Longest fits next (n + 1) o (o :: rs) := by
  refine ⟨⟨rfl, h, hrs.chain⟩, Nat.succ_le_succ hrs.length_le, ?_⟩
  rintro (_ | ⟨r, rs'⟩) hrs' hle
  · exact Nat.zero_le _
  · exact Nat.succ_le_succ (hrs.le_length rs' hrs'.2.2 (Nat.le_of_succ_le_succ hle))

lemma Chain.isPrefix {o : ℕ} {rs rs' : List ℕ} (h : Chain fits next o rs) (h' : Chain fits next o rs')
    (hle : rs.length ≤ rs'.length) : rs <+: rs' := by
  induction rs generalizing o rs' with
  | nil => exact List.nil_prefix
  | cons r rs ih =>
    cases rs' with
    | nil => simp at hle
    | cons r' rs' =>
      obtain ⟨rfl, -, hrs⟩ := h
      obtain ⟨rfl, -, hrs'⟩ := h'
      exact List.cons_prefix_cons.mpr ⟨rfl, ih hrs hrs' (Nat.le_of_succ_le_succ hle)⟩

lemma Longest.unique {n o : ℕ} {rs rs' : List ℕ} (h : Longest fits next n o rs)
    (h' : Longest fits next n o rs') : rs = rs' := by
  have hle := h'.le_length rs h.chain h.length_le
  have hge := h.le_length rs' h'.chain h'.length_le
  exact (h.chain.isPrefix h'.chain hle).eq_of_length (Nat.le_antisymm hle hge)

end Graft64.Library.Records
