import Mathlib.Data.List.Lex
import Mathlib.Data.List.Pairwise
import Mathlib.Data.List.Sort
import Mathlib.Data.Nat.Basic

/-! Sorting by a key: strings by code point, names by byte, paths by their names. -/

namespace Graft64.Library

variable {α κ : Type} [LinearOrder κ]

def sortBy (key : α → κ) (xs : List α) : List α := xs.insertionSort fun a b => key a ≤ key b

variable {key key' : α → κ} {xs ys : List α}

lemma sortBy_perm (key : α → κ) (xs : List α) : (sortBy key xs).Perm xs :=
  List.perm_insertionSort _ xs

@[simp] lemma mem_sortBy {a : α} : a ∈ sortBy key xs ↔ a ∈ xs :=
  (sortBy_perm key xs).mem_iff

lemma sortBy_nodup (h : xs.Nodup) : (sortBy key xs).Nodup :=
  (sortBy_perm key xs).nodup_iff.mpr h

instance keyTotal (key : α → κ) : Std.Total fun a b => key a ≤ key b :=
  ⟨fun a b => le_total (key a) (key b)⟩

instance keyTrans (key : α → κ) : IsTrans α fun a b => key a ≤ key b :=
  ⟨fun _ _ _ => le_trans⟩

lemma sortBy_pairwise (key : α → κ) (xs : List α) :
    (sortBy key xs).Pairwise fun a b => key a ≤ key b :=
  List.pairwise_insertionSort (fun a b => key a ≤ key b) xs

lemma sortBy_unique (hk : ∀ a ∈ xs, ∀ b ∈ xs, key a = key b → a = b) (hp : ys.Perm xs)
    (hs : ys.Pairwise fun a b => key a ≤ key b) : ys = sortBy key xs := by
  refine List.Perm.eq_of_pairwise ?_ hs (sortBy_pairwise key xs) (hp.trans (sortBy_perm key xs).symm)
  intro a b ha hb hab hba
  exact hk a (hp.mem_iff.mp ha) b (mem_sortBy.mp hb) (le_antisymm hab hba)

/-- Two keys sort a list alike exactly when they compare its members alike. -/
theorem sortBy_eq_iff (hk : ∀ a ∈ xs, ∀ b ∈ xs, key a = key b → a = b)
    (hk' : ∀ a ∈ xs, ∀ b ∈ xs, key' a = key' b → a = b) :
    sortBy key xs = sortBy key' xs ↔ ∀ a ∈ xs, ∀ b ∈ xs, (key a ≤ key b ↔ key' a ≤ key' b) := by
  constructor
  · intro he
    -- any two members stand in one order in the common list, and both keys agree with it
    have hp : (sortBy key xs).Pairwise fun a b =>
        (key a ≤ key b ∧ key' a ≤ key' b) ∨ (key b ≤ key a ∧ key' b ≤ key' a) := by
      refine ((sortBy_pairwise key xs).and (he ▸ sortBy_pairwise key' xs)).imp ?_
      exact fun h => .inl h
    have : Std.Symm fun a b : α =>
        (key a ≤ key b ∧ key' a ≤ key' b) ∨ (key b ≤ key a ∧ key' b ≤ key' a) := ⟨fun _ _ => Or.symm⟩
    intro a ha b hb
    by_cases hab : a = b
    · simp [hab]
    · rcases hp.forall (mem_sortBy.mpr ha) (mem_sortBy.mpr hb) hab with ⟨h, h'⟩ | ⟨h, h'⟩
      · exact iff_of_true h h'
      · refine iff_of_false (fun hle => hab ?_) (fun hle => hab ?_)
        · exact hk a ha b hb (le_antisymm hle h)
        · exact hk' a ha b hb (le_antisymm hle h')
  · intro h
    refine sortBy_unique hk' (sortBy_perm key xs) ?_
    refine (sortBy_pairwise key xs).imp_of_mem ?_
    intro a b ha hb hle
    exact (h a (mem_sortBy.mp ha) b (mem_sortBy.mp hb)).mp hle

end Graft64.Library
