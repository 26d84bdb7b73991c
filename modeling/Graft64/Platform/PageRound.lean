import Graft64.Library.Alignment
import Graft64.Platform.Jit

/-! The sizes of code regions: `page_round`, whose sum may wrap, and the allocations that rest on it. -/

namespace Graft64.Platform.Jit

open Graft64.Library Alignment

def multiples (page size : Size) : Set ℕ := {m | page.toNat ∣ m ∧ size.toNat ≤ m}

def AllocOutcome.RejectsEmpty (o : AllocOutcome) (length : Size) : Prop :=
  length = 0 → (∀ base, o.mmap ≠ .ok base) ∧ ∀ base, o.fallback ≠ .ok base

lemma isLeast_multiples {k : ℕ} {page : Size} (hpage : page.toNat = 2 ^ k) (size : Size) :
    IsLeast (multiples page size) (roundUp (2 ^ k) size.toNat) := by
  rw [multiples, hpage]
  exact isLeast_roundUp (Nat.two_pow_pos k) size.toNat

lemma toNat_pageRound {k : ℕ} {page : Size} (hpage : page.toNat = 2 ^ k) (size : Size) :
    (pageRound page size).toNat = if roundUp (2 ^ k) size.toNat < 2 ^ 64
      then roundUp (2 ^ k) size.toNat else 0 := by
  have hk : k < 64 := by
    rw [← Nat.pow_lt_pow_iff_right (a := 2) (by omega), ← hpage]
    exact page.isLt
  exact Alignment.toNat_roundUp hk hpage size

lemma pageRound_isLeast {k : ℕ} {page : Size} (hpage : page.toNat = 2 ^ k) {size : Size}
    (h : pageRound page size ≠ 0) : IsLeast (multiples page size) (pageRound page size).toNat := by
  have hround := toNat_pageRound hpage size
  split_ifs at hround with hfit
  · rw [hround]
    exact isLeast_multiples hpage size
  · exact absurd (BitVec.eq_of_toNat_eq hround) h

lemma pageRound_eq_zero {k : ℕ} {page : Size} (hpage : page.toNat = 2 ^ k) {size : Size} (h : size ≠ 0) :
    pageRound page size = 0 ↔ ∀ m, IsLeast (multiples page size) m → 2 ^ 64 ≤ m := by
  have hround := toNat_pageRound hpage size
  have hleast := isLeast_multiples hpage size
  have hsize : 0 < size.toNat := Nat.pos_of_ne_zero fun h0 => h (BitVec.eq_of_toNat_eq h0)
  have hle : size.toNat ≤ roundUp (2 ^ k) size.toNat := hleast.1.2
  constructor
  · intro h0 m hm
    obtain rfl := hm.unique hleast
    rw [h0] at hround
    by_contra hfit
    rw [if_pos (Nat.lt_of_not_le hfit)] at hround
    exact absurd hround.symm (by change _ ≠ 0; omega)
  · intro hm
    rw [if_neg (Nat.not_lt.mpr (hm _ hleast))] at hround
    exact BitVec.eq_of_toNat_eq hround

lemma graftJitAlloc_ok {t : Target} {page : Size} {o : AllocOutcome} {size : Size} {w : World}
    (h : (graftJitAlloc t page o size w).1 = .ok ()) :
    (graftJitAlloc t page o size w).2.region.size = pageRound page size ∧
      ((∃ base, o.mmap = .ok base) ∨ ∃ base, o.fallback = .ok base) := by
  rw [graftJitAlloc] at h ⊢
  split_ifs at h ⊢ with hsize ht
  · cases hm : o.mmap with
    | ok base => exact ⟨rfl, .inl ⟨base, rfl⟩⟩
    | error e =>
      cases hf : o.fallback with
      | ok base => exact ⟨rfl, .inr ⟨base, rfl⟩⟩
      | error e => simp [hm, hf] at h
  · cases hm : o.mmap with
    | ok base => exact ⟨rfl, .inl ⟨base, rfl⟩⟩
    | error e => simp [hm] at h

/-- A wrapped sum is rounded to 0, never to a small region, and an allocation of 0 bytes fails. -/
theorem page_round_least {k : ℕ} {page : Size} (hpage : page.toNat = 2 ^ k) (size : Size) :
    (pageRound page size = 0 ∨ IsLeast (multiples page size) (pageRound page size).toNat) ∧
      (size ≠ 0 → (pageRound page size = 0 ↔ ∀ m, IsLeast (multiples page size) m → 2 ^ 64 ≤ m)) ∧
      ∀ (t : Target) (o : AllocOutcome) (w : World), o.RejectsEmpty (pageRound page size) →
        (graftJitAlloc t page o size w).1 = .ok () →
          page.toNat ∣ (graftJitAlloc t page o size w).2.region.size.toNat ∧
            size.toNat ≤ (graftJitAlloc t page o size w).2.region.size.toNat ∧
            (graftJitAlloc t page o size w).2.region.size.toNat < size.toNat + page.toNat := by
  refine ⟨or_iff_not_imp_left.mpr (pageRound_isLeast hpage), pageRound_eq_zero hpage, ?_⟩
  intro t o w hempty hok
  obtain ⟨hregion, hmapped⟩ := graftJitAlloc_ok hok
  have hne : pageRound page size ≠ 0 := by
    intro h0
    obtain ⟨hm, hf⟩ := hempty h0
    obtain ⟨base, hb⟩ | ⟨base, hb⟩ := hmapped
    · exact hm base hb
    · exact hf base hb
  have hleast := pageRound_isLeast hpage hne
  have hround := hleast.unique (isLeast_multiples hpage size)
  have hlt := roundUp_lt (Nat.two_pow_pos k) size.toNat
  rw [hregion]
  refine ⟨hleast.1.1, hleast.1.2, ?_⟩
  rw [hround, hpage]
  exact hlt

theorem page_round_two_pages :
    4096 ∣ (graftJitAlloc .linux 4096 ⟨.ok 65536, .error EINVAL⟩ 4097 .empty).2.region.size.toNat ∧
      4097 ≤ (graftJitAlloc .linux 4096 ⟨.ok 65536, .error EINVAL⟩ 4097 .empty).2.region.size.toNat ∧
      (graftJitAlloc .linux 4096 ⟨.ok 65536, .error EINVAL⟩ 4097 .empty).2.region.size.toNat < 4097 + 4096 :=
  have hpage : (4096 : Size).toNat = 2 ^ 12 := rfl
  have hround : pageRound 4096 4097 ≠ 0 := by decide
  (page_round_least hpage 4097).2.2 .linux ⟨.ok 65536, .error EINVAL⟩ .empty (fun h => absurd h hround) rfl

end Graft64.Platform.Jit
