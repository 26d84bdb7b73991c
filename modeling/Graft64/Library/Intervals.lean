import Mathlib.Data.List.Pairwise
import Mathlib.Order.MinMax
import Mathlib.Tactic.Common

/-! Half-open intervals of a linear order, and the sweep that tells whether a list of them covers
a range. -/

namespace Graft64.Library.Intervals

variable {α : Type} [LinearOrder α]

def Covers (s : α × α) (a : α) : Prop := s.1 ≤ a ∧ a < s.2

def sweep (cursor : α) (spans : List (α × α)) : α :=
  spans.foldl (fun c s => if s.1 ≤ c ∧ c < s.2 then max c s.2 else c) cursor

@[simp] lemma sweep_nil (c : α) : sweep c [] = c := rfl

lemma sweep_cons (c : α) (s : α × α) (ss : List (α × α)) :
    sweep c (s :: ss) = sweep (if s.1 ≤ c ∧ c < s.2 then max c s.2 else c) ss := rfl

lemma sweep_cons_of_covers {c : α} {s : α × α} (h : Covers s c) (ss : List (α × α)) :
    sweep c (s :: ss) = sweep s.2 ss := by
  have hc : s.1 ≤ c ∧ c < s.2 := h
  rw [sweep_cons, if_pos hc, max_eq_right hc.2.le]

lemma sweep_cons_of_not_covers {c : α} {s : α × α} (h : ¬ Covers s c) (ss : List (α × α)) :
    sweep c (s :: ss) = sweep c ss := by
  have hc : ¬ (s.1 ≤ c ∧ c < s.2) := h
  rw [sweep_cons, if_neg hc]

lemma le_sweep (c : α) (ss : List (α × α)) : c ≤ sweep c ss := by
  induction ss generalizing c with
  | nil => exact le_rfl
  | cons s ss ih =>
    by_cases h : Covers s c
    · rw [sweep_cons_of_covers h]
      exact h.2.le.trans (ih s.2)
    · rw [sweep_cons_of_not_covers h]
      exact ih c

lemma covered_of_lt_sweep {c a : α} {ss : List (α × α)} (hc : c ≤ a) (ha : a < sweep c ss) :
    ∃ s ∈ ss, Covers s a := by
  induction ss generalizing c with
  | nil => exact absurd ha hc.not_gt
  | cons s ss ih =>
    by_cases h : Covers s c
    · rw [sweep_cons_of_covers h] at ha
      by_cases hs : a < s.2
      · exact ⟨s, List.mem_cons_self, h.1.trans hc, hs⟩
      · obtain ⟨t, ht, hta⟩ := ih (not_lt.mp hs) ha
        exact ⟨t, List.mem_cons_of_mem _ ht, hta⟩
    · rw [sweep_cons_of_not_covers h] at ha
      obtain ⟨t, ht, hta⟩ := ih hc ha
      exact ⟨t, List.mem_cons_of_mem _ ht, hta⟩

lemma sweep_eq_self {c : α} {ss : List (α × α)} (h : ∀ s ∈ ss, c < s.1) : sweep c ss = c := by
  induction ss with
  | nil => rfl
  | cons s ss ih =>
    have hs : ¬ Covers s c := fun hc => (h s List.mem_cons_self).not_ge hc.1
    rw [sweep_cons_of_not_covers hs]
    exact ih fun t ht => h t (List.mem_cons_of_mem _ ht)

lemma not_covers_sweep {c : α} {ss : List (α × α)} (hs : ss.Pairwise fun s t => s.1 ≤ t.1) :
    ∀ s ∈ ss, ¬ Covers s (sweep c ss) := by
  induction ss generalizing c with
  | nil => simp
  | cons s ss ih =>
    obtain ⟨hle, hss⟩ := List.pairwise_cons.mp hs
    intro t ht
    rcases List.mem_cons.mp ht with rfl | ht
    · by_cases h : Covers t c
      · rw [sweep_cons_of_covers h]
        exact fun hc => hc.2.not_ge (le_sweep _ _)
      · rw [sweep_cons_of_not_covers h]
        by_cases hc : t.1 ≤ c
        · have h2 : t.2 ≤ c := not_lt.mp fun h2 => h ⟨hc, h2⟩
          exact fun hc => hc.2.not_ge (h2.trans (le_sweep _ _))
        · -- every interval still to come starts beyond the cursor
          rw [sweep_eq_self fun u hu => (not_le.mp hc).trans_le (hle u hu)]
          exact h
    · by_cases h : Covers s c
      · rw [sweep_cons_of_covers h]
        exact ih hss t ht
      · rw [sweep_cons_of_not_covers h]
        exact ih hss t ht

theorem le_sweep_iff {start stop : α} {ss : List (α × α)} (hs : ss.Pairwise fun s t => s.1 ≤ t.1) :
    stop ≤ sweep start ss ↔ ∀ a, start ≤ a → a < stop → ∃ s ∈ ss, Covers s a := by
  constructor
  · intro h a ha hb
    exact covered_of_lt_sweep ha (hb.trans_le h)
  · intro h
    by_contra hlt
    obtain ⟨s, hmem, hc⟩ := h _ (le_sweep start ss) (not_le.mp hlt)
    exact not_covers_sweep hs s hmem hc

def Apart (r s t : α × α) : Prop := min r.2 (min s.2 t.2) ≤ max r.1 (max s.1 t.1)

lemma apart_iff {r s t : α × α} : Apart r s t ↔ ∀ a, Covers r a → Covers s a → ¬ Covers t a := by
  constructor
  · intro h a hr hs ht
    have h₁ : max r.1 (max s.1 t.1) ≤ a := max_le hr.1 (max_le hs.1 ht.1)
    have h₂ : a < min r.2 (min s.2 t.2) := lt_min hr.2 (lt_min hs.2 ht.2)
    exact (h₁.trans_lt h₂).not_ge h
  · intro h
    by_contra hlt
    obtain ⟨hr, hs, ht⟩ := (by simpa only [lt_min_iff] using not_le.mp hlt :
      max r.1 (max s.1 t.1) < r.2 ∧ max r.1 (max s.1 t.1) < s.2 ∧ max r.1 (max s.1 t.1) < t.2)
    exact h (max r.1 (max s.1 t.1)) ⟨le_max_left _ _, hr⟩ ⟨(le_max_left _ _).trans (le_max_right _ _), hs⟩
      ⟨(le_max_right _ _).trans (le_max_right _ _), ht⟩

end Graft64.Library.Intervals
