import Graft64.Library.Decimal
import Mathlib.Data.List.TakeWhile

/-! The records of a text, one a line, and the words between the blanks of a record. -/

namespace Graft64.Library.Fields

def flush (w : Str) : List Str := if w = [] then [] else [w]

def recordsFrom : Str → Str → List Str
  | w, [] => flush w
  | w, c :: s => if c = 10 then w :: recordsFrom [] s else recordsFrom (w ++ [c]) s

def records (text : Str) : List Str := recordsFrom [] text

section

variable (blank : ℕ → Bool)

def fieldsFrom : Str → Str → List Str
  | w, [] => flush w
  | w, c :: s => if blank c then flush w ++ fieldsFrom [] s else fieldsFrom (w ++ [c]) s

def fields (record : Str) : List Str := fieldsFrom blank [] record

def Word (w : Str) : Prop := w ≠ [] ∧ ∀ c ∈ w, blank c = false

def Blanks (s : Str) : Prop := ∀ c ∈ s, blank c = true

end

lemma flush_of_ne_nil {w : Str} (h : w ≠ []) : flush w = [w] := if_neg h

lemma recordsFrom_eq_nil {w s : Str} (h : recordsFrom w s = []) : w = [] ∧ s = [] := by
  induction s generalizing w with
  | nil =>
    rw [recordsFrom, flush] at h
    split_ifs at h with hw
    exact ⟨hw, rfl⟩
  | cons c s ih =>
    rw [recordsFrom] at h
    split_ifs at h
    exact absurd (ih h).1 (by simp)

lemma recordsFrom_eq_singleton_iff {w r : Str} (hw : 10 ∉ w) (s : Str) :
    recordsFrom w s = [r] ↔ 10 ∉ r ∧ (w ++ s = r ∧ r ≠ [] ∨ w ++ s = r ++ [10]) := by
  induction s generalizing w with
  | nil =>
    have hne : w ≠ r ++ [10] := fun he => hw (he ▸ by simp)
    rw [recordsFrom, List.append_nil, or_iff_left hne, flush]
    split_ifs with h
    · subst h
      simp [eq_comm]
    · simp only [List.cons.injEq, and_true]
      refine ⟨fun he => he ▸ ⟨hw, rfl, h⟩, fun he => he.2.1⟩
  | cons c s ih =>
    rw [recordsFrom]
    split_ifs with hc
    · subst hc
      rw [List.cons.injEq]
      constructor
      · rintro ⟨rfl, hs⟩
        obtain ⟨-, rfl⟩ := recordsFrom_eq_nil hs
        exact ⟨hw, .inr rfl⟩
      · rintro ⟨hr, ⟨rfl, -⟩ | he⟩
        · exact absurd (by simp) hr
        · -- the first newline of both sides is the same one
          obtain ⟨rfl, hs⟩ : w = r ∧ s = [] := by
            rcases List.append_eq_append_iff.mp he with ⟨v, rfl, hv⟩ | ⟨v, rfl, hv⟩
            · cases v with
              | nil => exact ⟨(List.append_nil _).symm, (List.cons.inj hv).2⟩
              | cons d v =>
                obtain ⟨rfl, -⟩ := List.cons.inj hv
                exact absurd (by simp) hr
            · cases v with
              | nil => exact ⟨List.append_nil _, (List.cons.inj hv).2.symm⟩
              | cons d v =>
                obtain ⟨rfl, -⟩ := List.cons.inj hv
                exact absurd (by simp) hw
          exact ⟨rfl, by rw [hs, recordsFrom, flush, if_pos rfl]⟩
    · have hw' : 10 ∉ w ++ [c] := by simp [hw, Ne.symm hc]
      rw [ih hw', List.append_assoc, List.singleton_append]

theorem records_eq_singleton_iff (text r : Str) :
    records text = [r] ↔ 10 ∉ r ∧ (text = r ∧ r ≠ [] ∨ text = r ++ [10]) :=
  recordsFrom_eq_singleton_iff (List.not_mem_nil) text

section

variable {blank : ℕ → Bool}

lemma fieldsFrom_word {u : Str} (h : ∀ c ∈ u, blank c = false) (w s : Str) :
    fieldsFrom blank w (u ++ s) = fieldsFrom blank (w ++ u) s := by
  induction u generalizing w with
  | nil => rw [List.nil_append, List.append_nil]
  | cons c u ih =>
    obtain ⟨hc, hu⟩ := List.forall_mem_cons.mp h
    rw [List.cons_append, fieldsFrom, hc, if_neg Bool.false_ne_true, ih hu, List.append_assoc,
      List.singleton_append]

lemma fields_blanks {u : Str} (h : Blanks blank u) (s : Str) : fields blank (u ++ s) = fields blank s := by
  induction u with
  | nil => rfl
  | cons c u ih =>
    obtain ⟨hc, hu⟩ := List.forall_mem_cons.mp h
    rw [fields, List.cons_append, fieldsFrom, if_pos hc, flush, if_pos rfl, List.nil_append]
    exact ih hu

lemma fields_blanks_only {u : Str} (h : Blanks blank u) : fields blank u = [] := by
  have hu := fields_blanks h []
  rw [List.append_nil] at hu
  exact hu

lemma fields_last {w : Str} (hw : Word blank w) : fields blank w = [w] := by
  have h := fieldsFrom_word hw.2 [] []
  rw [List.append_nil, List.nil_append] at h
  rw [fields, h, fieldsFrom, flush_of_ne_nil hw.1]

lemma fields_word {w s : Str} {c : ℕ} (hw : Word blank w) (hc : blank c = true) :
    fields blank (w ++ c :: s) = w :: fields blank s := by
  rw [fields, fieldsFrom_word hw.2, List.nil_append, fieldsFrom, if_pos hc, flush_of_ne_nil hw.1,
    List.singleton_append, fields]

lemma blanks_or_word (blank : ℕ → Bool) (s : Str) : Blanks blank s ∨
    ∃ pre w rest, s = pre ++ (w ++ rest) ∧ Blanks blank pre ∧ Word blank w ∧
      (rest = [] ∨ ∃ c rest', rest = c :: rest' ∧ blank c = true) := by
  have hpre : Blanks blank (s.takeWhile blank) := fun c hc => List.mem_takeWhile_imp hc
  rcases hd : s.dropWhile blank with _ | ⟨d, t⟩
  · left
    rw [← List.takeWhile_append_dropWhile (p := blank) (l := s), hd, List.append_nil]
    exact hpre
  · right
    have hb : blank d = false := by
      have h := List.head_dropWhile_not blank (l := s) (by simp [hd])
      simpa [hd] using h
    refine ⟨s.takeWhile blank, (d :: t).takeWhile (!blank ·), (d :: t).dropWhile (!blank ·), ?_,
      hpre, ⟨?_, ?_⟩, ?_⟩
    · rw [List.takeWhile_append_dropWhile, ← hd, List.takeWhile_append_dropWhile]
    · simp [hb]
    · intro c hc
      simpa using List.mem_takeWhile_imp hc
    · rcases he : (d :: t).dropWhile (!blank ·) with _ | ⟨e, r⟩
      · exact .inl rfl
      · have h := List.head_dropWhile_not (!blank ·) (l := d :: t) (by simp [he])
        exact .inr ⟨e, r, rfl, by simpa [he] using h⟩

lemma fields_eq_nil_iff (s : Str) : fields blank s = [] ↔ Blanks blank s := by
  constructor
  · intro h
    rcases blanks_or_word blank s with hb | ⟨pre, w, rest, rfl, hpre, hw, rfl | ⟨c, rest, rfl, hc⟩⟩
    · exact hb
    · rw [fields_blanks hpre, List.append_nil, fields_last hw] at h
      cases h
    · rw [fields_blanks hpre, fields_word hw hc] at h
      cases h
  · exact fields_blanks_only

theorem fields_eq_cons_iff (s w : Str) (ws : List Str) : fields blank s = w :: ws ↔
    ∃ pre rest, s = pre ++ (w ++ rest) ∧ Blanks blank pre ∧ Word blank w ∧
      (rest = [] ∨ ∃ c rest', rest = c :: rest' ∧ blank c = true) ∧ fields blank rest = ws := by
  constructor
  · intro h
    rcases blanks_or_word blank s with hb | ⟨pre, v, rest, rfl, hpre, hv, hrest⟩
    · rw [fields_blanks_only hb] at h
      cases h
    · have he : fields blank (pre ++ (v ++ rest)) = v :: fields blank rest := by
        rcases hrest with rfl | ⟨c, rest, rfl, hc⟩
        · rw [fields_blanks hpre, List.append_nil, fields_last hv]
          rfl
        · have hb : fields blank (c :: rest) = fields blank rest :=
            fields_blanks (u := [c]) (by simpa [Blanks] using hc) rest
          rw [fields_blanks hpre, fields_word hv hc, hb]
      rw [he] at h
      obtain ⟨rfl, rfl⟩ := List.cons.inj h
      exact ⟨pre, rest, rfl, hpre, hv, hrest, rfl⟩
  · rintro ⟨pre, rest, rfl, hpre, hw, rfl | ⟨c, rest, rfl, hc⟩, rfl⟩
    · rw [fields_blanks hpre, List.append_nil, fields_last hw]
      rfl
    · have hb : fields blank (c :: rest) = fields blank rest :=
        fields_blanks (u := [c]) (by simpa [Blanks] using hc) rest
      rw [fields_blanks hpre, fields_word hw hc, hb]

end

end Graft64.Library.Fields
