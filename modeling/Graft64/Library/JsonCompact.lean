import Graft64.Library.Json
import Mathlib.Data.List.TakeWhile

/-! The compact rendering of JSON values, whose strings stand for themselves. -/

namespace Graft64.Library.Json

def Plain (s : Str) : Prop := ∀ c ∈ s, 32 ≤ c ∧ c ≠ 34 ∧ c ≠ 92

def compact : Layout := ⟨id, [58], fun _ => []⟩

lemma joinPairs_plain (s : Str) : joinPairs (s.map fun c => (c, false)) = s := by
  induction s with
  | nil => rfl
  | cons c s ih =>
    cases s with
    | nil => rfl
    | cons d s =>
      rw [List.map_cons] at ih
      simp only [List.map_cons, joinPairs, Bool.false_and, Bool.false_eq_true, if_false, ih]

lemma scan_char {c : ℕ} (h : 32 ≤ c ∧ c ≠ 34 ∧ c ≠ 92) (s : Str) :
    scan (c :: s) = (scan s).map fun r => ((c, false) :: r.1, r.2) := by
  rw [scan.eq_def]
  simp only
  rw [if_neg h.2.1, if_neg h.2.2, if_neg (by omega)]

lemma scan_plain {s : Str} (h : Plain s) (r : Str) :
    scan (s ++ 34 :: r) = some (s.map fun c => (c, false), r) := by
  induction s with
  | nil =>
    rw [List.nil_append, scan.eq_def]
    rfl
  | cons c s ih =>
    obtain ⟨hc, hs⟩ := List.forall_mem_cons.mp h
    rw [List.cons_append, scan_char hc, ih hs]
    rfl

lemma compact_lawful : compact.Lawful Plain where
  quote s r h := by
    simp only [compact, id, string, scan_plain h, Option.map_some, joinPairs_plain]
  colon := ⟨[], rfl, by simp⟩
  newline := by simp [compact]

lemma joinPairs_length (us : List (ℕ × Bool)) : (joinPairs us).length ≤ us.length := by
  fun_induction joinPairs us with
  | case1 => simp
  | case2 u => simp
  | case3 u v us h ih => simp only [List.length_cons]; omega
  | case4 u v us h ih => simp only [List.length_cons] at ih ⊢; omega

lemma scan_length {s r : Str} {us : List (ℕ × Bool)} (h : scan s = some (us, r)) :
    us.length + 1 + r.length ≤ s.length ∧
      (s.length ≤ us.length + 1 + r.length → ∃ cs, Plain cs ∧ us = cs.map fun c => (c, false)) := by
  fun_induction scan s generalizing us with
  | case1 => cases h
  | case2 s =>
    obtain ⟨rfl, rfl⟩ := Prod.mk.inj (Option.some.inj h)
    exact ⟨by simp; omega, fun _ => ⟨[], by simp [Plain], rfl⟩⟩
  | case3 => cases h
  | case4 h₁ h₂ h₃ h₄ s _ ih =>
    simp only [Option.bind_eq_some_iff, Option.map_eq_some_iff, Prod.exists] at h
    obtain ⟨u, -, vs, r', hs, he⟩ := h
    obtain ⟨rfl, rfl⟩ := Prod.mk.inj he
    have := (ih hs).1
    simp only [List.length_cons]
    exact ⟨by omega, by omega⟩
  | case5 => cases h
  | case6 e s _ hne ih =>
    simp only [Option.bind_eq_some_iff, Option.map_eq_some_iff, Prod.exists] at h
    obtain ⟨u, -, vs, r', hs, he⟩ := h
    obtain ⟨rfl, rfl⟩ := Prod.mk.inj he
    have := (ih hs).1
    simp only [List.length_cons]
    exact ⟨by omega, by omega⟩
  | case7 => cases h
  | case8 c s hq hb hc ih =>
    simp only [Option.map_eq_some_iff, Prod.exists] at h
    obtain ⟨vs, r', hs, he⟩ := h
    obtain ⟨rfl, rfl⟩ := Prod.mk.inj he
    obtain ⟨hle, hp⟩ := ih hs
    simp only [List.length_cons]
    refine ⟨by omega, fun hlt => ?_⟩
    obtain ⟨cs, hcs, rfl⟩ := hp (by omega)
    exact ⟨c :: cs, List.forall_mem_cons.mpr ⟨⟨by omega, hq, hb⟩, hcs⟩, rfl⟩

lemma string_length {s r t : Str} (h : string s = some (t, r)) :
    t.length + 1 + r.length ≤ s.length ∧ (s.length ≤ t.length + 1 + r.length → Plain t) := by
  simp only [string, Option.map_eq_some_iff, Prod.exists] at h
  obtain ⟨us, r', hs, he⟩ := h
  obtain ⟨rfl, rfl⟩ := Prod.mk.inj he
  obtain ⟨hle, hp⟩ := scan_length hs
  have hj := joinPairs_length us
  refine ⟨by omega, fun hlt => ?_⟩
  obtain ⟨cs, hcs, rfl⟩ := hp (by omega)
  rwa [joinPairs_plain]

lemma skip_length (s : Str) : (skip s).length ≤ s.length := (List.dropWhile_sublist _).length_le

lemma digitsOf_length (s : Str) : (digitsOf s).length + (afterDigits s).length = s.length := by
  rw [digitsOf, afterDigits, ← List.length_append, List.takeWhile_append_dropWhile]

lemma intPart_length {s ds r : Str} (h : intPart s = some (ds, r)) :
    ds.length + r.length = s.length ∧ ds ≠ [] ∧ ∀ c ∈ ds, Decimal.isDigit c = true := by
  cases s with
  | nil => cases h
  | cons c s =>
    rw [intPart] at h
    split_ifs at h with h₁ h₂ <;> obtain ⟨rfl, rfl⟩ := Prod.mk.inj (Option.some.inj h)
    · simp [Decimal.isDigit, Nat.add_comm]
    · exact ⟨digitsOf_length _, h₂, fun d hd => List.mem_takeWhile_imp hd⟩

lemma fraction_length (s : Str) : (fraction s).1.length + (fraction s).2.length ≤ s.length := by
  cases s with
  | nil => rfl
  | cons c s =>
    rw [fraction]
    split_ifs
    · simp only [digitsOf_length, List.length_cons]
      omega
    · simp

lemma exponent_length (s : Str) :
    (exponent s).2.length ≤ s.length := by
  cases s with
  | nil => rfl
  | cons c s =>
    have hs : (exponentSign s).2.length ≤ s.length := by
      cases s with
      | nil => rfl
      | cons d s =>
        rw [exponentSign]
        split_ifs <;> simp
    simp only [exponent]
    have := digitsOf_length (exponentSign s).2
    split_ifs <;> simp only [List.length_cons] <;> omega

lemma ofInt_sign_length (b : Bool) (n : ℕ) :
    (Decimal.ofInt ((if b then -1 else 1) * n)).length ≤ (if b then 1 else 0) + (Decimal.ofNat n).length := by
  cases b with
  | true =>
    cases n with
    | zero => decide
    | succ n =>
      have he : (if true = true then -1 else 1) * ((n + 1 : ℕ) : ℤ) = Int.negSucc n := by
        rw [if_pos rfl, Int.negSucc_eq]
        omega
      rw [he]
      simp [Decimal.ofInt, Nat.add_comm]
  | false => simp [Decimal.ofInt]

lemma number_length {d : ℕ} {s r : Str} {j : Json} (h : number s = some (j, r)) :
    (render compact d j).length + r.length ≤ s.length ∧
      (s.length ≤ (render compact d j).length + r.length → Strings Plain j) := by
  have hu : ∀ (b : Bool) (s r : Str) (j : Json), unsigned b s = some (j, r) →
      (render compact d j).length + r.length ≤ (if b then 1 else 0) + s.length ∧
        (s.length ≤ (render compact d j).length + r.length → Strings Plain j) := by
    intro b s r j h
    simp only [unsigned, Option.map_eq_some_iff, Prod.exists] at h
    obtain ⟨ds, t, hi, he⟩ := h
    obtain ⟨hl, hne, hd⟩ := intPart_length hi
    have hf := fraction_length t
    have hx := exponent_length (fraction t).2
    have hpos := List.length_pos_of_ne_nil hne
    by_cases hc : (fraction t).1 = [] ∧ (exponent (fraction t).2).1 = none
    · rw [if_pos hc] at he
      obtain ⟨rfl, rfl⟩ := Prod.mk.inj he
      have hv := Decimal.ofNat_length_le hd hne
      have hn := ofInt_sign_length b (Decimal.value ds)
      refine ⟨?_, fun _ => trivial⟩
      rw [render]
      omega
    · rw [if_neg hc] at he
      obtain ⟨rfl, rfl⟩ := Prod.mk.inj he
      rw [render, List.length_nil]
      exact ⟨by omega, by omega⟩
  cases s with
  | nil => cases h
  | cons c s =>
    rw [number] at h
    split_ifs at h
    · have := hu true s r j h
      simp only [if_true, List.length_cons] at this ⊢
      exact ⟨by omega, fun hlt => this.2 (by omega)⟩
    · have := hu false (c :: s) r j h
      simpa using this

lemma keyword_length {name : String} {j j' : Json} {s r : Str} (h : keyword name j s = some (j', r)) :
    j' = j ∧ (lit name).length + r.length = s.length := by
  rw [keyword] at h
  split_ifs at h with hp
  obtain ⟨rfl, rfl⟩ := Prod.mk.inj (Option.some.inj h)
  have := hp.length_le
  exact ⟨rfl, by rw [List.length_drop]; omega⟩

def Covers (len : ℕ) (ok : Prop) (s r : Str) : Prop :=
  len + r.length ≤ s.length ∧ (s.length ≤ len + r.length → ok)

lemma atom_length {constants : Bool} {d : ℕ} {s r : Str} {j : Json} (h : atom constants s = some (j, r)) :
    Covers (render compact d j).length (Strings Plain j) s r := by
  have hk {name : String} {q : Option ℚ} (hn : (lit name).length ≠ 0)
      (h : keyword name (.float q) s = some (j, r)) :
      Covers (render compact d j).length (Strings Plain j) s r := by
    obtain ⟨rfl, hl⟩ := keyword_length h
    rw [render, List.length_nil]
    exact ⟨by omega, by omega⟩
  simp only [atom, Option.orElse_eq_orElse, Option.orElse_eq_or, Option.or_eq_some_iff] at h
  rcases h with h | ⟨-, h | ⟨-, h | ⟨-, h | ⟨-, h⟩⟩⟩⟩
  · obtain ⟨rfl, hl⟩ := keyword_length h
    exact ⟨hl.le, fun _ => trivial⟩
  · obtain ⟨rfl, hl⟩ := keyword_length h
    exact ⟨hl.le, fun _ => trivial⟩
  · obtain ⟨rfl, hl⟩ := keyword_length h
    exact ⟨hl.le, fun _ => trivial⟩
  · split_ifs at h
    simp only [Option.or_eq_some_iff] at h
    rcases h with h | ⟨-, h | ⟨-, h⟩⟩ <;> exact hk (by decide) h
  · exact number_length h

mutual

lemma value_length {constants : Bool} : ∀ {n d : ℕ} {s r : Str} {j : Json}, value constants n s = some (j, r) →
    Covers (render compact d j).length (Strings Plain j) s r
  | 0, _, _, _, _, h => by simp [value] at h
  | _ + 1, _, [], _, _, h => by simp [value] at h
  | n + 1, d, c :: s, r, j, h => by
    have hl := skip_length s
    rw [value] at h
    split_ifs at h with h₁ h₂ h₃ h₄ h₅
    · simp only [Option.map_eq_some_iff, Prod.exists] at h
      obtain ⟨t, r', hs, he⟩ := h
      obtain ⟨rfl, rfl⟩ := Prod.mk.inj he
      have := string_length hs
      simp only [Covers, render, compact, id, List.length_cons, List.length_append, List.length_nil]
      exact ⟨by omega, fun hlt => this.2 (by omega)⟩
    · obtain ⟨rfl, rfl⟩ := Prod.mk.inj (Option.some.inj h)
      obtain ⟨t, ht⟩ := List.head?_eq_some_iff.mp h₃
      simp only [ht, List.length_cons, Covers, render, List.length_nil, List.tail_cons] at hl ⊢
      exact ⟨by omega, fun _ => trivial⟩
    · simp only [Option.map_eq_some_iff, Prod.exists] at h
      obtain ⟨js, r', hs, he⟩ := h
      obtain ⟨rfl, rfl⟩ := Prod.mk.inj he
      have := elements_length (d := d + 1) hs
      cases js with
      | nil => exact absurd rfl this.1
      | cons j js =>
        simp only [Covers, render, compact, List.length_cons, List.length_append, List.length_nil] at this ⊢
        exact ⟨by omega, fun hlt => this.2.2 (by omega)⟩
    · obtain ⟨rfl, rfl⟩ := Prod.mk.inj (Option.some.inj h)
      obtain ⟨t, ht⟩ := List.head?_eq_some_iff.mp h₅
      simp only [ht, List.length_cons, Covers, render, List.length_nil, List.tail_cons] at hl ⊢
      exact ⟨by omega, fun _ => trivial⟩
    · simp only [Option.map_eq_some_iff, Prod.exists] at h
      obtain ⟨ms, r', hs, he⟩ := h
      obtain ⟨rfl, rfl⟩ := Prod.mk.inj he
      have := members_length (d := d + 1) hs
      cases ms with
      | nil => exact absurd rfl this.1
      | cons m ms =>
        simp only [Covers, render, compact, List.length_cons, List.length_append, List.length_nil] at this ⊢
        exact ⟨by omega, fun hlt => this.2.2 (by omega)⟩
    · exact atom_length h

lemma elements_length {constants : Bool} : ∀ {n d : ℕ} {s r : Str} {js : List Json},
    elements constants n s = some (js, r) →
    js ≠ [] ∧ Covers ((renderElements compact d js).length + 1) (ElementStrings Plain js) s r
  | 0, _, _, _, _, h => by simp [elements] at h
  | n + 1, d, s, r, js, h => by
    simp only [elements, Option.bind_eq_some_iff, Prod.exists] at h
    obtain ⟨j, t, hv, h⟩ := h
    have hj := value_length (d := d) hv
    have hl := skip_length t
    cases ht : skip t with
    | nil => simp [ht] at h
    | cons c t' =>
      have hl' := skip_length t'
      simp only [ht] at h
      simp only [ht, List.length_cons] at hl
      split_ifs at h
      · simp only [Option.map_eq_some_iff, Prod.exists] at h
        obtain ⟨qs, r', he, h⟩ := h
        obtain ⟨rfl, rfl⟩ := Prod.mk.inj h
        obtain ⟨hne, hq⟩ := elements_length (d := d) he
        cases qs with
        | nil => exact absurd rfl hne
        | cons q qs =>
          refine ⟨by simp, ?_⟩
          simp only [Covers, renderElements, compact, List.length_append, List.length_cons,
            List.nil_append] at hj hq ⊢
          exact ⟨by omega, fun hlt => ⟨hj.2 (by omega), hq.2 (by omega)⟩⟩
      · obtain ⟨rfl, rfl⟩ := Prod.mk.inj (Option.some.inj h)
        refine ⟨by simp, ?_⟩
        simp only [Covers, renderElements] at hj ⊢
        exact ⟨by omega, fun hlt => ⟨hj.2 (by omega), trivial⟩⟩

lemma members_length {constants : Bool} : ∀ {n d : ℕ} {s r : Str} {ms : List (Str × Json)},
    members constants n s = some (ms, r) →
    ms ≠ [] ∧ Covers ((renderMembers compact d ms).length + 1) (MemberStrings Plain ms) s r
  | 0, _, _, _, _, h => by simp [members] at h
  | _ + 1, _, [], _, _, h => by simp [members] at h
  | n + 1, d, c :: s, r, ms, h => by
    rw [members] at h
    split_ifs at h
    simp only [Option.bind_eq_some_iff, Prod.exists] at h
    obtain ⟨k, t, hk, h⟩ := h
    have hp := string_length hk
    have hl := skip_length t
    cases ht : skip t with
    | nil => simp [ht] at h
    | cons c t' =>
      simp only [ht] at h
      split_ifs at h
      simp only [Option.bind_eq_some_iff, Prod.exists] at h
      obtain ⟨j, u, hv, h⟩ := h
      have hl' := skip_length t'
      have hj := value_length (d := d) hv
      have hu := skip_length u
      simp only [ht, List.length_cons] at hl
      cases hu' : skip u with
      | nil => simp [hu'] at h
      | cons c u' =>
        have hl'' := skip_length u'
        simp only [hu'] at h
        simp only [hu', List.length_cons] at hu
        split_ifs at h
        · simp only [Option.map_eq_some_iff, Prod.exists] at h
          obtain ⟨qs, r', he, h⟩ := h
          obtain ⟨rfl, rfl⟩ := Prod.mk.inj h
          obtain ⟨hne, hq⟩ := members_length (d := d) he
          cases qs with
          | nil => exact absurd rfl hne
          | cons q qs =>
            refine ⟨by simp, ?_⟩
            simp only [Covers, renderMembers, compact, id, List.length_append, List.length_cons,
              List.nil_append, List.length_nil] at hj hq ⊢
            exact ⟨by omega, fun hlt => ⟨hp.2 (by omega), hj.2 (by omega), hq.2 (by omega)⟩⟩
        · obtain ⟨rfl, rfl⟩ := Prod.mk.inj (Option.some.inj h)
          refine ⟨by simp, ?_⟩
          simp only [Covers, renderMembers, compact, id, List.length_append, List.length_cons,
            List.length_nil] at hj ⊢
          exact ⟨by omega, fun hlt => ⟨hp.2 (by omega), hj.2 (by omega), trivial⟩⟩

end

mutual

lemma render_rounded (l : Layout) (d : ℕ) : (j : Json) → render l d (rounded j) = render l d j
  | .null | .bool _ | .int _ | .float _ | .str _ | .arr [] | .obj [] => rfl
  | .arr (j :: js) => by
    have he := renderElements_rounded l (d + 1) (j :: js)
    rw [roundedElements] at he
    rw [rounded, roundedElements, render, he, render]
  | .obj ((k, j) :: ms) => by
    have he := renderMembers_rounded l (d + 1) ((k, j) :: ms)
    rw [roundedMembers] at he
    rw [rounded, roundedMembers, render, he, render]

lemma renderElements_rounded (l : Layout) (d : ℕ) : (js : List Json) →
    renderElements l d (roundedElements js) = renderElements l d js
  | [] => rfl
  | [j] => render_rounded l d j
  | j :: j' :: js => by
    have he := renderElements_rounded l d (j' :: js)
    rw [roundedElements] at he
    rw [roundedElements, roundedElements, renderElements, he, render_rounded l d j, renderElements]

lemma renderMembers_rounded (l : Layout) (d : ℕ) : (ms : List (Str × Json)) →
    renderMembers l d (roundedMembers ms) = renderMembers l d ms
  | [] => rfl
  | [(k, j)] => by rw [roundedMembers, roundedMembers, renderMembers, render_rounded l d j, renderMembers]
  | (k, j) :: (k', j') :: ms => by
    have he := renderMembers_rounded l d ((k', j') :: ms)
    rw [roundedMembers] at he
    rw [roundedMembers, roundedMembers, renderMembers, he, render_rounded l d j, renderMembers]

end

theorem parse_length {constants : Bool} {s : Str} {j : Json} (h : parse constants s = some j) :
    (render compact 0 j).length ≤ s.length ∧ (s.length ≤ (render compact 0 j).length → Strings Plain j) := by
  simp only [parse, document, Option.map_eq_some_iff, Option.bind_eq_some_iff, Prod.exists] at h
  obtain ⟨j', ⟨j'', r, hv, h⟩, rfl⟩ := h
  split_ifs at h
  obtain rfl := Option.some.inj h
  have hlen := value_length (d := 0) hv
  have hl := skip_length s
  rw [render_rounded]
  refine ⟨by unfold Covers at hlen; omega, ?_⟩
  intro hlt
  have hplain : Strings Plain j'' := hlen.2 (by omega)
  rwa [rounded_strings j'' hplain]

section Characters

variable {Q : ℕ → Prop} (hQ : ∀ c < 128, Q c)
include hQ

mutual

lemma forall_mem_render (d : ℕ) : (j : Json) → Strings (fun _ => True) j →
    ((∀ c ∈ render compact d j, Q c) ↔ Strings (fun s => ∀ c ∈ s, Q c) j)
  | .null, _ => by
    have hl : ∀ c ∈ lit "null", c < 128 := by decide
    exact iff_of_true (fun c hc => hQ c (hl c hc)) trivial
  | .bool b, _ => by
    have hl : ∀ c ∈ (if b then lit "true" else lit "false"), c < 128 := by cases b <;> decide
    exact iff_of_true (fun c hc => hQ c (hl c hc)) trivial
  | .int z, _ => iff_of_true (fun c hc => hQ c (Decimal.ofInt_lt hc)) trivial
  | .float q, h => absurd h (by simp [Strings])
  | .str s, _ => by
    simp only [render, Strings, compact, id, List.forall_mem_cons, List.forall_mem_append, hQ 34 (by decide),
      List.not_mem_nil, false_imp_iff, implies_true, and_self, true_and, and_true]
  | .arr [], _ => by simp [render, Strings, ElementStrings, hQ]
  | .arr (j :: js), h => by
    rw [Strings, ← forall_mem_elements (d + 1) (j :: js) h, render]
    simp only [compact, List.forall_mem_cons, List.forall_mem_append, hQ 91 (by decide), hQ 93 (by decide),
      List.not_mem_nil, false_imp_iff, implies_true, and_self, true_and, and_true]
  | .obj [], _ => by simp [render, Strings, MemberStrings, hQ]
  | .obj (m :: ms), h => by
    rw [Strings, ← forall_mem_members (d + 1) (m :: ms) h, render]
    simp only [compact, List.forall_mem_cons, List.forall_mem_append, hQ 123 (by decide), hQ 125 (by decide),
      List.not_mem_nil, false_imp_iff, implies_true, and_self, true_and, and_true]

lemma forall_mem_elements (d : ℕ) : (js : List Json) → ElementStrings (fun _ => True) js →
    ((∀ c ∈ renderElements compact d js, Q c) ↔ ElementStrings (fun s => ∀ c ∈ s, Q c) js)
  | [], _ => by simp [renderElements, ElementStrings]
  | [j], h => by
    rw [ElementStrings, ← forall_mem_render d j h.1, renderElements, ElementStrings, and_true]
  | j :: j' :: js, h => by
    rw [ElementStrings, ← forall_mem_render d j h.1, ← forall_mem_elements d (j' :: js) h.2, renderElements]
    simp only [compact, List.forall_mem_cons, List.forall_mem_append, hQ 44 (by decide), List.not_mem_nil,
      false_imp_iff, implies_true, true_and]

lemma forall_mem_members (d : ℕ) : (ms : List (Str × Json)) → MemberStrings (fun _ => True) ms →
    ((∀ c ∈ renderMembers compact d ms, Q c) ↔ MemberStrings (fun s => ∀ c ∈ s, Q c) ms)
  | [], _ => by simp [renderMembers, MemberStrings]
  | [(k, j)], h => by
    rw [MemberStrings, ← forall_mem_render d j h.2.1, renderMembers, MemberStrings, and_true]
    simp only [compact, id, List.forall_mem_cons, List.forall_mem_append, hQ 34 (by decide), hQ 58 (by decide),
      List.not_mem_nil, false_imp_iff, implies_true, true_and]
  | (k, j) :: m :: ms, h => by
    rw [MemberStrings, ← forall_mem_render d j h.2.1, ← forall_mem_members d (m :: ms) h.2.2, renderMembers]
    simp only [compact, id, List.forall_mem_cons, List.forall_mem_append, hQ 34 (by decide), hQ 58 (by decide),
      hQ 44 (by decide), List.not_mem_nil, false_imp_iff, implies_true, true_and]

end

end Characters

mutual

lemma Strings.and {P P' : Str → Prop} : (j : Json) → Strings P j → Strings P' j → Strings (fun s => P s ∧ P' s) j
  | .null, _, _ | .bool _, _, _ | .int _, _, _ => trivial
  | .float _, h, _ => h
  | .str _, h, h' => ⟨h, h'⟩
  | .arr js, h, h' => ElementStrings.and js h h'
  | .obj ms, h, h' => MemberStrings.and ms h h'

lemma ElementStrings.and {P P' : Str → Prop} : (js : List Json) → ElementStrings P js → ElementStrings P' js →
    ElementStrings (fun s => P s ∧ P' s) js
  | [], _, _ => trivial
  | j :: js, h, h' => ⟨Strings.and j h.1 h'.1, ElementStrings.and js h.2 h'.2⟩

lemma MemberStrings.and {P P' : Str → Prop} : (ms : List (Str × Json)) → MemberStrings P ms →
    MemberStrings P' ms → MemberStrings (fun s => P s ∧ P' s) ms
  | [], _, _ => trivial
  | (_, j) :: ms, h, h' => ⟨⟨h.1, h'.1⟩, Strings.and j h.2.1 h'.2.1, MemberStrings.and ms h.2.2 h'.2.2⟩

end

mutual

lemma Strings.imp {P P' : Str → Prop} (hp : ∀ s, P s → P' s) : (j : Json) → Strings P j → Strings P' j
  | .null, _ | .bool _, _ | .int _, _ => trivial
  | .float _, h => h
  | .str s, h => hp s h
  | .arr js, h => ElementStrings.imp hp js h
  | .obj ms, h => MemberStrings.imp hp ms h

lemma ElementStrings.imp {P P' : Str → Prop} (hp : ∀ s, P s → P' s) : (js : List Json) → ElementStrings P js →
    ElementStrings P' js
  | [], _ => trivial
  | j :: js, h => ⟨Strings.imp hp j h.1, ElementStrings.imp hp js h.2⟩

lemma MemberStrings.imp {P P' : Str → Prop} (hp : ∀ s, P s → P' s) : (ms : List (Str × Json)) →
    MemberStrings P ms → MemberStrings P' ms
  | [], _ => trivial
  | (k, j) :: ms, h => ⟨hp k h.1, Strings.imp hp j h.2.1, MemberStrings.imp hp ms h.2.2⟩

end

end Graft64.Library.Json
