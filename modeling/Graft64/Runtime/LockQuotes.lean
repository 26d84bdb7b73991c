import Graft64.Runtime.LockReaders

/-! How the readers of the lock take the quotes off a value. -/

namespace Graft64.Runtime.DepsLock

open Graft64.Library

structure Bare (p : ℕ → Bool) (s : Str) : Prop where
  head : ∀ c ∈ s.head?, p c = false
  last : ∀ c ∈ s.getLast?, p c = false

section

variable {p : ℕ → Bool} {s t u : Str}

lemma stripOf_bare (p : ℕ → Bool) (s : Str) : Bare p (stripOf p s) := by
  have hlast : ∀ c ∈ (stripOf p s).getLast?, p c = false := by
    intro c hc
    obtain ⟨hne, rfl⟩ := List.mem_getLast?_eq_getLast hc
    exact Bool.not_eq_true _ ▸ List.rdropWhile_last_not p _ hne
  refine ⟨?_, hlast⟩
  intro c hc
  obtain ⟨z, hz⟩ : stripOf p s <+: s.dropWhile p := List.rdropWhile_prefix p _
  have h := List.head?_dropWhile_not p s
  cases hs : stripOf p s with
  | nil =>
    rw [hs] at hc
    cases hc
  | cons d m =>
    rw [hs] at hc hz
    obtain rfl : d = c := Option.some.inj hc
    rw [← hz] at h
    simpa using h

lemma dropWhile_bare (h : ∀ c ∈ s.head?, p c = false) : s.dropWhile p = s := by
  cases s with
  | nil => rfl
  | cons c s => rw [List.dropWhile_cons_of_neg (by simp [h c rfl])]

lemma rdropWhile_bare (h : ∀ c ∈ s.getLast?, p c = false) : s.rdropWhile p = s := by
  rw [List.rdropWhile_eq_self_iff]
  intro hne
  simp [h _ (List.getLast?_eq_getLast_of_ne_nil hne)]

lemma stripOf_eq_self (h : Bare p s) : stripOf p s = s := by
  rw [stripOf, dropWhile_bare h.head, rdropWhile_bare h.last]

lemma stripOf_split (p : ℕ → Bool) (s : Str) :
    ∃ a b, s = a ++ (stripOf p s ++ b) ∧ (∀ c ∈ a, p c = true) ∧ ∀ c ∈ b, p c = true := by
  refine ⟨s.takeWhile p, (s.dropWhile p).rtakeWhile p, ?_, ?_, ?_⟩
  · rw [stripOf, List.rdropWhile_append_rtakeWhile, List.takeWhile_append_dropWhile]
  · exact fun c hc => List.mem_takeWhile_imp hc
  · exact fun c hc => List.mem_rtakeWhile_imp hc

lemma stripOf_append {a b : Str} (ha : ∀ c ∈ a, p c = true) (hb : ∀ c ∈ b, p c = true) (h : Bare p s)
    (hs : s ≠ []) :
    stripOf p (a ++ (s ++ b)) = s := by
  obtain ⟨c, s, rfl⟩ := List.exists_cons_of_ne_nil hs
  have hhead : ∀ d ∈ (c :: s ++ b).head?, p d = false := h.head
  rw [stripOf, List.dropWhile_append_of_pos ha, dropWhile_bare hhead]
  induction b using List.reverseRecOn with
  | nil =>
    rw [List.append_nil]
    exact rdropWhile_bare h.last
  | append_singleton b d ih =>
    rw [← List.append_assoc, List.rdropWhile_concat_pos _ _ _ (hb d (by simp))]
    exact ih (fun d hd => hb d (List.mem_append_left _ hd)) h.head

lemma strip_eq_stripOf (s : Str) : strip s = stripOf isSpace s := rfl

/-- `value[1:-1]`, for a value in quotes. -/
def unquote (value : Str) : Str :=
  if 2 ≤ value.length ∧ value.head? = value.getLast? ∧ value.head?.any isQuote then value.tail.dropLast else value

lemma scalar_eq (raw : Str) : scalar raw = unquote (strip raw) := rfl

lemma unquote_quoted {q : ℕ} (hq : isQuote q = true) (t : Str) : unquote (q :: (t ++ [q])) = t := by
  have hlast : (q :: (t ++ [q])).getLast? = some q := List.getLast?_concat (l := q :: t)
  rw [unquote, if_pos ⟨by simp, hlast.symm, hq⟩]
  simp

lemma unquote_cases (s : Str) : (∃ q t, isQuote q = true ∧ s = q :: (t ++ [q])) ∨
    (∀ q t, isQuote q = true → s ≠ q :: (t ++ [q])) ∧ unquote s = s := by
  by_cases h : ∃ q t, isQuote q = true ∧ s = q :: (t ++ [q])
  · exact .inl h
  · have hno : ∀ q t, isQuote q = true → s ≠ q :: (t ++ [q]) := fun q t hq hs => h ⟨q, t, hq, hs⟩
    refine .inr ⟨hno, ?_⟩
    rw [unquote, if_neg]
    rintro ⟨hlen, hends, hquote⟩
    obtain ⟨q, hq, hquote⟩ := (Option.any_eq_true _ _).mp hquote
    obtain ⟨m, rfl⟩ : ∃ m, s = q :: m := List.head?_eq_some_iff.mp hq
    rcases List.eq_nil_or_concat m with rfl | ⟨t, c, rfl⟩
    · simp at hlen
    · rw [List.concat_eq_append] at hends hno
      have hlast : (q :: (t ++ [c])).getLast? = some c := List.getLast?_concat (l := q :: t)
      rw [hlast] at hends
      obtain rfl : q = c := Option.some.inj hends
      exact hno q t hquote rfl

/-- A value with no quote at either end, or in one pair of quotes with neither a quote nor white space at an end
of what is between them, or in two pairs. -/
def EvenQuotes (s : Str) : Prop :=
  Bare isQuote s ∨ ∃ q t, isQuote q = true ∧ s = q :: (t ++ [q]) ∧
    (Bare isQuote t ∧ Bare isSpace t ∨ ∃ q' u, isQuote q' = true ∧ t = q' :: (u ++ [q']) ∧ Bare isQuote u)

lemma not_isSpace_of_isQuote {c : ℕ} (h : isQuote c = true) : isSpace c = false := by
  simp only [isQuote, Bool.or_eq_true, beq_iff_eq] at h
  rcases h with rfl | rfl <;> rfl

lemma not_isQuote_of_isSpace {c : ℕ} (h : isSpace c = true) : isQuote c = false := by
  by_contra hq
  rw [not_isSpace_of_isQuote (Bool.not_eq_false _ ▸ hq)] at h
  cases h

lemma not_bare_quoted {q : ℕ} (hq : isQuote q = true) (t : Str) : ¬ Bare isQuote (q :: t) := by
  intro h
  cases hq.symm.trans (h.head q rfl)

lemma quoted_bare_space {q : ℕ} (hq : isQuote q = true) (t : Str) : Bare isSpace (q :: (t ++ [q])) := by
  have hlast : (q :: (t ++ [q])).getLast? = some q := List.getLast?_concat (l := q :: t)
  constructor
  · rintro c ⟨⟩
    exact not_isSpace_of_isQuote hq
  · rw [hlast]
    rintro c ⟨⟩
    exact not_isSpace_of_isQuote hq

lemma quoted_inj {q q' : ℕ} {t t' : Str} (h : q :: (t ++ [q]) = q' :: (t' ++ [q'])) : q = q' ∧ t = t' := by
  obtain ⟨rfl, h⟩ := List.cons.inj h
  exact ⟨rfl, List.append_cancel_right h⟩

lemma stripOf_quoted {q : ℕ} (hq : isQuote q = true) (h : Bare isQuote t) (ht : t ≠ []) :
    stripOf isQuote (q :: (t ++ [q])) = t :=
  stripOf_append (a := [q]) (b := [q]) (by simpa using hq) (by simpa using hq) h ht

lemma bare_pad {a m b : Str} (ha : ∀ c ∈ a, isSpace c = true) (hb : ∀ c ∈ b, isSpace c = true) (hm : m ≠ [])
    (hhead : a = [] → ∀ c ∈ m.head?, isQuote c = false) (hlast : b = [] → ∀ c ∈ m.getLast?, isQuote c = false) :
    Bare isQuote (a ++ (m ++ b)) := by
  constructor
  · cases a with
    | nil =>
      obtain ⟨c, m, rfl⟩ := List.exists_cons_of_ne_nil hm
      exact hhead rfl
    | cons c a =>
      rintro d ⟨⟩
      exact not_isQuote_of_isSpace (ha c List.mem_cons_self)
  · rcases List.eq_nil_or_concat b with rfl | ⟨b, c, rfl⟩
    · rw [List.append_nil, List.getLast?_append_of_ne_nil _ hm]
      exact hlast rfl
    · rw [List.concat_eq_append, ← List.append_assoc, ← List.append_assoc, List.getLast?_concat]
      rintro d ⟨⟩
      exact not_isQuote_of_isSpace (hb c (by simp))

lemma nested_quotes {q q' : ℕ} (hq : isQuote q = true) (hq' : isQuote q' = true) {a b : Str}
    (ha : ∀ c ∈ a, isSpace c = true) (hb : ∀ c ∈ b, isSpace c = true) (hu : Bare isQuote u) (hne : u ≠ [])
    (h : stripOf isQuote (q :: (a ++ (q' :: (u ++ [q']) ++ b) ++ [q])) = u) : a = [] ∧ b = [] := by
  have hquotes : ∀ c ∈ [q', q], isQuote c = true := by simp [hq, hq']
  have hquotes' : ∀ c ∈ [q, q'], isQuote c = true := by simp [hq, hq']
  have hlast (l : Str) : (l ++ u).getLast? = u.getLast? := List.getLast?_append_of_ne_nil _ hne
  have hmid : q' :: (u ++ [q']) ≠ [] := List.cons_ne_nil _ _
  by_cases hbn : b = []
  · subst hbn
    refine ⟨?_, rfl⟩
    by_contra han
    have hbare : Bare isQuote (a ++ (q' :: u ++ [])) := by
      refine bare_pad ha (by simp) (List.cons_ne_nil _ _) (fun h => absurd h han) fun _ => ?_
      exact (hlast [q']).symm ▸ hu.last
    have hstrip := stripOf_append (a := [q]) (by simpa using hq) hquotes hbare (by simp)
    have hsplit : q :: (a ++ (q' :: (u ++ [q']) ++ []) ++ [q]) = [q] ++ (a ++ (q' :: u ++ []) ++ [q', q]) := by
      simp
    rw [hsplit, hstrip] at h
    have hlen := congrArg List.length h
    simp only [List.length_append, List.length_cons, List.length_nil] at hlen
    omega
  · by_cases han : a = []
    · subst han
      exfalso
      have hbare : Bare isQuote ([] ++ (u ++ [q'] ++ b)) := by
        refine bare_pad (by simp) hb (by simp) (fun _ => ?_) fun h => absurd h hbn
        obtain ⟨c, u, rfl⟩ := List.exists_cons_of_ne_nil hne
        exact hu.head
      have hstrip := stripOf_append (b := [q]) hquotes' (by simpa using hq) hbare (by simp)
      have hsplit : q :: ([] ++ (q' :: (u ++ [q']) ++ b) ++ [q]) = [q, q'] ++ ([] ++ (u ++ [q'] ++ b) ++ [q]) := by
        simp
      rw [hsplit, hstrip] at h
      have hlen := congrArg List.length h
      simp only [List.length_append, List.length_cons, List.length_nil] at hlen
      omega
    · exfalso
      have hbare : Bare isQuote (a ++ (q' :: (u ++ [q']) ++ b)) :=
        bare_pad ha hb hmid (fun h => absurd h han) fun h => absurd h hbn
      rw [stripOf_quoted hq hbare (by simp)] at h
      have hlen := congrArg List.length h
      simp only [List.length_append, List.length_cons, List.length_nil] at hlen
      omega

theorem evenQuotes_iff (hs : Bare isSpace s) (hne : unquote (strip (unquote s)) ≠ []) :
    stripOf isQuote s = unquote (strip (unquote s)) ↔ EvenQuotes s := by
  rcases unquote_cases s with ⟨q, t, hq, rfl⟩ | ⟨hno, hu⟩
  · rw [unquote_quoted hq] at hne ⊢
    obtain ⟨a, b, ht, ha, hb⟩ := stripOf_split isSpace t
    rw [← strip_eq_stripOf] at ht
    have hself (h : Bare isSpace t) : strip t = t := stripOf_eq_self h
    rcases unquote_cases (strip t) with ⟨q', u, hq', hst⟩ | ⟨hno, hu⟩
    · rw [hst, unquote_quoted hq'] at hne ⊢
      constructor
      · intro h
        have hub : Bare isQuote u := h ▸ stripOf_bare isQuote _
        rw [hst] at ht
        obtain ⟨rfl, rfl⟩ := nested_quotes hq hq' ha hb hub hne (ht ▸ h)
        rw [List.nil_append, List.append_nil] at ht
        exact .inr ⟨q, t, hq, rfl, .inr ⟨q', u, hq', ht, hub⟩⟩
      · rintro (h | ⟨q₁, t₁, hq₁, he, h⟩)
        · exact absurd h (not_bare_quoted hq _)
        · obtain ⟨rfl, rfl⟩ := quoted_inj he
          rcases h with ⟨hb, hsp⟩ | ⟨q₂, u₂, hq₂, rfl, hb⟩
          · rw [hself hsp] at hst
            exact absurd hb (hst ▸ not_bare_quoted hq' _)
          · rw [hself (quoted_bare_space hq₂ u₂)] at hst
            obtain ⟨rfl, rfl⟩ := quoted_inj hst
            have hsplit : q :: (q₂ :: (u₂ ++ [q₂]) ++ [q]) = [q, q₂] ++ (u₂ ++ [q₂, q]) := by simp
            rw [hsplit]
            exact stripOf_append (by simp [hq, hq₂]) (by simp [hq, hq₂]) hb hne
    · rw [hu] at hne ⊢
      have htn : t ≠ [] := by
        rintro rfl
        exact hne rfl
      constructor
      · intro h
        have hv : Bare isQuote (strip t) := h ▸ stripOf_bare isQuote _
        have htb : Bare isQuote t := by
          rw [ht]
          exact bare_pad ha hb hne (fun _ => hv.head) fun _ => hv.last
        rw [stripOf_quoted hq htb htn] at h
        exact .inr ⟨q, t, hq, rfl, .inl ⟨htb, h.symm ▸ stripOf_bare isSpace t⟩⟩
      · rintro (h | ⟨q₁, t₁, hq₁, he, h⟩)
        · exact absurd h (not_bare_quoted hq _)
        · obtain ⟨rfl, rfl⟩ := quoted_inj he
          rcases h with ⟨hb, hsp⟩ | ⟨q₂, u₂, hq₂, rfl, hb⟩
          · rw [hself hsp]
            exact stripOf_quoted hq hb htn
          · rw [hself (quoted_bare_space hq₂ u₂)] at hno
            exact absurd rfl (hno q₂ u₂ hq₂)
  · have hself : strip s = s := stripOf_eq_self hs
    rw [hu, hself, hu]
    constructor
    · intro h
      exact .inl (h ▸ stripOf_bare isQuote s)
    · rintro (h | ⟨q, t, hq, he, -⟩)
      · exact stripOf_eq_self h
      · exact absurd he (hno q t hq)

def OnlyDoubleQuoted (v s : Str) : Prop := ∃ m n, s = List.replicate m 34 ++ (v ++ List.replicate n 34)

lemma eq_replicate_of_doubleQuotes {a : Str} (h : ∀ c ∈ a, isDoubleQuote c = true) :
    ∃ n, a = List.replicate n 34 :=
  ⟨a.length, List.eq_replicate_of_mem fun c hc => beq_iff_eq.mp (h c hc)⟩

lemma doubleQuotes_replicate (n : ℕ) : ∀ c ∈ List.replicate n 34, isDoubleQuote c = true := by
  intro c hc
  rw [List.eq_of_mem_replicate hc]
  rfl

lemma onlyDoubleQuoted_iff {v : Str} (hv : Bare isQuote v) (hne : v ≠ []) :
    stripOf isDoubleQuote s = v ↔ OnlyDoubleQuoted v s := by
  have hsub {c : ℕ} (h : isQuote c = false) : isDoubleQuote c = false := (Bool.or_eq_false_iff.mp h).1
  constructor
  · rintro rfl
    obtain ⟨a, b, hs, ha, hb⟩ := stripOf_split isDoubleQuote s
    obtain ⟨m, rfl⟩ := eq_replicate_of_doubleQuotes ha
    obtain ⟨n, rfl⟩ := eq_replicate_of_doubleQuotes hb
    exact ⟨m, n, hs⟩
  · rintro ⟨m, n, rfl⟩
    exact stripOf_append (doubleQuotes_replicate m) (doubleQuotes_replicate n)
      ⟨fun c hc => hsub (hv.head c hc), fun c hc => hsub (hv.last c hc)⟩ hne

end

end Graft64.Runtime.DepsLock
