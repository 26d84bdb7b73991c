import Graft64.Library.JsonAscii
import Graft64.Library.JsonValues

/-! The strings that JSON texts hold: what is read can be written back. -/

namespace Graft64.Library.Json

mutual

def Texts (P : Str → Prop) : Json → Prop
  | .str s => P s
  | .arr js => ElementTexts P js
  | .obj ms => MemberTexts P ms
  | _ => True

def ElementTexts (P : Str → Prop) : List Json → Prop
  | [] => True
  | j :: js => Texts P j ∧ ElementTexts P js

def MemberTexts (P : Str → Prop) : List (Str × Json) → Prop
  | [] => True
  | (k, j) :: ms => P k ∧ Texts P j ∧ MemberTexts P ms

end

def Scalar (c : ℕ) : Prop := c < 0x110000 ∧ isHigh c = false ∧ isLow c = false

def Scanned (u : ℕ × Bool) : Prop := if u.2 then u.1 < 0x10000 else Scalar u.1

lemma joinPairs_head {u : ℕ × Bool} {us : List (ℕ × Bool)} :
    ∀ c ∈ (joinPairs (u :: us)).head?, isLow c = true → c = u.1 := by
  cases us with
  | nil =>
    rintro c ⟨⟩ -
    rfl
  | cons v us =>
    rw [joinPairs]
    split_ifs with h
    · intro c hc hl
      obtain rfl := Option.some.inj hc
      simp only [Bool.and_eq_true, isHigh, isLow, decide_eq_true_eq] at h hl
      omega
    · intro c hc _
      exact (Option.some.inj hc).symm

lemma joinPairs_unpaired {us : List (ℕ × Bool)} (h : ∀ u ∈ us, Scanned u) : Unpaired (joinPairs us) := by
  have hlt {u : ℕ × Bool} (hu : Scanned u) : u.1 < 0x110000 := by
    unfold Scanned at hu
    split_ifs at hu
    · omega
    · exact hu.1
  fun_induction joinPairs us with
  | case1 => exact ⟨by simp, .nil⟩
  | case2 u => exact ⟨by simpa using hlt (h u (by simp)), .singleton _⟩
  | case3 u v us hj ih =>
    obtain ⟨hlt', hchain⟩ := ih fun w hw => h w (by simp [hw])
    simp only [Bool.and_eq_true, isHigh, isLow, decide_eq_true_eq] at hj
    refine ⟨List.forall_mem_cons.mpr ⟨by omega, hlt'⟩, List.isChain_cons.mpr ⟨?_, hchain⟩⟩
    rintro c - ⟨hh, -⟩
    simp only [isHigh, decide_eq_true_eq] at hh
    omega
  | case4 u v us hj ih =>
    obtain ⟨hlt', hchain⟩ := ih fun w hw => h w (List.mem_cons_of_mem _ hw)
    refine ⟨List.forall_mem_cons.mpr ⟨hlt (h u (by simp)), hlt'⟩, List.isChain_cons.mpr ⟨?_, hchain⟩⟩
    rintro c hc ⟨hh, hl⟩
    obtain rfl := joinPairs_head c hc hl
    have hu := h u (by simp)
    have hv := h v (by simp)
    unfold Scanned at hu hv
    split_ifs at hu hv
    · simp_all
    · rw [hv.2.2] at hl
      cases hl
    · rw [hu.2.1] at hh
      cases hh
    · rw [hu.2.1] at hh
      cases hh

lemma hex4_lt {a b c d n : ℕ} (h : hex4 a b c d = some n) : n < 0x10000 := by
  have hd {c n : ℕ} (h : hexDigit c = some n) : n < 16 := by
    unfold hexDigit at h
    split_ifs at h <;> obtain rfl := Option.some.inj h <;> omega
  simp only [hex4, Option.bind_eq_some_iff, Option.map_eq_some_iff] at h
  obtain ⟨x, hx, y, hy, z, hz, w, hw, rfl⟩ := h
  have hx := hd hx
  have hy := hd hy
  have hz := hd hz
  have hw := hd hw
  omega

lemma scalar_of_lt {c : ℕ} (h : c < 0xD800) : Scalar c := by
  simp only [Scalar, isHigh, isLow, decide_eq_false_iff_not]
  omega

lemma scalar_escapeChar {c n : ℕ} (h : escapeChar c = some n) : Scalar n := by
  apply scalar_of_lt
  unfold escapeChar at h
  split_ifs at h <;> obtain rfl := Option.some.inj h <;> omega

lemma scan_suffix {s r : Str} {us : List (ℕ × Bool)} (h : scan s = some (us, r)) (hs : ∀ c ∈ s, Scalar c) :
    r <:+ s ∧ ∀ u ∈ us, Scanned u := by
  fun_induction scan s generalizing us with
  | case1 | case3 | case5 | case7 => cases h
  | case2 s =>
    obtain ⟨rfl, rfl⟩ := Prod.mk.inj (Option.some.inj h)
    exact ⟨List.suffix_cons _ _, by simp⟩
  | case4 h₁ h₂ h₃ h₄ s _ ih =>
    simp only [Option.bind_eq_some_iff, Option.map_eq_some_iff, Prod.exists] at h
    obtain ⟨u, hu, vs, r', hr, he⟩ := h
    obtain ⟨rfl, rfl⟩ := Prod.mk.inj he
    obtain ⟨hsuffix, hvs⟩ := ih hr fun c hc => hs c (by simp [hc])
    refine ⟨hsuffix.trans ⟨[_, _, _, _, _, _], rfl⟩, List.forall_mem_cons.mpr ⟨?_, hvs⟩⟩
    exact hex4_lt hu
  | case6 e s _ hne ih =>
    simp only [Option.bind_eq_some_iff, Option.map_eq_some_iff, Prod.exists] at h
    obtain ⟨u, hu, vs, r', hr, he⟩ := h
    obtain ⟨rfl, rfl⟩ := Prod.mk.inj he
    obtain ⟨hsuffix, hvs⟩ := ih hr fun c hc => hs c (by simp [hc])
    refine ⟨hsuffix.trans ⟨[_, _], rfl⟩, List.forall_mem_cons.mpr ⟨?_, hvs⟩⟩
    exact scalar_escapeChar hu
  | case8 c s hq hb hc ih =>
    simp only [Option.map_eq_some_iff, Prod.exists] at h
    obtain ⟨vs, r', hr, he⟩ := h
    obtain ⟨rfl, rfl⟩ := Prod.mk.inj he
    obtain ⟨hsuffix, hvs⟩ := ih hr fun d hd => hs d (List.mem_cons_of_mem _ hd)
    exact ⟨hsuffix.trans (List.suffix_cons _ _), List.forall_mem_cons.mpr ⟨hs c (by simp), hvs⟩⟩

lemma string_suffix {s r t : Str} (h : string s = some (t, r)) (hs : ∀ c ∈ s, Scalar c) :
    r <:+ s ∧ Unpaired t := by
  obtain ⟨⟨us, r'⟩, hr, he⟩ := Option.map_eq_some_iff.mp h
  obtain ⟨rfl, rfl⟩ := Prod.mk.inj he
  obtain ⟨hsuffix, hus⟩ := scan_suffix hr hs
  exact ⟨hsuffix, joinPairs_unpaired hus⟩

lemma skip_suffix (s : Str) : skip s <:+ s := List.dropWhile_suffix _

def Past (s r : Str) : Prop := ∃ front, s = front ++ r ∧ ∀ c ∈ front, isWs c = false

lemma Past.refl (s : Str) : Past s s := ⟨[], rfl, by simp⟩

lemma Past.trans {s t r : Str} (h : Past s t) (h' : Past t r) : Past s r := by
  obtain ⟨front, rfl, hf⟩ := h
  obtain ⟨front', rfl, hf'⟩ := h'
  exact ⟨front ++ front', by rw [List.append_assoc], List.forall_mem_append.mpr ⟨hf, hf'⟩⟩

lemma Past.cons {c : ℕ} (hc : isWs c = false) (s : Str) : Past (c :: s) s := ⟨[c], rfl, by simpa using hc⟩

lemma Past.suffix {s r : Str} (h : Past s r) : r <:+ s := by
  obtain ⟨front, rfl, -⟩ := h
  exact List.suffix_append _ _

lemma past_digits (s : Str) : Past s (afterDigits s) := by
  refine ⟨digitsOf s, List.takeWhile_append_dropWhile.symm, ?_⟩
  intro c hc
  have hd := List.mem_takeWhile_imp hc
  simp only [Decimal.isDigit, decide_eq_true_eq] at hd
  simp only [isWs, Bool.or_eq_false_iff, beq_eq_false_iff_ne]
  omega

lemma number_past {P : Str → Prop} {s r : Str} {j : Json} (h : number s = some (j, r)) : Past s r ∧ Texts P j := by
  have hf (s : Str) : Past s (fraction s).2 := by
    fun_cases fraction s with
    | case1 | case3 => exact .refl _
    | case2 c s hc =>
      rw [hc.1]
      exact (Past.cons (by decide) s).trans (past_digits s)
  have hx (s : Str) : Past s (exponentSign s).2 := by
    fun_cases exponentSign s with
    | case1 | case4 => exact .refl _
    | case2 | case3 =>
      refine .cons ?_ _
      decide
  have he (s : Str) : Past s (exponent s).2 := by
    fun_cases exponent s with
    | case1 | case3 => exact .refl _
    | case2 c s _ hc =>
      have hws : isWs c = false := by rcases hc.1 with rfl | rfl <;> decide
      exact ((Past.cons hws s).trans (hx s)).trans (past_digits _)
  have hu {b : Bool} {s r : Str} (h : unsigned b s = some (j, r)) : Past s r ∧ Texts P j := by
    obtain ⟨⟨ds, t⟩, hi, h⟩ := Option.map_eq_some_iff.mp h
    have ht : Past s t := by
      revert hi
      fun_cases intPart s with
      | case1 | case3 => simp
      | case2 s =>
        rintro ⟨⟩
        refine .cons ?_ t
        decide
      | case4 c s =>
        rintro ⟨⟩
        exact past_digits _
    have hrest := (ht.trans (hf t)).trans (he _)
    by_cases hc : (fraction t).1 = [] ∧ (exponent (fraction t).2).1 = none
    · rw [if_pos hc] at h
      obtain ⟨rfl, rfl⟩ := Prod.mk.inj h
      exact ⟨hrest, trivial⟩
    · rw [if_neg hc] at h
      obtain ⟨rfl, rfl⟩ := Prod.mk.inj h
      exact ⟨hrest, trivial⟩
  cases s with
  | nil => cases h
  | cons c s =>
    rw [number] at h
    split_ifs at h with hc
    · rw [hc]
      exact ⟨(Past.cons (by decide) s).trans (hu h).1, (hu h).2⟩
    · exact hu h

lemma atom_suffix {constants : Bool} {s r : Str} {j : Json} (h : atom constants s = some (j, r)) :
    r <:+ s ∧ Texts Unpaired j := by
  have hk {name : String} {j' : Json} (h : keyword name j' s = some (j, r)) (ht : Texts Unpaired j') :
      r <:+ s ∧ Texts Unpaired j := by
    unfold keyword at h
    split_ifs at h
    obtain ⟨rfl, rfl⟩ := Prod.mk.inj (Option.some.inj h)
    exact ⟨List.drop_suffix _ _, ht⟩
  simp only [atom, Option.orElse_eq_orElse, Option.orElse_eq_or, Option.or_eq_some_iff] at h
  rcases h with h | ⟨-, h | ⟨-, h | ⟨-, h | ⟨-, h⟩⟩⟩⟩
  · exact hk h trivial
  · exact hk h trivial
  · exact hk h trivial
  · split_ifs at h
    simp only [Option.or_eq_some_iff] at h
    rcases h with h | ⟨-, h | ⟨-, h⟩⟩ <;> exact hk h trivial
  · obtain ⟨hpast, hj⟩ := number_past h
    exact ⟨hpast.suffix, hj⟩

mutual

lemma value_suffix {constants : Bool} : ∀ {n : ℕ} {s r : Str} {j : Json}, value constants n s = some (j, r) →
    (∀ c ∈ s, Scalar c) → r <:+ s ∧ Texts Unpaired j
  | 0, _, _, _, h, _ => by simp [value] at h
  | _ + 1, [], _, _, h, _ => by simp [value] at h
  | n + 1, c :: s, r, j, h, hs => by
    have hs' : ∀ c ∈ s, Scalar c := fun d hd => hs d (List.mem_cons_of_mem _ hd)
    have hskip : ∀ c ∈ skip s, Scalar c := fun d hd => hs' d ((skip_suffix s).subset hd)
    have hcons {t : Str} (ht : t <:+ s) : t <:+ c :: s := ht.trans (List.suffix_cons _ _)
    rw [value] at h
    split_ifs at h
    · obtain ⟨⟨t, r'⟩, hr, he⟩ := Option.map_eq_some_iff.mp h
      obtain ⟨rfl, rfl⟩ := Prod.mk.inj he
      obtain ⟨hsuffix, ht⟩ := string_suffix hr hs'
      exact ⟨hcons hsuffix, ht⟩
    · obtain ⟨rfl, rfl⟩ := Prod.mk.inj (Option.some.inj h)
      exact ⟨hcons ((List.tail_suffix _).trans (skip_suffix s)), trivial⟩
    · obtain ⟨⟨js, r'⟩, hr, he⟩ := Option.map_eq_some_iff.mp h
      obtain ⟨rfl, rfl⟩ := Prod.mk.inj he
      obtain ⟨hsuffix, hjs⟩ := elements_suffix hr hskip
      exact ⟨hcons (hsuffix.trans (skip_suffix s)), hjs⟩
    · obtain ⟨rfl, rfl⟩ := Prod.mk.inj (Option.some.inj h)
      exact ⟨hcons ((List.tail_suffix _).trans (skip_suffix s)), trivial⟩
    · obtain ⟨⟨ms, r'⟩, hr, he⟩ := Option.map_eq_some_iff.mp h
      obtain ⟨rfl, rfl⟩ := Prod.mk.inj he
      obtain ⟨hsuffix, hms⟩ := members_suffix hr hskip
      exact ⟨hcons (hsuffix.trans (skip_suffix s)), hms⟩
    · exact atom_suffix h

lemma elements_suffix {constants : Bool} : ∀ {n : ℕ} {s r : Str} {js : List Json},
    elements constants n s = some (js, r) → (∀ c ∈ s, Scalar c) → r <:+ s ∧ ElementTexts Unpaired js
  | 0, _, _, _, h, _ => by simp [elements] at h
  | n + 1, s, r, js, h, hs => by
    simp only [elements, Option.bind_eq_some_iff, Prod.exists] at h
    obtain ⟨j, t, hv, h⟩ := h
    obtain ⟨hsuffix, hj⟩ := value_suffix hv hs
    have ht := (skip_suffix t).trans hsuffix
    cases hc : skip t with
    | nil => simp [hc] at h
    | cons c t' =>
      rw [hc] at ht
      have ht' := (List.suffix_cons c t').trans ht
      simp only [hc] at h
      split_ifs at h
      · obtain ⟨⟨qs, r'⟩, hr, he⟩ := Option.map_eq_some_iff.mp h
        obtain ⟨rfl, rfl⟩ := Prod.mk.inj he
        have hskip := (skip_suffix t').trans ht'
        obtain ⟨hsuffix, hqs⟩ := elements_suffix hr fun d hd => hs d (hskip.subset hd)
        exact ⟨hsuffix.trans hskip, hj, hqs⟩
      · obtain ⟨rfl, rfl⟩ := Prod.mk.inj (Option.some.inj h)
        exact ⟨ht', hj, trivial⟩

lemma members_suffix {constants : Bool} : ∀ {n : ℕ} {s r : Str} {ms : List (Str × Json)},
    members constants n s = some (ms, r) → (∀ c ∈ s, Scalar c) → r <:+ s ∧ MemberTexts Unpaired ms
  | 0, _, _, _, h, _ => by simp [members] at h
  | _ + 1, [], _, _, h, _ => by simp [members] at h
  | n + 1, c :: s, r, ms, h, hs => by
    rw [members] at h
    split_ifs at h
    simp only [Option.bind_eq_some_iff, Prod.exists] at h
    obtain ⟨k, t, hk, h⟩ := h
    obtain ⟨hsuffix, hk⟩ := string_suffix hk fun d hd => hs d (List.mem_cons_of_mem _ hd)
    have ht := ((skip_suffix t).trans hsuffix).trans (List.suffix_cons c s)
    cases hc : skip t with
    | nil => simp [hc] at h
    | cons d t' =>
      rw [hc] at ht
      simp only [hc] at h
      split_ifs at h
      simp only [Option.bind_eq_some_iff, Prod.exists] at h
      obtain ⟨j, u, hv, h⟩ := h
      have ht' := (skip_suffix t').trans ((List.suffix_cons d t').trans ht)
      obtain ⟨hsuffix, hj⟩ := value_suffix hv fun e he => hs e (ht'.subset he)
      have hu := (skip_suffix u).trans (hsuffix.trans ht')
      cases hd : skip u with
      | nil => simp [hd] at h
      | cons e u' =>
        rw [hd] at hu
        have hu' := (List.suffix_cons e u').trans hu
        simp only [hd] at h
        split_ifs at h
        · obtain ⟨⟨qs, r'⟩, hr, he⟩ := Option.map_eq_some_iff.mp h
          obtain ⟨rfl, rfl⟩ := Prod.mk.inj he
          have hskip := (skip_suffix u').trans hu'
          obtain ⟨hsuffix, hqs⟩ := members_suffix hr fun f hf => hs f (hskip.subset hf)
          exact ⟨hsuffix.trans hskip, hk, hj, hqs⟩
        · obtain ⟨rfl, rfl⟩ := Prod.mk.inj (Option.some.inj h)
          exact ⟨hu', hk, hj, trivial⟩

end

mutual

lemma texts_rounded {P : Str → Prop} : (j : Json) → Texts P j → Texts P (rounded j)
  | .null, _ | .bool _, _ | .int _, _ | .float _, _ => trivial
  | .str _, h => h
  | .arr js, h => elementTexts_rounded js h
  | .obj ms, h => memberTexts_rounded ms h

lemma elementTexts_rounded {P : Str → Prop} : (js : List Json) → ElementTexts P js →
    ElementTexts P (roundedElements js)
  | [], _ => trivial
  | j :: js, h => ⟨texts_rounded j h.1, elementTexts_rounded js h.2⟩

lemma memberTexts_rounded {P : Str → Prop} : (ms : List (Str × Json)) → MemberTexts P ms →
    MemberTexts P (roundedMembers ms)
  | [], _ => trivial
  | (_, j) :: ms, h => ⟨h.1, texts_rounded j h.2.1, memberTexts_rounded ms h.2.2⟩

end

theorem parse_texts {constants : Bool} {s : Str} {j : Json} (h : parse constants s = some j)
    (hs : ∀ c ∈ s, Scalar c) : Texts Unpaired j := by
  obtain ⟨_, hdoc, rfl⟩ := Option.map_eq_some_iff.mp h
  obtain ⟨⟨_, r⟩, hv, hrest⟩ := Option.bind_eq_some_iff.mp hdoc
  split_ifs at hrest
  obtain rfl := Option.some.inj hrest
  exact texts_rounded _ (value_suffix hv fun c hc => hs c ((skip_suffix s).subset hc)).2

lemma parse_hex_eq_none {constants : Bool} {ds t : Str}
    (hd : ∀ c ∈ ds, 48 ≤ c ∧ c ≤ 57 ∨ 97 ≤ c ∧ c ≤ 102) (hlen : 3 ≤ ds.length) (ht : ∃ c ∈ t, isWs c = false) :
    parse constants (ds ++ 32 :: t) = none := by
  obtain _ | ⟨a, _ | ⟨b, _ | ⟨c, ds⟩⟩⟩ := ds
  · simp at hlen
  · simp at hlen
  · simp at hlen
  have ha := hd a (by simp)
  have hc := hd c (by simp)
  have hws {c : ℕ} (h : 48 ≤ c ∧ c ≤ 57 ∨ 97 ≤ c ∧ c ≤ 102) : isWs c = false := by
    simp only [isWs, Bool.or_eq_false_iff, beq_eq_false_iff_ne]
    omega
  have hskip : skip (a :: b :: c :: ds ++ 32 :: t) = a :: b :: c :: ds ++ 32 :: t := skip_cons (hws ha) _
  rw [parse, document, hskip, Option.map_eq_none_iff, Option.bind_eq_none_iff]
  rintro ⟨j, r⟩ hv
  rw [if_neg]
  intro hr
  have hkey {name : String} {j : Json} {d : ℕ} (hn : (lit name).head? = some d) (hne : a ≠ d) :
      keyword name j (a :: b :: c :: ds ++ 32 :: t) = none := by
    rw [keyword, if_neg]
    intro hp
    obtain ⟨rest, hl⟩ := List.head?_eq_some_iff.mp hn
    rw [hl, List.cons_append, List.cons_prefix_cons] at hp
    exact hne hp.1.symm
  have hfalse : keyword "false" (.bool false) (a :: b :: c :: ds ++ 32 :: t) = none := by
    rw [keyword, if_neg]
    intro hp
    have hl : lit "false" = [102, 97, 108, 115, 101] := by decide
    rw [hl, List.cons_append, List.cons_append, List.cons_append, List.cons_prefix_cons, List.cons_prefix_cons,
      List.cons_prefix_cons] at hp
    omega
  have hnumber : number (a :: b :: c :: ds ++ 32 :: t) = some (j, r) := by
    rw [List.cons_append, value, if_neg (by omega), if_neg (by omega), if_neg (by omega), atom,
      ← List.cons_append, hkey (d := 110) (by decide) (by omega), hkey (d := 116) (by decide) (by omega), hfalse,
      hkey (d := 78) (by decide) (by omega), hkey (d := 73) (by decide) (by omega),
      hkey (d := 45) (by decide) (by omega)] at hv
    cases constants <;> exact hv
  obtain ⟨⟨front, he, hf⟩, -⟩ := number_past (P := fun _ => True) hnumber
  -- the number ends before the space, so what comes after the space is left
  obtain ⟨d, hdt, hdws⟩ := ht
  have hmem : d ∈ r := by
    rcases List.append_eq_append_iff.mp he with ⟨m, hm, hm'⟩ | ⟨m, hm, hm'⟩
    · cases m with
      | nil =>
        rw [List.nil_append] at hm'
        rw [← hm']
        exact List.mem_cons_of_mem _ hdt
      | cons e m =>
        obtain ⟨rfl, -⟩ := List.cons.inj hm'
        have h32 := hf 32 (by simp [hm])
        cases h32
    · rw [hm']
      exact List.mem_append_right _ (List.mem_cons_of_mem _ hdt)
  have hall := List.dropWhile_eq_nil_iff.mp hr d hmem
  rw [hdws] at hall
  cases hall

lemma texts_of_field {P : Str → Prop} {key : Str} {j : Json} {ms : List (Str × Json)} (h : MemberTexts P ms)
    (hf : field key ms = some j) : Texts P j := by
  induction ms with
  | nil => cases hf
  | cons m ms ih =>
    obtain ⟨k, j'⟩ := m
    rw [field_cons] at hf
    cases hrest : field key ms with
    | some j'' =>
      rw [hrest] at hf
      exact ih h.2.2 (hrest.trans hf)
    | none =>
      rw [hrest, Option.none_or, Option.ite_none_right_eq_some] at hf
      obtain rfl := Option.some.inj hf.2
      exact h.2.1

lemma texts_of_mem {P : Str → Prop} {js : List Json} (h : ElementTexts P js) : ∀ j ∈ js, Texts P j := by
  induction js with
  | nil => simp
  | cons j js ih => exact List.forall_mem_cons.mpr ⟨h.1, ih h.2⟩

end Graft64.Library.Json
