import Graft64.Library.Decimal

/-! Regular expressions as a backtracking matcher runs them, with `^` and `$` at every line. -/

namespace Graft64.Library

inductive Regex
  | empty
  | char (p : ℕ → Bool)
  | startOfLine
  | endOfLine
  | endOfText
  /-- `[…]*` -/
  | many (p : ℕ → Bool)
  /-- `[…]*?` -/
  | manyLazy (p : ℕ → Bool)
  /-- `(?:…)+` -/
  | repeated (r : Regex)
  | seq (r s : Regex)
  | alt (r s : Regex)
  | group (r : Regex)
  | ahead (r : Regex)
  | notAhead (r : Regex)

namespace Regex

def plus (p : ℕ → Bool) : Regex := .seq (.char p) (.many p)

def text : Str → Regex
  | [] => .empty
  | c :: cs => .seq (.char (· == c)) (text cs)

def seqs : List Regex → Regex
  | [] => .empty
  | [r] => r
  | r :: rs => .seq r (seqs rs)

/-- A place in a text: whether a line starts there, and the text from there on. -/
structure Cursor where
  bol : Bool
  rest : Str
deriving DecidableEq

/-- The place after a match, and the groups in the order in which they were closed. -/
abbrev Match := Cursor × List Str

/-- What is tried after a part of an expression has matched. -/
abbrev Cont := Cursor → List Str → Option Match

def Cursor.after (c : ℕ) (rest : Str) : Cursor := ⟨c == 10, rest⟩

def greedy (p : ℕ → Bool) (k : Cursor → Option Match) : Bool → Str → Option Match
  | bol, [] => k ⟨bol, []⟩
  | bol, c :: rest =>
    if p c then (greedy p k (c == 10) rest).orElse fun _ => k ⟨bol, c :: rest⟩ else k ⟨bol, c :: rest⟩

def shortest (p : ℕ → Bool) (k : Cursor → Option Match) : Bool → Str → Option Match
  | bol, [] => k ⟨bol, []⟩
  | bol, c :: rest =>
    (k ⟨bol, c :: rest⟩).orElse fun _ => if p c then shortest p k (c == 10) rest else none

/-- One round or more, for rounds that consume something. -/
def rounds (step : Cont → Cont) (k : Cont) : ℕ → Cont
  | 0, _, _ => none
  | n + 1, c, caps => step (fun c' caps' => (rounds step k n c' caps').orElse fun _ => k c' caps') c caps

def run : Regex → Cont → Cont
  | .empty, k, c, caps => k c caps
  | .char p, k, c, caps => match c.rest with
    | [] => none
    | x :: rest => if p x then k (.after x rest) caps else none
  | .startOfLine, k, c, caps => if c.bol then k c caps else none
  | .endOfLine, k, c, caps => if c.rest.head?.all (· == 10) then k c caps else none
  | .endOfText, k, c, caps => if c.rest.isEmpty then k c caps else none
  | .many p, k, c, caps => greedy p (fun c => k c caps) c.bol c.rest
  | .manyLazy p, k, c, caps => shortest p (fun c => k c caps) c.bol c.rest
  | .repeated r, k, c, caps => rounds r.run k c.rest.length c caps
  | .seq r s, k, c, caps => r.run (s.run k) c caps
  | .alt r s, k, c, caps => (r.run k c caps).orElse fun _ => s.run k c caps
  | .group r, k, c, caps =>
    r.run (fun c' caps' => k c' (caps' ++ [c.rest.take (c.rest.length - c'.rest.length)])) c caps
  | .ahead r, k, c, caps => if (r.run (fun c' caps' => some (c', caps')) c caps).isSome then k c caps else none
  | .notAhead r, k, c, caps => if (r.run (fun c' caps' => some (c', caps')) c caps).isNone then k c caps else none

def matchAt (r : Regex) (c : Cursor) : Option Match := r.run (fun c caps => some (c, caps)) c []

/-- `re.search`, from a place on. -/
def searchFrom (r : Regex) : Bool → Str → Option Match
  | bol, [] => r.matchAt ⟨bol, []⟩
  | bol, c :: rest => (r.matchAt ⟨bol, c :: rest⟩).orElse fun _ => searchFrom r (c == 10) rest

def search (r : Regex) (text : Str) : Option (List Str) := (searchFrom r true text).map Prod.snd

/-- `re.findall`, for an expression that does not match the empty string. -/
def findAllFrom (r : Regex) : ℕ → Cursor → List (List Str)
  | 0, _ => []
  | n + 1, c => match searchFrom r c.bol c.rest with
    | none => []
    | some (c', caps) => caps :: findAllFrom r n c'

def findAll (r : Regex) (text : Str) : List (List Str) := findAllFrom r (text.length + 1) ⟨true, text⟩

def bolAfter (bol : Bool) (w : Str) : Bool := w.foldl (fun _ c => c == 10) bol

lemma bolAfter_of_not_mem {w : Str} (hn : w ≠ []) (hw : 10 ∉ w) (bol : Bool) : bolAfter bol w = false := by
  induction w generalizing bol with
  | nil => exact absurd rfl hn
  | cons c w ih =>
    simp only [List.mem_cons, not_or] at hw
    have hc : (c == 10) = false := beq_eq_false_iff_ne.mpr (Ne.symm hw.1)
    by_cases h : w = []
    · subst h
      exact hc
    · exact ih h hw.2 (c == 10)

section

variable {p : ℕ → Bool} {k : Cursor → Option Match} {bol : Bool} {rest w : Str}

lemma greedy_stop (h : ∀ c ∈ rest.head?, p c = false) : greedy p k bol rest = k ⟨bol, rest⟩ := by
  cases rest with
  | nil => rfl
  | cons c rest => rw [greedy, if_neg (by simpa using h c rfl)]

lemma greedy_append {m : Match} (hw : ∀ c ∈ w, p c = true)
    (hm : greedy p k (bolAfter bol w) rest = some m) : greedy p k bol (w ++ rest) = some m := by
  induction w generalizing bol with
  | nil => exact hm
  | cons c w ih =>
    have h : greedy p k (c == 10) (w ++ rest) = some m := ih (fun d hd => hw d (List.mem_cons_of_mem _ hd)) hm
    rw [List.cons_append, greedy, if_pos (hw c List.mem_cons_self), h]
    rfl

lemma greedy_none (h : ∀ b s, s <:+ rest → k ⟨b, s⟩ = none) : greedy p k bol rest = none := by
  induction rest generalizing bol with
  | nil => exact h _ _ List.suffix_rfl
  | cons c rest ih =>
    have hr : greedy p k (c == 10) rest = none :=
      ih fun b s hs => h b s (hs.trans (List.suffix_cons c rest))
    rw [greedy, hr, h _ _ List.suffix_rfl]
    simp

lemma greedy_exact (hw : ∀ c ∈ w, p c = true) (hr : ∀ c ∈ rest.head?, p c = false)
    (hk : ∀ b c s, p c = true → k ⟨b, c :: s⟩ = none) :
    greedy p k bol (w ++ rest) = k ⟨bolAfter bol w, rest⟩ := by
  induction w generalizing bol with
  | nil => exact greedy_stop hr
  | cons c w ih =>
    have h : greedy p k (c == 10) (w ++ rest) = k ⟨bolAfter (c == 10) w, rest⟩ :=
      ih fun d hd => hw d (List.mem_cons_of_mem _ hd)
    rw [List.cons_append, greedy, if_pos (hw c List.mem_cons_self), h, hk _ _ _ (hw c List.mem_cons_self)]
    change (k ⟨bolAfter (c == 10) w, rest⟩).orElse (fun _ => none) = k ⟨bolAfter (c == 10) w, rest⟩
    cases k ⟨bolAfter (c == 10) w, rest⟩ <;> rfl

end

@[simp] lemma take_group (w t : Str) : (w ++ t).take ((w ++ t).length - t.length) = w := by
  rw [List.length_append, Nat.add_sub_cancel, List.take_left]

section

variable {k : Cont} {caps : List Str}

lemma run_text (s rest : Str) (bol : Bool) :
    (text s).run k ⟨bol, s ++ rest⟩ caps = k ⟨bolAfter bol s, rest⟩ caps := by
  induction s generalizing bol with
  | nil => rfl
  | cons c s ih =>
    have h : (text (c :: s)).run k ⟨bol, c :: s ++ rest⟩ caps = (text s).run k (.after c (s ++ rest)) caps := by
      simp [text, run]
    rw [h]
    exact ih _

lemma run_text_none {s rest : Str} (h : ¬ s <+: rest) (bol : Bool) : (text s).run k ⟨bol, rest⟩ caps = none := by
  induction s generalizing bol rest with
  | nil => exact absurd (List.nil_prefix) h
  | cons c s ih => cases rest with
    | nil => rfl
    | cons d rest =>
      by_cases hd : d = c
      · subst hd
        have hs : ¬ s <+: rest := fun hs => h (List.cons_prefix_cons.mpr ⟨rfl, hs⟩)
        simp [text, run, Cursor.after, ih hs]
      · simp [text, run, hd]

lemma run_plus_exact {p : ℕ → Bool} {w rest : Str} (hn : w ≠ []) (hw : ∀ c ∈ w, p c = true)
    (hr : ∀ c ∈ rest.head?, p c = false) (hk : ∀ b c s, p c = true → k ⟨b, c :: s⟩ caps = none) (bol : Bool) :
    (plus p).run k ⟨bol, w ++ rest⟩ caps = k ⟨bolAfter bol w, rest⟩ caps := by
  obtain ⟨c, w, rfl⟩ := List.exists_cons_of_ne_nil hn
  have hc : (plus p).run k ⟨bol, c :: w ++ rest⟩ caps =
      greedy p (fun c => k c caps) (c == 10) (w ++ rest) := by
    simp [plus, run, hw c List.mem_cons_self, Cursor.after]
  rw [hc, greedy_exact (fun d hd => hw d (List.mem_cons_of_mem _ hd)) hr hk]
  rfl

lemma run_plus_none {p : ℕ → Bool} {rest : Str} (h : ∀ c ∈ rest.head?, p c = false) (bol : Bool) :
    (plus p).run k ⟨bol, rest⟩ caps = none := by
  cases rest with
  | nil => rfl
  | cons c rest => simp [plus, run, h c rfl]

end

section

variable {r : Regex}

def Anchored (r : Regex) : Prop := ∀ rest, r.matchAt ⟨false, rest⟩ = none

lemma anchored_seq (s : Regex) : Anchored (.seq .startOfLine s) := fun _ => rfl

lemma searchFrom_of_some {c : Cursor} {m : Match} (h : r.matchAt c = some m) :
    searchFrom r c.bol c.rest = some m := by
  obtain ⟨bol, rest⟩ := c
  cases rest with
  | nil => exact h
  | cons c rest =>
    rw [searchFrom, h]
    rfl

lemma searchFrom_line (hr : r.Anchored) {l : Str} (hl : 10 ∉ l) (rest : Str) :
    searchFrom r false (l ++ 10 :: rest) = searchFrom r true rest := by
  induction l with
  | nil =>
    rw [List.nil_append, searchFrom, hr]
    rfl
  | cons c l ih =>
    simp only [List.mem_cons, not_or] at hl
    have hc : (c == 10) = false := beq_eq_false_iff_ne.mpr (Ne.symm hl.1)
    rw [List.cons_append, searchFrom, hr, hc]
    exact ih hl.2

lemma searchFrom_last (hr : r.Anchored) {l : Str} (hl : 10 ∉ l) : searchFrom r false l = none := by
  induction l with
  | nil => exact hr []
  | cons c l ih =>
    simp only [List.mem_cons, not_or] at hl
    have hc : (c == 10) = false := beq_eq_false_iff_ne.mpr (Ne.symm hl.1)
    rw [searchFrom, hr, hc]
    exact ih hl.2

lemma searchFrom_line_of_none (hr : r.Anchored) {l : Str} (hl : 10 ∉ l) {rest : Str}
    (h : r.matchAt ⟨true, l ++ 10 :: rest⟩ = none) :
    searchFrom r true (l ++ 10 :: rest) = searchFrom r true rest := by
  cases l with
  | nil =>
    rw [List.nil_append] at h ⊢
    rw [searchFrom, h]
    rfl
  | cons c l =>
    simp only [List.mem_cons, not_or] at hl
    have hc : (c == 10) = false := beq_eq_false_iff_ne.mpr (Ne.symm hl.1)
    rw [List.cons_append] at h ⊢
    rw [searchFrom, h, hc]
    exact searchFrom_line hr hl.2 rest

lemma searchFrom_last_of_none (hr : r.Anchored) {l : Str} (hl : 10 ∉ l) (h : r.matchAt ⟨true, l⟩ = none) :
    searchFrom r true l = none := by
  cases l with
  | nil => exact h
  | cons c l =>
    simp only [List.mem_cons, not_or] at hl
    have hc : (c == 10) = false := beq_eq_false_iff_ne.mpr (Ne.symm hl.1)
    rw [searchFrom, h, hc]
    exact searchFrom_last hr hl.2

end

end Regex

/-- `text.split("\n")` -/
def lines (text : Str) : List Str := text.splitOn 10

def joined (ls : List Str) : Str := ls.flatMap fun l => 10 :: l

@[simp] lemma joined_nil : joined [] = [] := rfl

@[simp] lemma joined_cons (l : Str) (ls : List Str) : joined (l :: ls) = 10 :: (l ++ joined ls) := rfl

lemma lines_cons (c : ℕ) (text : Str) :
    lines (c :: text) = if c = 10 then [] :: lines text else (lines text).modifyHead (c :: ·) := by
  simp [lines, List.splitOn, List.splitOnP_cons_eq_if_modifyHead]

lemma exists_lines (text : Str) :
    ∃ l ls, lines text = l :: ls ∧ text = l ++ joined ls ∧ ∀ m ∈ l :: ls, 10 ∉ m := by
  induction text with
  | nil => exact ⟨[], [], rfl, rfl, by simp⟩
  | cons c text ih =>
    obtain ⟨l, ls, hl, rfl, h10⟩ := ih
    rw [lines_cons, hl]
    by_cases hc : c = 10
    · subst hc
      refine ⟨[], l :: ls, if_pos rfl, rfl, ?_⟩
      intro m hm
      rcases List.mem_cons.mp hm with rfl | hm
      · exact List.not_mem_nil
      · exact h10 m hm
    · refine ⟨c :: l, ls, if_neg hc, rfl, ?_⟩
      intro m hm
      rcases List.mem_cons.mp hm with rfl | hm
      · rw [List.mem_cons, not_or]
        exact ⟨Ne.symm hc, h10 l List.mem_cons_self⟩
      · exact h10 m (List.mem_cons_of_mem _ hm)

lemma joined_head (ls : List Str) : ∀ c ∈ (joined ls).head?, c = 10 := by
  cases ls with
  | nil => simp
  | cons l ls => simp

namespace Regex

variable {r : Regex}

lemma searchFrom_joined (hr : r.Anchored) (l : Str) (ls : List Str) :
    searchFrom r false (joined (l :: ls)) = searchFrom r true (l ++ joined ls) := by
  have h := searchFrom_line hr (l := []) List.not_mem_nil (l ++ joined ls)
  rwa [List.nil_append] at h

lemma searchFrom_lines_of_none (hr : r.Anchored) {l m : Str} (hl : 10 ∉ l) {ls : List Str}
    (h : r.matchAt ⟨true, l ++ joined (m :: ls)⟩ = none) :
    searchFrom r true (l ++ joined (m :: ls)) = searchFrom r true (m ++ joined ls) :=
  searchFrom_line_of_none hr hl h

lemma findAllFrom_of_none {c : Cursor} (h : searchFrom r c.bol c.rest = none) (n : ℕ) :
    findAllFrom r n c = [] := by
  cases n with
  | zero => rfl
  | succ n => rw [findAllFrom, h]

lemma findAllFrom_of_some {c c' : Cursor} {caps : List Str} (h : r.matchAt c = some (c', caps)) (n : ℕ) :
    findAllFrom r (n + 1) c = caps :: findAllFrom r n c' := by
  rw [findAllFrom, searchFrom_of_some h]

lemma findAllFrom_congr {c : Cursor} (c' : Cursor)
    (h : searchFrom r c.bol c.rest = searchFrom r c'.bol c'.rest) (n : ℕ) :
    findAllFrom r n c = findAllFrom r n c' := by
  cases n with
  | zero => rfl
  | succ n => rw [findAllFrom, findAllFrom, h]

def Chain (step : Cursor → Cursor → Prop) : ℕ → Cursor → Cursor → Prop
  | 0, c, d => d = c
  | n + 1, c, d => ∃ e, step c e ∧ Chain step n e d

/-- The places where a match that starts at a place can end, whichever of them is preferred. -/
def Accepts : Regex → Cursor → Cursor → Prop
  | .empty, c, d => d = c
  | .char p, c, d => ∃ x rest, c.rest = x :: rest ∧ p x = true ∧ d = .after x rest
  | .startOfLine, c, d => c.bol = true ∧ d = c
  | .endOfLine, c, d => c.rest.head?.all (· == 10) = true ∧ d = c
  | .endOfText, c, d => c.rest = [] ∧ d = c
  | .many p, c, d | .manyLazy p, c, d =>
    ∃ w rest, c.rest = w ++ rest ∧ (∀ x ∈ w, p x = true) ∧ d = ⟨bolAfter c.bol w, rest⟩
  | .repeated r, c, d => ∃ n < c.rest.length, Chain r.Accepts (n + 1) c d
  | .seq r s, c, d => ∃ e, r.Accepts c e ∧ s.Accepts e d
  | .alt r s, c, d => r.Accepts c d ∨ s.Accepts c d
  | .group r, c, d => r.Accepts c d
  | .ahead r, c, d => (∃ e, r.Accepts c e) ∧ d = c
  | .notAhead r, c, d => (¬ ∃ e, r.Accepts c e) ∧ d = c

lemma accepts_text {s : Str} {c d : Cursor} :
    (text s).Accepts c d ↔ ∃ rest, c.rest = s ++ rest ∧ d = ⟨bolAfter c.bol s, rest⟩ := by
  induction s generalizing c with
  | nil =>
    obtain ⟨bol, rest⟩ := c
    constructor
    · rintro rfl
      exact ⟨rest, rfl, rfl⟩
    · rintro ⟨_, rfl, rfl⟩
      rfl
  | cons x s ih =>
    obtain ⟨bol, rest⟩ := c
    simp only [text, Accepts, ih]
    constructor
    · rintro ⟨_, ⟨y, rest', rfl, hy, rfl⟩, rest'', h, rfl⟩
      obtain rfl : rest' = s ++ rest'' := h
      exact ⟨rest'', by rw [eq_of_beq hy]; rfl, by rw [eq_of_beq hy]; rfl⟩
    · rintro ⟨rest', rfl, rfl⟩
      exact ⟨_, ⟨x, s ++ rest', rfl, beq_self_eq_true x, rfl⟩, rest', rfl, rfl⟩

/-- A continuation that succeeds or fails whatever the groups hold, at the places in a set. -/
def Succeeds (k : Cont) (P : Cursor → Prop) : Prop := ∀ c caps, (k c caps).isSome = true ↔ P c

lemma isSome_orElse {a : Option Match} {f : Unit → Option Match} :
    (a.orElse f).isSome = true ↔ a.isSome = true ∨ (f ()).isSome = true := by
  cases a <;> simp

section

variable {p : ℕ → Bool} {P : Cursor → Prop}

def Splits (p : ℕ → Bool) (P : Cursor → Prop) (bol : Bool) (text : Str) : Prop :=
  ∃ w rest, text = w ++ rest ∧ (∀ x ∈ w, p x = true) ∧ P ⟨bolAfter bol w, rest⟩

lemma splits_nil {bol : Bool} : Splits p P bol [] ↔ P ⟨bol, []⟩ := by
  constructor
  · rintro ⟨w, rest, he, -, h⟩
    obtain ⟨rfl, rfl⟩ := List.append_eq_nil_iff.mp he.symm
    exact h
  · exact fun h => ⟨[], [], rfl, by simp, h⟩

lemma splits_cons {bol : Bool} {c : ℕ} {text : Str} :
    Splits p P bol (c :: text) ↔ P ⟨bol, c :: text⟩ ∨ (p c = true ∧ Splits p P (c == 10) text) := by
  constructor
  · rintro ⟨w, rest, he, hw, h⟩
    cases w with
    | nil =>
      obtain rfl : c :: text = rest := he
      exact .inl h
    | cons d w =>
      obtain ⟨rfl, rfl⟩ := List.cons.inj he
      exact .inr ⟨hw c List.mem_cons_self, w, rest, rfl, fun x hx => hw x (List.mem_cons_of_mem _ hx), h⟩
  · rintro (h | ⟨hc, w, rest, rfl, hw, h⟩)
    · exact ⟨[], c :: text, rfl, by simp, h⟩
    · exact ⟨c :: w, rest, rfl, List.forall_mem_cons.mpr ⟨hc, hw⟩, h⟩

lemma greedy_isSome {k : Cursor → Option Match} (hk : ∀ c, (k c).isSome = true ↔ P c) (bol : Bool) (text : Str) :
    (greedy p k bol text).isSome = true ↔ Splits p P bol text := by
  induction text generalizing bol with
  | nil => rw [greedy, hk, splits_nil]
  | cons c text ih =>
    rw [greedy, splits_cons]
    by_cases hc : p c = true
    · rw [if_pos hc, isSome_orElse, ih, hk]
      tauto
    · rw [if_neg hc, hk]
      tauto

lemma shortest_isSome {k : Cursor → Option Match} (hk : ∀ c, (k c).isSome = true ↔ P c) (bol : Bool) (text : Str) :
    (shortest p k bol text).isSome = true ↔ Splits p P bol text := by
  induction text generalizing bol with
  | nil => rw [shortest, hk, splits_nil]
  | cons c text ih =>
    rw [shortest, splits_cons, isSome_orElse, hk]
    by_cases hc : p c = true
    · rw [if_pos hc, ih]
      tauto
    · rw [if_neg hc]
      simp [hc]

end

lemma rounds_isSome {step : Cont → Cont} {R : Cursor → Cursor → Prop}
    (hstep : ∀ {k P}, Succeeds k P → Succeeds (step k) fun c => ∃ d, R c d ∧ P d) {k : Cont} {P : Cursor → Prop}
    (hk : Succeeds k P) (n : ℕ) : Succeeds (rounds step k n) fun c => ∃ m < n, ∃ d, Chain R (m + 1) c d ∧ P d := by
  induction n with
  | zero =>
    intro c caps
    simp [rounds]
  | succ n ih =>
    intro c caps
    have hnext : Succeeds (fun c caps => (rounds step k n c caps).orElse fun _ => k c caps)
        fun c => ∃ m < n + 1, ∃ d, Chain R m c d ∧ P d := by
      intro c caps
      rw [isSome_orElse, ih, hk]
      constructor
      · rintro (⟨m, hm, d, hd⟩ | h)
        · exact ⟨m + 1, by omega, d, hd⟩
        · exact ⟨0, by omega, c, rfl, h⟩
      · rintro ⟨m, hm, d, hd, hP⟩
        cases m with
        | zero =>
          obtain rfl : d = c := hd
          exact .inr hP
        | succ m => exact .inl ⟨m, by omega, d, hd, hP⟩
    rw [rounds, hstep hnext c caps]
    constructor
    · rintro ⟨e, he, m, hm, d, hd, hP⟩
      exact ⟨m, hm, d, ⟨e, he, hd⟩, hP⟩
    · rintro ⟨m, hm, d, ⟨e, he, hd⟩, hP⟩
      exact ⟨e, he, m, hm, d, hd, hP⟩

/-- An expression takes a continuation to one that succeeds where some match leads to a place of the set. -/
def Exact (r : Regex) : Prop := ∀ (k : Cont) (P : Cursor → Prop), Succeeds k P →
  Succeeds (r.run k) fun c => ∃ d, r.Accepts c d ∧ P d

section

variable {r s : Regex} {p : ℕ → Bool}

lemma exact_char : (char p).Exact := by
  rintro k P hk ⟨bol, rest⟩ caps
  cases rest with
  | nil => simp [run, Accepts]
  | cons x rest =>
    by_cases hx : p x = true <;> simp [run, Accepts, hx, hk _ _]

lemma exact_startOfLine : startOfLine.Exact := by
  intro k P hk c caps
  by_cases hb : c.bol = true <;> simp [run, Accepts, hb, hk _ _]

lemma exact_endOfLine : endOfLine.Exact := by
  intro k P hk c caps
  by_cases hb : c.rest.head?.all (· == 10) = true <;> simp only [run, Accepts, hb] <;> simp [hk _ _]

lemma exact_endOfText : endOfText.Exact := by
  intro k P hk c caps
  by_cases hb : c.rest = [] <;> simp [run, Accepts, hb, hk _ _]

lemma splits_iff_accepts {P : Cursor → Prop} {c : Cursor} :
    Splits p P c.bol c.rest ↔ ∃ d, (many p).Accepts c d ∧ P d := by
  constructor
  · rintro ⟨w, rest, he, hw, hP⟩
    exact ⟨_, ⟨w, rest, he, hw, rfl⟩, hP⟩
  · rintro ⟨_, ⟨w, rest, he, hw, rfl⟩, hP⟩
    exact ⟨w, rest, he, hw, hP⟩

lemma exact_many : (many p).Exact := by
  intro k P hk c caps
  rw [run, greedy_isSome fun c => hk c caps, splits_iff_accepts]

lemma exact_manyLazy : (manyLazy p).Exact := by
  intro k P hk c caps
  rw [run, shortest_isSome fun c => hk c caps, splits_iff_accepts]
  rfl

lemma exact_repeated (h : r.Exact) : (repeated r).Exact := by
  intro k P hk c caps
  rw [run, rounds_isSome (h _ _) hk]
  constructor
  · rintro ⟨m, hm, d, hd, hP⟩
    exact ⟨d, ⟨m, hm, hd⟩, hP⟩
  · rintro ⟨d, ⟨m, hm, hd⟩, hP⟩
    exact ⟨m, hm, d, hd, hP⟩

lemma exact_seq (hr : r.Exact) (hs : s.Exact) : (seq r s).Exact := by
  intro k P hk c caps
  rw [run, hr _ _ (hs k P hk)]
  constructor
  · rintro ⟨e, he, d, hd, hP⟩
    exact ⟨d, ⟨e, he, hd⟩, hP⟩
  · rintro ⟨d, ⟨e, he, hd⟩, hP⟩
    exact ⟨e, he, d, hd, hP⟩

lemma exact_alt (hr : r.Exact) (hs : s.Exact) : (alt r s).Exact := by
  intro k P hk c caps
  rw [run, isSome_orElse, hr k P hk, hs k P hk]
  simp only [Accepts, or_and_right, exists_or]

lemma exact_group (h : r.Exact) : (group r).Exact := by
  intro k P hk c caps
  rw [run]
  exact h _ P (fun d caps' => hk d _) c caps

lemma Exact.isSome_iff (h : r.Exact) (c : Cursor) (caps : List Str) :
    (r.run (fun c caps => some (c, caps)) c caps).isSome = true ↔ ∃ d, r.Accepts c d := by
  simpa using h _ (fun _ => True) (fun _ _ => by simp) c caps

lemma exact_ahead (h : r.Exact) : (ahead r).Exact := by
  intro k P hk c caps
  rw [run]
  split_ifs with hs
  · have ha := (h.isSome_iff c caps).mp hs
    rw [hk]
    simp [Accepts, ha]
  · have ha := mt (h.isSome_iff c caps).mpr hs
    simp only [Accepts, ha]
    simp

lemma exact_notAhead (h : r.Exact) : (notAhead r).Exact := by
  intro k P hk c caps
  rw [run, ← Option.not_isSome]
  split_ifs with hs
  · rw [Bool.not_eq_true', ← Bool.not_eq_true, h.isSome_iff] at hs
    rw [hk]
    simp only [Accepts, hs]
    simp
  · rw [Bool.not_eq_true', ← Bool.not_eq_true, h.isSome_iff, not_not] at hs
    simp [Accepts, hs]

end

/-- The matcher finds a match exactly where there is one. -/
theorem run_exact (r : Regex) : r.Exact := by
  induction r with
  | empty =>
    intro k P hk c caps
    rw [run, hk]
    simp [Accepts]
  | char p => exact exact_char
  | startOfLine => exact exact_startOfLine
  | endOfLine => exact exact_endOfLine
  | endOfText => exact exact_endOfText
  | many p => exact exact_many
  | manyLazy p => exact exact_manyLazy
  | repeated r ih => exact exact_repeated ih
  | seq r s ihr ihs => exact exact_seq ihr ihs
  | alt r s ihr ihs => exact exact_alt ihr ihs
  | group r ih => exact exact_group ih
  | ahead r ih => exact exact_ahead ih
  | notAhead r ih => exact exact_notAhead ih

theorem matchAt_isSome (r : Regex) (c : Cursor) : (r.matchAt c).isSome = true ↔ ∃ d, r.Accepts c d := by
  rw [matchAt, (run_exact r).isSome_iff]

def Gives (text : Str) (k : Cont) (M : Match → Prop) : Prop :=
  ∀ c caps, c.rest <:+ text → (∀ g ∈ caps, g <:+: text) → ∀ m, k c caps = some m → M m

lemma of_orElse_eq_some {a : Option Match} {f : Unit → Option Match} {m : Match} (h : a.orElse f = some m) :
    a = some m ∨ f () = some m := by
  cases a with
  | none => exact .inr h
  | some b => exact .inl h

lemma Gives.greedy {text : Str} {k : Cont} {M : Match → Prop} (hk : Gives text k M) {p : ℕ → Bool}
    {caps : List Str} (hc : ∀ g ∈ caps, g <:+: text) {bol : Bool} {rest : Str} (hr : rest <:+ text) {m : Match}
    (h : Regex.greedy p (fun c => k c caps) bol rest = some m) : M m := by
  induction rest generalizing bol with
  | nil => exact hk _ _ hr hc m h
  | cons x rest ih =>
    rw [Regex.greedy] at h
    split_ifs at h
    · rcases of_orElse_eq_some h with h | h
      · exact ih ((List.suffix_cons x rest).trans hr) h
      · exact hk _ _ hr hc m h
    · exact hk _ _ hr hc m h

lemma Gives.shortest {text : Str} {k : Cont} {M : Match → Prop} (hk : Gives text k M) {p : ℕ → Bool}
    {caps : List Str} (hc : ∀ g ∈ caps, g <:+: text) {bol : Bool} {rest : Str} (hr : rest <:+ text) {m : Match}
    (h : Regex.shortest p (fun c => k c caps) bol rest = some m) : M m := by
  induction rest generalizing bol with
  | nil => exact hk _ _ hr hc m h
  | cons x rest ih =>
    rw [Regex.shortest] at h
    rcases of_orElse_eq_some h with h | h
    · exact hk _ _ hr hc m h
    · split_ifs at h
      exact ih ((List.suffix_cons x rest).trans hr) h

lemma Gives.rounds {text : Str} {step : Cont → Cont} {M : Match → Prop}
    (hstep : ∀ k, Gives text k M → Gives text (step k) M) {k : Cont} (hk : Gives text k M) (n : ℕ) :
    Gives text (Regex.rounds step k n) M := by
  induction n with
  | zero =>
    intro c caps _ _ m h
    cases h
  | succ n ih =>
    refine hstep _ ?_
    intro c caps hr hc m h
    rcases of_orElse_eq_some h with h | h
    · exact ih c caps hr hc m h
    · exact hk c caps hr hc m h

theorem run_gives (r : Regex) {text : Str} {k : Cont} {M : Match → Prop} (hk : Gives text k M) :
    Gives text (r.run k) M := by
  induction r generalizing k with
  | empty => exact hk
  | char p =>
    rintro ⟨bol, rest⟩ caps hr hc m h
    cases rest with
    | nil => cases h
    | cons x rest =>
      rw [run] at h
      obtain ⟨-, h⟩ := Option.ite_none_right_eq_some.mp h
      exact hk _ _ ((List.suffix_cons x rest).trans hr) hc m h
  | startOfLine | endOfLine | endOfText =>
    intro c caps hr hc m h
    rw [run] at h
    exact hk c caps hr hc m (Option.ite_none_right_eq_some.mp h).2
  | many p =>
    intro c caps hr hc m h
    exact hk.greedy hc hr h
  | manyLazy p =>
    intro c caps hr hc m h
    exact hk.shortest hc hr h
  | repeated r ih =>
    intro c caps hr hc m h
    exact Gives.rounds (fun _ => ih) hk _ c caps hr hc m h
  | seq r s ihr ihs => exact ihr (ihs hk)
  | alt r s ihr ihs =>
    intro c caps hr hc m h
    rcases of_orElse_eq_some h with h | h
    · exact ihr hk c caps hr hc m h
    · exact ihs hk c caps hr hc m h
  | group r ih =>
    intro c caps hr hc m h
    refine ih ?_ c caps hr hc m h
    intro c' caps' hr' hc' m' h'
    refine hk c' _ hr' ?_ m' h'
    intro g hg
    rcases List.mem_append.mp hg with hg | hg
    · exact hc' g hg
    · rw [List.mem_singleton.mp hg]
      exact (List.take_prefix _ _).isInfix.trans hr.isInfix
  | ahead r | notAhead r =>
    intro c caps hr hc m h
    rw [run] at h
    exact hk c caps hr hc m (Option.ite_none_right_eq_some.mp h).2

lemma infix_of_group {r : Regex} {bol : Bool} {text : Str} {c : Cursor} {groups : List Str}
    (h : r.matchAt ⟨bol, text⟩ = some (c, groups)) {g : Str} (hg : g ∈ groups) : g <:+: text := by
  have hk : Gives text (fun c caps => some (c, caps)) fun m => ∀ g ∈ m.2, g <:+: text := by
    intro c caps _ hc m h
    obtain rfl := Option.some.inj h
    exact hc
  exact run_gives r hk _ [] List.suffix_rfl (by simp) _ h g hg

section

variable {r : Regex} {text : Str}

lemma matchAt_within {c : Cursor} (hc : c.rest <:+ text) {m : Match} (h : r.matchAt c = some m) :
    m.1.rest <:+ text ∧ ∀ g ∈ m.2, g <:+: text := by
  have hk : Gives text (fun c caps => some (c, caps)) fun m => m.1.rest <:+ text ∧ ∀ g ∈ m.2, g <:+: text := by
    intro c caps hr hc m h
    obtain rfl := Option.some.inj h
    exact ⟨hr, hc⟩
  exact run_gives r hk c [] hc (by simp) m h

lemma searchFrom_within {bol : Bool} {s : Str} (hs : s <:+ text) {m : Match} (h : searchFrom r bol s = some m) :
    m.1.rest <:+ text ∧ ∀ g ∈ m.2, g <:+: text := by
  induction s generalizing bol with
  | nil => exact matchAt_within hs h
  | cons c s ih =>
    rw [searchFrom] at h
    rcases of_orElse_eq_some h with h | h
    · exact matchAt_within hs h
    · exact ih ((List.suffix_cons c s).trans hs) h

lemma findAllFrom_isInfix (n : ℕ) {c : Cursor} (hc : c.rest <:+ text) :
    ∀ caps ∈ findAllFrom r n c, ∀ g ∈ caps, g <:+: text := by
  induction n generalizing c with
  | zero => simp [findAllFrom]
  | succ n ih =>
    rw [findAllFrom]
    cases hs : searchFrom r c.bol c.rest with
    | none => simp
    | some m =>
      obtain ⟨hrest, hcaps⟩ := searchFrom_within hc hs
      exact List.forall_mem_cons.mpr ⟨hcaps, ih hrest⟩

theorem findAll_isInfix : ∀ caps ∈ r.findAll text, ∀ g ∈ caps, g <:+: text := findAllFrom_isInfix _ List.suffix_rfl

end

section

variable {k : Cont} {caps : List Str} {p : ℕ → Bool} {w rest : Str} {m : Match}

lemma run_chars (hw : ∀ c ∈ w, p c = true) (bol : Bool) :
    (seqs (List.replicate w.length (.char p))).run k ⟨bol, w ++ rest⟩ caps = k ⟨bolAfter bol w, rest⟩ caps := by
  induction w generalizing bol with
  | nil => rfl
  | cons c w ih =>
    obtain ⟨hc, hw⟩ := List.forall_mem_cons.mp hw
    cases w with
    | nil => simp [seqs, run, hc, Cursor.after, bolAfter]
    | cons d w =>
      have hrun : (seqs (List.replicate (c :: d :: w).length (.char p))).run k ⟨bol, c :: d :: w ++ rest⟩ caps =
          (seqs (List.replicate (d :: w).length (.char p))).run k ⟨c == 10, d :: w ++ rest⟩ caps := by
        simp [List.replicate_succ, seqs, run, hc, Cursor.after]
      rw [hrun, ih hw]
      rfl

lemma run_plus_greedy (hn : w ≠ []) (hw : ∀ c ∈ w, p c = true) (hr : ∀ c ∈ rest.head?, p c = false) {bol : Bool}
    (h : k ⟨bolAfter bol w, rest⟩ caps = some m) : (plus p).run k ⟨bol, w ++ rest⟩ caps = some m := by
  obtain ⟨c, w, rfl⟩ := List.exists_cons_of_ne_nil hn
  obtain ⟨hc, hw⟩ := List.forall_mem_cons.mp hw
  have hrun : (plus p).run k ⟨bol, c :: w ++ rest⟩ caps = greedy p (fun c => k c caps) (c == 10) (w ++ rest) := by
    simp [plus, run, hc, Cursor.after]
  rw [hrun]
  refine greedy_append hw ?_
  rw [greedy_stop hr]
  exact h

lemma run_plus_all (hn : w ≠ []) (hw : ∀ c ∈ w, p c = true) {bol : Bool}
    (h : k ⟨bolAfter bol w, []⟩ caps = some m) : (plus p).run k ⟨bol, w⟩ caps = some m := by
  have hrun := run_plus_greedy hn hw (by simp) h
  rwa [List.append_nil] at hrun

end

end Regex

end Graft64.Library
