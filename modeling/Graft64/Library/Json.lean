import Graft64.Library.Decimal
import Mathlib.Data.List.Basic
import Mathlib.Tactic.Common

/-! JSON texts as sequences of code points: a parser, and renderers it inverts. -/

namespace Graft64.Library

inductive Json
  | null
  | bool (b : Bool)
  | int (z : ℤ)
  /-- A number with a fraction or an exponent; `none` for what is not finite. -/
  | float (q : Option ℚ)
  | str (s : Str)
  | arr (js : List Json)
  | obj (ms : List (Str × Json))

namespace Json

def isWs (c : ℕ) : Bool := c == 32 || c == 9 || c == 10 || c == 13

def skip (s : Str) : Str := s.dropWhile isWs

def hexDigit (c : ℕ) : Option ℕ :=
  if 48 ≤ c ∧ c ≤ 57 then some (c - 48)
  else if 65 ≤ c ∧ c ≤ 70 then some (c - 55)
  else if 97 ≤ c ∧ c ≤ 102 then some (c - 87)
  else none

def hex4 (a b c d : ℕ) : Option ℕ :=
  (hexDigit a).bind fun a => (hexDigit b).bind fun b => (hexDigit c).bind fun c =>
    (hexDigit d).map fun d => 4096 * a + 256 * b + 16 * c + d

def escapeChar (c : ℕ) : Option ℕ :=
  if c = 34 ∨ c = 92 ∨ c = 47 then some c
  else if c = 98 then some 8
  else if c = 102 then some 12
  else if c = 110 then some 10
  else if c = 114 then some 13
  else if c = 116 then some 9
  else none

/-- The characters up to the closing quote; the flag tells which ones `\u` escapes gave. -/
def scan : Str → Option (List (ℕ × Bool) × Str)
  | [] => none
  | c :: s =>
    if c = 34 then some ([], s)
    else if c = 92 then
      match s with
      | [] => none
      | e :: s =>
        if e = 117 then
          match s with
          | h₁ :: h₂ :: h₃ :: h₄ :: s =>
            (hex4 h₁ h₂ h₃ h₄).bind fun u => (scan s).map fun r => ((u, true) :: r.1, r.2)
          | _ => none
        else (escapeChar e).bind fun u => (scan s).map fun r => ((u, false) :: r.1, r.2)
    else if c < 32 then none
    else (scan s).map fun r => ((c, false) :: r.1, r.2)
termination_by structural s => s

def isHigh (c : ℕ) : Bool := decide (0xD800 ≤ c ∧ c < 0xDC00)

def isLow (c : ℕ) : Bool := decide (0xDC00 ≤ c ∧ c < 0xE000)

/-- Two escapes that form a surrogate pair are one character. -/
def joinPairs : List (ℕ × Bool) → Str
  | [] => []
  | [u] => [u.1]
  | u :: v :: us =>
    if u.2 && v.2 && isHigh u.1 && isLow v.1 then
      (0x10000 + 1024 * (u.1 - 0xD800) + (v.1 - 0xDC00)) :: joinPairs us
    else u.1 :: joinPairs (v :: us)

def string (s : Str) : Option (Str × Str) := (scan s).map fun r => (joinPairs r.1, r.2)

def log2 (q : ℚ) : ℤ :=
  let e : ℤ := Nat.log2 q.num.toNat - Nat.log2 q.den
  if q < 2 ^ e then e - 1 else e

def halfEven (q : ℚ) : ℤ :=
  let f := q.floor
  let r := q - f
  if r < 1 / 2 then f else if 1 / 2 < r then f + 1 else if f % 2 = 0 then f else f + 1

/-- The nearest double, ties to even; `none` past the largest finite one. -/
def roundDouble (q : ℚ) : Option ℚ :=
  if q = 0 then some 0
  else
    let unit : ℚ := 2 ^ (max (log2 |q|) (-1022) - 52)
    let r := halfEven (q / unit) * unit
    if |r| < 2 ^ (1024 : ℤ) then some r else none

def digitsOf (s : Str) : Str := s.takeWhile Decimal.isDigit

def afterDigits (s : Str) : Str := s.dropWhile Decimal.isDigit

def intPart : Str → Option (Str × Str)
  | [] => none
  | c :: s =>
    if c = 48 then some ([48], s)
    else if digitsOf (c :: s) = [] then none
    else some (digitsOf (c :: s), afterDigits (c :: s))

def fraction : Str → Str × Str
  | [] => ([], [])
  | c :: s => if c = 46 ∧ digitsOf s ≠ [] then (digitsOf s, afterDigits s) else ([], c :: s)

def exponentSign : Str → Bool × Str
  | [] => (false, [])
  | c :: s => if c = 45 then (true, s) else if c = 43 then (false, s) else (false, c :: s)

def exponent : Str → Option ℤ × Str
  | [] => (none, [])
  | c :: s =>
    let r := exponentSign s
    if (c = 101 ∨ c = 69) ∧ digitsOf r.2 ≠ [] then
      (some ((if r.1 then -1 else 1) * Decimal.value (digitsOf r.2)), afterDigits r.2)
    else (none, c :: s)

def unsigned (negative : Bool) (s : Str) : Option (Json × Str) :=
  (intPart s).map fun i =>
    let f := fraction i.2
    let e := exponent f.2
    let sign : ℤ := if negative then -1 else 1
    if f.1 = [] ∧ e.1 = none then (.int (sign * Decimal.value i.1), e.2)
    else
      let m : ℤ := sign * Decimal.value (i.1 ++ f.1)
      (.float (some (m * (10 : ℚ) ^ (e.1.getD 0 - f.1.length))), e.2)

def number : Str → Option (Json × Str)
  | [] => none
  | c :: s => if c = 45 then unsigned true s else unsigned false (c :: s)

def keyword (name : String) (j : Json) (s : Str) : Option (Json × Str) :=
  if lit name <+: s then some (j, s.drop (lit name).length) else none

/-- What starts neither with a quote nor with a bracket; `constants` allows the names that only
some parsers accept. -/
def atom (constants : Bool) (s : Str) : Option (Json × Str) :=
  (keyword "null" .null s) <|> (keyword "true" (.bool true) s) <|> (keyword "false" (.bool false) s) <|>
    (if constants then
      (keyword "NaN" (.float none) s) <|> (keyword "Infinity" (.float none) s) <|>
        (keyword "-Infinity" (.float none) s)
    else none) <|> number s

mutual

def value (constants : Bool) : ℕ → Str → Option (Json × Str)
  | 0, _ => none
  | _ + 1, [] => none
  | n + 1, c :: s =>
    if c = 34 then (string s).map fun r => (.str r.1, r.2)
    else if c = 91 then
      if (skip s).head? = some 93 then some (.arr [], (skip s).tail)
      else (elements constants n (skip s)).map fun r => (.arr r.1, r.2)
    else if c = 123 then
      if (skip s).head? = some 125 then some (.obj [], (skip s).tail)
      else (members constants n (skip s)).map fun r => (.obj r.1, r.2)
    else atom constants (c :: s)

def elements (constants : Bool) : ℕ → Str → Option (List Json × Str)
  | 0, _ => none
  | n + 1, s =>
    (value constants n s).bind fun v =>
      match skip v.2 with
      | [] => none
      | c :: r =>
        if c = 44 then (elements constants n (skip r)).map fun q => (v.1 :: q.1, q.2)
        else if c = 93 then some ([v.1], r)
        else none

def members (constants : Bool) : ℕ → Str → Option (List (Str × Json) × Str)
  | 0, _ => none
  | _ + 1, [] => none
  | n + 1, c :: s =>
    if c = 34 then
      (string s).bind fun k =>
        match skip k.2 with
        | [] => none
        | c :: r =>
          if c = 58 then
            (value constants n (skip r)).bind fun v =>
              match skip v.2 with
              | [] => none
              | c :: r =>
                if c = 44 then (members constants n (skip r)).map fun q => ((k.1, v.1) :: q.1, q.2)
                else if c = 125 then some ([(k.1, v.1)], r)
                else none
          else none
    else none

end

/-- A whole text, with its decimals as they are written. Every call consumes a character, so its length is fuel
enough. -/
def document (constants : Bool) (s : Str) : Option Json :=
  (value constants (s.length + 1) (skip s)).bind fun r => if skip r.2 = [] then some r.1 else none

mutual

/-- What a reader makes of a document whose decimals become doubles. -/
def rounded : Json → Json
  | .float q => .float (q.bind roundDouble)
  | .arr js => .arr (roundedElements js)
  | .obj ms => .obj (roundedMembers ms)
  | .null => .null
  | .bool b => .bool b
  | .int z => .int z
  | .str s => .str s

def roundedElements : List Json → List Json
  | [] => []
  | j :: js => rounded j :: roundedElements js

def roundedMembers : List (Str × Json) → List (Str × Json)
  | [] => []
  | (k, j) :: ms => (k, rounded j) :: roundedMembers ms

end

def parse (constants : Bool) (s : Str) : Option Json := (document constants s).map rounded

/-- How a value is written: its strings, the text after a key, and the break at a depth. -/
structure Layout where
  quote : Str → Str
  colon : Str
  newline : ℕ → Str

variable (l : Layout)

mutual

/-- Numbers that are not whole have no rendering. -/
def render (d : ℕ) : Json → Str
  | .null => lit "null"
  | .bool b => if b then lit "true" else lit "false"
  | .int z => Decimal.ofInt z
  | .float _ => []
  | .str s => 34 :: (l.quote s ++ [34])
  | .arr [] => [91, 93]
  | .arr (j :: js) => 91 :: (l.newline (d + 1) ++ renderElements (d + 1) (j :: js) ++ l.newline d ++ [93])
  | .obj [] => [123, 125]
  | .obj (m :: ms) => 123 :: (l.newline (d + 1) ++ renderMembers (d + 1) (m :: ms) ++ l.newline d ++ [125])

def renderElements (d : ℕ) : List Json → Str
  | [] => []
  | [j] => render d j
  | j :: j' :: js => render d j ++ 44 :: (l.newline d ++ renderElements d (j' :: js))

def renderMembers (d : ℕ) : List (Str × Json) → Str
  | [] => []
  | [(k, j)] => 34 :: (l.quote k ++ 34 :: (l.colon ++ render d j))
  | (k, j) :: m :: ms =>
    34 :: (l.quote k ++ 34 :: (l.colon ++ (render d j ++ 44 :: (l.newline d ++ renderMembers d (m :: ms)))))

end

mutual

def Strings (P : Str → Prop) : Json → Prop
  | .null | .bool _ | .int _ => True
  | .float _ => False
  | .str s => P s
  | .arr js => ElementStrings P js
  | .obj ms => MemberStrings P ms

def ElementStrings (P : Str → Prop) : List Json → Prop
  | [] => True
  | j :: js => Strings P j ∧ ElementStrings P js

def MemberStrings (P : Str → Prop) : List (Str × Json) → Prop
  | [] => True
  | (k, j) :: ms => P k ∧ Strings P j ∧ MemberStrings P ms

end

mutual

lemma rounded_strings {P : Str → Prop} : (j : Json) → Strings P j → rounded j = j
  | .null, _ | .bool _, _ | .int _, _ | .str _, _ => rfl
  | .float _, h => h.elim
  | .arr js, h => congrArg Json.arr (roundedElements_strings js h)
  | .obj ms, h => congrArg Json.obj (roundedMembers_strings ms h)

lemma roundedElements_strings {P : Str → Prop} : (js : List Json) → ElementStrings P js → roundedElements js = js
  | [], _ => rfl
  | j :: js, h => by rw [roundedElements, rounded_strings j h.1, roundedElements_strings js h.2]

lemma roundedMembers_strings {P : Str → Prop} : (ms : List (Str × Json)) → MemberStrings P ms →
    roundedMembers ms = ms
  | [], _ => rfl
  | (_, j) :: ms, h => by rw [roundedMembers, rounded_strings j h.2.1, roundedMembers_strings ms h.2.2]

end

def Delimited (r : Str) : Prop := ∀ c ∈ r.head?, isWs c = true ∨ c = 44 ∨ c = 93 ∨ c = 125

structure Layout.Lawful (l : Layout) (P : Str → Prop) : Prop where
  quote : ∀ s r, P s → string (l.quote s ++ 34 :: r) = some (s, r)
  colon : ∃ ws, l.colon = 58 :: ws ∧ ∀ c ∈ ws, isWs c = true
  newline : ∀ d, ∀ c ∈ l.newline d, isWs c = true

lemma skip_append {ws : Str} (h : ∀ c ∈ ws, isWs c = true) (s : Str) : skip (ws ++ s) = skip s := by
  induction ws with
  | nil => rfl
  | cons c ws ih =>
    rw [List.forall_mem_cons] at h
    rw [List.cons_append, skip, List.dropWhile_cons_of_pos h.1]
    exact ih h.2

lemma skip_cons {c : ℕ} (h : isWs c = false) (s : Str) : skip (c :: s) = c :: s :=
  List.dropWhile_cons_of_neg (by simp [h])

lemma Delimited.not_digit {r : Str} (h : Delimited r) : ∀ c ∈ r.head?, Decimal.isDigit c = false := by
  intro c hc
  have := h c hc
  simp only [isWs, Decimal.isDigit, Bool.or_eq_true, beq_iff_eq, decide_eq_false_iff_not] at this ⊢
  omega

lemma digitsOf_append {ds r : Str} (h : ∀ c ∈ ds, Decimal.isDigit c = true)
    (hr : ∀ c ∈ r.head?, Decimal.isDigit c = false) : digitsOf (ds ++ r) = ds ∧ afterDigits (ds ++ r) = r := by
  rw [digitsOf, afterDigits, List.takeWhile_append_of_pos h, List.dropWhile_append_of_pos h]
  cases r with
  | nil => simp
  | cons c r =>
    have hc := hr c rfl
    simp [hc]

lemma intPart_ofNat (n : ℕ) {r : Str} (hr : Delimited r) :
    intPart (Decimal.ofNat n ++ r) = some (Decimal.ofNat n, r) := by
  obtain ⟨hd, ha⟩ := digitsOf_append (fun _ hc => Decimal.ofNat_isDigit (n := n) hc) hr.not_digit
  obtain ⟨c, s, hs⟩ := List.exists_cons_of_ne_nil (Decimal.ofNat_ne_nil n)
  by_cases hn : n = 0
  · subst n
    rfl
  · have hh := Decimal.ofNat_head hn
    rw [hs] at hd ha hh ⊢
    rw [List.cons_append] at hd ha ⊢
    rw [intPart, if_neg (by simpa using hh), hd, ha, if_neg (by simp)]

lemma number_ofInt (z : ℤ) {r : Str} (hr : Delimited r) :
    number (Decimal.ofInt z ++ r) = some (.int z, r) := by
  have hf : fraction r = ([], r) := by
    cases r with
    | nil => rfl
    | cons c r =>
      have hc := hr c rfl
      rw [fraction, if_neg]
      rintro ⟨rfl, -⟩
      simp [isWs] at hc
  have he : exponent r = (none, r) := by
    cases r with
    | nil => rfl
    | cons c r =>
      have hc := hr c rfl
      simp only [exponent]
      rw [if_neg]
      rintro ⟨rfl | rfl, -⟩ <;> simp [isWs] at hc
  have hu (b : Bool) (n : ℕ) :
      unsigned b (Decimal.ofNat n ++ r) = some (.int ((if b then -1 else 1) * n), r) := by
    simp [unsigned, intPart_ofNat n hr, hf, he]
  cases z with
  | ofNat n =>
    have hn := hu false n
    obtain ⟨c, s, hs⟩ := List.exists_cons_of_ne_nil (Decimal.ofNat_ne_nil n)
    have hc : Decimal.isDigit c = true := Decimal.ofNat_isDigit (n := n) (by simp [hs])
    simp only [Decimal.ofInt]
    rw [hs, List.cons_append] at hn ⊢
    rw [number, if_neg (by rintro rfl; simp [Decimal.isDigit] at hc), hn]
    simp
  | negSucc n =>
    simp only [Decimal.ofInt, List.cons_append, number, if_true, hu]
    simp [Int.negSucc_eq]

lemma keyword_self (name : String) (j : Json) (r : Str) : keyword name j (lit name ++ r) = some (j, r) := by
  simp [keyword]

lemma keyword_ne (name : String) (c : ℕ) {j : Json} {c' : ℕ} {s s' : Str} (h : lit name = c :: s)
    (hc : c ≠ c') : keyword name j (c' :: s') = none := by
  simp [keyword, h, List.cons_prefix_cons, hc]

lemma ofInt_cons (z : ℤ) : ∃ c s, Decimal.ofInt z = c :: s ∧
    (Decimal.isDigit c = true ∨ c = 45 ∧ ∃ d t, s = d :: t ∧ Decimal.isDigit d = true) := by
  have hn (n : ℕ) : ∃ c s, Decimal.ofNat n = c :: s ∧ Decimal.isDigit c = true := by
    obtain ⟨c, s, hs⟩ := List.exists_cons_of_ne_nil (Decimal.ofNat_ne_nil n)
    exact ⟨c, s, hs, Decimal.ofNat_isDigit (n := n) (by simp [hs])⟩
  cases z with
  | ofNat n =>
    obtain ⟨c, s, hs, hc⟩ := hn n
    exact ⟨c, s, hs, .inl hc⟩
  | negSucc n =>
    obtain ⟨c, s, hs, hc⟩ := hn (n + 1)
    exact ⟨45, c :: s, by rw [Decimal.ofInt, hs], .inr ⟨rfl, c, s, rfl, hc⟩⟩

lemma atom_ofInt (constants : Bool) (z : ℤ) {r : Str} (hr : Delimited r) :
    atom constants (Decimal.ofInt z ++ r) = some (.int z, r) := by
  have hnum := number_ofInt z hr
  obtain ⟨c, s, hs, hc⟩ := ofInt_cons z
  rw [hs, List.cons_append] at hnum ⊢
  have hlt : c < 58 := by
    simp only [Decimal.isDigit, decide_eq_true_eq] at hc
    omega
  have hm : keyword "-Infinity" (.float none) (c :: (s ++ r)) = none := by
    rcases hc with hc | ⟨rfl, d, t, rfl, hd⟩
    · exact keyword_ne "-Infinity" 45 rfl (by rintro rfl; simp [Decimal.isDigit] at hc)
    · have : d ≠ 73 := by rintro rfl; simp [Decimal.isDigit] at hd
      simp [keyword, lit, List.cons_prefix_cons, Ne.symm this]
  rw [atom, keyword_ne "null" 110 rfl (by omega), keyword_ne "true" 116 rfl (by omega),
    keyword_ne "false" 102 rfl (by omega), keyword_ne "NaN" 78 rfl (by omega),
    keyword_ne "Infinity" 73 rfl (by omega), hm, hnum]
  cases constants <;> rfl

lemma atom_null (constants : Bool) (r : Str) : atom constants (lit "null" ++ r) = some (.null, r) := by
  rw [atom, keyword_self]
  rfl

lemma atom_bool (constants b : Bool) (r : Str) :
    atom constants ((if b then lit "true" else lit "false") ++ r) = some (.bool b, r) := by
  cases b with
  | true =>
    have hn : keyword "null" .null (lit "true" ++ r) = none := keyword_ne "null" 110 rfl (by decide)
    rw [if_pos rfl, atom, hn, keyword_self]
    rfl
  | false =>
    have hn : keyword "null" .null (lit "false" ++ r) = none := keyword_ne "null" 110 rfl (by decide)
    have ht : keyword "true" (.bool true) (lit "false" ++ r) = none :=
      keyword_ne "true" 116 rfl (by decide)
    rw [if_neg (by simp), atom, hn, ht, keyword_self]
    rfl

variable {l}
variable {P : Str → Prop}

lemma render_cons {j : Json} (h : Strings P j) (d : ℕ) :
    ∃ c s, render l d j = c :: s ∧ isWs c = false ∧ c ≠ 93 := by
  cases j with
  | null => exact ⟨110, _, rfl, rfl, by decide⟩
  | bool b => cases b <;> exact ⟨_, _, rfl, rfl, by decide⟩
  | int z =>
    obtain ⟨c, s, hs, hc⟩ := ofInt_cons z
    refine ⟨c, s, by rw [render, hs], ?_, ?_⟩
    · simp only [Decimal.isDigit, decide_eq_true_eq] at hc
      simp only [isWs, Bool.or_eq_false_iff, beq_eq_false_iff_ne]
      omega
    · simp only [Decimal.isDigit, decide_eq_true_eq] at hc
      omega
  | float q => simp [Strings] at h
  | str s => exact ⟨34, _, rfl, rfl, by decide⟩
  | arr js => cases js <;> exact ⟨91, _, rfl, rfl, by decide⟩
  | obj ms => cases ms <;> exact ⟨123, _, rfl, rfl, by decide⟩

lemma skip_render {j : Json} (h : Strings P j) (d : ℕ) (r : Str) :
    skip (render l d j ++ r) = render l d j ++ r := by
  obtain ⟨c, s, hs, hc, -⟩ := render_cons (l := l) h d
  rw [hs, List.cons_append, skip_cons hc]

lemma delimited_cons {c : ℕ} (h : c = 44 ∨ c = 93 ∨ c = 125) (r : Str) : Delimited (c :: r) := by
  intro c' hc
  obtain rfl := Option.some.inj hc
  exact .inr h

lemma delimited_append {ws : Str} (h : ∀ c ∈ ws, isWs c = true) {r : Str} (hr : Delimited r) :
    Delimited (ws ++ r) := by
  cases ws with
  | nil => exact hr
  | cons c ws =>
    intro c' hc
    obtain rfl := Option.some.inj hc
    exact .inl (h c (by simp))

variable (hl : l.Lawful P)
include hl

mutual

lemma value_render (constants : Bool) {n d : ℕ} {r : Str} : (j : Json) → Strings P j →
    (render l d j).length < n → Delimited r → value constants n (render l d j ++ r) = some (j, r)
  | .null, _, hn, _ => by
    obtain ⟨n, rfl⟩ := Nat.exists_eq_add_of_lt hn
    exact atom_null constants r
  | .bool b, _, hn, _ => by
    obtain ⟨n, rfl⟩ := Nat.exists_eq_add_of_lt hn
    have ha := atom_bool constants b r
    cases b <;> exact ha
  | .int z, _, hn, hr => by
    obtain ⟨n, rfl⟩ := Nat.exists_eq_add_of_lt hn
    have ha := atom_ofInt constants z hr
    obtain ⟨c, s, hs, hc⟩ := ofInt_cons z
    simp only [render]
    rw [hs, List.cons_append] at ha ⊢
    simp only [Decimal.isDigit, decide_eq_true_eq] at hc
    rw [value, if_neg (by omega), if_neg (by omega), if_neg (by omega), ha]
  | .float q, h, _, _ => by simp [Strings] at h
  | .str s, h, hn, hr => by
    obtain ⟨n, rfl⟩ := Nat.exists_eq_add_of_lt hn
    simp only [render, List.cons_append, List.append_assoc, List.nil_append]
    rw [value, if_pos rfl, hl.quote s r h]
    rfl
  | .arr [], _, hn, _ => by
    obtain ⟨n, rfl⟩ := Nat.exists_eq_add_of_lt hn
    rfl
  | .arr (j :: js), h, hn, hr => by
    obtain ⟨n, rfl⟩ := Nat.exists_eq_add_of_lt hn
    have he := elements_render constants (j :: js) (d := d + 1) (by simp) h
      (n := (render l d (.arr (j :: js))).length + n) (r := r) (by simp [render]; omega) (hl.newline d)
    have hs : skip (renderElements l (d + 1) (j :: js) ++ (l.newline d ++ 93 :: r)) =
        renderElements l (d + 1) (j :: js) ++ (l.newline d ++ 93 :: r) := by
      cases js <;> simp only [renderElements, List.append_assoc] <;> exact skip_render h.1 _ _
    have hh : (renderElements l (d + 1) (j :: js) ++ (l.newline d ++ 93 :: r)).head? ≠ some 93 := by
      obtain ⟨c, s, hc, -, hne⟩ := render_cons (l := l) h.1 (d + 1)
      cases js <;> simp [renderElements, hc, hne]
    simp only [render, List.cons_append, List.append_assoc, List.nil_append] at he ⊢
    rw [value, if_neg (by decide), if_pos rfl, skip_append (hl.newline (d + 1)), hs, if_neg hh, he]
    rfl
  | .obj [], _, hn, _ => by
    obtain ⟨n, rfl⟩ := Nat.exists_eq_add_of_lt hn
    rfl
  | .obj (m :: ms), h, hn, hr => by
    obtain ⟨n, rfl⟩ := Nat.exists_eq_add_of_lt hn
    have he := members_render constants (m :: ms) (d := d + 1) (by simp) h
      (n := (render l d (.obj (m :: ms))).length + n) (r := r) (by simp [render]; omega) (hl.newline d)
    have hs : ∃ s, renderMembers l (d + 1) (m :: ms) ++ (l.newline d ++ 125 :: r) = 34 :: s := by
      cases ms <;> exact ⟨_, rfl⟩
    obtain ⟨s, hs⟩ := hs
    simp only [render, List.cons_append, List.append_assoc, List.nil_append] at he ⊢
    rw [value, if_neg (by decide), if_neg (by decide), if_pos rfl, skip_append (hl.newline (d + 1)), hs,
      skip_cons rfl, if_neg (by simp), ← hs, he]
    rfl

lemma elements_render (constants : Bool) {n d : ℕ} {ws r : Str} : (js : List Json) → js ≠ [] →
    ElementStrings P js → (renderElements l d js).length + 1 < n → (∀ c ∈ ws, isWs c = true) →
    elements constants n (renderElements l d js ++ (ws ++ 93 :: r)) = some (js, r)
  | [], h, _, _, _ => absurd rfl h
  | [j], _, h, hn, hws => by
    obtain ⟨n, rfl⟩ := Nat.exists_eq_add_of_lt hn
    simp only [renderElements] at hn ⊢
    rw [elements, value_render constants j h.1 (by omega) (delimited_append hws (delimited_cons (by simp) r)),
      Option.bind_some, skip_append hws, skip_cons rfl]
    rfl
  | j :: j' :: js, _, h, hn, hws => by
    obtain ⟨n, rfl⟩ := Nat.exists_eq_add_of_lt hn
    simp only [renderElements, List.append_assoc, List.cons_append, List.length_append, List.length_cons] at hn ⊢
    have he := elements_render constants (j' :: js) (d := d) (by simp) h.2
      (n := (render l d j).length + ((l.newline d).length + (renderElements l d (j' :: js)).length + 1) + 1 + n)
      (r := r) (by omega) hws
    have hs : skip (renderElements l d (j' :: js) ++ (ws ++ 93 :: r)) =
        renderElements l d (j' :: js) ++ (ws ++ 93 :: r) := by
      cases js <;> simp only [renderElements, List.append_assoc] <;> exact skip_render h.2.1 _ _
    rw [elements, value_render constants j h.1 (by omega) (delimited_cons (by simp) _), Option.bind_some,
      skip_cons rfl]
    simp only [if_true]
    rw [skip_append (hl.newline d), hs, he]
    rfl

lemma members_render (constants : Bool) {n d : ℕ} {ws r : Str} : (ms : List (Str × Json)) → ms ≠ [] →
    MemberStrings P ms → (renderMembers l d ms).length + 1 < n → (∀ c ∈ ws, isWs c = true) →
    members constants n (renderMembers l d ms ++ (ws ++ 125 :: r)) = some (ms, r)
  | [], h, _, _, _ => absurd rfl h
  | [(k, j)], _, h, hn, hws => by
    obtain ⟨n, rfl⟩ := Nat.exists_eq_add_of_lt hn
    obtain ⟨sp, hsp, hw⟩ := hl.colon
    simp only [renderMembers, hsp, List.cons_append, List.append_assoc, List.length_cons,
      List.length_append] at hn ⊢
    rw [members, if_pos rfl, hl.quote k _ h.1, Option.bind_some, skip_cons rfl]
    simp only [if_true]
    rw [skip_append hw, skip_render h.2.1,
      value_render constants j h.2.1 (by omega) (delimited_append hws (delimited_cons (by simp) r)),
      Option.bind_some, skip_append hws, skip_cons rfl]
    rfl
  | (k, j) :: m :: ms, _, h, hn, hws => by
    obtain ⟨n, rfl⟩ := Nat.exists_eq_add_of_lt hn
    obtain ⟨sp, hsp, hw⟩ := hl.colon
    have hs : ∃ s, renderMembers l d (m :: ms) ++ (ws ++ 125 :: r) = 34 :: s := by
      cases ms <;> exact ⟨_, rfl⟩
    obtain ⟨s, hs⟩ := hs
    simp only [renderMembers, hsp, List.cons_append, List.append_assoc, List.length_cons,
      List.length_append] at hn ⊢
    rw [members, if_pos rfl, hl.quote k _ h.1, Option.bind_some, skip_cons rfl]
    simp only [if_true]
    rw [skip_append hw, skip_render h.2.1, value_render constants j h.2.1 (by omega) (delimited_cons (by simp) _),
      Option.bind_some, skip_cons rfl]
    simp only [if_true]
    rw [skip_append (hl.newline d), hs, skip_cons rfl, ← hs,
      members_render constants (m :: ms) (by simp) h.2.2 (by omega) hws]
    rfl

end

theorem parse_render (constants : Bool) {j : Json} (h : Strings P j) {ws : Str} (hws : ∀ c ∈ ws, isWs c = true) :
    parse constants (render l 0 j ++ ws) = some j := by
  have hv := value_render hl constants (n := (render l 0 j ++ ws).length + 1) (d := 0) (r := ws) j h
    (by simp) (by simpa using delimited_append hws (r := []) (by simp [Delimited]))
  have he : skip ws = [] := by
    rw [← List.append_nil ws, skip_append hws]
    rfl
  rw [parse, document, skip_render h, hv, Option.bind_some, if_pos he, Option.map_some, rounded_strings j h]

end Json

end Graft64.Library
