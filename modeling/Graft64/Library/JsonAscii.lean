import Graft64.Library.JsonCompact
import Graft64.Library.Sorting

/-! The rendering of JSON values in ASCII, with two spaces for each level. -/

namespace Graft64.Library.Json

def hexChar (n : ℕ) : ℕ := if n < 10 then 48 + n else 87 + n

def unicodeEscape (n : ℕ) : Str :=
  [92, 117, hexChar (n / 4096 % 16), hexChar (n / 256 % 16), hexChar (n / 16 % 16), hexChar (n % 16)]

def high (c : ℕ) : ℕ := 0xD800 + (c - 0x10000) / 1024

def low (c : ℕ) : ℕ := 0xDC00 + (c - 0x10000) % 1024

def shortEscape (c : ℕ) : Option ℕ :=
  if c = 34 ∨ c = 92 then some c
  else if c = 8 then some 98
  else if c = 12 then some 102
  else if c = 10 then some 110
  else if c = 13 then some 114
  else if c = 9 then some 116
  else none

def escapeAscii (c : ℕ) : Str :=
  match shortEscape c with
  | some e => [92, e]
  | none =>
    if 32 ≤ c ∧ c ≤ 126 then [c]
    else if c < 0x10000 then unicodeEscape c
    else unicodeEscape (high c) ++ unicodeEscape (low c)

/-- `json.dumps(indent=2)` -/
def indented : Layout := ⟨List.flatMap escapeAscii, [58, 32], fun d => 10 :: List.replicate (2 * d) 32⟩

mutual

/-- The members of every object in the order of their keys, as with `sort_keys=True`. -/
def sortKeys : Json → Json
  | .arr js => .arr (sortElements js)
  | .obj ms => .obj (sortBy Prod.fst (sortMembers ms))
  | j => j

def sortElements : List Json → List Json
  | [] => []
  | j :: js => sortKeys j :: sortElements js

def sortMembers : List (Str × Json) → List (Str × Json)
  | [] => []
  | (k, j) :: ms => (k, sortKeys j) :: sortMembers ms

end

/-- `json.dumps(indent=2, sort_keys=True)` -/
def dumps (j : Json) : Str := render indented 0 (sortKeys j)

lemma hexChar_lt {n : ℕ} (h : n < 16) : hexChar n < 128 := by
  unfold hexChar
  split <;> omega

lemma hexDigit_hexChar {n : ℕ} (h : n < 16) : hexDigit (hexChar n) = some n := by
  interval_cases n <;> rfl

lemma hex4_hexChar {n : ℕ} (h : n < 65536) :
    hex4 (hexChar (n / 4096 % 16)) (hexChar (n / 256 % 16)) (hexChar (n / 16 % 16)) (hexChar (n % 16)) =
      some n := by
  have hd (m : ℕ) : hexDigit (hexChar (m % 16)) = some (m % 16) := hexDigit_hexChar (Nat.mod_lt m (by decide))
  simp only [hex4, hd, Option.bind_some, Option.map_some, Option.some.injEq]
  omega

def Ascii (s : Str) : Prop := ∀ c ∈ s, c < 128

instance (s : Str) : Decidable (Ascii s) := inferInstanceAs (Decidable (∀ c ∈ s, c < 128))

@[simp] lemma ascii_nil : Ascii [] := by simp [Ascii]

@[simp] lemma ascii_cons {c : ℕ} {s : Str} : Ascii (c :: s) ↔ c < 128 ∧ Ascii s := List.forall_mem_cons

@[simp] lemma ascii_append {s t : Str} : Ascii (s ++ t) ↔ Ascii s ∧ Ascii t := List.forall_mem_append

lemma unicodeEscape_ascii (n : ℕ) : Ascii (unicodeEscape n) := by
  have hm (m : ℕ) : hexChar (m % 16) < 128 := hexChar_lt (Nat.mod_lt m (by decide))
  simp [unicodeEscape, hm]

lemma shortEscape_some {c e : ℕ} (h : shortEscape c = some e) : e < 128 ∧ e ≠ 117 ∧ escapeChar e = some c := by
  unfold shortEscape at h
  split_ifs at h with h₁ h₂ h₃ h₄ h₅ h₆ <;> obtain rfl := Option.some.inj h
  · rcases h₁ with rfl | rfl <;> decide
  all_goals subst_vars; decide

lemma escapeAscii_ascii (c : ℕ) : Ascii (escapeAscii c) := by
  unfold escapeAscii
  split
  · rename_i e he
    simp [(shortEscape_some he).1]
  · split_ifs
    · simp
      omega
    · exact unicodeEscape_ascii _
    · exact ascii_append.mpr ⟨unicodeEscape_ascii _, unicodeEscape_ascii _⟩

@[simp] lemma quote_ascii (s : Str) : Ascii (indented.quote s) := by
  intro c hc
  obtain ⟨d, -, hd⟩ := List.mem_flatMap.mp hc
  exact escapeAscii_ascii d c hd

@[simp] lemma newline_ascii (d : ℕ) : Ascii (indented.newline d) := by
  refine ascii_cons.mpr ⟨by decide, ?_⟩
  intro c hc
  rw [List.eq_of_mem_replicate hc]
  decide

@[simp] lemma colon_ascii : Ascii indented.colon := by decide

mutual

lemma render_ascii (d : ℕ) : (j : Json) → Ascii (render indented d j)
  | .null => (by decide : Ascii (lit "null"))
  | .bool true => (by decide : Ascii (lit "true"))
  | .bool false => (by decide : Ascii (lit "false"))
  | .int z => fun _ => Decimal.ofInt_lt
  | .float q => ascii_nil
  | .str s => by simp [render]
  | .arr [] => by simp [render]
  | .arr (j :: js) => by simp [render, renderElements_ascii (d + 1) (j :: js)]
  | .obj [] => by simp [render]
  | .obj (m :: ms) => by simp [render, renderMembers_ascii (d + 1) (m :: ms)]

lemma renderElements_ascii (d : ℕ) : (js : List Json) → Ascii (renderElements indented d js)
  | [] => ascii_nil
  | [j] => render_ascii d j
  | j :: j' :: js => by simp [renderElements, render_ascii d j, renderElements_ascii d (j' :: js)]

lemma renderMembers_ascii (d : ℕ) : (ms : List (Str × Json)) → Ascii (renderMembers indented d ms)
  | [] => ascii_nil
  | [(k, j)] => by simp [renderMembers, render_ascii d j]
  | (k, j) :: m :: ms => by simp [renderMembers, render_ascii d j, renderMembers_ascii d (m :: ms)]

end

def Unpaired (s : Str) : Prop :=
  (∀ c ∈ s, c < 0x110000) ∧ s.IsChain fun a b => ¬(isHigh a = true ∧ isLow b = true)

def units (c : ℕ) : List (ℕ × Bool) :=
  if shortEscape c ≠ none ∨ 32 ≤ c ∧ c ≤ 126 then [(c, false)]
  else if c < 0x10000 then [(c, true)]
  else [(high c, true), (low c, true)]

lemma scan_unicodeEscape {n : ℕ} (h : n < 65536) (t : Str) :
    scan (unicodeEscape n ++ t) = (scan t).map fun r => ((n, true) :: r.1, r.2) := by
  have hx := hex4_hexChar h
  rw [unicodeEscape, List.cons_append, List.cons_append, scan.eq_def]
  simp [hx]

lemma scan_escapeAscii {c : ℕ} (h : c < 0x110000) (t : Str) :
    scan (escapeAscii c ++ t) = (scan t).map fun r => (units c ++ r.1, r.2) := by
  unfold escapeAscii units
  split
  · rename_i e he
    obtain ⟨-, hu, hc⟩ := shortEscape_some he
    rw [if_pos (.inl (by simp [he]))]
    rw [List.cons_append, List.cons_append, scan.eq_def]
    simp [hu, hc]
  · rename_i hnone
    by_cases hp : 32 ≤ c ∧ c ≤ 126
    · have hc : 32 ≤ c ∧ c ≠ 34 ∧ c ≠ 92 := by
        refine ⟨hp.1, ?_, ?_⟩ <;> rintro rfl <;> cases hnone
      rw [if_pos hp, if_pos (.inr hp), List.singleton_append, scan_char hc]
      rfl
    · have hu : ¬(shortEscape c ≠ none ∨ 32 ≤ c ∧ c ≤ 126) := by
        rw [not_or, not_not]
        exact ⟨hnone, hp⟩
      rw [if_neg hp, if_neg hu]
      split_ifs with hl
      · exact scan_unicodeEscape hl t
      · rw [List.append_assoc, scan_unicodeEscape (by unfold high; omega),
          scan_unicodeEscape (by unfold low; omega), Option.map_map]
        rfl

lemma joinPairs_units {c : ℕ} (h : c < 0x110000) {us : List (ℕ × Bool)}
    (hus : ∀ u ∈ us.head?, ¬(isHigh c = true ∧ u.2 = true ∧ isLow u.1 = true)) :
    joinPairs (units c ++ us) = c :: joinPairs us := by
  have hone (b : Bool) : joinPairs ((c, b) :: us) = c :: joinPairs us := by
    cases us with
    | nil => rfl
    | cons u us =>
      have hu := hus u rfl
      rw [joinPairs, if_neg]
      simp only [Bool.and_eq_true]
      tauto
  unfold units
  split_ifs with h₁ h₂
  · exact hone false
  · exact hone true
  · have hh : isHigh (high c) = true := decide_eq_true (by unfold high; omega)
    have hl : isLow (low c) = true := decide_eq_true (by unfold low; omega)
    rw [List.cons_append, List.cons_append, List.nil_append, joinPairs, if_pos (by simp [hh, hl])]
    have hc : 0x10000 + 1024 * (high c - 0xD800) + (low c - 0xDC00) = c := by
      unfold high low
      omega
    rw [hc]

lemma units_head {c : ℕ} (h : c < 0x110000) : ∃ u us, units c = u :: us ∧ (isLow u.1 = true → isLow c = true) := by
  unfold units
  split_ifs with h₁ h₂
  · exact ⟨_, _, rfl, id⟩
  · exact ⟨_, _, rfl, id⟩
  · refine ⟨_, _, rfl, ?_⟩
    intro hl
    have := of_decide_eq_true hl
    unfold high at this
    omega

lemma joinPairs_flatMap {s : Str} (h : Unpaired s) : joinPairs (s.flatMap units) = s := by
  induction s with
  | nil => rfl
  | cons c s ih =>
    obtain ⟨hc, hs⟩ := List.forall_mem_cons.mp h.1
    rw [List.flatMap_cons, joinPairs_units hc, ih ⟨hs, h.2.tail⟩]
    intro u hu
    cases s with
    | nil => simp at hu
    | cons d s =>
      obtain ⟨v, vs, hv, hlow⟩ := units_head (hs d List.mem_cons_self)
      rw [List.flatMap_cons, hv] at hu
      obtain rfl := Option.some.inj hu
      rintro ⟨hh, -, hl⟩
      exact (List.isChain_cons_cons.mp h.2).1 ⟨hh, hlow hl⟩

lemma scan_flatMap {s : Str} (h : ∀ c ∈ s, c < 0x110000) (r : Str) :
    scan (s.flatMap escapeAscii ++ 34 :: r) = some (s.flatMap units, r) := by
  induction s with
  | nil =>
    rw [List.flatMap_nil, List.nil_append, scan.eq_def]
    rfl
  | cons c s ih =>
    obtain ⟨hc, hs⟩ := List.forall_mem_cons.mp h
    rw [List.flatMap_cons, List.append_assoc, scan_escapeAscii hc, ih hs, List.flatMap_cons]
    rfl

lemma indented_lawful : indented.Lawful Unpaired where
  quote s r h := by
    rw [string, indented, scan_flatMap h.1, Option.map_some, joinPairs_flatMap h]
  colon := ⟨[32], rfl, by decide⟩
  newline d c hc := by
    rcases List.mem_cons.mp hc with rfl | hc
    · rfl
    · rw [List.eq_of_mem_replicate hc]
      rfl

end Graft64.Library.Json
