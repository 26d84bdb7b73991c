import Graft64.Library.JsonAscii
import Graft64.Library.JsonValues

/-! What is read back from the ASCII rendering with sorted keys. -/

namespace Graft64.Library.Json

lemma sortMembers_keys (ms : List (Str × Json)) : (sortMembers ms).map Prod.fst = ms.map Prod.fst := by
  induction ms with
  | nil => rfl
  | cons m ms ih => rw [sortMembers, List.map_cons, List.map_cons, ih]

lemma field_sortMembers (key : Str) (ms : List (Str × Json)) :
    field key (sortMembers ms) = (field key ms).map sortKeys := by
  induction ms with
  | nil => rfl
  | cons m ms ih =>
    obtain ⟨k, j⟩ := m
    rw [sortMembers, field_cons, field_cons, ih]
    cases field key ms with
    | some v => rfl
    | none => by_cases hk : k = key <;> simp [hk]

lemma field_eq_some_iff {key : Str} {j : Json} {ms : List (Str × Json)} (hn : (ms.map Prod.fst).Nodup) :
    field key ms = some j ↔ (key, j) ∈ ms := by
  constructor
  · intro h
    have hkey : key ∈ ms.map Prod.fst := field_isSome.mp (by rw [h]; rfl)
    obtain ⟨⟨k, j'⟩, hm, rfl⟩ := List.mem_map.mp hkey
    rw [field_of_mem hn hm] at h
    exact Option.some.inj h ▸ hm
  · exact field_of_mem hn

def sorted (ms : List (Str × Json)) : List (Str × Json) := sortBy Prod.fst (sortMembers ms)

def membersOf : Json → List (Str × Json)
  | .obj ms => ms
  | _ => []

lemma field_sorted (key : Str) {ms : List (Str × Json)} (hn : (ms.map Prod.fst).Nodup) :
    field key (sorted ms) = (field key ms).map sortKeys := by
  have hperm := sortBy_perm Prod.fst (sortMembers ms)
  have hkeys : ((sortMembers ms).map Prod.fst).Nodup := by rwa [sortMembers_keys]
  rw [← field_sortMembers, Option.ext_iff]
  intro j
  rw [sorted, field_eq_some_iff ((hperm.map Prod.fst).nodup_iff.mpr hkeys), field_eq_some_iff hkeys, hperm.mem_iff]

mutual

def Distinct : Json → Prop
  | .arr js => DistinctElements js
  | .obj ms => (ms.map Prod.fst).Nodup ∧ DistinctMembers ms
  | _ => True

def DistinctElements : List Json → Prop
  | [] => True
  | j :: js => Distinct j ∧ DistinctElements js

def DistinctMembers : List (Str × Json) → Prop
  | [] => True
  | (_, j) :: ms => Distinct j ∧ DistinctMembers ms

end

section

variable {P : Str → Prop}

lemma elementStrings_iff {js : List Json} : ElementStrings P js ↔ ∀ j ∈ js, Strings P j := by
  induction js with
  | nil => simp [ElementStrings]
  | cons j js ih => rw [ElementStrings, ih, List.forall_mem_cons]

lemma memberStrings_iff {ms : List (Str × Json)} : MemberStrings P ms ↔ ∀ m ∈ ms, P m.1 ∧ Strings P m.2 := by
  induction ms with
  | nil => simp [MemberStrings]
  | cons m ms ih => rw [MemberStrings, ih, List.forall_mem_cons, and_assoc]

lemma distinctElements_iff {js : List Json} : DistinctElements js ↔ ∀ j ∈ js, Distinct j := by
  induction js with
  | nil => simp [DistinctElements]
  | cons j js ih => rw [DistinctElements, ih, List.forall_mem_cons]

lemma distinctMembers_iff {ms : List (Str × Json)} : DistinctMembers ms ↔ ∀ m ∈ ms, Distinct m.2 := by
  induction ms with
  | nil => simp [DistinctMembers]
  | cons m ms ih => rw [DistinctMembers, ih, List.forall_mem_cons]

mutual

lemma strings_sortKeys : (j : Json) → Strings P j → Strings P (sortKeys j)
  | .null, _ | .bool _, _ | .int _, _ => trivial
  | .float _, h => h
  | .str _, h => h
  | .arr js, h => strings_sortElements js h
  | .obj ms, h => by
    rw [sortKeys, Strings, memberStrings_iff]
    intro m hm
    exact memberStrings_iff.mp (strings_sortMembers ms h) m (mem_sortBy.mp hm)

lemma strings_sortElements : (js : List Json) → ElementStrings P js → ElementStrings P (sortElements js)
  | [], _ => trivial
  | j :: js, h => ⟨strings_sortKeys j h.1, strings_sortElements js h.2⟩

lemma strings_sortMembers : (ms : List (Str × Json)) → MemberStrings P ms → MemberStrings P (sortMembers ms)
  | [], _ => trivial
  | (_, j) :: ms, h => ⟨h.1, strings_sortKeys j h.2.1, strings_sortMembers ms h.2.2⟩

end

mutual

lemma eqv_sortKeys (truth : Bool) : (j : Json) → Strings P j → Distinct j → eqv truth (sortKeys j) j = true
  | .null, _, _ => rfl
  | .bool b, _, _ => by simp [sortKeys, eqv]
  | .int z, _, _ => by simp [sortKeys, eqv, sameNumber, number?]
  | .str s, _, _ => by simp [sortKeys, eqv]
  | .float _, h, _ => h.elim
  | .arr js, h, hd => by
    rw [sortKeys, eqv, eqvElements_iff]
    exact eqv_sortElements truth js h hd
  | .obj ms, h, hd => by
    rw [sortKeys, eqv_obj]
    refine ⟨sorted ms, rfl, ?_, ?_⟩
    · intro key
      rw [field_sorted key hd.1, Option.isSome_map]
    · intro key a b ha hb
      rw [field_sorted key hd.1, hb] at ha
      obtain rfl := Option.some.inj ha
      exact eqv_sortMembers truth ms h hd.2 (key, b) ((field_eq_some_iff hd.1).mp hb)

lemma eqv_sortElements (truth : Bool) : (js : List Json) → ElementStrings P js → DistinctElements js →
    List.Forall₂ (fun j k => eqv truth j k = true) (sortElements js) js
  | [], _, _ => .nil
  | j :: js, h, hd => .cons (eqv_sortKeys truth j h.1 hd.1) (eqv_sortElements truth js h.2 hd.2)

lemma eqv_sortMembers (truth : Bool) : (ms : List (Str × Json)) → MemberStrings P ms → DistinctMembers ms →
    ∀ m ∈ ms, eqv truth (sortKeys m.2) m.2 = true
  | [], _, _ => by simp
  | (_, j) :: ms, h, hd =>
    List.forall_mem_cons.mpr ⟨eqv_sortKeys truth j h.2.1 hd.1, eqv_sortMembers truth ms h.2.2 hd.2⟩

end

end

theorem parse_dumps (constants : Bool) {j : Json} (h : Strings Unpaired j) {ws : Str}
    (hws : ∀ c ∈ ws, isWs c = true) :
    parse constants (dumps j ++ ws) = some (sortKeys j) :=
  parse_render indented_lawful constants (strings_sortKeys j h) hws

lemma sortElements_map (js : List Json) : sortElements js = js.map sortKeys := by
  induction js with
  | nil => rfl
  | cons j js ih => rw [sortElements, ih, List.map_cons]

def Lowly (s : Str) : Prop := ∀ c ∈ s, c < 0x110000 ∧ isHigh c = false

lemma Lowly.unpaired {s : Str} (h : Lowly s) : Unpaired s := by
  refine ⟨fun c hc => (h c hc).1, ?_⟩
  apply List.Pairwise.isChain
  rw [List.pairwise_iff_forall_sublist]
  intro a b hab
  have ha := (h a (hab.subset List.mem_cons_self)).2
  simp [ha]

def Printed (s : Str) : Prop := ∀ c ∈ s, c = 10 ∨ 32 ≤ c

instance (s : Str) : Decidable (Printed s) := inferInstanceAs (Decidable (∀ c ∈ s, c = 10 ∨ 32 ≤ c))

@[simp] lemma printed_nil : Printed [] := by simp [Printed]

@[simp] lemma printed_cons {c : ℕ} {s : Str} : Printed (c :: s) ↔ (c = 10 ∨ 32 ≤ c) ∧ Printed s :=
  List.forall_mem_cons

@[simp] lemma printed_append {s t : Str} : Printed (s ++ t) ↔ Printed s ∧ Printed t := List.forall_mem_append

lemma printed_unicodeEscape (n : ℕ) : Printed (unicodeEscape n) := by
  have hx (n : ℕ) : 32 ≤ hexChar n := by
    unfold hexChar
    split <;> omega
  simp [unicodeEscape, hx]

@[simp] lemma printed_quote (s : Str) : Printed (indented.quote s) := by
  intro c hc
  obtain ⟨d, -, hd⟩ := List.mem_flatMap.mp hc
  have hescape : Printed (escapeAscii d) := by
    unfold escapeAscii
    split
    · rename_i e he
      unfold shortEscape at he
      split_ifs at he with h₁ <;> obtain rfl := Option.some.inj he
      · rcases h₁ with rfl | rfl <;> decide
      all_goals decide
    · split_ifs with h
      · simp [h.1]
      · exact printed_unicodeEscape _
      · exact printed_append.mpr ⟨printed_unicodeEscape _, printed_unicodeEscape _⟩
  exact hescape c hd

@[simp] lemma printed_newline (d : ℕ) : Printed (indented.newline d) := by
  refine printed_cons.mpr ⟨.inl rfl, ?_⟩
  intro c hc
  rw [List.eq_of_mem_replicate hc]
  decide

@[simp] lemma printed_colon : Printed indented.colon := by decide

lemma printed_ofInt (z : ℤ) : Printed (Decimal.ofInt z) := by
  have hd (n : ℕ) : Printed (Decimal.ofNat n) := by
    intro c hc
    have hdigit := Decimal.ofNat_isDigit hc
    simp only [Decimal.isDigit, decide_eq_true_eq] at hdigit
    omega
  cases z with
  | ofNat n => exact hd n
  | negSucc n => exact printed_cons.mpr ⟨by decide, hd (n + 1)⟩

mutual

lemma printed_render (d : ℕ) : (j : Json) → Printed (render indented d j)
  | .null => (by decide : Printed (lit "null"))
  | .bool true => (by decide : Printed (lit "true"))
  | .bool false => (by decide : Printed (lit "false"))
  | .int z => printed_ofInt z
  | .float q => printed_nil
  | .str s => by simp [render]
  | .arr [] => by simp [render]
  | .arr (j :: js) => by simp [render, printed_renderElements (d + 1) (j :: js)]
  | .obj [] => by simp [render]
  | .obj (m :: ms) => by simp [render, printed_renderMembers (d + 1) (m :: ms)]

lemma printed_renderElements (d : ℕ) : (js : List Json) → Printed (renderElements indented d js)
  | [] => printed_nil
  | [j] => printed_render d j
  | j :: j' :: js => by simp [renderElements, printed_render d j, printed_renderElements d (j' :: js)]

lemma printed_renderMembers (d : ℕ) : (ms : List (Str × Json)) → Printed (renderMembers indented d ms)
  | [] => printed_nil
  | [(k, j)] => by simp [renderMembers, printed_render d j]
  | (k, j) :: m :: ms => by simp [renderMembers, printed_render d j, printed_renderMembers d (m :: ms)]

end

end Graft64.Library.Json
