import Graft64.Library.Json

/-! JSON objects as dictionaries in which the last value of a key counts, and equality of values. -/

namespace Graft64.Library.Json

def field (key : Str) : List (Str × Json) → Option Json
  | [] => none
  | (k, j) :: ms => (field key ms).or (if k = key then some j else none)

def hasKeys (ms : List (Str × Json)) (keys : List Str) : Bool :=
  ms.all (fun m => keys.contains m.1) && keys.all fun key => (field key ms).isSome

/-- The number that a value compares as; the truth values are numbers to some. -/
def number? (truth : Bool) : Json → Option ℚ
  | .int z => some z
  | .float q => q
  | .bool b => if truth then some (if b then 1 else 0) else none
  | _ => none

def sameNumber (truth : Bool) (a b : Json) : Bool :=
  match number? truth a, number? truth b with
  | some x, some y => x == y
  | _, _ => false

mutual

/-- Equality of values, where no infinite number is compared: whole numbers equal those with a
fraction, objects do not depend on an order, and the truth values may equal numbers. -/
def eqv (truth : Bool) : Json → Json → Bool
  | .null, .null => true
  | .bool a, .bool b => a == b
  | .str s, .str t => s == t
  | .arr js, .arr ks => eqvElements truth js ks
  | .obj ms, .obj ns => eqvMembers truth ms ns && ns.all fun n => (field n.1 ms).isSome
  | a, b => sameNumber truth a b

def eqvElements (truth : Bool) : List Json → List Json → Bool
  | [], [] => true
  | j :: js, k :: ks => eqv truth j k && eqvElements truth js ks
  | _, _ => false

def eqvMembers (truth : Bool) : List (Str × Json) → List (Str × Json) → Bool
  | [], _ => true
  | (key, j) :: ms, ns =>
    ((field key ms).isSome || (match field key ns with
      | some k => eqv truth j k
      | none => false)) && eqvMembers truth ms ns

end

variable {truth : Bool}

lemma field_cons (key k : Str) (j : Json) (ms : List (Str × Json)) :
    field key ((k, j) :: ms) = (field key ms).or (if k = key then some j else none) := rfl

lemma field_isSome {key : Str} {ms : List (Str × Json)} :
    (field key ms).isSome = true ↔ key ∈ ms.map Prod.fst := by
  induction ms with
  | nil => simp [field]
  | cons m ms ih =>
    obtain ⟨k, j⟩ := m
    rw [field_cons, List.map_cons, List.mem_cons, ← ih]
    cases field key ms with
    | some v => simp
    | none =>
      by_cases hk : k = key
      · simp [hk]
      · have hne : key ≠ k := Ne.symm hk
        simp [hk, hne]

lemma field_of_mem {key : Str} {j : Json} {ms : List (Str × Json)} (hn : (ms.map Prod.fst).Nodup)
    (h : (key, j) ∈ ms) : field key ms = some j := by
  induction ms with
  | nil => cases h
  | cons m ms ih =>
    obtain ⟨k, j'⟩ := m
    rw [List.map_cons, List.nodup_cons] at hn
    rw [field_cons]
    rcases List.mem_cons.mp h with h | h
    · obtain ⟨rfl, rfl⟩ := Prod.mk.inj h
      have hnone : field key ms = none := by
        rw [← Option.not_isSome_iff_eq_none, field_isSome]
        exact hn.1
      simp [hnone]
    · rw [ih hn.2 h]
      rfl

lemma hasKeys_iff {ms : List (Str × Json)} {keys : List Str} :
    hasKeys ms keys = true ↔ ∀ key, (field key ms).isSome = true ↔ key ∈ keys := by
  simp only [hasKeys, Bool.and_eq_true, List.all_eq_true, List.contains_iff_mem]
  constructor
  · rintro ⟨hm, hk⟩ key
    refine ⟨?_, hk key⟩
    intro h
    obtain ⟨m, hmem, rfl⟩ := List.mem_map.mp (field_isSome.mp h)
    exact hm m hmem
  · intro h
    refine ⟨?_, fun key hk => (h key).mpr hk⟩
    intro m hm
    exact (h m.1).mp (field_isSome.mpr (List.mem_map_of_mem hm))

lemma eqv_str {j : Json} {s : Str} : eqv truth j (.str s) = true ↔ j = .str s := by
  cases j <;> simp [eqv, sameNumber, number?]

lemma eqvMembers_iff {ms ns : List (Str × Json)} :
    eqvMembers truth ms ns = true ↔ ∀ key j, field key ms = some j →
      ∃ k, field key ns = some k ∧ eqv truth j k = true := by
  induction ms with
  | nil => simp [eqvMembers, field]
  | cons m ms ih =>
    obtain ⟨key, j⟩ := m
    rw [eqvMembers, Bool.and_eq_true, ih]
    constructor
    · rintro ⟨h, hms⟩ key' j' hf
      rw [field_cons] at hf
      cases hk : field key' ms with
      | some v =>
        rw [hk] at hf
        obtain rfl := Option.some.inj hf
        exact hms key' v hk
      | none =>
        rw [hk] at hf
        by_cases he : key = key'
        · subst he
          obtain rfl : j = j' := by simpa using hf
          cases hn : field key ns with
          | none => simp [hk, hn] at h
          | some k => exact ⟨k, rfl, by simpa [hk, hn] using h⟩
        · simp [he] at hf
    · intro h
      refine ⟨?_, ?_⟩
      · cases hk : field key ms with
        | some v => rfl
        | none =>
          obtain ⟨k, hn, he⟩ := h key j (by simp [field_cons, hk])
          simp [hn, he]
      · intro key' j' hf
        apply h key' j'
        rw [field_cons, hf]
        rfl

lemma eqv_obj {j : Json} {ns : List (Str × Json)} : eqv truth j (.obj ns) = true ↔ ∃ ms, j = .obj ms ∧
    (∀ key, (field key ms).isSome = true ↔ (field key ns).isSome = true) ∧
      ∀ key a b, field key ms = some a → field key ns = some b → eqv truth a b = true := by
  cases j with
  | obj ms =>
    rw [eqv, Bool.and_eq_true, eqvMembers_iff, List.all_eq_true]
    constructor
    · rintro ⟨hm, hn⟩
      refine ⟨ms, rfl, ?_, ?_⟩
      · intro key
        constructor
        · intro h
          obtain ⟨a, ha⟩ := Option.isSome_iff_exists.mp h
          obtain ⟨b, hb, -⟩ := hm key a ha
          rw [hb]
          rfl
        · intro h
          obtain ⟨n, hmem, rfl⟩ := List.mem_map.mp (field_isSome.mp h)
          exact hn n hmem
      · intro key a b ha hb
        obtain ⟨b', hb', he⟩ := hm key a ha
        obtain rfl := Option.some.inj (hb.symm.trans hb')
        exact he
    · rintro ⟨_, ⟨⟩, hkeys, hval⟩
      refine ⟨?_, ?_⟩
      · intro key a ha
        obtain ⟨b, hb⟩ := Option.isSome_iff_exists.mp ((hkeys key).mp (by rw [ha]; rfl))
        exact ⟨b, hb, hval key a b ha hb⟩
      · intro n hn
        exact (hkeys n.1).mpr (field_isSome.mpr (List.mem_map_of_mem hn))
  | null | bool | int | float | str | arr => simp [eqv, sameNumber, number?]

lemma eqvElements_iff {js ks : List Json} :
    eqvElements truth js ks = true ↔ List.Forall₂ (fun j k => eqv truth j k = true) js ks := by
  induction js generalizing ks with
  | nil => cases ks <;> simp [eqvElements]
  | cons j js ih => cases ks with
    | nil => simp [eqvElements]
    | cons k ks => simp [eqvElements, ih]

lemma eqv_arr {j : Json} {ks : List Json} : eqv truth j (.arr ks) = true ↔
    ∃ js, j = .arr js ∧ List.Forall₂ (fun j k => eqv truth j k = true) js ks := by
  cases j with
  | arr js =>
    rw [eqv, eqvElements_iff]
    constructor
    · exact fun h => ⟨js, rfl, h⟩
    · rintro ⟨_, ⟨⟩, h⟩
      exact h
  | null | bool | int | float | str | obj => simp [eqv, sameNumber, number?]

end Graft64.Library.Json
