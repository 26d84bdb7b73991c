import Graft64.Library.JsonValues
import Graft64.Library.Regex
import Graft64.Library.Results

/-! JSON schemas, with the keywords of draft 2020-12 that describe closed records and lists. -/

namespace Graft64.Library

open Results

inductive JsonType
  | null
  | string
  | array
  | object
deriving DecidableEq

inductive Schema
  | const (j : Json)
  | enum (js : List Json)
  | type (t : JsonType)
  | minLength (n : ℕ)
  /-- A pattern that begins with `^`. -/
  | pattern (r : Regex)
  | required (keys : List Str)
  /-- `properties`, and whether other ones are allowed. -/
  | properties (ps : List (Str × Schema)) (additional : Bool)
  | minItems (n : ℕ)
  | items (s : Schema)
  /-- `contains` with `minContains` and `maxContains`. -/
  | contains (s : Schema) (least most : ℕ)
  /-- The keywords of one schema, or the schemas of `allOf`. -/
  | all (ss : List Schema)
  | ifThen (s t : Schema)

namespace Schema

def typeOf : Json → Option JsonType
  | .null => some .null
  | .str _ => some .string
  | .arr _ => some .array
  | .obj _ => some .object
  | _ => none

mutual

def valid : Schema → Json → Bool
  | .const c, j => j.eqv false c
  | .enum cs, j => cs.any (j.eqv false)
  | .type t, j => typeOf j == some t
  | .minLength n, j => match j with
    | .str s => n ≤ s.length
    | _ => true
  | .pattern r, j => match j with
    | .str s => (r.matchAt ⟨true, s⟩).isSome
    | _ => true
  | .required keys, j => match j with
    | .obj ms => keys.all fun key => (Json.field key ms).isSome
    | _ => true
  | .properties ps additional, j => match j with
    | .obj ms => validProperties ps ms && (additional || ms.all fun m => ps.any fun p => p.1 == m.1)
    | _ => true
  | .minItems n, j => match j with
    | .arr js => n ≤ js.length
    | _ => true
  | .items s, j => match j with
    | .arr js => js.all s.valid
    | _ => true
  | .contains s least most, j => match j with
    | .arr js => least ≤ js.countP s.valid && js.countP s.valid ≤ most
    | _ => true
  | .all ss, j => validAll ss j
  | .ifThen s t, j => !s.valid j || t.valid j

def validProperties : List (Str × Schema) → List (Str × Json) → Bool
  | [], _ => true
  | (key, s) :: ps, ms =>
    (match Json.field key ms with
      | some j => s.valid j
      | none => true) && validProperties ps ms

def validAll : List Schema → Json → Bool
  | [], _ => true
  | s :: ss, j => s.valid j && validAll ss j

end

attribute [local simp] valid validAll

def record (ps : List (Str × Schema)) : Schema :=
  .all [.type .object, .required (ps.map Prod.fst), .properties ps false]

lemma validAll_iff {ss : List Schema} {j : Json} : validAll ss j = true ↔ ∀ s ∈ ss, s.valid j = true := by
  induction ss with
  | nil => simp [validAll]
  | cons s ss ih => rw [validAll, Bool.and_eq_true, ih, List.forall_mem_cons]

lemma valid_all {ss : List Schema} {j : Json} : (Schema.all ss).valid j = true ↔ ∀ s ∈ ss, s.valid j = true := by
  rw [valid, validAll_iff]

lemma validProperties_iff {ps : List (Str × Schema)} {ms : List (Str × Json)} :
    validProperties ps ms = true ↔ ∀ p ∈ ps, ∀ v, Json.field p.1 ms = some v → p.2.valid v = true := by
  induction ps with
  | nil => simp [validProperties]
  | cons p ps ih =>
    rw [validProperties, Bool.and_eq_true, ih, List.forall_mem_cons]
    cases Json.field p.1 ms <;> simp

lemma valid_record {ps : List (Str × Schema)} {j : Json} : (record ps).valid j = true ↔
    ∃ ms, j = .obj ms ∧ Json.hasKeys ms (ps.map Prod.fst) = true ∧
      ∀ p ∈ ps, ∃ v, Json.field p.1 ms = some v ∧ p.2.valid v = true := by
  cases j with
  | obj ms =>
    have hkeys : Json.hasKeys ms (ps.map Prod.fst) = true ↔
        (∀ key ∈ ps.map Prod.fst, (Json.field key ms).isSome = true) ∧ ∀ m ∈ ms, ∃ p ∈ ps, p.1 = m.1 := by
      rw [Json.hasKeys, Bool.and_eq_true, and_comm]
      simp only [List.all_eq_true, List.contains_iff_mem, List.mem_map]
    have hvalid : (record ps).valid (.obj ms) = true ↔
        (∀ key ∈ ps.map Prod.fst, (Json.field key ms).isSome = true) ∧
          (∀ p ∈ ps, ∀ v, Json.field p.1 ms = some v → p.2.valid v = true) ∧ ∀ m ∈ ms, ∃ p ∈ ps, p.1 = m.1 := by
      simp [record, valid, validAll, typeOf, validProperties_iff]
    rw [hvalid]
    constructor
    · rintro ⟨hsome, hv, hm⟩
      refine ⟨ms, rfl, hkeys.mpr ⟨hsome, hm⟩, ?_⟩
      intro p hp
      obtain ⟨v, hf⟩ := Option.isSome_iff_exists.mp (hsome p.1 (List.mem_map_of_mem hp))
      exact ⟨v, hf, hv p hp v hf⟩
    · rintro ⟨_, ⟨⟩, hk, hv⟩
      obtain ⟨hsome, hm⟩ := hkeys.mp hk
      refine ⟨hsome, ?_, hm⟩
      intro p hp v hf
      obtain ⟨w, hw, hval⟩ := hv p hp
      obtain rfl := Option.some.inj (hf.symm.trans hw)
      exact hval
  | null | bool | int | float | str | arr => simp [record, valid, validAll, typeOf]

lemma valid_record_of_fields {ps : List (Str × Schema)} {ms ns : List (Str × Json)} (hn : (ns.map Prod.fst).Nodup)
    (hf : List.Forall₂ (fun p n => p.1 = n.1 ∧ ∀ a, Json.field n.1 ms = some a → p.2.valid a = true) ps ns)
    (hkeys : ∀ key, (Json.field key ms).isSome = true ↔ (Json.field key ns).isSome = true) :
    (record ps).valid (.obj ms) = true := by
  have hfst : ps.map Prod.fst = ns.map Prod.fst := by
    clear hn hkeys
    induction hf with
    | nil => rfl
    | cons hpn _ ih => rw [List.map_cons, List.map_cons, hpn.1, ih]
  refine valid_record.mpr ⟨ms, rfl, ?_, ?_⟩
  · rw [Json.hasKeys_iff]
    intro key
    rw [hkeys, Json.field_isSome, hfst]
  · intro p hp
    obtain ⟨n, hmem, hp1, hvalid⟩ := exists_of_forall₂ hf hp
    have hsome : (Json.field n.1 ms).isSome = true := by
      rw [hkeys, Json.field_of_mem hn hmem]
      rfl
    obtain ⟨a, ha⟩ := Option.isSome_iff_exists.mp hsome
    exact ⟨a, by rw [hp1, ha], hvalid a ha⟩

lemma forall₂_fields {R : Json → Json → Prop} {ps : List (Str × Schema)} {ms ns : List (Str × Json)}
    (hn : (ns.map Prod.fst).Nodup)
    (hf : List.Forall₂ (fun p n => p.1 = n.1 ∧ ∀ a, Json.field n.1 ms = some a → R a n.2 →
      p.2.valid a = true) ps ns)
    (hR : ∀ key a b, Json.field key ms = some a → Json.field key ns = some b → R a b) :
    List.Forall₂ (fun p n => p.1 = n.1 ∧ ∀ a, Json.field n.1 ms = some a → p.2.valid a = true) ps ns := by
  have hmem := ((List.forall₂_and_left ns ps).mpr ⟨fun n hn => hn, hf.flip⟩).flip
  refine hmem.imp ?_
  rintro p n ⟨hn', hkey, hvalid⟩
  exact ⟨hkey, fun a ha => hvalid a ha (hR n.1 a n.2 ha (Json.field_of_mem hn hn'))⟩

lemma valid_record_of_eqv {ps : List (Str × Schema)} {ms ns : List (Str × Json)} (hn : (ns.map Prod.fst).Nodup)
    (hf : List.Forall₂ (fun p n => p.1 = n.1 ∧
      ∀ a, Json.field n.1 ms = some a → a.eqv true n.2 = true → p.2.valid a = true) ps ns)
    (h : (Json.obj ms).eqv true (.obj ns) = true) : (record ps).valid (.obj ms) = true := by
  obtain ⟨_, ⟨⟩, hkeys, heqv⟩ := Json.eqv_obj.mp h
  exact valid_record_of_fields hn (forall₂_fields (R := fun a b => a.eqv true b = true) hn hf heqv) hkeys

def nonEmptyString : Schema := .all [.type .string, .minLength 1]

def stringEnum (values : List Str) : Schema := .enum (values.map Json.str)

def fieldIsConst (key value : Str) : Schema :=
  .all [.required [key], .properties [(key, .const (.str value))] true]

def containsOne (key value : Str) : Schema := .contains (.all [.type .object, fieldIsConst key value]) 1 1

lemma valid_const {value : Str} {j : Json} : (Schema.const (.str value)).valid j = true ↔ j = .str value := by
  rw [valid, Json.eqv_str]

lemma valid_nonEmptyString {s : Str} (h : s ≠ []) : nonEmptyString.valid (.str s) = true := by
  have hlen : 1 ≤ s.length := List.length_pos_iff.mpr h
  simp [nonEmptyString, valid, validAll, typeOf, hlen]

lemma valid_stringPattern {r : Regex} {s : Str} (h : (r.matchAt ⟨true, s⟩).isSome = true) :
    (Schema.all [.type .string, .pattern r]).valid (.str s) = true := by
  simp [valid, validAll, typeOf, h]

lemma valid_stringEnum {values : List Str} {s : Str} (h : s ∈ values) :
    (stringEnum values).valid (.str s) = true := by
  rw [stringEnum, valid, List.any_eq_true]
  exact ⟨.str s, List.mem_map_of_mem h, Json.eqv_str.mpr rfl⟩

lemma valid_fieldIsConst {key value : Str} {ms : List (Str × Json)} :
    (fieldIsConst key value).valid (.obj ms) = true ↔ Json.field key ms = some (.str value) := by
  have hvalid : (fieldIsConst key value).valid (.obj ms) = true ↔
      (Json.field key ms).isSome = true ∧ ∀ v, Json.field key ms = some v → v = .str value := by
    simp [fieldIsConst, valid, validAll, validProperties_iff, Json.eqv_str]
  rw [hvalid]
  constructor
  · rintro ⟨hsome, hv⟩
    obtain ⟨v, hf⟩ := Option.isSome_iff_exists.mp hsome
    rw [hf, hv v hf]
  · intro h
    rw [h]
    refine ⟨rfl, ?_⟩
    rintro v ⟨⟩
    rfl

lemma valid_ifThen {key value field : Str} {s : Schema} {ms : List (Str × Json)} :
    (Schema.ifThen (fieldIsConst key value) (.properties [(field, s)] true)).valid (.obj ms) = true ↔
      (Json.field key ms = some (.str value) → ∀ v, Json.field field ms = some v → s.valid v = true) := by
  rw [valid, Bool.or_eq_true, ← valid_fieldIsConst, Bool.not_eq_true', ← Bool.not_eq_true]
  have hthen : (Schema.properties [(field, s)] true).valid (.obj ms) = true ↔
      ∀ v, Json.field field ms = some v → s.valid v = true := by
    simp [valid, validProperties_iff]
  rw [hthen]
  tauto

lemma countP_eq_of_forall₂ {α β : Type} {p : α → Bool} {q : β → Bool} {as : List α} {bs : List β}
    (h : List.Forall₂ (fun a b => p a = q b) as bs) : as.countP p = bs.countP q := by
  induction h with
  | nil => rfl
  | cons hab _ ih => rw [List.countP_cons, List.countP_cons, hab, ih]

lemma valid_containsOne {key value : Str} {js : List Json} :
    (containsOne key value).valid (.arr js) = true ↔
      js.countP (Schema.all [.type .object, fieldIsConst key value]).valid = 1 := by
  rw [containsOne, valid]
  simp only [Bool.and_eq_true, decide_eq_true_eq]
  omega

lemma valid_objectWith {key value : Str} {ms : List (Str × Json)} :
    (Schema.all [.type .object, fieldIsConst key value]).valid (.obj ms) = true ↔
      Json.field key ms = some (.str value) := by
  rw [← valid_fieldIsConst]
  simp [valid, validAll, typeOf]

lemma countP_objectWith {α : Type} {js : List Json} {as : List α} {f : α → Str} {key value : Str}
    (h : List.Forall₂ (fun j a => ∃ ms, j = .obj ms ∧ Json.field key ms = some (.str (f a))) js as) :
    js.countP (Schema.all [.type .object, fieldIsConst key value]).valid = (as.map f).count value := by
  rw [List.count_eq_countP, List.countP_map]
  refine countP_eq_of_forall₂ (h.imp ?_)
  rintro j a ⟨ms, rfl, hf⟩
  rw [Bool.eq_iff_iff, valid_objectWith, hf]
  simp

lemma length_le_of_count {α : Type} {as : List α} {f : α → Str} {values : List Str} (hn : values.Nodup)
    (h : ∀ value ∈ values, (as.map f).count value = 1) : values.length ≤ as.length := by
  have hsub : values ⊆ as.map f := by
    intro value hv
    rw [← List.count_pos_iff, h value hv]
    exact Nat.one_pos
  simpa using (hn.subperm hsub).length_le

lemma valid_array {n : ℕ} {item : Schema} {counts : List Schema} {js : List Json} :
    (Schema.all [.type .array, .minItems n, .items item, .all counts]).valid (.arr js) = true ↔
      n ≤ js.length ∧ (∀ j ∈ js, item.valid j = true) ∧ ∀ s ∈ counts, s.valid (.arr js) = true := by
  simp [valid, validAll, validAll_iff, typeOf]

end Schema

end Graft64.Library
