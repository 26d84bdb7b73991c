import Graft64.Library.Results
import Graft64.Library.SchemaDocument
import Graft64.Library.Sorting
import Mathlib.Data.List.Dedup

/-! `report.schema.json`, and the validator of `test_report_schema.py`. -/

namespace Graft64.Platform.ReportSchema

open Graft64.Library Results Json SchemaDocument

inductive Problem
  | expectedType (name : Str)
  | expectedConstant (c : Json)
  | notInEnum
  | belowMinimum
  | tooShort
  | missing (keys : List Str)
  | unexpected (keys : List Str)

inductive Failure
  | invalid (path : Str) (p : Problem)
  /-- Another exception, or a document that is no schema, of which nothing more is said. -/
  | raised

def ensure (b : Bool) (f : Failure) : Except Failure Unit := if b then .ok () else .error f

section Checks

variable (path : Str) (schema : List (Str × Json))

def checkType (inst : Json) : Except Failure Unit :=
  match field (lit "type") schema with
  | none => .ok ()
  | some (.str name) => match ofName name with
    | some t => ensure (hasType false t inst) (.invalid path (.expectedType name))
    | none => .error .raised
  | some _ => .error .raised

def checkConst (inst : Json) : Except Failure Unit :=
  match field (lit "const") schema with
  | none => .ok ()
  | some c => ensure (inst.eqv true c) (.invalid path (.expectedConstant c))

def checkEnum (inst : Json) : Except Failure Unit :=
  match field (lit "enum") schema with
  | none => .ok ()
  | some (.arr cs) => ensure (cs.any fun c => inst.eqv true c) (.invalid path .notInEnum)
  | some _ => .error .raised

def checkMinimum (inst : Json) : Except Failure Unit :=
  match field (lit "minimum") schema with
  | none => .ok ()
  | some least => match number? true least, number? true inst with
    | some least, some x => ensure (least ≤ x) (.invalid path .belowMinimum)
    | _, _ => .error .raised

def len? : Json → Option ℕ
  | .str s => some s.length
  | .arr js => some js.length
  | .obj ms => some (ms.map Prod.fst).dedup.length
  | _ => none

def checkMinLength (inst : Json) : Except Failure Unit :=
  match field (lit "minLength") schema with
  | none => .ok ()
  | some least => match number? true least, len? inst with
    | some least, some n => ensure (least ≤ n) (.invalid path .tooShort)
    | _, _ => .error .raised

def names? : List Json → Option (List Str)
  | [] => some []
  | .str key :: js => (names? js).map fun keys => key :: keys
  | _ => none

def checkRequired (ms : List (Str × Json)) : Except Failure Unit :=
  match field (lit "required") schema with
  | none => .ok ()
  | some (.arr names) => do
    let required ← orError .raised (names? names)
    let missing := required.filter fun key => (field key ms).isNone
    ensure missing.isEmpty (.invalid path (.missing (sortBy id missing.dedup)))
  | some _ => .error .raised

def properties : Except Failure (List (Str × Json)) :=
  match field (lit "properties") schema with
  | none => .ok []
  | some (.obj ps) => .ok ps
  | some _ => .error .raised

def checkAdditional (ps ms : List (Str × Json)) : Except Failure Unit :=
  match field (lit "additionalProperties") schema with
  | some (.bool false) =>
    let unexpected := (ms.map Prod.fst).filter fun key => (field key ps).isNone
    ensure unexpected.isEmpty (.invalid path (.unexpected (sortBy id unexpected.dedup)))
  | _ => .ok ()

def checkValue (inst : Json) : Except Failure Unit := do
  checkType path schema inst
  checkConst path schema inst
  checkEnum path schema inst
  checkMinimum path schema inst
  checkMinLength path schema inst

end Checks

mutual

/-- `json.loads` leaves every key of an object once: of the members with one key, the last one counts. -/
def validate : Str → Json → Json → Except Failure Unit
  | path, .obj ms, .obj schema => do
    checkValue path schema (.obj ms)
    checkRequired path schema ms
    let ps ← properties schema
    checkAdditional path schema ps ms
    validateMembers path ms ps
  | path, .arr js, .obj schema => do
    checkValue path schema (.arr js)
    match field (lit "items") schema with
    | some s => validateItems path 0 js s
    | none => .ok ()
  | path, j, .obj schema => checkValue path schema j
  | _, _, _ => .error .raised

def validateMembers : Str → List (Str × Json) → List (Str × Json) → Except Failure Unit
  | _, [], _ => .ok ()
  | path, (name, value) :: ms, ps => do
    match (field name ms).isSome, field name ps with
    | false, some s => validate (path ++ lit "." ++ name) value s
    | _, _ => .ok ()
    validateMembers path ms ps

def validateItems : Str → ℕ → List Json → Json → Except Failure Unit
  | _, _, [], _ => .ok ()
  | path, index, value :: js, s => do
    validate (path ++ lit "[" ++ Decimal.ofNat index ++ lit "]") value s
    validateItems path (index + 1) js s

end

section Document

def keyword (name : String) (j : Json) : Str × Json := (lit name, j)

def typed (name : String) : Str × Json := keyword "type" (.str (lit name))

def closed (ps : List (Str × Json)) : List (Str × Json) :=
  [typed "object", keyword "required" (.arr (ps.map fun p => .str p.1)), keyword "properties" (.obj ps),
    keyword "additionalProperties" (.bool false)]

def someText : Json := .obj [typed "string", keyword "minLength" (.int 1)]

def anyText : Json := .obj [typed "string"]

def anyInteger : Json := .obj [typed "integer"]

def boolean : Json := .obj [typed "boolean"]

def list (s : Json) : Json := .obj [typed "array", keyword "items" s]

def device : Json := .obj (closed [keyword "model" someText, keyword "system_name" someText,
  keyword "system_version" someText, keyword "machine" someText,
  keyword "page_size" (.obj [typed "integer", keyword "minimum" (.int 1)])])

def environment : Json := .obj (closed [keyword "livecontainer_detected" boolean,
  keyword "livecontainer_evidence" (list someText), keyword "jit_expected" boolean])

def probe : Json := .obj (closed [keyword "id" someText, keyword "name" someText,
  keyword "status" (.obj [typed "string",
    keyword "enum" (.arr [.str (lit "PASS"), .str (lit "FAIL"), .str (lit "SKIP"), .str (lit "BLOCKED")])]),
  keyword "reason_code" anyInteger, keyword "graft_error" anyInteger, keyword "os_error" anyInteger,
  keyword "duration_nanoseconds" (.obj [typed "integer", keyword "minimum" (.int 0)]), keyword "summary" anyText,
  keyword "details_json" anyText])

def report : Json :=
  .obj (keyword "$schema" (.str (lit "https://json-schema.org/draft/2020-12/schema")) ::
    closed [keyword "schema_version" (.obj [typed "integer", keyword "const" (.int 2)]),
      keyword "app_version" someText, keyword "build_commit" someText, keyword "timestamp_utc" someText,
      keyword "device" device, keyword "environment" environment, keyword "probes" (list probe)])

end Document

section Supported

def isName : Json → Bool
  | .str _ => true
  | _ => false

def isInt : Json → Bool
  | .int _ => true
  | _ => false

/-- The values that the keywords compare an instance with are of its type, which is a plain one. -/
def comparable (schema : List (Str × Json)) (t : InstanceType) : Bool :=
  (match field (lit "const") schema with
    | some c => t != .object && t != .array && hasType false t c
    | none => true) &&
  (match field (lit "enum") schema with
    | some (.arr cs) => t != .object && t != .array && cs.all (hasType false t)
    | some _ => false
    | none => true) &&
  (match field (lit "minimum") schema with
    | some least => t == .integer && isInt least
    | none => true) &&
  match field (lit "minLength") schema with
    | some least => t == .string && isInt least
    | none => true

def compared (schema : List (Str × Json)) : Bool :=
  match field (lit "type") schema with
  | some (.str name) => match ofName name with
    | some t => comparable schema t
    | none => false
  | some _ => false
  | none => [lit "const", lit "enum", lit "minimum", lit "minLength"].all fun key => (field key schema).isNone

def described (schema : List (Str × Json)) : Bool :=
  (match field (lit "required") schema with
    | some (.arr names) => names.all isName
    | some _ => false
    | none => true) &&
  (match field (lit "properties") schema with
    | some (.obj _) => true
    | some _ => false
    | none => true) &&
  match field (lit "additionalProperties") schema with
    | some (.bool _) => true
    | some _ => false
    | none => true

def keywords : List Str :=
  [lit "$schema", lit "type", lit "const", lit "enum", lit "minimum", lit "minLength", lit "required",
    lit "properties", lit "additionalProperties", lit "items"]

mutual

def supported : Json → Bool
  | .obj schema => compared schema && described schema && supportedKeywords schema
  | _ => false

def supportedKeywords : List (Str × Json) → Bool
  | [] => true
  | (key, .obj ps) :: schema =>
    keywords.contains key && (if key = lit "properties" then supportedProperties ps else supported (.obj ps)) &&
      supportedKeywords schema
  | (key, _) :: schema => keywords.contains key && decide (key ≠ lit "items") && supportedKeywords schema

def supportedProperties : List (Str × Json) → Bool
  | [] => true
  | (_, s) :: ps => supported s && supportedProperties ps

end

lemma report_supported : supported report = true := by decide +kernel

end Supported

inductive Agrees (r : Except Failure Unit) (b : Bool) : Prop
  | ok (hr : r = .ok ()) (hb : b = true)
  | invalid (path : Str) (p : Problem) (hr : r = .error (.invalid path p)) (hb : b = false)

namespace Agrees

variable {r r' : Except Failure Unit} {b b' : Bool}

lemma ensure (b : Bool) (path : Str) (p : Problem) : Agrees (ensure b (.invalid path p)) b := by
  cases b with
  | true => exact .ok rfl rfl
  | false => exact .invalid path p rfl rfl

lemma pass : Agrees (.ok ()) true := .ok rfl rfl

lemma andThen (h : Agrees r b) (h' : b = true → Agrees r' b') : Agrees (r >>= fun _ => r') (b && b') := by
  cases h with
  | ok hr hb =>
    rw [hr, hb, Bool.true_and]
    exact h' hb
  | invalid path p hr hb =>
    rw [hr, hb, Bool.false_and]
    exact .invalid path p rfl rfl

lemma iff (h : Agrees r b) : r = .ok () ↔ b = true := by
  cases h with
  | ok hr hb => exact iff_of_true hr hb
  | invalid path p hr hb => exact iff_of_false (by simp [hr]) (by simp [hb])

lemma error (h : Agrees r b) {f : Failure} (hf : r = .error f) : ∃ path p, f = .invalid path p := by
  cases h with
  | ok hr hb => cases hr.symm.trans hf
  | invalid path p hr hb => exact ⟨path, p, Except.error.inj (hf.symm.trans hr)⟩

end Agrees

def valueHolds (schema : List (Str × Json)) (inst : Json) : Bool :=
  typeHolds false schema inst && (constHolds schema inst && (enumHolds schema inst && (minimumHolds schema inst &&
    minLengthHolds schema inst)))

section Values

variable {schema : List (Str × Json)} {t : InstanceType} {inst c : Json} {path : Str}

lemma compared_cases (h : compared schema = true) :
    (∃ name t, field (lit "type") schema = some (.str name) ∧ ofName name = some t ∧ comparable schema t = true) ∨
      field (lit "type") schema = none ∧ field (lit "const") schema = none ∧ field (lit "enum") schema = none ∧
        field (lit "minimum") schema = none ∧ field (lit "minLength") schema = none := by
  unfold compared at h
  split at h
  · rename_i name hn
    split at h
    · rename_i t ht
      exact .inl ⟨name, t, hn, ht, h⟩
    · cases h
  · cases h
  · rename_i hn
    simp only [List.all_cons, List.all_nil, Bool.and_true, Bool.and_eq_true, Option.isNone_iff_eq_none] at h
    exact .inr ⟨hn, h⟩

lemma eqv_of_hasType (ht : t ≠ .object ∧ t ≠ .array) (hi : hasType false t inst = true)
    (hc : hasType false t c = true) :
    inst.eqv true c = inst.eqv false c := by
  obtain ⟨ho, ha⟩ := ht
  cases t with
  | object => exact absurd rfl ho
  | array => exact absurd rfl ha
  | string | integer | boolean => cases inst <;> cases c <;> first | rfl | simp [hasType] at hi hc

lemma checkConst_agrees (ht : comparable schema t = true) (hi : hasType false t inst = true) :
    Agrees (checkConst path schema inst) (constHolds schema inst) := by
  simp only [comparable, Bool.and_eq_true] at ht
  obtain ⟨⟨⟨hconst, -⟩, -⟩, -⟩ := ht
  rw [checkConst, constHolds]
  cases hc : field (lit "const") schema with
  | none => exact .pass
  | some c =>
    simp only [hc, Bool.and_eq_true, bne_iff_ne] at hconst
    simp only [eqv_of_hasType hconst.1 hi hconst.2]
    exact .ensure _ _ _

lemma checkEnum_agrees (ht : comparable schema t = true) (hi : hasType false t inst = true) :
    Agrees (checkEnum path schema inst) (enumHolds schema inst) := by
  simp only [comparable, Bool.and_eq_true] at ht
  obtain ⟨⟨⟨-, henum⟩, -⟩, -⟩ := ht
  rw [checkEnum, enumHolds]
  cases hc : field (lit "enum") schema with
  | none => exact .pass
  | some e =>
    rw [hc] at henum
    cases e with
    | arr cs =>
      simp only [Bool.and_eq_true, bne_iff_ne, List.all_eq_true] at henum
      have hany : (cs.any fun c => inst.eqv true c) = cs.any fun c => inst.eqv false c := by
        rw [Bool.eq_iff_iff, List.any_eq_true, List.any_eq_true]
        refine exists_congr fun c => and_congr_right fun hcs => ?_
        rw [eqv_of_hasType henum.1 hi (henum.2 c hcs)]
      simp only [hany]
      exact .ensure _ _ _
    | null | bool | int | float | str | obj => cases henum

lemma exists_int_of_isInt {j : Json} (h : isInt j = true) : ∃ z, j = .int z := by
  cases j with
  | int z => exact ⟨z, rfl⟩
  | null | bool | float | str | arr | obj => cases h

lemma checkMinimum_agrees (ht : comparable schema t = true) (hi : hasType false t inst = true) :
    Agrees (checkMinimum path schema inst) (minimumHolds schema inst) := by
  simp only [comparable, Bool.and_eq_true] at ht
  obtain ⟨⟨-, hminimum⟩, -⟩ := ht
  rw [checkMinimum, minimumHolds]
  cases hc : field (lit "minimum") schema with
  | none => exact .pass
  | some least =>
    simp only [hc, Bool.and_eq_true, beq_iff_eq] at hminimum
    obtain ⟨rfl, hleast⟩ := hminimum
    obtain ⟨z, rfl⟩ := exists_int_of_isInt hleast
    cases inst with
    | int x => exact .ensure _ _ _
    | float q => cases q <;> cases hi
    | null | bool | str | arr | obj => cases hi

lemma checkMinLength_agrees (ht : comparable schema t = true) (hi : hasType false t inst = true) :
    Agrees (checkMinLength path schema inst) (minLengthHolds schema inst) := by
  simp only [comparable, Bool.and_eq_true] at ht
  obtain ⟨-, hlength⟩ := ht
  rw [checkMinLength]
  cases hc : field (lit "minLength") schema with
  | none =>
    cases inst <;> simp only [minLengthHolds, hc] <;> exact .pass
  | some least =>
    simp only [hc, Bool.and_eq_true, beq_iff_eq] at hlength
    obtain ⟨rfl, hleast⟩ := hlength
    obtain ⟨z, rfl⟩ := exists_int_of_isInt hleast
    cases inst with
    | str s =>
      have hcast : decide ((z : ℚ) ≤ (s.length : ℚ)) = decide (z ≤ s.length) := by
        refine decide_eq_decide.mpr ?_
        exact_mod_cast Iff.rfl
      simp only [minLengthHolds, hc, number?, len?, hcast]
      exact .ensure _ _ _
    | null | bool | int | float | arr | obj => simp [hasType] at hi

lemma checkValue_agrees (h : compared schema = true) :
    Agrees (checkValue path schema inst) (valueHolds schema inst) := by
  rcases compared_cases h with ⟨name, t, hn, ht, hc⟩ | ⟨hn, hconst, henum, hminimum, hlength⟩
  · have htype : typeHolds false schema inst = hasType false t inst := by
      simp only [typeHolds, hn, ht, Option.any_some]
    have hcheck : checkType path schema inst =
        ReportSchema.ensure (hasType false t inst) (.invalid path (.expectedType name)) := by
      simp only [checkType, hn, ht]
    rw [valueHolds, checkValue, htype, hcheck]
    refine (Agrees.ensure _ _ _).andThen fun hi => ?_
    refine (checkConst_agrees hc hi).andThen fun _ => ?_
    refine (checkEnum_agrees hc hi).andThen fun _ => ?_
    exact (checkMinimum_agrees hc hi).andThen fun _ => checkMinLength_agrees hc hi
  · have hl : minLengthHolds schema inst = true := by
      cases inst <;> simp only [minLengthHolds, hlength]
    have hm : minimumHolds schema inst = true := by
      simp only [minimumHolds, hminimum, Option.bind_none]
    rw [valueHolds, hl, hm, typeHolds, constHolds, enumHolds, checkValue, checkType, checkConst,
      checkEnum, checkMinimum, checkMinLength, hn, hconst, henum, hminimum, hlength]
    exact .pass

end Values

section Objects

variable {schema ms : List (Str × Json)} {path : Str}

lemma exists_names {names : List Json} (h : names.all isName = true) :
    ∃ keys : List Str, names = keys.map Json.str := by
  induction names with
  | nil => exact ⟨[], rfl⟩
  | cons j names ih =>
    obtain ⟨hj, hnames⟩ := Bool.and_eq_true_iff.mp h
    obtain ⟨keys, rfl⟩ := ih hnames
    cases j with
    | str key => exact ⟨key :: keys, rfl⟩
    | null | bool | int | float | arr | obj => cases hj

lemma names?_map (keys : List Str) : names? (keys.map Json.str) = some keys := by
  induction keys with
  | nil => rfl
  | cons key keys ih => rw [List.map_cons, names?, ih, Option.map_some]

lemma filter_isNone_isEmpty (keys : List Str) (ps : List (Str × Json)) :
    (keys.filter fun key => (field key ps).isNone).isEmpty = keys.all fun key => (field key ps).isSome := by
  rw [Bool.eq_iff_iff, List.isEmpty_iff, List.filter_eq_nil_iff, List.all_eq_true]
  simp only [Option.isNone_iff_eq_none, Option.isSome_iff_ne_none, ne_eq]

lemma checkRequired_agrees (h : described schema = true) :
    Agrees (checkRequired path schema ms) (requiredHolds schema (.obj ms)) := by
  simp only [described, Bool.and_eq_true] at h
  obtain ⟨⟨hr, -⟩, -⟩ := h
  rw [checkRequired, requiredHolds]
  cases hc : field (lit "required") schema with
  | none => exact .pass
  | some r =>
    rw [hc] at hr
    cases r with
    | arr names =>
      obtain ⟨keys, rfl⟩ := exists_names hr
      simp only [names?_map, orError, List.all_map, Function.comp_def, filter_isNone_isEmpty, bind, Except.bind]
      exact .ensure _ _ _
    | null | bool | int | float | str | obj => cases hr

lemma properties_eq (h : described schema = true) : properties schema = .ok (propertiesOf schema) := by
  simp only [described, Bool.and_eq_true] at h
  obtain ⟨⟨-, hp⟩, -⟩ := h
  rw [properties, propertiesOf]
  cases hc : field (lit "properties") schema with
  | none => rfl
  | some p =>
    rw [hc] at hp
    cases p with
    | obj ps => rfl
    | null | bool | int | float | str | arr => cases hp

lemma checkAdditional_agrees : Agrees (checkAdditional path schema (propertiesOf schema) ms)
    (additionalHolds schema (.obj ms)) := by
  have hall : (ms.all fun m => (field m.1 (propertiesOf schema)).isSome) =
      (ms.map Prod.fst).all fun key => (field key (propertiesOf schema)).isSome := by
    rw [List.all_map]
    rfl
  rw [checkAdditional, additionalHolds]
  simp only [filter_isNone_isEmpty, hall]
  cases field (lit "additionalProperties") schema with
  | none => exact .pass
  | some a =>
    cases a with
    | bool b =>
      cases b with
      | true => exact .pass
      | false => exact .ensure _ _ _
    | null | int | float | str | arr | obj => exact .pass

end Objects

section Keywords

lemma mem_of_field {key : Str} {j : Json} {ms : List (Str × Json)} (h : field key ms = some j) :
    (key, j) ∈ ms := by
  induction ms with
  | nil => cases h
  | cons m ms ih =>
    rw [field_cons] at h
    cases hk : field key ms with
    | some v =>
      rw [hk] at h
      obtain rfl := Option.some.inj h
      exact List.mem_cons_of_mem _ (ih hk)
    | none =>
      rw [hk, Option.none_or] at h
      split_ifs at h with he
      obtain rfl := Option.some.inj h
      rw [← he]
      exact List.mem_cons_self

lemma supportedProperties_iff {ps : List (Str × Json)} :
    supportedProperties ps = true ↔ ∀ p ∈ ps, supported p.2 = true := by
  induction ps with
  | nil => simp [supportedProperties]
  | cons p ps ih => rw [supportedProperties, Bool.and_eq_true, ih, List.forall_mem_cons]

variable {schema : List (Str × Json)}

lemma supportedKeywords_mem (h : supportedKeywords schema = true) {key : Str} {j : Json} (hm : (key, j) ∈ schema) :
    (key = lit "items" → supported j = true) ∧ ∀ ps, key = lit "properties" → j = .obj ps →
      supportedProperties ps = true := by
  induction schema with
  | nil => cases hm
  | cons m schema ih =>
    have hne : lit "items" ≠ lit "properties" := by decide
    rcases List.mem_cons.mp hm with rfl | hm
    · cases j with
      | obj ps =>
        simp only [supportedKeywords, Bool.and_eq_true] at h
        obtain ⟨⟨-, hj⟩, -⟩ := h
        constructor
        · rintro rfl
          rwa [if_neg hne] at hj
        · rintro _ rfl ⟨⟩
          rwa [if_pos rfl] at hj
      | null | bool | int | float | str | arr =>
        simp only [supportedKeywords, Bool.and_eq_true, decide_eq_true_eq] at h
        refine ⟨fun hk => absurd hk h.1.2, ?_⟩
        rintro _ - ⟨⟩
    · refine ih ?_ hm
      obtain ⟨key', j'⟩ := m
      cases j' <;> simp only [supportedKeywords, Bool.and_eq_true] at h <;> exact h.2

lemma supported_items (h : supportedKeywords schema = true) {s : Json} (hs : field (lit "items") schema = some s) :
    supported s = true :=
  (supportedKeywords_mem h (mem_of_field hs)).1 rfl

lemma supported_property (h : supportedKeywords schema = true) {key : Str} {s : Json}
    (hs : field key (propertiesOf schema) = some s) : supported s = true := by
  rw [propertiesOf] at hs
  split at hs
  · rename_i ps hp
    have hall := (supportedKeywords_mem h (mem_of_field hp)).2 ps rfl rfl
    exact supportedProperties_iff.mp hall _ (mem_of_field hs)
  · cases hs

end Keywords

lemma assertionsHold_eq (schema : List (Str × Json)) (inst : Json) : assertionsHold false schema inst =
    (valueHolds schema inst && (requiredHolds schema inst && additionalHolds schema inst)) := by
  simp only [assertionsHold, valueHolds, Bool.and_assoc]

lemma atom_agrees {schema : List (Str × Json)} {inst : Json} (path : Str) (h : supported (.obj schema) = true)
    (hr : requiredHolds schema inst = true) (ha : additionalHolds schema inst = true) :
    Agrees (checkValue path schema inst) (assertionsHold false schema inst) := by
  simp only [supported, Bool.and_eq_true] at h
  rw [assertionsHold_eq, hr, ha, Bool.and_self, Bool.and_true]
  exact checkValue_agrees h.1.1

mutual

lemma validate_agrees (path : Str) : (inst s : Json) → supported s = true →
    Agrees (validate path inst s) (conforms false inst s)
  | .obj ms, .obj schema, h => by
    simp only [supported, Bool.and_eq_true] at h
    obtain ⟨⟨hc, hd⟩, hk⟩ := h
    have hmembers := validateMembers_agrees path ms (propertiesOf schema) fun _ _ hs => supported_property hk hs
    have hand : conforms false (.obj ms) (.obj schema) =
        (valueHolds schema (.obj ms) && (requiredHolds schema (.obj ms) &&
        (additionalHolds schema (.obj ms) && conformsMembers false ms (propertiesOf schema)))) := by
      rw [conforms, assertionsHold_eq, Bool.and_assoc, Bool.and_assoc]
    rw [hand, validate, properties_eq hd]
    refine (checkValue_agrees hc).andThen fun _ => ?_
    refine (checkRequired_agrees hd).andThen fun _ => ?_
    exact checkAdditional_agrees.andThen fun _ => hmembers
  | .arr js, .obj schema, h => by
    have hatom := atom_agrees path h (show requiredHolds schema (.arr js) = true from rfl) rfl
    simp only [supported, Bool.and_eq_true] at h
    rw [validate, conforms]
    refine hatom.andThen fun _ => ?_
    cases hs : field (lit "items") schema with
    | none => exact .pass
    | some s => exact validateItems_agrees path 0 js s (supported_items h.2 hs)
  | .null, .obj _, h | .bool _, .obj _, h | .int _, .obj _, h | .float _, .obj _, h | .str _, .obj _, h =>
    atom_agrees path h rfl rfl
  | inst, .null, h | inst, .bool _, h | inst, .int _, h | inst, .float _, h | inst, .str _, h
  | inst, .arr _, h => by
    cases h

lemma validateMembers_agrees (path : Str) : (ms ps : List (Str × Json)) →
    (∀ key s, field key ps = some s → supported s = true) →
    Agrees (validateMembers path ms ps) (conformsMembers false ms ps)
  | [], ps, _ => .pass
  | (name, value) :: ms, ps, h => by
    have hms := validateMembers_agrees path ms ps h
    rw [validateMembers, conformsMembers]
    cases (field name ms).isSome with
    | true => exact Agrees.pass.andThen fun _ => hms
    | false =>
      cases hs : field name ps with
      | none => exact Agrees.pass.andThen fun _ => hms
      | some s => exact (validate_agrees _ value s (h name s hs)).andThen fun _ => hms

lemma validateItems_agrees (path : Str) : (index : ℕ) → (js : List Json) → (s : Json) → supported s = true →
    Agrees (validateItems path index js s) (conformsItems false js s)
  | _, [], _, _ => .pass
  | index, value :: js, s, h => by
    rw [validateItems, conformsItems]
    exact (validate_agrees _ value s h).andThen fun _ => validateItems_agrees path (index + 1) js s h

end

/-- On a document that it is written for, the validator raises nothing but its own error, and it accepts what
conforms to the document, apart from integers that are written with a fraction or an exponent. -/
theorem validate_iff (path : Str) (inst s : Json) (hs : supported s = true) :
    (validate path inst s = .ok () → conforms true inst s = true) ∧
      (whole inst = true → (validate path inst s = .ok () ↔ conforms true inst s = true)) ∧
        ∀ f, validate path inst s = .error f → ∃ place p, f = .invalid place p := by
  have h := validate_agrees path inst s hs
  refine ⟨?_, ?_, fun f => h.error⟩
  · intro hv
    exact conforms_imp inst s (.inl rfl) (h.iff.mp hv)
  · intro hw
    rw [h.iff]
    exact ⟨conforms_imp inst s (.inl rfl), conforms_imp inst s (.inr hw)⟩

def fixture : Json :=
  .obj [keyword "schema_version" (.int 2), keyword "app_version" (.str (lit "0.1")),
    keyword "build_commit" (.str (lit "test")), keyword "timestamp_utc" (.str (lit "2026-08-30T00:00:00Z")),
    keyword "device" (.obj [keyword "model" (.str (lit "Test")), keyword "system_name" (.str (lit "iOS")),
      keyword "system_version" (.str (lit "17.4")), keyword "machine" (.str (lit "arm64")),
      keyword "page_size" (.int 16384)]),
    keyword "environment" (.obj [keyword "livecontainer_detected" (.bool false),
      keyword "livecontainer_evidence" (.arr []), keyword "jit_expected" (.bool true)]),
    keyword "probes" (.arr
      [.obj [keyword "id" (.str (lit "runtime_paths")), keyword "name" (.str (lit "runtime_paths")),
      keyword "status" (.str (lit "PASS")), keyword "reason_code" (.int 0), keyword "graft_error" (.int 0),
      keyword "os_error" (.int 0), keyword "duration_nanoseconds" (.int 1000),
      keyword "summary" (.str (lit "Resolved runtime paths")),
      keyword "details_json" (.str (lit "\x7b\"source\":\"fixture\"\x7d"))]])]

theorem validate_iff_fixture :
    (validate (lit "$") fixture report = .ok () → conforms true fixture report = true) ∧
      (whole fixture = true → (validate (lit "$") fixture report = .ok () ↔ conforms true fixture report = true)) ∧
        ∀ f, validate (lit "$") fixture report = .error f → ∃ place p, f = .invalid place p :=
  validate_iff (lit "$") fixture report report_supported

example : conforms true fixture report = true := by decide +kernel

end Graft64.Platform.ReportSchema
