import Graft64.Library.JsonValues

/-! Schema documents: JSON schemas as they are written down, with the keywords of draft 2020-12 for the type, the
value, and the members or the items of an instance. -/

namespace Graft64.Library.SchemaDocument

open Json

inductive InstanceType
  | object | array | string | integer | boolean
deriving DecidableEq

def InstanceType.name : InstanceType → String
  | .object => "object"
  | .array => "array"
  | .string => "string"
  | .integer => "integer"
  | .boolean => "boolean"

def ofName (name : Str) : Option InstanceType :=
  [InstanceType.object, .array, .string, .integer, .boolean].find? fun t => lit t.name == name

/-- `fractions` tells whether a number without a fractional part is an integer however it is written. -/
def hasType (fractions : Bool) : InstanceType → Json → Bool
  | .object, .obj _ => true
  | .array, .arr _ => true
  | .string, .str _ => true
  | .integer, .int _ => true
  | .integer, .float (some q) => fractions && q.den == 1
  | .boolean, .bool _ => true
  | _, _ => false

def propertiesOf (keywords : List (Str × Json)) : List (Str × Json) :=
  match field (lit "properties") keywords with
  | some (.obj ps) => ps
  | _ => []

section Assertions

variable (fractions : Bool) (keywords : List (Str × Json))

def typeHolds (j : Json) : Bool :=
  match field (lit "type") keywords with
  | some (.str name) => (ofName name).any fun t => hasType fractions t j
  | _ => true

def constHolds (j : Json) : Bool :=
  match field (lit "const") keywords with
  | some c => j.eqv false c
  | none => true

def enumHolds (j : Json) : Bool :=
  match field (lit "enum") keywords with
  | some (.arr cs) => cs.any fun c => j.eqv false c
  | _ => true

def minimumHolds (j : Json) : Bool :=
  match (field (lit "minimum") keywords).bind (number? false), number? false j with
  | some least, some x => least ≤ x
  | _, _ => true

def minLengthHolds : Json → Bool
  | .str s => match field (lit "minLength") keywords with
    | some (.int n) => n ≤ s.length
    | _ => true
  | _ => true

def requiredHolds : Json → Bool
  | .obj ms => match field (lit "required") keywords with
    | some (.arr names) => names.all fun name => match name with
      | .str key => (field key ms).isSome
      | _ => true
    | _ => true
  | _ => true

def additionalHolds : Json → Bool
  | .obj ms => match field (lit "additionalProperties") keywords with
    | some (.bool false) => ms.all fun m => (field m.1 (propertiesOf keywords)).isSome
    | _ => true
  | _ => true

/-- The keywords that look at no other schema. -/
def assertionsHold (j : Json) : Bool :=
  typeHolds fractions keywords j && constHolds keywords j && enumHolds keywords j && minimumHolds keywords j &&
    minLengthHolds keywords j && requiredHolds keywords j && additionalHolds keywords j

end Assertions

mutual

def conforms (fractions : Bool) : Json → Json → Bool
  | _, .bool b => b
  | .obj ms, .obj keywords =>
    assertionsHold fractions keywords (.obj ms) && conformsMembers fractions ms (propertiesOf keywords)
  | .arr js, .obj keywords =>
    assertionsHold fractions keywords (.arr js) &&
      match field (lit "items") keywords with
      | some s => conformsItems fractions js s
      | none => true
  | j, .obj keywords => assertionsHold fractions keywords j
  | _, _ => false

/-- Of the members with one key, the last one counts. -/
def conformsMembers (fractions : Bool) : List (Str × Json) → List (Str × Json) → Bool
  | [], _ => true
  | (key, j) :: ms, ps =>
    (match (field key ms).isSome, field key ps with
      | false, some s => conforms fractions j s
      | _, _ => true) && conformsMembers fractions ms ps

def conformsItems (fractions : Bool) : List Json → Json → Bool
  | [], _ => true
  | j :: js, s => conforms fractions j s && conformsItems fractions js s

end

mutual

/-- Every number is written without a fraction and without an exponent. -/
def whole : Json → Bool
  | .float _ => false
  | .arr js => wholeItems js
  | .obj ms => wholeMembers ms
  | _ => true

def wholeItems : List Json → Bool
  | [] => true
  | j :: js => whole j && wholeItems js

def wholeMembers : List (Str × Json) → Bool
  | [] => true
  | (_, j) :: ms => whole j && wholeMembers ms

end

section Fractions

variable {a b : Bool}

lemma hasType_imp {t : InstanceType} {j : Json} (h : a = false ∨ whole j = true) (ht : hasType a t j = true) :
    hasType b t j = true := by
  cases t <;> cases j <;> first | exact ht | cases ht | skip
  rename_i q
  rcases h with rfl | h
  · cases q <;> cases ht
  · cases h

lemma assertionsHold_imp {keywords : List (Str × Json)} {j : Json} (h : a = false ∨ whole j = true)
    (hj : assertionsHold a keywords j = true) : assertionsHold b keywords j = true := by
  have htype (ht : typeHolds a keywords j = true) : typeHolds b keywords j = true := by
    unfold typeHolds at ht ⊢
    split at ht
    · rename_i name _
      cases hn : ofName name with
      | none => simp [hn] at ht
      | some t =>
        rw [hn, Option.any_some] at ht
        exact hasType_imp h ht
    · rfl
  simp only [assertionsHold, Bool.and_eq_true] at hj ⊢
  obtain ⟨⟨⟨⟨⟨⟨ht, hc⟩, he⟩, hm⟩, hl⟩, hr⟩, hadd⟩ := hj
  exact ⟨⟨⟨⟨⟨⟨htype ht, hc⟩, he⟩, hm⟩, hl⟩, hr⟩, hadd⟩

mutual

lemma conforms_imp : (j s : Json) → (a = false ∨ whole j = true) → conforms a j s = true → conforms b j s = true
  | .obj ms, .obj keywords, h, hc => by
    rw [conforms, Bool.and_eq_true] at hc ⊢
    exact ⟨assertionsHold_imp h hc.1, conformsMembers_imp ms _ h hc.2⟩
  | .arr js, .obj keywords, h, hc => by
    rw [conforms, Bool.and_eq_true] at hc ⊢
    refine ⟨assertionsHold_imp h hc.1, ?_⟩
    have hitems := hc.2
    split at hitems
    · exact conformsItems_imp js _ h hitems
    · rfl
  | .null, .obj _, h, hc | .bool _, .obj _, h, hc | .int _, .obj _, h, hc | .float _, .obj _, h, hc
  | .str _, .obj _, h, hc => assertionsHold_imp h hc
  | .null, .bool _, _, hc | .bool _, .bool _, _, hc | .int _, .bool _, _, hc | .float _, .bool _, _, hc
  | .str _, .bool _, _, hc | .arr _, .bool _, _, hc | .obj _, .bool _, _, hc => hc

lemma conformsMembers_imp : (ms ps : List (Str × Json)) → (a = false ∨ wholeMembers ms = true) →
    conformsMembers a ms ps = true → conformsMembers b ms ps = true
  | [], _, _, _ => rfl
  | (key, j) :: ms, ps, h, hc => by
    rw [wholeMembers, Bool.and_eq_true] at h
    rw [conformsMembers, Bool.and_eq_true] at hc ⊢
    refine ⟨?_, conformsMembers_imp ms ps (h.imp_right And.right) hc.2⟩
    have hj := hc.1
    split at hj
    · exact conforms_imp j _ (h.imp_right And.left) hj
    · rfl

lemma conformsItems_imp : (js : List Json) → (s : Json) → (a = false ∨ wholeItems js = true) →
    conformsItems a js s = true → conformsItems b js s = true
  | [], _, _, _ => rfl
  | j :: js, s, h, hc => by
    rw [wholeItems, Bool.and_eq_true] at h
    rw [conformsItems, Bool.and_eq_true] at hc ⊢
    exact ⟨conforms_imp j s (h.imp_right And.left) hc.1, conformsItems_imp js s (h.imp_right And.right) hc.2⟩

end

end Fractions

lemma conformsItems_iff {a : Bool} {js : List Json} {s : Json} :
    conformsItems a js s = true ↔ ∀ j ∈ js, conforms a j s = true := by
  induction js with
  | nil => simp [conformsItems]
  | cons j js ih => rw [conformsItems, Bool.and_eq_true, ih, List.forall_mem_cons]

end Graft64.Library.SchemaDocument
