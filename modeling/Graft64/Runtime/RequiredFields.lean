import Graft64.Runtime.LockFields

/-! When each required field that `parse_lock` returns is the one line of its block that has the key. -/

namespace Graft64.Runtime.DepsLock

open Graft64.Library Regex Results

def valuesOf (key : Str) (fields : List (Str × Str)) : List Str :=
  fields.filterMap fun field => if field.1 = key then some field.2 else none

def restsOf (indent : ℕ) (key : Str) (ls : List Str) : List Str := valuesOf key (ls.filterMap (keyOf indent))

/-- The lines that come, blank lines aside, after a key line with nothing after its colon: the pattern
takes such a line for the value, whatever it says. The flag tells that such a line is awaited. -/
def swallowed (indent : ℕ) : Bool → List Str → List Str
  | _, [] => []
  | true, l :: ls => if l.all isSpace then swallowed indent true ls else l :: swallowed indent false ls
  | false, l :: ls => match keyOf indent l with
    | some (_, rest) => swallowed indent (rest.all isSpace) ls
    | none => swallowed indent false ls

def hasKey (indent : ℕ) (key l : Str) : Bool := (keyOf indent l).any fun field => field.1 == key

section

variable {indent : ℕ} {key : Str}

@[simp] lemma valuesOf_nil : valuesOf key [] = [] := rfl

lemma valuesOf_cons (field : Str × Str) (fields : List (Str × Str)) :
    valuesOf key (field :: fields) = (if field.1 = key then [field.2] else []) ++ valuesOf key fields := by
  by_cases h : field.1 = key <;> simp [valuesOf, h]

lemma valuesOf_append (fields fields' : List (Str × Str)) :
    valuesOf key (fields ++ fields') = valuesOf key fields ++ valuesOf key fields' :=
  List.filterMap_append

lemma restsOf_cons_none {l : Str} (h : keyOf indent l = none) (ls : List Str) :
    restsOf indent key (l :: ls) = restsOf indent key ls := by
  rw [restsOf, List.filterMap_cons_none h, ← restsOf]

lemma restsOf_cons_some {l : Str} {field : Str × Str} (h : keyOf indent l = some field) (ls : List Str) :
    restsOf indent key (l :: ls) = (if field.1 = key then [field.2] else []) ++ restsOf indent key ls := by
  rw [restsOf, List.filterMap_cons_some h, valuesOf_cons, ← restsOf]

lemma all_isSpace {l : Str} : l.all isSpace = true ↔ l.dropWhile isSpace = [] := by
  rw [List.dropWhile_eq_nil_iff, List.all_eq_true]

lemma valuesOf_readLines {ls : List Str} (hr : ∀ rest ∈ restsOf indent key ls, rest.dropWhile isSpace ≠ []) :
    ∀ w : Waiting, (∀ f ∈ w, f.1 ≠ key) → (∀ l ∈ swallowed indent w.isSome ls, hasKey indent key l = false) →
      valuesOf key (readLines indent w ls) = (restsOf indent key ls).map (List.dropWhile isSpace) := by
  induction ls with
  | nil =>
    rintro (_ | ⟨k, _ | c⟩) hw -
    · rfl
    · rfl
    · have hne : k ≠ key := hw (k, some c) rfl
      simp [readLines, readEnd, valuesOf_cons, hne, restsOf]
  | cons l ls ih =>
    have hw' {k : Str} {last : Option ℕ} (hk : k ≠ key) : ∀ f ∈ (some (k, last) : Waiting), f.1 ≠ key := by
      rintro f ⟨⟩
      exact hk
    rintro (_ | ⟨k, last⟩) hw hs
    · cases hk : keyOf indent l with
      | none =>
        rw [restsOf_cons_none hk] at hr ⊢
        rw [Option.isSome_none, swallowed, hk] at hs
        rw [readLines_other hk]
        exact ih hr none hw hs
      | some field =>
        obtain ⟨k, rest⟩ := field
        rw [restsOf_cons_some hk] at hr ⊢
        have hr' : ∀ rest ∈ restsOf indent key ls, rest.dropWhile isSpace ≠ [] :=
          fun rest hm => hr rest (List.mem_append_right _ hm)
        simp only [Option.isSome_none, swallowed, hk] at hs
        rw [readLines_key hk]
        cases hd : rest.dropWhile isSpace with
        | nil =>
          have hne : k ≠ key := by
            rintro rfl
            exact hr rest (by simp) hd
          rw [all_isSpace.mpr hd] at hs
          rw [readLines_blank hd, if_neg hne, List.nil_append]
          exact ih hr' _ (hw' hne) hs
        | cons c v =>
          have hall : rest.all isSpace = false := by
            rw [← Bool.not_eq_true, all_isSpace, hd]
            exact List.cons_ne_nil _ _
          rw [hall] at hs
          rw [readLines_value hd, valuesOf_cons, ih hr' none hw hs]
          by_cases hkey : k = key <;> simp [hkey, hd]
    · have hne : k ≠ key := hw (k, last) rfl
      cases hd : l.dropWhile isSpace with
      | nil =>
        have hk : keyOf indent l = none := keyOf_blank hd
        rw [restsOf_cons_none hk] at hr ⊢
        rw [Option.isSome_some, swallowed, if_pos (all_isSpace.mpr hd)] at hs
        rw [readLines_blank hd]
        exact ih hr _ (hw' hne) hs
      | cons c v =>
        have hall : ¬ l.all isSpace = true := by
          rw [all_isSpace, hd]
          exact List.cons_ne_nil _ _
        rw [Option.isSome_some, swallowed, if_neg hall] at hs
        have hl : restsOf indent key (l :: ls) = restsOf indent key ls := by
          have hkey := hs l List.mem_cons_self
          cases hk : keyOf indent l with
          | none => exact restsOf_cons_none hk ls
          | some field =>
            have hf : field.1 ≠ key := by simpa [hasKey, hk] using hkey
            rw [restsOf_cons_some hk, if_neg hf, List.nil_append]
        rw [hl] at hr ⊢
        rw [readLines_value hd, valuesOf_cons, if_neg hne, List.nil_append]
        exact ih hr none (by simp) fun m hm => hs m (List.mem_cons_of_mem _ hm)

variable (indent key) in
lemma valuesOf_add_swallowed (ls : List Str) : ∀ w : Waiting,
    (valuesOf key (readLines indent w ls)).length +
      ((swallowed indent w.isSome ls).filter (hasKey indent key)).length ≤
      (restsOf indent key ls).length + (if w.any (fun f => f.1 == key) then 1 else 0) := by
  induction ls with
  | nil =>
    rintro (_ | ⟨k, _ | c⟩)
    · simp [readLines, readEnd, swallowed]
    · simp [readLines, readEnd, swallowed]
    · by_cases hk : k = key <;> simp [readLines, readEnd, swallowed, valuesOf_cons, hk]
  | cons l ls ih =>
    rintro (_ | ⟨k, last⟩)
    · cases hk : keyOf indent l with
      | none =>
        rw [readLines_other hk, restsOf_cons_none hk, Option.isSome_none, swallowed, hk]
        exact ih none
      | some field =>
        obtain ⟨k, rest⟩ := field
        rw [readLines_key hk, restsOf_cons_some hk, Option.isSome_none, swallowed, hk, List.length_append]
        cases hd : rest.dropWhile isSpace with
        | nil =>
          have h := ih (some (k, rest.getLast?.or none))
          simp only [all_isSpace.mpr hd]
          rw [readLines_blank hd]
          by_cases hkey : k = key <;> simp [hkey] at h ⊢ <;> omega
        | cons c v =>
          have h := ih none
          have hall : rest.all isSpace = false := by
            rw [← Bool.not_eq_true, all_isSpace, hd]
            exact List.cons_ne_nil _ _
          simp only [hall]
          rw [readLines_value hd, valuesOf_cons]
          by_cases hkey : k = key <;> simp [hkey] at h ⊢ <;> omega
    · cases hd : l.dropWhile isSpace with
      | nil =>
        rw [restsOf_cons_none (keyOf_blank hd), Option.isSome_some, swallowed, if_pos (all_isSpace.mpr hd),
          readLines_blank hd]
        exact ih (some (k, _))
      | cons c v =>
        have hall : ¬ l.all isSpace = true := by
          rw [all_isSpace, hd]
          exact List.cons_ne_nil _ _
        have h := ih none
        have hl : (restsOf indent key (l :: ls)).length =
            (if hasKey indent key l then 1 else 0) + (restsOf indent key ls).length := by
          cases hk : keyOf indent l with
          | none => simp [restsOf_cons_none hk, hasKey, hk]
          | some field =>
            rw [restsOf_cons_some hk, List.length_append, hasKey, hk]
            by_cases hkey : field.1 = key <;> simp [hkey]
        rw [Option.isSome_some, swallowed, if_neg hall, readLines_value hd, valuesOf_cons, hl, List.filter_cons]
        by_cases hkey : k = key <;> by_cases hs : hasKey indent key l = true <;> simp [hkey, hs] at h ⊢ <;> omega

end

lemma lookup_cons (key : Str) (field : Str × Str) (fields : Dict) :
    List.lookup key (field :: fields) = if field.1 = key then some field.2 else List.lookup key fields := by
  obtain ⟨k, v⟩ := field
  rw [List.lookup_cons]
  by_cases h : k = key
  · simp [h]
  · have hne : (key == k) = false := beq_eq_false_iff_ne.mpr (Ne.symm h)
    simp [h, hne]

lemma lookup_uniqueFieldsFrom {owner : Str} {found : List (Str × Str)} {fields dict : Dict} (key : Str)
    (h : uniqueFieldsFrom owner fields found = .ok dict) :
    (∀ v, fields.lookup key = some v → dict.lookup key = some v ∧ valuesOf key found = []) ∧
      (fields.lookup key = none → (valuesOf key found = [] ∧ dict.lookup key = none) ∨
        ∃ raw, valuesOf key found = [raw] ∧ dict.lookup key = some (scalar raw)) := by
  induction found generalizing fields with
  | nil =>
    obtain rfl := Except.ok.inj h
    exact ⟨fun v hv => ⟨hv, rfl⟩, fun hn => .inl ⟨rfl, hn⟩⟩
  | cons field found ih =>
    obtain ⟨name, raw⟩ := field
    rw [uniqueFieldsFrom] at h
    split_ifs at h with hd
    have hnone : fields.lookup name = none := Option.not_isSome_iff_eq_none.mp hd
    obtain ⟨hsome, hno⟩ := ih h
    have hlookup : (fields ++ [(name, scalar raw)]).lookup key =
        (fields.lookup key).or (if name = key then some (scalar raw) else none) := by
      rw [List.lookup_append, lookup_cons]
      rfl
    rw [hlookup] at hsome hno
    rw [valuesOf_cons]
    by_cases hk : name = key
    · subst hk
      rw [hnone, if_pos rfl] at hsome
      obtain ⟨hv, he⟩ := hsome (scalar raw) rfl
      rw [he, if_pos rfl]
      refine ⟨?_, fun _ => .inr ⟨raw, rfl, hv⟩⟩
      intro v hv'
      cases hnone.symm.trans hv'
    · rw [if_neg hk, Option.or_none] at hsome hno
      rw [if_neg hk, List.nil_append]
      exact ⟨hsome, hno⟩

lemma lookup_requiredFields {fields dict : Dict} {owner key : Str} {names : List Str}
    (h : requiredFields fields owner names = .ok dict) (hk : key ∈ names) :
    dict.lookup key = some (scalar ((fields.lookup key).getD [])) ∧ scalar ((fields.lookup key).getD []) ≠ [] := by
  have hall := of_mapM_eq_ok h
  clear h
  induction hall with
  | nil => cases hk
  | @cons name field names dict hf hfs ih =>
    obtain ⟨v, hv, rfl⟩ := of_map_eq_ok hf
    rw [requiredField] at hv
    split_ifs at hv with hne
    obtain rfl := Except.ok.inj hv
    rw [lookup_cons]
    by_cases he : name = key
    · subst he
      exact ⟨if_pos rfl, hne⟩
    · rw [if_neg he]
      exact ih ((List.mem_cons.mp hk).resolve_left (Ne.symm he))

lemma value_of_required {found : List (Str × Str)} {fields dict : Dict} {owner owner' key : Str} {names : List Str}
    (hu : uniqueFields found owner = .ok fields) (hr : requiredFields fields owner' names = .ok dict)
    (hk : key ∈ names) :
    ∃ raw, valuesOf key found = [raw] ∧ dict.lookup key = some (scalar (scalar raw)) ∧
      scalar (scalar raw) ≠ [] := by
  obtain ⟨hv, hne⟩ := lookup_requiredFields hr hk
  rcases (lookup_uniqueFieldsFrom key hu).2 rfl with ⟨-, hl⟩ | ⟨raw, hraw, hl⟩
  · rw [hl] at hne
    exact absurd rfl hne
  · rw [hl] at hv hne
    exact ⟨raw, hraw, hv, hne⟩

structure Block where
  indent : ℕ
  text : Str
  required : List Str

/-- Each required key stands on one line of the block, with something after the colon, and that is its
value, less the blanks around it and a pair of quotes. -/
def Block.Proper (b : Block) (fields : Dict) : Prop :=
  ∀ key ∈ b.required, ∃ rest, restsOf b.indent key (lines b.text) = [rest] ∧ strip rest ≠ [] ∧
    fields.lookup key = some (scalar rest)

def Block.Plain (b : Block) : Prop :=
  ∀ key ∈ b.required,
    (∀ rest ∈ restsOf b.indent key (lines b.text), strip rest ≠ [] ∧ scalar (scalar rest) = scalar rest) ∧
      ∀ l ∈ swallowed b.indent false (lines b.text), hasKey b.indent key l = false

lemma strip_dropWhile (s : Str) : strip (s.dropWhile isSpace) = strip s := by
  rw [strip, strip, List.dropWhile_idempotent]

lemma scalar_dropWhile (s : Str) : scalar (s.dropWhile isSpace) = scalar s := by
  rw [scalar, scalar, strip_dropWhile]

lemma dropWhile_ne_nil_of_strip {s : Str} (h : strip s ≠ []) : s.dropWhile isSpace ≠ [] := by
  intro hd
  rw [strip, hd] at h
  exact h rfl

lemma proper_key_iff {indent : ℕ} {text key raw : Str} {v : Option Str}
    (hraw : valuesOf key (readLines indent none (lines text)) = [raw]) (hv : v = some (scalar (scalar raw)))
    (hne : scalar (scalar raw) ≠ []) :
    (∃ rest, restsOf indent key (lines text) = [rest] ∧ strip rest ≠ [] ∧ v = some (scalar rest)) ↔
      (∀ rest ∈ restsOf indent key (lines text), strip rest ≠ [] ∧ scalar (scalar rest) = scalar rest) ∧
        ∀ l ∈ swallowed indent false (lines text), hasKey indent key l = false := by
  have hread (hr : ∀ rest ∈ restsOf indent key (lines text), strip rest ≠ [])
      (hs : ∀ l ∈ swallowed indent false (lines text), hasKey indent key l = false) :
      [raw] = (restsOf indent key (lines text)).map (List.dropWhile isSpace) := by
    rw [← hraw]
    exact valuesOf_readLines (fun rest hm => dropWhile_ne_nil_of_strip (hr rest hm)) none (by simp) hs
  constructor
  · rintro ⟨rest, hrest, hstrip, he⟩
    have hcount := valuesOf_add_swallowed indent key (lines text) none
    have hs : ∀ l ∈ swallowed indent false (lines text), hasKey indent key l = false := by
      rw [hraw, hrest] at hcount
      have hnil : (swallowed indent false (lines text)).filter (hasKey indent key) = [] := by
        rw [← List.length_eq_zero_iff]
        simpa using hcount
      intro l hl
      rw [List.filter_eq_nil_iff] at hnil
      exact Bool.not_eq_true _ ▸ hnil l hl
    refine ⟨?_, hs⟩
    have hmap := hread (by simpa [hrest] using hstrip) hs
    rw [hrest, List.map_singleton] at hmap
    obtain rfl := List.singleton_inj.mp hmap
    rw [hv, scalar_dropWhile] at he
    intro rest' hm
    rw [hrest] at hm
    obtain rfl := List.mem_singleton.mp hm
    exact ⟨hstrip, Option.some.inj he⟩
  · rintro ⟨hr, hs⟩
    have hmap := hread (fun rest hm => (hr rest hm).1) hs
    obtain ⟨rest, hrest, rfl⟩ :
        ∃ rest, restsOf indent key (lines text) = [rest] ∧ rest.dropWhile isSpace = raw := by
      obtain ⟨rest, hrest, he⟩ := List.map_eq_singleton_iff.mp hmap.symm
      exact ⟨rest, hrest, he⟩
    have hm : rest ∈ restsOf indent key (lines text) := hrest ▸ List.mem_singleton_self rest
    refine ⟨rest, hrest, (hr rest hm).1, ?_⟩
    rw [hv, scalar_dropWhile, (hr rest hm).2]

lemma Block.proper_iff (b : Block) {fields dict : Dict} {owner owner' : Str}
    (hu : uniqueFields (findPairs (fieldPattern b.indent) b.text) owner = .ok fields)
    (hr : requiredFields fields owner' b.required = .ok dict) : b.Proper dict ↔ b.Plain := by
  rw [findPairs_field] at hu
  have hiff (key : Str) (hk : key ∈ b.required) := value_of_required hu hr hk
  constructor
  · intro h key hk
    obtain ⟨raw, hraw, hv, hne⟩ := hiff key hk
    exact (proper_key_iff hraw hv hne).mp (h key hk)
  · intro h key hk
    obtain ⟨raw, hraw, hv, hne⟩ := hiff key hk
    exact (proper_key_iff hraw hv hne).mpr (h key hk)

def blocks (text : Str) : List Block :=
  (toolchainBody text).toList.map (⟨2, ·, toolchainFields⟩) ++
    (((toolchainBody text).bind llvmBody).toList.map (⟨4, ·, llvmFields⟩) ++
      (dependencyBlocks text).map fun found => ⟨4, found.2, dependencyFields⟩)

def Lock.dicts (lock : Lock) : List Dict := lock.toolchain :: lock.llvmMingw :: lock.dependencies

lemma parseToolchain_fields {body : Str} {dict : Dict} (h : parseToolchain body = .ok dict) :
    Block.Proper ⟨2, body, toolchainFields⟩ dict ↔ Block.Plain ⟨2, body, toolchainFields⟩ := by
  obtain ⟨fields, hu, h⟩ := of_bind_eq_ok h
  obtain ⟨dict', hr, h⟩ := of_bind_eq_ok h
  obtain ⟨-, -, h⟩ := of_bind_eq_ok h
  obtain rfl := Except.ok.inj h
  exact Block.proper_iff ⟨2, body, toolchainFields⟩ hu hr

lemma parseLlvm_fields {body : Str} {dict : Dict} (h : parseLlvm body = .ok dict) :
    Block.Proper ⟨4, body, llvmFields⟩ dict ↔ Block.Plain ⟨4, body, llvmFields⟩ := by
  obtain ⟨fields, hu, h⟩ := of_bind_eq_ok h
  obtain ⟨dict', hr, h⟩ := of_bind_eq_ok h
  obtain ⟨-, -, h⟩ := of_bind_eq_ok h
  obtain rfl := Except.ok.inj h
  exact Block.proper_iff ⟨4, body, llvmFields⟩ hu hr

lemma name_not_mem : lit "name" ∉ dependencyFields := by decide

lemma parseDependency_fields {name body : Str} {dict : Dict} (h : parseDependency name body = .ok dict) :
    Block.Proper ⟨4, body, dependencyFields⟩ dict ↔ Block.Plain ⟨4, body, dependencyFields⟩ := by
  obtain ⟨fields, hu, h⟩ := of_bind_eq_ok h
  obtain ⟨dict', hr, h⟩ := of_bind_eq_ok h
  obtain ⟨-, -, h⟩ := of_bind_eq_ok h
  obtain ⟨-, -, h⟩ := of_bind_eq_ok h
  obtain rfl := Except.ok.inj h
  rw [← Block.proper_iff ⟨4, body, dependencyFields⟩ hu hr]
  apply forall₂_congr
  intro key hk
  have hne : lit "name" ≠ key := by
    rintro rfl
    exact name_not_mem hk
  rw [lookup_cons, if_neg hne]

lemma parseDependencies_fields {seen : List Str} {found : List (Str × Str)} {dicts : List Dict}
    (h : parseDependencies seen found = .ok dicts) :
    List.Forall₂ (fun b dict => Block.Proper b dict ↔ b.Plain)
      (found.map fun found => ⟨4, found.2, dependencyFields⟩) dicts := by
  induction found generalizing seen dicts with
  | nil =>
    obtain rfl := Except.ok.inj h
    exact .nil
  | cons block found ih =>
    obtain ⟨-, -, h⟩ := of_bind_eq_ok h
    obtain ⟨dict, hd, h⟩ := of_bind_eq_ok h
    obtain ⟨dicts', hds, h⟩ := of_bind_eq_ok h
    obtain rfl := Except.ok.inj h
    exact .cons (parseDependency_fields hd) (ih hds)

lemma parseLock_blocks {text : Str} {lock : Lock} (h : parseLock text = .ok lock) :
    List.Forall₂ (fun b dict => Block.Proper b dict ↔ b.Plain) (blocks text) lock.dicts := by
  obtain ⟨-, -, h⟩ := of_bind_eq_ok h
  obtain ⟨-, -, h⟩ := of_bind_eq_ok h
  obtain ⟨-, -, h⟩ := of_bind_eq_ok h
  obtain ⟨toolchainText, ht, h⟩ := of_bind_eq_ok h
  obtain ⟨toolchain, htoolchain, h⟩ := of_bind_eq_ok h
  obtain ⟨llvmText, hl, h⟩ := of_bind_eq_ok h
  obtain ⟨llvm, hllvm, h⟩ := of_bind_eq_ok h
  obtain ⟨-, -, h⟩ := of_bind_eq_ok h
  obtain ⟨dependencies, hd, h⟩ := of_bind_eq_ok h
  obtain ⟨-, -, h⟩ := of_bind_eq_ok h
  obtain rfl := Except.ok.inj h
  rw [blocks, of_orError_eq_ok ht, Option.bind_some, of_orError_eq_ok hl]
  exact .cons (parseToolchain_fields htoolchain) (.cons (parseLlvm_fields hllvm) (parseDependencies_fields hd))

lemma forall₂_iff_forall {α β : Type} {R : α → β → Prop} {P : α → Prop} {as : List α} {bs : List β}
    (h : List.Forall₂ (fun a b => R a b ↔ P a) as bs) : List.Forall₂ R as bs ↔ ∀ a ∈ as, P a := by
  induction h with
  | nil => simp
  | cons hab _ ih => rw [List.forall₂_cons, List.forall_mem_cons, hab, ih]

/-- What `parse_lock` returns for the required fields stands on one line each of the right block exactly
where no such line is empty, swallowed or quoted twice. -/
theorem parseLock_fields_iff {text : Str} {lock : Lock} (h : parseLock text = .ok lock) :
    List.Forall₂ Block.Proper (blocks text) lock.dicts ↔ ∀ b ∈ blocks text, b.Plain :=
  forall₂_iff_forall (parseLock_blocks h)

def sampleText : Str := lit "schema_version: 1
stage: GRAFT-0002
policy: upstream-first
toolchain:
  container_base: ubuntu:24.04
  architecture: linux/arm64
  compiler: clang-18
  cmake: \"3.28 or newer\"
  ninja: \"1.11 or newer\"
  llvm_mingw:
    version: 20260616
    archive: llvm-mingw.tar.xz
    archive_sha256: e7e5d135d93d3f2a3beaaea633a5b0e66ac75391a53feae654391913dd76102b
dependencies:
  - name: wine
    repository: wine.git
    ref: wine-11.0
    commit: db11d0fe6a169c457e23d007e20404643d067aa8
    archive: wine.tar.gz
    archive_sha256: 18aaee150ad540885b9706ae73ccf6febca904049de2792199a9dc18a2772e6a
    license: LGPL-2.1-or-later
    role: arm64x-arm64ec-wine
  - name: fex
    repository: fex.git
    ref: FEX-2607
    commit: 6efd1c099193bba708b68395738a31e9e5409e9a
    archive: fex.tar.gz
    archive_sha256: 42944748c9f18420e09f387ccf26af6c4ce32677a7069577c63fa7668c0b6746
    license: MIT
    role: arm64ec-emulator-module
notes:
  - G0
"

set_option maxRecDepth 10000 in
theorem parseLock_fields_iff_sample : ∃ lock, parseLock sampleText = .ok lock ∧
    (List.Forall₂ Block.Proper (blocks sampleText) lock.dicts ↔ ∀ b ∈ blocks sampleText, b.Plain) := by
  cases h : parseLock sampleText with
  | ok lock => exact ⟨lock, rfl, parseLock_fields_iff h⟩
  | error e =>
    have hok : (parseLock sampleText).isOk = true := by
      generalize ht : sampleText = text
      rw [sampleText, lit_ofList] at ht
      subst ht
      decide
    rw [h] at hok
    cases hok

def swallowingText : Str := lit "schema_version: 1
stage: GRAFT-0002
policy: upstream-first
toolchain:
  container_base: ubuntu:24.04
  architecture: linux/arm64
  compiler: \"'clang-18'\"
  cmake:
  ninja: 1.11
  ninja: 1.12
  llvm_mingw:
    version: 20260616
    archive: llvm-mingw.tar.xz
    archive_sha256: e7e5d135d93d3f2a3beaaea633a5b0e66ac75391a53feae654391913dd76102b
dependencies:
  - name: wine
    repository: wine.git
    ref: wine-11.0
    commit: db11d0fe6a169c457e23d007e20404643d067aa8
    archive: wine.tar.gz
    archive_sha256: 18aaee150ad540885b9706ae73ccf6febca904049de2792199a9dc18a2772e6a
    license: LGPL-2.1-or-later
    role: arm64x-arm64ec-wine
  - name: fex
    repository: fex.git
    ref: FEX-2607
    commit: 6efd1c099193bba708b68395738a31e9e5409e9a
    archive: fex.tar.gz
    archive_sha256: 42944748c9f18420e09f387ccf26af6c4ce32677a7069577c63fa7668c0b6746
    license: MIT
    role: arm64ec-emulator-module
notes:
  - G0
"

set_option maxRecDepth 10000 in
/-- A lock without a value for `cmake` and with two for `ninja` is accepted, and so is one with two pairs
of quotes around a value. -/
theorem next_line_taken_for_value : ∃ lock, parseLock swallowingText = .ok lock ∧
    lock.toolchain.lookup (lit "cmake") = some (lit "ninja: 1.11") ∧
    lock.toolchain.lookup (lit "ninja") = some (lit "1.12") ∧
    lock.toolchain.lookup (lit "compiler") = some (lit "clang-18") ∧
    ¬ List.Forall₂ Block.Proper (blocks swallowingText) lock.dicts := by
  have hok : (match parseLock swallowingText with
      | .ok lock => lock.toolchain.lookup (lit "cmake") == some (lit "ninja: 1.11") &&
          lock.toolchain.lookup (lit "ninja") == some (lit "1.12") &&
          lock.toolchain.lookup (lit "compiler") == some (lit "clang-18")
      | .error _ => false) = true := by
    generalize ht : swallowingText = text
    rw [swallowingText, lit_ofList] at ht
    subst ht
    decide
  have hempty : ∃ b ∈ blocks swallowingText, lit "cmake" ∈ b.required ∧
      ∃ rest ∈ restsOf b.indent (lit "cmake") (lines b.text), strip rest = [] := by
    generalize ht : swallowingText = text
    rw [swallowingText, lit_ofList] at ht
    subst ht
    decide
  cases h : parseLock swallowingText with
  | error e =>
    rw [h] at hok
    cases hok
  | ok lock =>
    rw [h] at hok
    simp only [Bool.and_eq_true, beq_iff_eq] at hok
    refine ⟨lock, rfl, hok.1.1, hok.1.2, hok.2, ?_⟩
    rw [forall₂_iff_forall (parseLock_blocks h)]
    obtain ⟨b, hb, hk, rest, hr, hs⟩ := hempty
    intro hplain
    exact ((hplain b hb (lit "cmake") hk).1 rest hr).1 hs

end Graft64.Runtime.DepsLock
