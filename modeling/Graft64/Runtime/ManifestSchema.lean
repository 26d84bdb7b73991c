import Graft64.Library.JsonDocuments
import Graft64.Runtime.RequiredFields
import Graft64.Runtime.SchemaPaths
import Graft64.Runtime.LockValues
import Graft64.Runtime.Verified

/-! `runtime-manifest.schema.json`, and what it asks of the manifests that `verify_manifest` accepts. -/

namespace Graft64.Runtime.Manifest

open Graft64.Library Utf8 Unpack Results DepsLock FileSystem
open PatchSeries (Dependency PatchEntry patchPath)

namespace Schemas

open Schema

def hexString (n : ℕ) : Schema := .all [.type .string, .pattern (hexPattern n)]

def platform : Schema :=
  record [(lit "os", .const (.str (lit "linux"))), (lit "architecture", .const (.str (lit "aarch64")))]

def sourceLock : Schema :=
  record [(lit "schema_version", .const (.int 1)), (lit "stage", .const (.str (lit "GRAFT-0002"))),
    (lit "policy", .const (.str (lit "upstream-first")))]

def llvmMingw : Schema :=
  record [(lit "version", nonEmptyString), (lit "archive", nonEmptyString), (lit "archive_sha256", hexString 64)]

def toolchain : Schema :=
  record [(lit "container_base", nonEmptyString), (lit "architecture", .const (.str (lit "linux/arm64"))),
    (lit "compiler", nonEmptyString), (lit "cmake", nonEmptyString), (lit "ninja", nonEmptyString),
    (lit "llvm_mingw", llvmMingw)]

def dependency : Schema :=
  record [(lit "name", stringEnum [lit "wine", lit "fex"]), (lit "repository", nonEmptyString),
    (lit "ref", nonEmptyString), (lit "commit", hexString 40), (lit "archive", nonEmptyString),
    (lit "archive_sha256", hexString 64), (lit "license", nonEmptyString), (lit "role", nonEmptyString)]

def dependencies : Schema :=
  .all [.type .array, .minItems 2, .items dependency,
    .all [containsOne (lit "name") (lit "wine"), containsOne (lit "name") (lit "fex")]]

def patch : Schema :=
  .all [record [(lit "dependency", stringEnum [lit "wine", lit "fex"]),
      (lit "path", .all [.type .string, .pattern patchPathPattern]), (lit "sha256", hexString 64)],
    .all [.ifThen (fieldIsConst (lit "dependency") (lit "wine"))
        (.properties [(lit "path", .pattern (.seqs [.startOfLine, .text (lit "patches/wine/")]))] true),
      .ifThen (fieldIsConst (lit "dependency") (lit "fex"))
        (.properties [(lit "path", .pattern (.seqs [.startOfLine, .text (lit "patches/fex/")]))] true)]]

def artifact : Schema :=
  .all [record [(lit "path", .all [.type .string, .pattern artifactPathPattern]), (lit "sha256", hexString 64),
      (lit "role", stringEnum [lit "wine-loader", lit "fex-arm64ec-module", lit "fex-wow64-module",
      lit "runtime-file"]), (lit "kind", stringEnum [lit "file", lit "symlink"]), (lit "link_target", .all [])],
    .all [.ifThen (fieldIsConst (lit "kind") (lit "file")) (.properties [(lit "link_target", .type .null)] true),
      .ifThen (fieldIsConst (lit "kind") (lit "symlink"))
        (.properties [(lit "link_target", .all [.type .string, .minLength 1, .pattern linkPattern])] true)]]

def artifacts : Schema :=
  .all [.type .array, .minItems 3, .items artifact,
    .all [containsOne (lit "role") (lit "wine-loader"), containsOne (lit "role") (lit "fex-arm64ec-module"),
      containsOne (lit "role") (lit "fex-wow64-module")]]

def patches : Schema := .all [.type .array, .items patch]

def test : Schema :=
  record [(lit "name", nonEmptyString),
    (lit "status", stringEnum [lit "PASS", lit "FAIL", lit "BLOCKED", lit "UNVERIFIED"]),
    (lit "log", .all [.type .string, .pattern logPattern]), (lit "sha256", hexString 64)]

def tests : Schema := .all [.type .array, .items test]

def manifest : Schema :=
  record [(lit "schema_version", .const (.int 1)), (lit "stage", .const (.str (lit "G1"))),
    (lit "platform", platform), (lit "source_lock", sourceLock), (lit "toolchain", toolchain),
    (lit "dependencies", dependencies), (lit "patches", patches), (lit "artifacts", artifacts),
    (lit "tests", tests)]

end Schemas

section Values

open Schema

lemma valid_hexString {n : ℕ} {s : Str} (h : isHexOf n s = true) : (Schemas.hexString n).valid (.str s) = true :=
  valid_stringPattern (hexPattern_isSome h)

lemma forall₂_dictJson {ps : List (Str × Schema)} {d : Dict} {ms : List (Str × Json)}
    (hf : List.Forall₂ (fun p f => p.1 = f.1 ∧ p.2.valid (.str f.2) = true) ps d) :
    List.Forall₂ (fun p n => p.1 = n.1 ∧ ∀ a, Json.field n.1 ms = some a → a.eqv true n.2 = true →
      p.2.valid a = true)
      ps (dictJson d) := by
  rw [dictJson, List.forall₂_map_right_iff]
  refine hf.imp ?_
  rintro p f ⟨hkey, hvalid⟩
  refine ⟨hkey, ?_⟩
  intro a _ ha
  rwa [Json.eqv_str.mp ha]

lemma dictJson_keys (d : Dict) : (dictJson d).map Prod.fst = d.map Prod.fst := by
  rw [dictJson, List.map_map]
  rfl

lemma valid_record_of_dict {ps : List (Str × Schema)} {d : Dict} {j : Json} (hn : (d.map Prod.fst).Nodup)
    (hf : List.Forall₂ (fun p f => p.1 = f.1 ∧ p.2.valid (.str f.2) = true) ps d)
    (h : j.eqv true (.obj (dictJson d)) = true) : (record ps).valid j = true := by
  obtain ⟨ms, rfl, -⟩ := Json.eqv_obj.mp h
  exact valid_record_of_eqv (dictJson_keys d ▸ hn) (forall₂_dictJson hf) h

lemma valid_platform {j : Json} (h : j.eqv true platformJson = true) : Schemas.platform.valid j = true :=
  valid_record_of_dict (d := [(lit "os", lit "linux"), (lit "architecture", lit "aarch64")]) (by decide)
    (.cons ⟨rfl, valid_const.mpr rfl⟩ (.cons ⟨rfl, valid_const.mpr rfl⟩ .nil)) h

/-- A field that compares as one and is not written so. -/
def SaysNearlyOne (key : Str) (j : Json) : Prop := ∃ ms v, j = .obj ms ∧ Json.field key ms = some v ∧ v.NearlyOne

lemma saysNearlyOne_iff {key : Str} {ms : List (Str × Json)} {v : Json} (h : Json.field key ms = some v) :
    SaysNearlyOne key (.obj ms) ↔ v.NearlyOne := by
  constructor
  · rintro ⟨_, v', ⟨⟩, hf, hv⟩
    obtain rfl := Option.some.inj (h.symm.trans hf)
    exact hv
  · exact fun hv => ⟨ms, v, rfl, h, hv⟩

lemma valid_sourceLock {j : Json} (h : j.rounded.eqv true sourceLockJson = true) :
    Schemas.sourceLock.valid j = true ↔ ¬SaysNearlyOne (lit "schema_version") j := by
  obtain ⟨_, hms, -⟩ := Json.eqv_obj.mp h
  obtain ⟨ms, rfl, rfl⟩ := Json.obj_of_rounded hms
  constructor
  · intro hv
    obtain ⟨_, ⟨⟩, -, hps⟩ := valid_record.mp hv
    obtain ⟨v, hv, hvalid⟩ := hps _ List.mem_cons_self
    rw [saysNearlyOne_iff hv]
    exact not_nearlyOne hvalid
  · intro hn
    have hconst {value : Str} {a : Json} (ha : a.rounded.eqv true (.str value) = true) :
        (Schema.const (.str value)).valid a = true := by
      have hstr := valid_const.mpr (Json.eqv_str.mp ha)
      rwa [valid_rounded _ rfl a] at hstr
    refine valid_record_of_rounded (by decide) (.cons ⟨rfl, ?_⟩ (.cons ⟨rfl, fun a _ => hconst⟩
      (.cons ⟨rfl, fun a _ => hconst⟩ .nil))) h
    intro a hf ha
    rwa [valid_one ha, ← saysNearlyOne_iff hf]

section Lock

lemma Filled.forall₂ {ps : List (Str × Schema)} {d : Dict} (hd : Filled (ps.map Prod.fst) d)
    (hn : (ps.map Prod.fst).Nodup)
    (hv : ∀ p ∈ ps, p.2 = Schema.nonEmptyString ∨ hasValue d p.1 (fun v => p.2.valid (.str v)) = true) :
    List.Forall₂ (fun p f => p.1 = f.1 ∧ p.2.valid (.str f.2) = true) ps d := by
  rw [← hd.keys] at hn
  have hboth := (List.forall₂_and_left ps d).mpr ⟨hv, List.forall₂_map_left_iff.mp hd⟩
  have hmem := ((List.forall₂_and_left d ps).mpr ⟨fun f hf => hf, hboth.flip⟩).flip
  refine hmem.imp ?_
  rintro p f ⟨hf, hv | hv, hkey, hne⟩
  · exact ⟨hkey.symm, hv ▸ valid_nonEmptyString hne⟩
  · refine ⟨hkey.symm, ?_⟩
    rw [hasValue, ← hkey, lookup_of_mem hn hf] at hv
    exact hv

lemma valid_llvmMingw {d : Dict} {j : Json} (hd : Filled llvmFields d)
    (hhex : hasValue d (lit "archive_sha256") (isHexOf 64) = true) (h : j.eqv true (.obj (dictJson d)) = true) :
    Schemas.llvmMingw.valid j = true := by
  refine valid_record_of_dict (hd.keys ▸ by decide) (Filled.forall₂ hd (by decide) ?_) h
  rw [List.forall_mem_cons, List.forall_mem_cons, List.forall_mem_singleton]
  exact ⟨.inl rfl, .inl rfl, .inr (hasValue_imp (fun v => valid_hexString) hhex)⟩

lemma valid_toolchain {lock : Lock} {j : Json} (hd : Filled toolchainFields lock.toolchain)
    (harch : hasValue lock.toolchain (lit "architecture") (· == lit "linux/arm64") = true)
    (hl : Filled llvmFields lock.llvmMingw)
    (hhex : hasValue lock.llvmMingw (lit "archive_sha256") (isHexOf 64) = true)
    (h : j.eqv true (toolchainJson lock) = true) : Schemas.toolchain.valid j = true := by
  obtain ⟨ms, rfl, -⟩ := Json.eqv_obj.mp h
  have hkeys : (toolchainFields ++ [lit "llvm_mingw"]).Nodup := by decide
  have hscalars : List.Forall₂ (fun p f => p.1 = f.1 ∧ p.2.valid (.str f.2) = true)
      [(lit "container_base", Schema.nonEmptyString), (lit "architecture", .const (.str (lit "linux/arm64"))),
        (lit "compiler", Schema.nonEmptyString), (lit "cmake", Schema.nonEmptyString),
        (lit "ninja", Schema.nonEmptyString)] lock.toolchain := by
    refine Filled.forall₂ hd (by decide) ?_
    simp only [List.forall_mem_cons, List.not_mem_nil]
    refine ⟨.inl trivial, .inr (hasValue_imp ?_ harch), .inl trivial, .inl trivial, .inl trivial,
      fun _ h => h.elim⟩
    intro v hv
    rw [eq_of_beq hv, valid_const]
  refine valid_record_of_eqv ?_ (List.rel_append (forall₂_dictJson hscalars) (.cons ⟨rfl, ?_⟩ .nil)) h
  · rw [List.map_append, dictJson_keys, hd.keys]
    exact hkeys
  · intro a _ ha
    exact valid_llvmMingw hl hhex ha

lemma valid_dependency {name body : Str} {d : Dict} {j : Json} (hd : parseDependency name body = .ok d)
    (hname : name ∈ [lit "wine", lit "fex"]) (h : j.eqv true (.obj (dictJson d)) = true) :
    Schemas.dependency.valid j = true := by
  have hkeys := parseDependency_keys hd
  obtain ⟨d', rfl, hfilled, hcommit, hsha⟩ := parseDependency_filled hd
  refine valid_record_of_dict hkeys (.cons ⟨rfl, valid_stringEnum hname⟩ (Filled.forall₂ hfilled (by decide) ?_)) h
  simp only [List.forall_mem_cons, List.not_mem_nil]
  exact ⟨.inl trivial, .inl trivial, .inr (hasValue_imp (fun v => valid_hexString) hcommit), .inl trivial,
    .inr (hasValue_imp (fun v => valid_hexString) hsha), .inl trivial, .inl trivial, fun _ h => h.elim⟩

lemma exists_field_of_eqv {d : Dict} {j : Json} {key value : Str} (hn : (d.map Prod.fst).Nodup)
    (hm : (key, value) ∈ d)
    (h : j.eqv true (.obj (dictJson d)) = true) : ∃ ms, j = .obj ms ∧ Json.field key ms = some (.str value) := by
  obtain ⟨ms, rfl, hkeys, heqv⟩ := Json.eqv_obj.mp h
  have hfield : Json.field key (dictJson d) = some (.str value) :=
    Json.field_of_mem (dictJson_keys d ▸ hn) (List.mem_map_of_mem hm)
  have hsome : (Json.field key ms).isSome = true := by
    rw [hkeys, hfield]
    rfl
  obtain ⟨a, ha⟩ := Option.isSome_iff_exists.mp hsome
  refine ⟨ms, rfl, ?_⟩
  rw [ha, Json.eqv_str.mp (heqv key a _ ha hfield)]

lemma valid_dependencies {lock : Lock} {j : Json} (hl : Locked lock)
    (h : j.eqv true (dependenciesJson lock) = true) :
    Schemas.dependencies.valid j = true := by
  obtain ⟨js, rfl, hjs⟩ := Json.eqv_arr.mp h
  have hjs := List.forall₂_map_right_iff.mp hjs
  have hpinned := hl.pinned
  simp only [pinsWineAndFex, Bool.and_eq_true, List.all_eq_true, List.contains_iff_mem, Bool.or_eq_true,
    beq_iff_eq] at hpinned
  obtain ⟨⟨hnames, hwine⟩, hfex⟩ := hpinned
  have hcounted : List.Forall₂ (fun j d => ∃ ms, j = .obj ms ∧
      Json.field (lit "name") ms = some (.str ((d.lookup (lit "name")).getD []))) js lock.dependencies := by
    have hboth := ((List.forall₂_and_left lock.dependencies js).mpr ⟨hl.parsed, hjs.flip⟩).flip
    refine hboth.imp ?_
    rintro j d ⟨⟨name, body, hd⟩, heqv⟩
    have hkeys := parseDependency_keys hd
    obtain ⟨d', rfl, -⟩ := parseDependency_filled hd
    exact exists_field_of_eqv hkeys List.mem_cons_self heqv
  have hone : ∀ value ∈ [lit "wine", lit "fex"],
      (lock.dependencies.map fun d => (d.lookup (lit "name")).getD []).count value = 1 := by
    simp only [List.forall_mem_cons, List.not_mem_nil]
    exact ⟨List.count_eq_one_of_mem hl.distinct hwine, List.count_eq_one_of_mem hl.distinct hfex,
      fun _ h => h.elim⟩
  refine valid_array.mpr ⟨?_, ?_, ?_⟩
  · rw [hjs.length_eq]
    exact length_le_of_count (by decide) hone
  · intro j hj
    obtain ⟨d, hd, heqv⟩ := exists_of_forall₂ hjs hj
    obtain ⟨name, body, hparse⟩ := hl.parsed d hd
    have hname := hnames _ (List.mem_map_of_mem hd)
    obtain ⟨d', rfl, -⟩ := parseDependency_filled hparse
    exact valid_dependency hparse (by simpa using hname) heqv
  · simp only [List.forall_mem_cons, List.not_mem_nil, valid_containsOne, countP_objectWith hcounted]
    exact ⟨hone _ (by simp), hone _ (by simp), fun _ h => h.elim⟩

end Lock

section Patches

def Series (e : PatchEntry Digest) (name : Utf8.Bytes) : Prop :=
  e.path = patchPath e.dependency name ∧ 47 ∉ name ∧ bytes ".patch" <:+ name

def patchDict (e : PatchEntry Digest) : Dict :=
  [(lit "dependency", lit e.dependency.name), (lit "path", e.path), (lit "sha256", e.sha256.hex)]

lemma valid_patch {e : PatchEntry Digest} {name : Utf8.Bytes} {j : Json} (he : Series e name)
    (h : j.eqv true (patchJson e) = true) : Schemas.patch.valid j = true ↔ name ≠ bytes ".patch" := by
  obtain ⟨hpath, h47, hsuffix⟩ := he
  have hkeys : ((patchDict e).map Prod.fst).Nodup :=
    (by decide : [lit "dependency", lit "path", lit "sha256"].Nodup)
  have hdict : j.eqv true (.obj (dictJson (patchDict e))) = true := h
  obtain ⟨ms, rfl, hd⟩ := exists_field_of_eqv hkeys List.mem_cons_self hdict
  obtain ⟨_, ⟨⟩, hp⟩ := exists_field_of_eqv hkeys (List.mem_cons_of_mem _ List.mem_cons_self) hdict
  have hvalue : e.path = lit "patches/" ++ (lit e.dependency.name ++ (lit "/" ++ fsdecode name)) := by
    rw [hpath, patchPath]
    simp only [List.append_assoc]
  have hname : fsdecode name ≠ lit ".patch" ↔ name ≠ bytes ".patch" := by
    have hd : fsdecode (bytes ".patch") = lit ".patch" := by decide
    rw [← hd, fsdecode_injective.ne_iff]
  have hmatch : (patchPathPattern.matchAt ⟨true, e.path⟩).isSome = true ↔ name ≠ bytes ".patch" := by
    rw [hvalue, patchPathPattern_isSome, hname]
    · rwa [mem_fsdecode (by decide)]
    · have hglob := PatchSeries.globMatches_fsdecode name
      rw [PatchSeries.globMatches, List.isSuffixOf_iff_suffix.mpr hsuffix] at hglob
      exact List.isSuffixOf_iff_suffix.mp hglob
  rw [← hmatch, Schemas.patch]
  simp only [valid_all, List.forall_mem_cons, List.not_mem_nil, valid_ifThen, hd, hp, Option.some.injEq,
    Json.str.injEq]
  constructor
  · rintro ⟨hrecord, -⟩
    obtain ⟨_, ⟨⟩, -, hps⟩ := valid_record.mp hrecord
    obtain ⟨v, hv, hvalid⟩ := hps _ (List.mem_cons_of_mem _ List.mem_cons_self)
    obtain rfl := Option.some.inj (hp.symm.trans hv)
    exact valid_all.mp hvalid _ (List.mem_cons_of_mem _ List.mem_cons_self)
  · intro hm
    have hsha := valid_hexString e.sha256.isHex
    refine ⟨valid_record_of_dict hkeys
      (.cons ⟨rfl, valid_stringEnum ?_⟩ (.cons ⟨rfl, ?_⟩ (.cons ⟨rfl, hsha⟩ .nil)))
      hdict, ⟨?_, ?_, fun _ h => h.elim⟩, fun _ h => h.elim⟩
    · cases e.dependency <;> decide
    · exact valid_stringPattern hm
    · rintro he _ rfl
      rw [hvalue, he]
      exact startsWith_isSome (lit "patches/wine/") (fsdecode name)
    · rintro he _ rfl
      rw [hvalue, he]
      exact startsWith_isSome (lit "patches/fex/") (fsdecode name)

def BarePatch (fs : FileSystem) (repository : Path) (d : Dependency) : Prop :=
  fs.get (repository ++ [bytes "patches", bytes d.name, bytes ".patch"]) ≠ none

variable {v : Setting} {fs : FileSystem} {runtime repository : Path} {es : List (PatchEntry Digest)}

lemma appliedPatchEntries_ok (h : appliedPatchEntries v fs runtime repository = .ok es) :
    PatchSeries.patchEntries v.sha256 (patchTree v fs repository) = .ok es := by
  obtain ⟨expected, he, h⟩ := of_bind_eq_ok h
  have hexpected : PatchSeries.patchEntries v.sha256 (patchTree v fs repository) = .ok expected := by
    cases hp : PatchSeries.patchEntries v.sha256 (patchTree v fs repository) with
    | error r =>
      rw [hp] at he
      cases he
    | ok es =>
      rw [hp] at he
      rw [Except.ok.inj he]
  dsimp only at h
  split_ifs at h
  · obtain ⟨_, hempty, h⟩ := of_bind_eq_ok h
    obtain rfl := Except.ok.inj h
    rw [hexpected, List.isEmpty_iff.mp (of_ensure hempty)]
  · obtain ⟨_, -, h⟩ := of_bind_eq_ok h
    obtain ⟨_, -, h⟩ := of_bind_eq_ok h
    obtain ⟨_, -, h⟩ := of_bind_eq_ok h
    obtain rfl := Except.ok.inj h
    exact hexpected

lemma mem_listing_names {p : Path} {name : Utf8.Bytes} :
    name ∈ (listing v fs p).entries.map PatchSeries.Node.name ↔ fs.get (p ++ [name]) ≠ none := by
  have hnames : (listing v fs p).entries.map PatchSeries.Node.name = (fs.children p).map Prod.fst := by
    rw [listing, List.map_map]
    rfl
  rw [hnames, List.mem_map]
  constructor
  · rintro ⟨⟨_, e⟩, he, rfl⟩
    rw [(get_eq_some_iff (by simp)).mpr (mem_children.mp he)]
    exact Option.some_ne_none e
  · intro h
    obtain ⟨e, he⟩ := Option.ne_none_iff_exists'.mp h
    exact ⟨(name, e), mem_children.mpr ((get_eq_some_iff (by simp)).mp he), rfl⟩

lemma patchEntries_series (h : PatchSeries.patchEntries v.sha256 (patchTree v fs repository) = .ok es)
    (d : Dependency) : (∀ e ∈ es, e.dependency = d → ∃ name, Series e name) ∧
      (BarePatch fs repository d ↔ ∃ e ∈ es, e.dependency = d ∧ Series e (bytes ".patch")) := by
  obtain ⟨l, hl, hrecorded, -⟩ := PatchSeries.recordedFor_entries h d
  have hpath {path : Str} : (∃ e ∈ es, e.dependency = d ∧ e.path = path) ↔
      ∃ name ∈ PatchSeries.patchNames l, patchPath d name = path := by
    have hmem : path ∈ PatchSeries.recordedFor es d ↔
        path ∈ (sortBy fsdecode (PatchSeries.patchNames l)).map (patchPath d) := by
      rw [hrecorded]
    simpa [PatchSeries.recordedFor, and_assoc] using hmem
  have hname {name : Utf8.Bytes} (hn : name ∈ PatchSeries.patchNames l) : 47 ∉ name ∧ bytes ".patch" <:+ name := by
    obtain ⟨hn, hsuffix⟩ := List.mem_filter.mp hn
    obtain ⟨n, hmem, rfl⟩ := List.mem_map.mp hn
    exact ⟨(l.names n hmem).2.2, List.isSuffixOf_iff_suffix.mp hsuffix⟩
  have hbare : BarePatch fs repository d ↔ bytes ".patch" ∈ PatchSeries.patchNames l := by
    simp only [patchTree] at hl
    split_ifs at hl
    obtain rfl := PatchSeries.Dir.real.inj hl
    rw [PatchSeries.patchNames, List.mem_filter, mem_listing_names, BarePatch, List.append_assoc]
    simp
  refine ⟨?_, ?_⟩
  · rintro e he rfl
    obtain ⟨name, hn, hp⟩ := hpath.mp ⟨e, he, rfl, rfl⟩
    exact ⟨name, hp.symm, hname hn⟩
  · rw [hbare]
    constructor
    · intro hn
      obtain ⟨e, he, rfl, hp⟩ := hpath.mpr ⟨_, hn, rfl⟩
      exact ⟨e, he, rfl, hp, hname hn⟩
    · rintro ⟨e, he, rfl, hp, -⟩
      obtain ⟨name, hn, hp'⟩ := hpath.mp ⟨e, he, rfl, hp⟩
      rwa [← PatchSeries.patchPath_injective _ hp']

lemma valid_patches {j : Json} (h : appliedPatchEntries v fs runtime repository = .ok es)
    (hj : j.eqv true (patchesJson es) = true) :
    Schemas.patches.valid j = true ↔ ∀ d, ¬BarePatch fs repository d := by
  obtain ⟨js, rfl, hjs⟩ := Json.eqv_arr.mp hj
  have hjs := List.forall₂_map_right_iff.mp hjs
  have hseries (d : Dependency) := patchEntries_series (appliedPatchEntries_ok h) d
  have hitems : Schemas.patches.valid (.arr js) = true ↔ ∀ j ∈ js, Schemas.patch.valid j = true := by
    simp [Schemas.patches, valid, validAll, typeOf]
  rw [hitems]
  constructor
  · intro hall d hbare
    obtain ⟨e, he, rfl, hname⟩ := (hseries d).2.mp hbare
    obtain ⟨j, hj, heqv⟩ := exists_of_forall₂ hjs.flip he
    exact (valid_patch hname heqv).mp (hall j hj) rfl
  · intro hn j hj
    obtain ⟨e, he, heqv⟩ := exists_of_forall₂ hjs hj
    obtain ⟨name, hname⟩ := (hseries e.dependency).1 e he rfl
    rw [valid_patch hname heqv]
    rintro rfl
    exact hn e.dependency ((hseries e.dependency).2.mpr ⟨e, he, rfl, hname⟩)

end Patches

section Artifacts

lemma field_of_strField {key s : Str} {ms : List (Str × Json)} (h : strField key ms = some s) :
    Json.field key ms = some (.str s) := by
  unfold strField at h
  split at h
  · rename_i s' hf
    obtain rfl := Option.some.inj h
    exact hf
  · cases h

lemma checkLinkTarget_cases {index : ℕ} {kind : Str} {j : Option Json} {target : Option Str}
    (h : checkLinkTarget index kind j = .ok target) : (kind = lit "file" ∧ j = some .null ∧ target = none) ∨
      kind = lit "symlink" ∧ ∃ s, j = some (.str s) ∧ s ≠ [] ∧ isAbsolute s = false ∧ target = some s := by
  unfold checkLinkTarget at h
  split_ifs at h with hfile hlink
  · split at h
    · exact .inl ⟨hfile, rfl, (Except.ok.inj h).symm⟩
    · cases h
  · split at h
    · rename_i s
      split_ifs at h with hs
      rw [not_or, Bool.not_eq_true] at hs
      exact .inr ⟨hlink, s, rfl, hs.1, hs.2, (Except.ok.inj h).symm⟩
    · cases h

lemma artifactRole_mem (path : Str) : artifactRole path ∈
    [lit "wine-loader", lit "fex-arm64ec-module", lit "fex-wow64-module", lit "runtime-file"] := by
  unfold artifactRole
  split_ifs <;> decide

def PlainTarget (a : Artifact) : Prop := ∀ target, a.linkTarget = some target → ∀ c ∈ target, anyChar c = true

lemma valid_artifact {seen : List Str} {index : ℕ} {raw : Json} {a : Artifact}
    (h : manifestArtifact seen index raw = .ok a)
    (hpath : (artifactPathPattern.matchAt ⟨true, a.path⟩).isSome = true) :
    Schemas.artifact.valid raw = true ↔ PlainTarget a := by
  obtain ⟨ms, rfl, hkeys, hp, hd, hr, hk, hhex, hrole, ht⟩ := manifestArtifact_cases h
  have hkind := field_of_strField hk
  have hrecord : a.kind ∈ [lit "file", lit "symlink"] → (Schema.record [
      (lit "path", .all [.type .string, .pattern artifactPathPattern]), (lit "sha256", Schemas.hexString 64),
      (lit "role", Schema.stringEnum [lit "wine-loader", lit "fex-arm64ec-module", lit "fex-wow64-module",
        lit "runtime-file"]),
      (lit "kind", Schema.stringEnum [lit "file", lit "symlink"]), (lit "link_target", .all [])]).valid
        (.obj ms) = true := by
    intro hmem
    obtain ⟨j, hj⟩ := Option.isSome_iff_exists.mp ((Json.hasKeys_iff.mp hkeys (lit "link_target")).mpr (by simp))
    refine valid_record.mpr ⟨ms, rfl, hkeys, ?_⟩
    simp only [List.forall_mem_cons, List.not_mem_nil]
    exact ⟨⟨_, field_of_strField hp, valid_stringPattern hpath⟩, ⟨_, field_of_strField hd, valid_hexString hhex⟩,
      ⟨_, field_of_strField hr, valid_stringEnum (hrole ▸ artifactRole_mem _)⟩, ⟨_, hkind, valid_stringEnum hmem⟩,
      ⟨j, hj, valid_all.mpr (List.forall_mem_nil _)⟩, fun _ h => h.elim⟩
  have hkinds : lit "file" ≠ lit "symlink" := by decide
  rw [Schemas.artifact]
  simp only [valid_all, List.forall_mem_cons, List.not_mem_nil, valid_ifThen, hkind, Option.some.injEq,
    Json.str.injEq]
  rcases checkLinkTarget_cases ht with ⟨hfile, hnull, htarget⟩ | ⟨hlink, s, hs, hne, habs, htarget⟩
  · refine iff_of_true ⟨hrecord (by simp [hfile]), ⟨?_, ?_, fun _ h => h.elim⟩, fun _ h => h.elim⟩ ?_
    · rintro - v hv
      obtain rfl := Option.some.inj (hnull.symm.trans hv)
      rfl
    · intro he
      exact absurd (hfile.symm.trans he) hkinds
    · intro target hsome
      rw [htarget] at hsome
      cases hsome
  · have hplain : PlainTarget a ↔ (linkPattern.matchAt ⟨true, s⟩).isSome = true := by
      rw [linkPattern_isSome hne habs, PlainTarget, htarget]
      simp
    rw [hplain]
    constructor
    · rintro ⟨-, ⟨-, hthen, -⟩, -⟩
      obtain ⟨-, -, hpattern, -⟩ := hthen hlink (.str s) hs
      exact hpattern
    · intro hm
      refine ⟨hrecord (by simp [hlink]), ⟨?_, ?_, fun _ h => h.elim⟩, fun _ h => h.elim⟩
      · intro he
        exact absurd (he.symm.trans hlink) hkinds
      · rintro - v hv
        obtain rfl := Option.some.inj (hs.symm.trans hv)
        have hlen : 1 ≤ s.length := List.length_pos_iff.mpr hne
        simp [valid, typeOf, hlen, hm]

variable {v : Setting} {fs : FileSystem} {runtime repository : Path} {lock : Lock} {ms : List (Str × Json)}
  {patches : List (PatchEntry Digest)} {raws : List Json} {artifacts : List Artifact} {d : Dict}
  {raws' : List Json}
  {tests : List TestEntry}

lemma relativeTo_root {e : Path × Entry} (he : e ∈ walkRoot fs runtime) :
    ∃ rest, relativeTo runtime e.1 = lit "root/" ++ rest := by
  obtain ⟨-, ⟨r, hp⟩, hne⟩ := mem_walkRoot he
  have hdrop : e.1.drop runtime.length = bytes "root" :: r := by
    rw [← hp, root, List.append_assoc, List.drop_left]
    rfl
  obtain ⟨n, r, rfl⟩ := List.exists_cons_of_ne_nil (show r ≠ [] by rintro rfl; exact hne (by simpa using hp.symm))
  refine ⟨[47].intercalate ((n :: r).map fsdecode), ?_⟩
  rw [relativeTo, hdrop, List.map_cons, List.map_cons, List.intercalate_cons_cons]
  rfl

def PlainLinks (fs : FileSystem) (runtime : Path) : Prop :=
  ∀ p text, (p, Entry.link text) ∈ fs.below (root runtime) → ∀ c ∈ fsdecode text, anyChar c = true

lemma plainLinks_iff (hc : collectArtifacts v fs runtime = .ok artifacts) :
    (∀ a ∈ artifacts, PlainTarget a) ↔ PlainLinks fs runtime := by
  obtain ⟨-, hall⟩ := collectArtifacts_describes hc
  constructor
  · intro h p text hmem
    have htracked : (p, Entry.link text) ∈ (walkRoot fs runtime).filter isTracked :=
      List.mem_filter.mpr ⟨mem_sortBy.mpr hmem, rfl⟩
    obtain ⟨a, ha, -, -, -, htarget, -⟩ := exists_of_forall₂ hall htracked
    exact h a ha _ htarget
  · intro h a ha target htarget
    obtain ⟨⟨p, e⟩, he, -, -, hd⟩ := exists_of_forall₂ hall.flip ha
    have hmem := mem_sortBy.mp (List.mem_filter.mp he).1
    cases e with
    | dir | other => cases hd
    | file content x =>
      rw [hd.2.1] at htarget
      cases htarget
    | link text =>
      rw [hd.2.1] at htarget
      obtain rfl := Option.some.inj htarget
      exact h p text hmem

lemma valid_artifacts (ha : Accepted v fs runtime repository lock ms patches raws artifacts d raws' tests) :
    Schemas.artifacts.valid (.arr raws) = true ↔ PlainLinks fs runtime := by
  have hcounted : List.Forall₂ (fun j a => ∃ ms, j = .obj ms ∧
      Json.field (lit "role") ms = some (.str (Artifact.role a)))
      raws artifacts := by
    refine ha.listed.imp ?_
    rintro raw a ⟨seen, index, hok⟩
    obtain ⟨ms, rfl, -, -, -, hr, -⟩ := manifestArtifact_cases hok
    exact ⟨ms, rfl, field_of_strField hr⟩
  have hone : ∀ role ∈ requiredRoles, (artifacts.map Artifact.role).count role = 1 := by
    intro role hrole
    rw [← validateRequiredArtifacts_ok ha.required role hrole, withRole, ← List.countP_eq_length_filter,
      List.count_eq_countP, List.countP_map]
    rfl
  have hitems : (∀ raw ∈ raws, Schemas.artifact.valid raw = true) ↔ ∀ a ∈ artifacts, PlainTarget a := by
    obtain ⟨-, hall⟩ := collectArtifacts_describes ha.collected
    have hitem {raw : Json} {a : Artifact} (hmem : a ∈ artifacts)
        (hok : ∃ seen index, manifestArtifact seen index raw = .ok a) :
        Schemas.artifact.valid raw = true ↔ PlainTarget a := by
      obtain ⟨seen, index, hok⟩ := hok
      obtain ⟨e, he, hpath, -⟩ := exists_of_forall₂ hall.flip hmem
      obtain ⟨rest, hrest⟩ := relativeTo_root (List.mem_filter.mp he).1
      refine valid_artifact hok ?_
      have hsafe := (collected_of_collectArtifacts ha.collected).safe a hmem []
      rw [hpath, hrest] at hsafe ⊢
      exact artifactPathPattern_isSome hsafe
    constructor
    · intro h a hmem
      obtain ⟨raw, hraw, hok⟩ := exists_of_forall₂ ha.listed.flip hmem
      exact (hitem hmem hok).mp (h raw hraw)
    · intro h raw hraw
      obtain ⟨a, hmem, hok⟩ := exists_of_forall₂ ha.listed hraw
      exact (hitem hmem hok).mpr (h a hmem)
  rw [← plainLinks_iff ha.collected, ← hitems, Schemas.artifacts, valid_array]
  refine ⟨fun h => h.2.1, fun h => ⟨?_, h, ?_⟩⟩
  · rw [ha.listed.length_eq]
    exact length_le_of_count (by decide) hone
  · simp only [List.forall_mem_cons, List.not_mem_nil, valid_containsOne, countP_objectWith hcounted]
    exact ⟨hone _ (by simp [requiredRoles]), hone _ (by simp [requiredRoles]), hone _ (by simp [requiredRoles]),
      fun _ h => h.elim⟩

end Artifacts

section Tests

variable {v : Setting} {fs : FileSystem} {runtime : Path}

lemma checkTestName_ok {seen : List Str} {index : ℕ} {name status : Str} {u : Unit}
    (h : checkTestName seen index name status = .ok u) : name ≠ [] ∧ status ∈ testStatuses := by
  obtain ⟨_, hname, h⟩ := of_bind_eq_ok h
  have hname := (Bool.and_eq_true_iff.mp (of_ensure hname)).1
  exact ⟨by simpa using hname, List.contains_iff_mem.mp (of_ensure h)⟩

lemma log_ne_dot {t : TestEntry} (hroot : fs.isDir (root runtime) = true) (h : Logged v fs runtime t) :
    t.log ≠ lit "." := by
  intro he
  obtain ⟨content, hlog, -⟩ := h
  have hdir : fs.isDir runtime = true := isDir_of_append hroot
  have hpath : pathOf t.log = some [] := by rw [he]; rfl
  rw [logFile, hpath, Option.bind_some, List.append_nil] at hlog
  obtain ⟨q, hq, hfile⟩ := Option.bind_eq_some_iff.mp hlog
  obtain rfl : q = runtime := walk_of_isDir (p := []) hdir hq
  rw [isDir_iff.mp hdir] at hfile
  cases hfile

lemma valid_test {seen : List Str} {index : ℕ} {raw : Json} {t : TestEntry}
    (hroot : fs.isDir (root runtime) = true)
    (h : manifestTest v fs runtime seen index raw = .ok t) : Schemas.test.valid raw = true := by
  obtain ⟨ms, rfl, hkeys, hn, hs, hl, hd, hname, ⟨owner, hsafe⟩, hhex, hlogged⟩ := manifestTest_cases h
  obtain ⟨hne, hstatus⟩ := checkTestName_ok hname
  refine valid_record.mpr ⟨ms, rfl, hkeys, ?_⟩
  simp only [List.forall_mem_cons, List.not_mem_nil]
  exact ⟨⟨_, field_of_strField hn, valid_nonEmptyString hne⟩, ⟨_, field_of_strField hs, valid_stringEnum hstatus⟩,
    ⟨_, field_of_strField hl, valid_stringPattern (logPattern_isSome hsafe (log_ne_dot hroot hlogged))⟩,
    ⟨_, field_of_strField hd, valid_hexString hhex⟩, fun _ h => h.elim⟩

end Tests

/-- The file as a document: it is JSON, and its numbers are the decimals that it writes. -/
def readDocument (v : Setting) (fs : FileSystem) (p : Path) : Option Json :=
  (readText v fs p).bind (Json.document false)

def SchemaValid (v : Setting) (fs : FileSystem) (runtime : Path) : Prop :=
  ∃ document, readDocument v fs (manifestPath runtime) = some document ∧ Schemas.manifest.valid document = true

def ExactVersions (document : Json) : Prop :=
  ¬SaysNearlyOne (lit "schema_version") document ∧
    ∀ ms j, document = .obj ms → Json.field (lit "source_lock") ms = some j →
      ¬SaysNearlyOne (lit "schema_version") j

def Conforming (v : Setting) (fs : FileSystem) (runtime repository : Path) : Prop :=
  (∃ document, readDocument v fs (manifestPath runtime) = some document ∧ ExactVersions document) ∧
    (∀ dependency, ¬BarePatch fs repository dependency) ∧ PlainLinks fs runtime

lemma readJson_of_document {p : Path} {document : Json} (h : readDocument v fs p = some document) :
    readJson v fs p = some document.rounded := by
  obtain ⟨text, ht, hd⟩ := Option.bind_eq_some_iff.mp h
  rw [readJson, ht, Option.bind_some, Json.parse, Json.document_constants hd, Option.map_some]

lemma field_of_fieldIs {ms : List (Str × Json)} {key : Str} {j : Json} (h : fieldIs ms key j = true) :
    ∃ found, Json.field key ms = some found ∧ found.eqv true j = true := by
  rw [fieldIs, Option.any_eq_true] at h
  exact h

lemma document_of_fieldIs {ms : List (Str × Json)} {key : Str} {j : Json}
    (h : fieldIs (Json.roundedMembers ms) key j = true) :
    ∃ found, Json.field key ms = some found ∧ found.rounded.eqv true j = true := by
  obtain ⟨_, hf, he⟩ := field_of_fieldIs h
  obtain ⟨found, hfound, rfl⟩ := Json.exists_field hf
  exact ⟨found, hfound, he⟩

section Accepted

variable {ms : List (Str × Json)} {lock : Lock} {patches : List (PatchEntry Digest)} {raws raws' : List Json}
  {artifacts : List Artifact} {d : Dict} {tests : List TestEntry}

lemma valid_tests (ha : Accepted v fs runtime repository lock ms patches raws artifacts d raws' tests) :
    Schemas.tests.valid (.arr raws') = true := by
  have hroot := (collectArtifacts_describes ha.collected).1
  have hitems : ∀ raw ∈ raws', Schemas.test.valid raw = true := by
    intro raw hraw
    obtain ⟨t, -, seen, index, hok⟩ := exists_of_forall₂ ha.tested hraw
    exact valid_test hroot hok
  simpa [Schemas.tests, valid, validAll, typeOf] using hitems

lemma valid_manifest (hl : Locked lock) {version source series artifacts' : Json}
    (ha : Accepted v fs runtime repository lock (Json.roundedMembers ms) patches raws artifacts d raws' tests)
    (hversion : Json.field (lit "schema_version") ms = some version)
    (hsource : Json.field (lit "source_lock") ms = some source)
    (hseries : Json.field (lit "patches") ms = some series)
    (hartifacts : Json.field (lit "artifacts") ms = some artifacts') :
    Schemas.manifest.valid (.obj ms) = true ↔ (Schema.const (.int 1)).valid version = true ∧
      Schemas.sourceLock.valid source = true ∧ Schemas.patches.valid series = true ∧
      Schemas.artifacts.valid artifacts' = true := by
  obtain ⟨stage, hstage, hg1⟩ := field_of_fieldIs ha.stage
  obtain ⟨platform, hplatform, hlinux⟩ := field_of_fieldIs ha.platform
  obtain ⟨toolchain, htoolchain, htools⟩ := field_of_fieldIs ha.toolchain
  obtain ⟨dependencies, hdependencies, hpins⟩ := field_of_fieldIs ha.dependencies
  have hkeys := ha.keys
  rw [Json.hasKeys_rounded] at hkeys
  rw [Schemas.manifest, valid_record]
  constructor
  · rintro ⟨_, ⟨⟩, -, hps⟩
    simp only [List.forall_mem_cons, hversion, hsource, hseries, hartifacts, Option.some.injEq,
      exists_eq_left'] at hps
    exact ⟨hps.1, hps.2.2.2.1, hps.2.2.2.2.2.2.1, hps.2.2.2.2.2.2.2.1⟩
  · rintro ⟨hversion', hsource', hseries', hartifacts'⟩
    have hvalid_toolchain := valid_toolchain hl.toolchain hl.architecture hl.llvm hl.llvm_sha256 htools
    refine ⟨ms, rfl, hkeys, ?_⟩
    simp only [List.forall_mem_cons, List.not_mem_nil]
    exact ⟨⟨_, hversion, hversion'⟩, exists_valid_field rfl hstage (valid_const.mpr (Json.eqv_str.mp hg1)),
      exists_valid_field rfl hplatform (valid_platform hlinux), ⟨_, hsource, hsource'⟩,
      exists_valid_field rfl htoolchain hvalid_toolchain,
      exists_valid_field rfl hdependencies (valid_dependencies hl hpins), ⟨_, hseries, hseries'⟩,
      ⟨_, hartifacts, hartifacts'⟩, exists_valid_field rfl ha.rawTests (valid_tests ha), fun _ h => h.elim⟩

lemma valid_document (hl : Locked lock)
    (ha : Accepted v fs runtime repository lock (Json.roundedMembers ms) patches raws artifacts d raws' tests) :
    Schemas.manifest.valid (.obj ms) = true ↔
      ExactVersions (.obj ms) ∧ (∀ dependency, ¬BarePatch fs repository dependency) ∧ PlainLinks fs runtime := by
  obtain ⟨version, hversion, hone⟩ := document_of_fieldIs ha.version
  obtain ⟨source, hsource, hlock⟩ := document_of_fieldIs ha.sourceLock
  obtain ⟨series, hseries, happlied⟩ := document_of_fieldIs ha.sameSeries
  obtain ⟨listed, hlisted, hraws⟩ := Json.exists_field ha.rawArtifacts
  have hpatches := valid_patches ha.applied happlied
  have hartifacts := valid_artifacts ha
  rw [valid_rounded _ rfl] at hpatches
  rw [← hraws, valid_rounded _ rfl] at hartifacts
  rw [valid_manifest hl ha hversion hsource hseries hlisted, valid_one hone, valid_sourceLock hlock, hpatches,
    hartifacts, ExactVersions, saysNearlyOne_iff hversion, and_assoc]
  have hlocks : ¬SaysNearlyOne (lit "schema_version") source ↔ ∀ ms' j, Json.obj ms = .obj ms' →
      Json.field (lit "source_lock") ms' = some j → ¬SaysNearlyOne (lit "schema_version") j := by
    constructor
    · rintro h _ j ⟨⟩ hj
      obtain rfl := Option.some.inj (hsource.symm.trans hj)
      exact h
    · exact fun h => h ms source rfl hsource
  rw [hlocks]

end Accepted

/-- A manifest that is accepted with an accepted lock is valid exactly when it is JSON that writes one where a
version is meant, no patch is named like the suffix only and no link target has a line terminator. -/
theorem manifest_valid_iff (v : Setting) (fs : FileSystem) (runtime repository : Path) (text : Str) (lock : Lock)
    (hl : parseLock text = .ok lock) (h : verifyManifest v fs runtime repository lock = .ok ()) :
    SchemaValid v fs runtime ↔ Conforming v fs runtime repository := by
  obtain ⟨manifest, hread, hjson⟩ := of_bind_eq_ok h
  have hread := of_orError_eq_ok hread
  obtain ⟨ms', patches, raws, artifacts, d, raws', tests, rfl, ha⟩ := verifyJson_cases hjson
  have hvalid {document : Json} (hd : readDocument v fs (manifestPath runtime) = some document) :
      Schemas.manifest.valid document = true ↔
        ExactVersions document ∧ (∀ dependency, ¬BarePatch fs repository dependency) ∧ PlainLinks fs runtime := by
    obtain ⟨ms, rfl, rfl⟩ := Json.obj_of_rounded (Option.some.inj ((readJson_of_document hd).symm.trans hread))
    exact valid_document (locked_of_parseLock hl) ha
  constructor
  · rintro ⟨document, hd, hv⟩
    obtain ⟨hexact, hrest⟩ := (hvalid hd).mp hv
    exact ⟨⟨document, hd, hexact⟩, hrest⟩
  · rintro ⟨⟨document, hd, hexact⟩, hrest⟩
    exact ⟨document, hd, (hvalid hd).mpr ⟨hexact, hrest⟩⟩

end Values

def bareState : Unpack.Bytes :=
  (Json.dumps (patchesJson [⟨.wine, patchPath .wine (bytes ".patch"), lengthDigest (bytes "diff")⟩])).map
    UInt8.ofNat

def barelyPatched : FileSystem where
  entries := [([bytes "out"], .dir), ([bytes "out", bytes "root"], .dir),
    ([bytes "out", bytes "root", bytes "bin"], .dir),
    ([bytes "out", bytes "root", bytes "bin", bytes "wine"], .file ⟨sampleElf, sampleElf_length_lt⟩ true),
    ([bytes "out", bytes "root", bytes "libarm64ecfex.dll"], .file (Pe.sampleFile 0x3000) false),
    ([bytes "out", bytes "root", bytes "libwow64fex.dll"], .file ⟨sampleWow64, sampleWow64_length_lt⟩ false),
    ([bytes "out", bytes "applied-patches.json"], .file ⟨bareState, by decide +kernel⟩ false),
    ([bytes "src"], .dir), ([bytes "src", bytes "patches"], .dir),
    ([bytes "src", bytes "patches", bytes "wine"], .dir), ([bytes "src", bytes "patches", bytes "fex"], .dir),
    ([bytes "src", bytes "patches", bytes "wine", bytes ".patch"], .file ⟨bytes "diff", by decide⟩ false)]
  nodup := by decide
  names := by decide
  parents := by simp

def barePublished (lock : Lock) : FileSystem :=
  (generateManifest lengthSetting [bytes "out"] [bytes "src"] lock [] barelyPatched).1

def disagrees (lock : Lock) : Bool :=
  (verifyManifest lengthSetting (barePublished lock) [bytes "out"] [bytes "src"] lock).isOk &&
    (readDocument lengthSetting (barePublished lock) (manifestPath [bytes "out"])).any fun document =>
      !Schemas.manifest.valid document

set_option maxRecDepth 10000 in
lemma sampleText_disagrees : (match parseLock sampleText with
    | .ok lock => disagrees lock
    | .error _ => false) = true := by
  generalize ht : sampleText = text
  rw [sampleText, lit_ofList] at ht
  subst ht
  decide +kernel

lemma exists_disagreeing : ∃ lock, parseLock sampleText = .ok lock ∧
    verifyManifest lengthSetting (barePublished lock) [bytes "out"] [bytes "src"] lock = .ok () ∧
    ¬SchemaValid lengthSetting (barePublished lock) [bytes "out"] := by
  have h := sampleText_disagrees
  split at h
  · rename_i lock hl
    obtain ⟨hok, hinvalid⟩ := Bool.and_eq_true_iff.mp h
    rw [Option.any_eq_true] at hinvalid
    obtain ⟨document, hread, hfalse⟩ := hinvalid
    refine ⟨lock, hl, ?_, ?_⟩
    · cases hv : verifyManifest lengthSetting (barePublished lock) [bytes "out"] [bytes "src"] lock with
      | error r =>
        rw [hv] at hok
        cases hok
      | ok u => rfl
    · rintro ⟨document', hread', hvalid⟩
      obtain rfl := Option.some.inj (hread.symm.trans hread')
      rw [hvalid] at hfalse
      cases hfalse
  · cases h

/-- A patch called `.patch`: the manifest is accepted and is not valid. -/
theorem accepted_not_valid : ∃ fs lock, parseLock sampleText = .ok lock ∧
    verifyManifest lengthSetting fs [bytes "out"] [bytes "src"] lock = .ok () ∧
    ¬SchemaValid lengthSetting fs [bytes "out"] := by
  obtain ⟨lock, h⟩ := exists_disagreeing
  exact ⟨barePublished lock, lock, h⟩

theorem manifest_valid_iff_bare : ∃ lock, parseLock sampleText = .ok lock ∧
    (SchemaValid lengthSetting (barePublished lock) [bytes "out"] ↔
      Conforming lengthSetting (barePublished lock) [bytes "out"] [bytes "src"]) := by
  obtain ⟨lock, hl, hv, -⟩ := exists_disagreeing
  exact ⟨lock, hl, manifest_valid_iff lengthSetting (barePublished lock) [bytes "out"] [bytes "src"]
    sampleText lock hl hv⟩

end Graft64.Runtime.Manifest
