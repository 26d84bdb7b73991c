import Graft64.Runtime.ManifestText

/-! What `verify_manifest` finds in a manifest that `generate_manifest` wrote. -/

namespace Graft64.Runtime.Manifest

open Graft64.Library Utf8 Unpack Results DepsLock FileSystem Json
open PatchSeries (PatchEntry)

lemma strField_sorted {key value : Str} {ms : List (Str × Json)} (hn : (ms.map Prod.fst).Nodup)
    (hm : (key, .str value) ∈ ms) : strField key (sorted ms) = some value := by
  rw [strField, field_sorted key hn, field_of_mem hn hm]
  rfl

lemma hasKeys_sorted {ms : List (Str × Json)} {keys : List Str} (h : ms.map Prod.fst = keys) (hn : keys.Nodup) :
    hasKeys (sorted ms) keys = true := by
  subst h
  rw [hasKeys_iff]
  intro key
  rw [field_sorted key hn, Option.isSome_map, field_isSome]

structure Listable (a : Artifact) : Prop where
  safe : ∀ owner, safeRelativePath a.path owner true = .ok a.path
  digest : isHexOf 64 a.sha256 = true
  role : a.role = artifactRole a.path
  target : ∀ index, checkLinkTarget index a.kind (some (linkJson a.linkTarget)) = .ok a.linkTarget

lemma artifactKeys_nodup : [lit "path", lit "sha256", lit "role", lit "kind", lit "link_target"].Nodup := by decide

section

variable {a : Artifact}

lemma artifact_fields (a : Artifact) : strField (lit "path") (sorted (membersOf (artifactJson a))) = some a.path ∧
    strField (lit "sha256") (sorted (membersOf (artifactJson a))) = some a.sha256 ∧
    strField (lit "role") (sorted (membersOf (artifactJson a))) = some a.role ∧
    strField (lit "kind") (sorted (membersOf (artifactJson a))) = some a.kind ∧
    field (lit "link_target") (sorted (membersOf (artifactJson a))) = some (linkJson a.linkTarget) := by
  have hn : ((membersOf (artifactJson a)).map Prod.fst).Nodup := artifactKeys_nodup
  refine ⟨strField_sorted hn ?_, strField_sorted hn ?_, strField_sorted hn ?_, strField_sorted hn ?_, ?_⟩
  · simp [membersOf, artifactJson]
  · simp [membersOf, artifactJson]
  · simp [membersOf, artifactJson]
  · simp [membersOf, artifactJson]
  · have hm : (lit "link_target", linkJson a.linkTarget) ∈ membersOf (artifactJson a) := by
      obtain ⟨path, digest, role, kind, target⟩ := a
      cases target <;> simp [membersOf, artifactJson, linkJson]
    rw [field_sorted _ hn, field_of_mem hn hm]
    cases a.linkTarget <;> rfl

lemma listsArtifact_sorted (a : Artifact) : ListsArtifact (sortKeys (artifactJson a)) a := by
  obtain ⟨hp, hd, hr, hk, ht⟩ := artifact_fields a
  exact ⟨_, rfl, hp, hd, hr, hk, ht⟩

lemma manifestArtifact_sorted (h : Listable a) {seen : List Str} (hnew : a.path ∉ seen) (index : ℕ) :
    manifestArtifact seen index (sortKeys (artifactJson a)) = .ok a := by
  obtain ⟨hp, hd, hr, hk, ht⟩ := artifact_fields a
  have hkeys : hasKeys (sorted (membersOf (artifactJson a)))
      [lit "path", lit "sha256", lit "role", lit "kind", lit "link_target"] = true :=
    hasKeys_sorted rfl artifactKeys_nodup
  have hrole : (a.role == artifactRole a.path) = true := beq_iff_eq.mpr h.role
  have hseen : (!seen.contains a.path) = true := by simpa using hnew
  have hobj : sortKeys (artifactJson a) = .obj (sorted (membersOf (artifactJson a))) := rfl
  rw [hobj, manifestArtifact]
  simp only [hkeys, hp, hd, hr, hk, ht, hseen, hrole, h.safe, h.digest, h.target, ensure, orError,
    bind, Except.bind, if_true]
  rfl

end

lemma artifactsFrom_sorted {seen : List Str} {index : ℕ} {artifacts : List Artifact}
    (h : ∀ a ∈ artifacts, Listable a)
    (hn : (seen ++ artifacts.map Artifact.path).Nodup) :
    artifactsFrom seen index (sortElements (artifacts.map artifactJson)) = .ok artifacts := by
  rw [sortElements_map, List.map_map]
  induction artifacts generalizing seen index with
  | nil => rfl
  | cons a as ih =>
    obtain ⟨ha, has⟩ := List.forall_mem_cons.mp h
    have hnew : a.path ∉ seen := by
      intro hm
      exact (List.nodup_append.mp hn).2.2 _ hm _ (by simp) rfl
    have hrest : artifactsFrom (seen ++ [a.path]) (index + 1) (as.map (sortKeys ∘ artifactJson)) = .ok as :=
      ih has (by simpa using hn)
    rw [List.map_cons, artifactsFrom, Function.comp_apply, manifestArtifact_sorted ha hnew]
    simp only [bind, Except.bind, hrest]
    rfl

variable {v : Setting} {fs fs' : FileSystem} {runtime repository : Path}

lemma checkLinkTarget_symlink {index : ℕ} {s : Str} (hne : s ≠ []) (h : isAbsolute s = false) :
    checkLinkTarget index (lit "symlink") (some (.str s)) = .ok (some s) := by
  have hkinds : lit "symlink" ≠ lit "file" := by decide
  rw [checkLinkTarget, if_neg hkinds, if_pos rfl]
  simp [hne, h]

lemma listable_of_describes {e : Path × Entry} {a : Artifact} (he : e ∈ fs.entries)
    (hsafe : ∀ owner, safeRelativePath a.path owner true = .ok a.path)
    (hdigest : isHexOf 64 a.sha256 = true) (h : Describes v fs runtime e a) : Listable a := by
  obtain ⟨-, hrole, hkind⟩ := h
  refine ⟨hsafe, hdigest, hrole, ?_⟩
  intro index
  obtain ⟨p, e⟩ := e
  cases e with
  | dir | other => exact hkind.elim
  | file content x =>
    obtain ⟨hkind, htarget, -⟩ := hkind
    rw [hkind, htarget]
    rfl
  | link text =>
    obtain ⟨hkind, htarget, -, habsolute, q, hq, -⟩ := hkind
    have hne : fsdecode text ≠ [] := by
      have htext := link_text_ne_nil (p := []) (get_of_mem_entries he) (fs.names p (List.mem_map_of_mem he)).1 hq
      intro hnil
      exact htext (fsdecode_injective hnil)
    rw [hkind, htarget]
    exact checkLinkTarget_symlink hne habsolute

lemma listable_of_collected {artifacts : List Artifact} (h : collectArtifacts v fs runtime = .ok artifacts) :
    ∀ a ∈ artifacts, Listable a := by
  intro a ha
  have hc := collected_of_collectArtifacts h
  obtain ⟨e, he, hd⟩ := exists_of_forall₂ (collectArtifacts_describes h).2.flip ha
  exact listable_of_describes (mem_walkRoot (List.mem_filter.mp he).1).1 (hc.safe a ha) (hc.digest a ha) hd

lemma testKeys_nodup : [lit "name", lit "status", lit "log", lit "sha256"].Nodup := by decide

lemma test_fields (t : TestEntry) :
    ∀ f ∈ testDict t, strField f.1 (sorted (membersOf (testJson t))) = some f.2 := by
  intro f hf
  exact strField_sorted testKeys_nodup (List.mem_map_of_mem hf)

lemma listsTest_sorted (t : TestEntry) : ListsTest (sortKeys (testJson t)) t := by
  have h := test_fields t
  simp only [testDict, List.forall_mem_cons] at h
  exact ⟨_, rfl, h.1, h.2.1, h.2.2.1, h.2.2.2.1⟩

lemma testsFrom_sorted (hfs : Overwritten fs fs') {seen : List Str} {index : ℕ} {raws : List Json}
    {tests : List TestEntry} (h : testsFrom (reportTest v fs runtime) seen index raws = .ok tests)
    (hlogs : ∀ t ∈ tests, logFile v fs' runtime t.log = logFile v fs runtime t.log) :
    testsFrom (manifestTest v fs' runtime) seen index (sortElements (tests.map testJson)) = .ok tests := by
  rw [sortElements_map, List.map_map]
  induction raws generalizing seen index tests with
  | nil =>
    obtain rfl := Except.ok.inj h
    rfl
  | cons raw raws ih =>
    obtain ⟨t, ht, h⟩ := of_bind_eq_ok h
    obtain ⟨ts, hts, h⟩ := of_bind_eq_ok h
    obtain rfl := Except.ok.inj h
    obtain ⟨hlog, hlogs⟩ := List.forall_mem_cons.mp hlogs
    have hkeys : hasKeys (sorted (membersOf (testJson t))) [lit "name", lit "status", lit "log", lit "sha256"] =
        true :=
      hasKeys_sorted rfl testKeys_nodup
    have hfirst : manifestTest v fs' runtime seen index (sortKeys (testJson t)) = .ok t :=
      manifestTest_of_reportTest hfs ht hlog rfl hkeys (test_fields t)
    rw [List.map_cons, testsFrom, Function.comp_apply, hfirst]
    simp only [bind, Except.bind, ih hts hlogs]
    rfl

variable {lock : Lock} {tests : List TestEntry} {artifacts : List Artifact} {patches : List (PatchEntry Digest)}

def readMembers (lock : Lock) (tests : List TestEntry) (artifacts : List Artifact)
    (patches : List (PatchEntry Digest)) : List (Str × Json) :=
  sorted (manifestMembers lock (tests.map testDict) artifacts patches)

lemma manifestKeys_nodup : manifestKeys.Nodup := by decide

lemma field_read (key : Str) (j : Json)
    (h : (key, j) ∈ manifestMembers lock (tests.map testDict) artifacts patches) :
    field key (readMembers lock tests artifacts patches) = some (sortKeys j) := by
  have hn : ((manifestMembers lock (tests.map testDict) artifacts patches).map Prod.fst).Nodup :=
    manifestKeys_nodup
  rw [readMembers, field_sorted key hn, field_of_mem hn h]
  rfl

lemma fieldIs_read (key : Str) (j : Json)
    (h : (key, j) ∈ manifestMembers lock (tests.map testDict) artifacts patches)
    (hs : Strings Unpaired (manifestJson lock (tests.map testDict) artifacts patches)) (hd : Distinct j) :
    fieldIs (readMembers lock tests artifacts patches) key j = true := by
  have hj := (memberStrings_iff.mp (show MemberStrings Unpaired _ from hs) (key, j) h).2
  rw [fieldIs, field_read key j h]
  exact eqv_sortKeys true j hj hd

lemma field_artifacts : field (lit "artifacts") (readMembers lock tests artifacts patches) =
    some (.arr (sortElements (artifacts.map artifactJson))) :=
  field_read (lit "artifacts") (.arr (artifacts.map artifactJson))
    (by simp [manifestMembers, membersOf, manifestJson])

lemma field_tests : field (lit "tests") (readMembers lock tests artifacts patches) =
    some (.arr (sortElements (tests.map testJson))) := by
  rw [field_read (lit "tests") (.arr ((tests.map testDict).map fun t => .obj (dictJson t)))
    (by simp [manifestMembers, membersOf, manifestJson]), List.map_map]
  rfl

structure Holds (v : Setting) (fs : FileSystem) (runtime repository : Path) (tests : List TestEntry)
    (artifacts : List Artifact) (patches : List (PatchEntry Digest)) : Prop where
  applied : appliedPatchEntries v fs runtime repository = .ok patches
  collected : collectArtifacts v fs runtime = .ok artifacts
  required : validateRequiredArtifacts v fs runtime artifacts = .ok ()
  checksums : ∃ d, parseChecksumManifest v fs (checksumPath runtime) = .ok d ∧
    sameDict d (checksums artifacts) = true
  tests : testsFrom (manifestTest v fs runtime) [] 0 (sortElements (tests.map testJson)) = .ok tests

lemma verifyJson_read (hw : Writable lock (tests.map testDict) artifacts patches)
    (hl : ∀ a ∈ artifacts, Listable a) (hn : (artifacts.map Artifact.path).Nodup)
    (h : Holds v fs runtime repository tests artifacts patches) :
    verifyJson v fs runtime repository lock (.obj (readMembers lock tests artifacts patches)) = .ok () := by
  have hstrings := hw.strings
  have hkeys : hasKeys (readMembers lock tests artifacts patches) manifestKeys = true :=
    hasKeys_sorted rfl manifestKeys_nodup
  have hversion := fieldIs_read (lit "schema_version") (.int 1)
    (by simp [manifestMembers, membersOf, manifestJson]) hstrings trivial
  have hstage := fieldIs_read (lit "stage") (.str (lit "G1"))
    (by simp [manifestMembers, membersOf, manifestJson]) hstrings trivial
  have hplatform := fieldIs_read (lit "platform") platformJson
    (by simp [manifestMembers, membersOf, manifestJson]) hstrings ⟨by decide, trivial, trivial, trivial⟩
  have hsource := fieldIs_read (lit "source_lock") sourceLockJson
    (by simp [manifestMembers, membersOf, manifestJson]) hstrings ⟨by decide, trivial, trivial, trivial, trivial⟩
  have htoolchain := fieldIs_read (lit "toolchain") (toolchainJson lock)
    (by simp [manifestMembers, membersOf, manifestJson]) hstrings hw.distinct_toolchain
  have hdependencies := fieldIs_read (lit "dependencies") (dependenciesJson lock)
    (by simp [manifestMembers, membersOf, manifestJson]) hstrings hw.distinct_dependencies
  have hpatches := fieldIs_read (lit "patches") (patchesJson patches)
    (by simp [manifestMembers, membersOf, manifestJson]) hstrings (distinct_patches patches)
  have hartifacts : artifactsFrom [] 0 (sortElements (artifacts.map artifactJson)) = .ok artifacts :=
    artifactsFrom_sorted hl (by simpa using hn)
  obtain ⟨d, hd, hsame⟩ := h.checksums
  have hchecksums : parseChecksumManifest v fs (runtime ++ [bytes "runtime-manifest.sha256"]) = .ok d := hd
  have hdict : sameDict d (artifacts.map fun a => (a.path, a.sha256)) = true := hsame
  rw [verifyJson, field_artifacts, field_tests]
  simp only [hkeys, hversion, hstage, hplatform, hsource, htoolchain, hdependencies, hpatches,
    hartifacts, h.applied, h.collected, h.required, hchecksums, hdict, Option.getD_some, validateManifestTests,
    h.tests, beq_self_eq_true, Bool.and_self, ensure, orError, bind, Except.bind, if_true]
  rfl

end Graft64.Runtime.Manifest
