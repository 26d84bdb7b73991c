import Graft64.Runtime.Generate

/-! What a runtime directory is known to hold once `verify_manifest` has accepted it. -/

namespace Graft64.Runtime.Manifest

open Graft64.Library Utf8 Unpack Results DepsLock FileSystem

def linkJson : Option Str → Json
  | some target => .str target
  | none => .null

def ListsArtifact (raw : Json) (a : Artifact) : Prop :=
  ∃ ms, raw = .obj ms ∧ strField (lit "path") ms = some a.path ∧ strField (lit "sha256") ms = some a.sha256 ∧
    strField (lit "role") ms = some a.role ∧ strField (lit "kind") ms = some a.kind ∧
    Json.field (lit "link_target") ms = some (linkJson a.linkTarget)

def ListsTest (raw : Json) (t : TestEntry) : Prop :=
  ∃ ms, raw = .obj ms ∧ strField (lit "name") ms = some t.name ∧ strField (lit "status") ms = some t.status ∧
    strField (lit "log") ms = some t.log ∧ strField (lit "sha256") ms = some t.sha256

def Lists (manifest : Json) (artifacts : List Artifact) (tests : List TestEntry) : Prop :=
  ∃ ms raws raws', manifest = .obj ms ∧ Json.field (lit "artifacts") ms = some (.arr raws) ∧
    Json.field (lit "tests") ms = some (.arr raws') ∧ List.Forall₂ ListsArtifact raws artifacts ∧
    List.Forall₂ ListsTest raws' tests

def logFile (v : Setting) (fs : FileSystem) (runtime : Path) (log : Str) : Option File :=
  (pathOf log).bind fun p => (fs.resolve v.steps (runtime ++ p)).bind fun q => match fs.get q with
    | some (.file content _) => some content
    | _ => none

def Logged (v : Setting) (fs : FileSystem) (runtime : Path) (t : TestEntry) : Prop :=
  ∃ content, logFile v fs runtime t.log = some content ∧ t.sha256 = (v.sha256 content.bytes).hex

structure Verified (v : Setting) (fs : FileSystem) (runtime : Path) (artifacts : List Artifact)
    (tests : List TestEntry) : Prop where
  root_isDir : fs.isDir (root runtime) = true
  distinct : (artifacts.map Artifact.path).Nodup
  /-- One artifact for each file and each link under `root/`. -/
  complete : ∃ es, es.Perm ((fs.below (root runtime)).filter isTracked) ∧
    List.Forall₂ (Describes v fs runtime) es artifacts
  roles : ∀ role ∈ requiredRoles, (withRole artifacts role).length = 1
  checksums : ∃ d, parseChecksumManifest v fs (checksumPath runtime) = .ok d ∧
    ∀ path digest, d.lookup path = some digest ↔ ∃ a ∈ artifacts, a.path = path ∧ a.sha256 = digest
  logs : ∀ t ∈ tests, Logged v fs runtime t

def kept : Entry → Option (Utf8.Bytes ⊕ Utf8.Bytes)
  | .file content _ => some (.inl content.bytes)
  | .link text => some (.inr text)
  | .dir | .other => none

def contents (fs : FileSystem) : List Utf8.Bytes := fs.entries.filterMap fun e => content e.2

def NoCollision (v : Setting) (fs fs' : FileSystem) : Prop :=
  ∀ b ∈ contents fs, ∀ b' ∈ contents fs', v.sha256 b = v.sha256 b' → b = b'

lemma listsArtifact_unique : Relator.RightUnique ListsArtifact := by
  rintro raw ⟨path, digest, role, kind, target⟩ ⟨path', digest', role', kind', target'⟩
    ⟨ms, hms, hp, hd, hr, hk, ht⟩ ⟨ms', hms', hp', hd', hr', hk', ht'⟩
  rw [hms] at hms'
  obtain rfl := Json.obj.inj hms'
  simp only [hp, hd, hr, hk, ht, Option.some.injEq] at hp' hd' hr' hk' ht'
  obtain rfl : target = target' := by
    cases target <;> cases target' <;> simp_all [linkJson]
  simp [hp', hd', hr', hk']

lemma listsTest_unique : Relator.RightUnique ListsTest := by
  rintro raw ⟨name, status, log, digest⟩ ⟨name', status', log', digest'⟩ ⟨ms, hms, hn, hs, hl, hd⟩
    ⟨ms', hms', hn', hs', hl', hd'⟩
  rw [hms] at hms'
  obtain rfl := Json.obj.inj hms'
  simp only [hn, hs, hl, hd, Option.some.injEq] at hn' hs' hl' hd'
  simp [hn', hs', hl', hd']

lemma Lists.unique {manifest : Json} {artifacts artifacts' : List Artifact} {tests tests' : List TestEntry}
    (h : Lists manifest artifacts tests) (h' : Lists manifest artifacts' tests') :
    artifacts = artifacts' ∧ tests = tests' := by
  obtain ⟨ms, raws, raws', hms, ha, ht, hra, hrt⟩ := h
  obtain ⟨ms', raws₂, raws₂', hms', ha', ht', hra', hrt'⟩ := h'
  rw [hms] at hms'
  obtain rfl := Json.obj.inj hms'
  rw [ha] at ha'
  rw [ht] at ht'
  obtain rfl := Json.arr.inj (Option.some.inj ha')
  obtain rfl := Json.arr.inj (Option.some.inj ht')
  exact ⟨listsArtifact_unique.forall₂ hra hra', listsTest_unique.forall₂ hrt hrt'⟩

lemma safeRelativePath_ok {value owner s : Str} {rootPrefix : Bool}
    (h : safeRelativePath value owner rootPrefix = .ok s) : s = value := by
  unfold safeRelativePath at h
  split_ifs at h
  exact (Except.ok.inj h).symm

lemma checkLinkTarget_ok {index : ℕ} {kind : Str} {j : Option Json} {target : Option Str}
    (h : checkLinkTarget index kind j = .ok target) : j = some (linkJson target) := by
  unfold checkLinkTarget at h
  split at h
  · split at h
    · obtain rfl := Except.ok.inj h
      rfl
    · cases h
  · split at h
    · split at h
      · split at h
        · cases h
        · obtain rfl := Except.ok.inj h
          rfl
      · cases h
    · cases h

lemma manifestArtifact_cases {seen : List Str} {index : ℕ} {raw : Json} {a : Artifact}
    (h : manifestArtifact seen index raw = .ok a) :
    ∃ ms, raw = .obj ms ∧
      Json.hasKeys ms [lit "path", lit "sha256", lit "role", lit "kind", lit "link_target"] = true ∧
      strField (lit "path") ms = some a.path ∧ strField (lit "sha256") ms = some a.sha256 ∧
      strField (lit "role") ms = some a.role ∧ strField (lit "kind") ms = some a.kind ∧
      isHexOf 64 a.sha256 = true ∧ a.role = artifactRole a.path ∧
      checkLinkTarget index a.kind (Json.field (lit "link_target") ms) = .ok a.linkTarget := by
  unfold manifestArtifact at h
  split at h
  · rename_i ms
    obtain ⟨_, hkeys, h⟩ := of_bind_eq_ok h
    obtain ⟨path, hp, h⟩ := of_bind_eq_ok h
    obtain ⟨digest, hd, h⟩ := of_bind_eq_ok h
    obtain ⟨role, hr, h⟩ := of_bind_eq_ok h
    obtain ⟨kind, hk, h⟩ := of_bind_eq_ok h
    obtain ⟨relative, hrelative, h⟩ := of_bind_eq_ok h
    obtain ⟨_, -, h⟩ := of_bind_eq_ok h
    obtain ⟨_, hhex, h⟩ := of_bind_eq_ok h
    obtain ⟨_, hrole, h⟩ := of_bind_eq_ok h
    obtain ⟨target, ht, h⟩ := of_bind_eq_ok h
    obtain rfl := Except.ok.inj h
    obtain rfl := safeRelativePath_ok hrelative
    exact ⟨ms, rfl, of_ensure hkeys, of_orError_eq_ok hp, of_orError_eq_ok hd, of_orError_eq_ok hr,
      of_orError_eq_ok hk, of_ensure hhex, eq_of_beq (of_ensure hrole), ht⟩
  · cases h

lemma manifestArtifact_ok {seen : List Str} {index : ℕ} {raw : Json} {a : Artifact}
    (h : manifestArtifact seen index raw = .ok a) : ListsArtifact raw a := by
  obtain ⟨ms, rfl, -, hp, hd, hr, hk, -, -, ht⟩ := manifestArtifact_cases h
  exact ⟨ms, rfl, hp, hd, hr, hk, checkLinkTarget_ok ht⟩

lemma artifactsFrom_ok {seen : List Str} {index : ℕ} {raws : List Json} {artifacts : List Artifact}
    (h : artifactsFrom seen index raws = .ok artifacts) :
    List.Forall₂ (fun raw a => ∃ seen index, manifestArtifact seen index raw = .ok a) raws artifacts := by
  induction raws generalizing seen index artifacts with
  | nil =>
    obtain rfl := Except.ok.inj h
    exact .nil
  | cons raw raws ih =>
    obtain ⟨a, ha, h⟩ := of_bind_eq_ok h
    obtain ⟨as, has, h⟩ := of_bind_eq_ok h
    obtain rfl := Except.ok.inj h
    exact .cons ⟨_, _, ha⟩ (ih has)

lemma testsFrom_ok {check : List Str → ℕ → Json → Except Refusal TestEntry} {seen : List Str} {index : ℕ}
    {raws : List Json} {tests : List TestEntry} (h : testsFrom check seen index raws = .ok tests) :
    List.Forall₂ (fun raw t => ∃ seen index, check seen index raw = .ok t) raws tests := by
  induction raws generalizing seen index tests with
  | nil =>
    obtain rfl := Except.ok.inj h
    exact .nil
  | cons raw raws ih =>
    obtain ⟨t, ht, h⟩ := of_bind_eq_ok h
    obtain ⟨ts, hts, h⟩ := of_bind_eq_ok h
    obtain rfl := Except.ok.inj h
    exact .cons ⟨_, _, ht⟩ (ih hts)

section

variable {v : Setting} {fs : FileSystem} {runtime : Path}

lemma resolveFileInside_ok {p rootPath : List Utf8.Bytes} {owner : Str} {located : Located}
    (h : resolveFileInside v fs p rootPath owner = .ok located) : fs.resolve v.steps p = some located.path ∧
      fs.get located.path = some (.file located.content located.executable) := by
  obtain ⟨_, -, h⟩ := of_bind_eq_ok h
  obtain ⟨resolved, hr, h⟩ := of_bind_eq_ok h
  obtain ⟨_, -, h⟩ := of_bind_eq_ok h
  split at h
  · rename_i hget
    obtain rfl := Except.ok.inj h
    exact ⟨of_orError_eq_ok hr, hget⟩
  · cases h

lemma locateLog_ok {index : ℕ} {log : Str} {located : Located}
    (h : locateLog v fs runtime index log = .ok located) :
    logFile v fs runtime log = some located.content := by
  obtain ⟨p, hp, h⟩ := of_bind_eq_ok h
  obtain ⟨hr, hget⟩ := resolveFileInside_ok h
  rw [logFile, of_orError_eq_ok hp, Option.bind_some, hr, Option.bind_some, hget]

lemma manifestTest_cases {seen : List Str} {index : ℕ} {raw : Json} {t : TestEntry}
    (h : manifestTest v fs runtime seen index raw = .ok t) :
    ∃ ms, raw = .obj ms ∧ Json.hasKeys ms [lit "name", lit "status", lit "log", lit "sha256"] = true ∧
      strField (lit "name") ms = some t.name ∧ strField (lit "status") ms = some t.status ∧
      strField (lit "log") ms = some t.log ∧ strField (lit "sha256") ms = some t.sha256 ∧
      checkTestName seen index t.name t.status = .ok () ∧
        (∃ owner, safeRelativePath t.log owner false = .ok t.log) ∧
      isHexOf 64 t.sha256 = true ∧ Logged v fs runtime t := by
  unfold manifestTest at h
  split at h
  · rename_i ms
    obtain ⟨_, hkeys, h⟩ := of_bind_eq_ok h
    obtain ⟨name, hn, h⟩ := of_bind_eq_ok h
    obtain ⟨status, hs, h⟩ := of_bind_eq_ok h
    obtain ⟨log, hl, h⟩ := of_bind_eq_ok h
    obtain ⟨digest, hd, h⟩ := of_bind_eq_ok h
    obtain ⟨_, hname, h⟩ := of_bind_eq_ok h
    obtain ⟨relative, hrelative, h⟩ := of_bind_eq_ok h
    obtain ⟨_, hhex, h⟩ := of_bind_eq_ok h
    obtain ⟨located, hlocated, h⟩ := of_bind_eq_ok h
    obtain ⟨_, hdigest, h⟩ := of_bind_eq_ok h
    obtain rfl := Except.ok.inj h
    obtain rfl := safeRelativePath_ok hrelative
    exact ⟨ms, rfl, of_ensure hkeys, of_orError_eq_ok hn, of_orError_eq_ok hs, of_orError_eq_ok hl,
      of_orError_eq_ok hd, hname, ⟨_, hrelative⟩, of_ensure hhex, located.content, locateLog_ok hlocated,
      (eq_of_beq (of_ensure hdigest)).symm⟩
  · cases h

lemma manifestTest_ok {seen : List Str} {index : ℕ} {raw : Json} {t : TestEntry}
    (h : manifestTest v fs runtime seen index raw = .ok t) : ListsTest raw t := by
  obtain ⟨ms, rfl, -, hn, hs, hl, hd, -⟩ := manifestTest_cases h
  exact ⟨ms, rfl, hn, hs, hl, hd⟩

lemma validateRequiredArtifacts_ok {artifacts : List Artifact} {u : Unit}
    (h : validateRequiredArtifacts v fs runtime artifacts = .ok u) :
    ∀ role ∈ requiredRoles, (withRole artifacts role).length = 1 := by
  obtain ⟨_, -, h⟩ := of_bind_eq_ok h
  obtain ⟨_, hone, -⟩ := of_bind_eq_ok h
  intro role hrole
  have hfilter := List.filter_eq_nil_iff.mp (List.isEmpty_iff.mp (of_ensure hone)) role hrole
  simpa using hfilter

lemma mem_of_lookup {d : Dict} {key value : Str} (h : d.lookup key = some value) : (key, value) ∈ d := by
  obtain ⟨front, back, rfl, -⟩ := List.lookup_eq_some_iff.mp h
  simp

lemma lookup_iff_of_sameDict {d : Dict} {artifacts : List Artifact}
    (h : sameDict d (checksums artifacts) = true) (path digest : Str) :
    d.lookup path = some digest ↔ ∃ a ∈ artifacts, a.path = path ∧ a.sha256 = digest := by
  obtain ⟨hd, ha⟩ := Bool.and_eq_true_iff.mp h
  constructor
  · intro hl
    have hfound := mem_of_lookup (eq_of_beq (List.all_eq_true.mp hd _ (mem_of_lookup hl)))
    obtain ⟨a, ham, he⟩ := List.mem_map.mp hfound
    exact ⟨a, ham, Prod.mk.inj he⟩
  · rintro ⟨a, ham, rfl, rfl⟩
    exact eq_of_beq (List.all_eq_true.mp ha _ (List.mem_map_of_mem ham))

structure Accepted (v : Setting) (fs : FileSystem) (runtime repository : Path) (lock : Lock)
    (ms : List (Str × Json))
    (patches : List (PatchSeries.PatchEntry Digest)) (raws : List Json) (artifacts : List Artifact) (d : Dict)
    (raws' : List Json) (tests : List TestEntry) : Prop where
  keys : Json.hasKeys ms manifestKeys = true
  version : fieldIs ms (lit "schema_version") (.int 1) = true
  stage : fieldIs ms (lit "stage") (.str (lit "G1")) = true
  platform : fieldIs ms (lit "platform") platformJson = true
  sourceLock : fieldIs ms (lit "source_lock") sourceLockJson = true
  toolchain : fieldIs ms (lit "toolchain") (toolchainJson lock) = true
  dependencies : fieldIs ms (lit "dependencies") (dependenciesJson lock) = true
  applied : appliedPatchEntries v fs runtime repository = .ok patches
  sameSeries : fieldIs ms (lit "patches") (patchesJson patches) = true
  rawArtifacts : Json.field (lit "artifacts") ms = some (.arr raws)
  listed : List.Forall₂ (fun raw a => ∃ seen index, manifestArtifact seen index raw = .ok a) raws artifacts
  collected : collectArtifacts v fs runtime = .ok artifacts
  required : validateRequiredArtifacts v fs runtime artifacts = .ok ()
  parsed : parseChecksumManifest v fs (checksumPath runtime) = .ok d
  same : sameDict d (checksums artifacts) = true
  rawTests : Json.field (lit "tests") ms = some (.arr raws')
  tested : List.Forall₂ (fun raw t => ∃ seen index, manifestTest v fs runtime seen index raw = .ok t) raws' tests

lemma validateManifestTests_ok {j : Json} {tests : List TestEntry}
    (h : validateManifestTests v fs runtime j = .ok tests) : ∃ raws, j = .arr raws ∧
      List.Forall₂ (fun raw t => ∃ seen index, manifestTest v fs runtime seen index raw = .ok t) raws tests := by
  unfold validateManifestTests at h
  split at h
  · rename_i raws
    exact ⟨raws, rfl, testsFrom_ok h⟩
  · cases h

lemma verifyJson_cases {repository : Path} {lock : Lock} {manifest : Json} {u : Unit}
    (h : verifyJson v fs runtime repository lock manifest = .ok u) :
    ∃ ms patches raws artifacts d raws' tests, manifest = .obj ms ∧
      Accepted v fs runtime repository lock ms patches raws artifacts d raws' tests := by
  unfold verifyJson at h
  split at h
  · rename_i ms
    obtain ⟨_, hkeys, h⟩ := of_bind_eq_ok h
    obtain ⟨_, hversion, h⟩ := of_bind_eq_ok h
    obtain ⟨_, hplatform, h⟩ := of_bind_eq_ok h
    obtain ⟨_, hsource, h⟩ := of_bind_eq_ok h
    obtain ⟨_, htoolchain, h⟩ := of_bind_eq_ok h
    obtain ⟨_, hdependencies, h⟩ := of_bind_eq_ok h
    obtain ⟨patches, happlied, h⟩ := of_bind_eq_ok h
    obtain ⟨_, hpatches, h⟩ := of_bind_eq_ok h
    obtain ⟨raws, hraws, h⟩ := of_bind_eq_ok h
    obtain ⟨artifacts, hartifacts, h⟩ := of_bind_eq_ok h
    obtain ⟨actual, hactual, h⟩ := of_bind_eq_ok h
    obtain ⟨_, hsame, h⟩ := of_bind_eq_ok h
    obtain ⟨_, hrequired, h⟩ := of_bind_eq_ok h
    obtain ⟨d, hd, h⟩ := of_bind_eq_ok h
    obtain ⟨_, hdict, h⟩ := of_bind_eq_ok h
    obtain ⟨tests, htests, -⟩ := of_bind_eq_ok h
    obtain rfl := eq_of_beq (of_ensure hsame)
    obtain ⟨hone, hstage⟩ := Bool.and_eq_true_iff.mp (of_ensure hversion)
    have harr : Json.field (lit "artifacts") ms = some (.arr raws) := by
      have hsome := of_orError_eq_ok hraws
      split at hsome
      · rename_i raws' hfield
        obtain rfl := Option.some.inj hsome
        exact hfield
      · cases hsome
    obtain ⟨raws', hraws', htested⟩ := validateManifestTests_ok htests
    have harr' : Json.field (lit "tests") ms = some (.arr raws') := by
      cases hfield : Json.field (lit "tests") ms with
      | none =>
        rw [hfield] at hraws'
        cases hraws'
      | some j =>
        rw [hfield] at hraws'
        exact congrArg some hraws'
    exact ⟨ms, patches, raws, artifacts, d, raws', tests, rfl, of_ensure hkeys, hone, hstage, of_ensure hplatform,
      of_ensure hsource, of_ensure htoolchain, of_ensure hdependencies, happlied, of_ensure hpatches, harr,
      artifactsFrom_ok hartifacts, hactual, hrequired, hd, of_ensure hdict, harr', htested⟩
  · cases h

lemma verifyJson_ok {repository : Path} {lock : Lock} {manifest : Json} {u : Unit}
    (h : verifyJson v fs runtime repository lock manifest = .ok u) :
    ∃ artifacts tests, Lists manifest artifacts tests ∧ Verified v fs runtime artifacts tests := by
  obtain ⟨ms, patches, raws, artifacts, d, raws', tests, rfl, ha⟩ := verifyJson_cases h
  obtain ⟨hroot, hdescribes⟩ := collectArtifacts_describes ha.collected
  refine ⟨artifacts, tests, ⟨ms, raws, raws', rfl, ha.rawArtifacts, ha.rawTests, ?_, ?_⟩, hroot,
    (collected_of_collectArtifacts ha.collected).distinct, ⟨_, (sortBy_perm _ _).filter _, hdescribes⟩,
    validateRequiredArtifacts_ok ha.required, ⟨d, ha.parsed, lookup_iff_of_sameDict ha.same⟩, ?_⟩
  · refine ha.listed.imp ?_
    rintro raw a ⟨seen, index, hok⟩
    exact manifestArtifact_ok hok
  · refine ha.tested.imp ?_
    rintro raw t ⟨seen, index, hok⟩
    exact manifestTest_ok hok
  · intro t ht
    obtain ⟨raw, -, seen, index, hok⟩ := exists_of_forall₂ ha.tested.flip ht
    obtain ⟨ms, -, -, -, -, -, -, -, -, -, hlogged⟩ := manifestTest_cases hok
    exact hlogged

variable {fs' : FileSystem} {runtime' : Path} {artifacts : List Artifact} {tests : List TestEntry}

lemma Verified.exists_describes (h : Verified v fs runtime artifacts tests) {r : Path} {e : Entry}
    (he : fs.get (root runtime ++ r) = some e) (ht : isTracked (root runtime ++ r, e) = true) :
    (root runtime ++ r, e) ∈ walkRoot fs runtime ∧
      ∃ a ∈ artifacts, Describes v fs runtime (root runtime ++ r, e) a := by
  have hr : r ≠ [] := by
    rintro rfl
    rw [List.append_nil, isDir_iff.mp h.root_isDir] at he
    obtain rfl := Option.some.inj he
    cases ht
  have hmem : (root runtime ++ r, e) ∈ fs.below (root runtime) := by
    rw [below, List.mem_filter, Bool.and_eq_true, List.isPrefixOf_iff_prefix]
    exact ⟨(get_eq_some_iff (by simp [hr])).mp he, List.prefix_append _ _, by simp [hr]⟩
  obtain ⟨es, hperm, hall⟩ := h.complete
  refine ⟨mem_sortBy.mpr hmem, ?_⟩
  exact exists_of_forall₂ hall (hperm.mem_iff.mpr (List.mem_filter.mpr ⟨hmem, ht⟩))

lemma Verified.exists_tracked (h : Verified v fs runtime artifacts tests) {a : Artifact} (ha : a ∈ artifacts) :
    ∃ e ∈ walkRoot fs runtime, Describes v fs runtime e a := by
  obtain ⟨es, hperm, hall⟩ := h.complete
  obtain ⟨e, he, hd⟩ := exists_of_forall₂ hall.flip ha
  exact ⟨e, mem_sortBy.mpr (List.mem_filter.mp (hperm.mem_iff.mp he)).1, hd⟩

lemma get_of_mem_entries {e : Path × Entry} (h : e ∈ fs.entries) : fs.get e.1 = some e.2 :=
  (get_eq_some_iff (fs.names e.1 (List.mem_map_of_mem h)).1).mpr h

lemma hex_injective {d d' : Digest} (h : d.hex = d'.hex) : d = d' := by
  cases d
  cases d'
  simpa using h

lemma mem_contents {p : Path} {f : File} {x : Bool} (h : (p, .file f x) ∈ fs.entries) : f.bytes ∈ contents fs :=
  List.mem_filterMap.mpr ⟨_, h, rfl⟩

lemma kept_of_verified (h : Verified v fs runtime artifacts tests) (h' : Verified v fs' runtime' artifacts tests)
    (hc : NoCollision v fs fs') {r : Path} {k : Utf8.Bytes ⊕ Utf8.Bytes}
    (hk : (fs.get (root runtime ++ r)).bind kept = some k) :
    (fs'.get (root runtime' ++ r)).bind kept = some k := by
  obtain ⟨e, he, hk⟩ := Option.bind_eq_some_iff.mp hk
  have ht : isTracked (root runtime ++ r, e) = true := by
    cases e with
    | file | link => rfl
    | dir | other => cases hk
  obtain ⟨hmem, a, ha, hpath, -, hdesc⟩ := h.exists_describes he ht
  obtain ⟨⟨p, e'⟩, hmem', hpath', -, hdesc'⟩ := h'.exists_tracked ha
  obtain ⟨r', hr, hr'⟩ := relativeTo_eq hmem hmem' (hpath.symm.trans hpath')
  obtain rfl := List.append_cancel_left hr
  obtain rfl : p = root runtime' ++ r := hr'
  rw [get_of_mem_entries (mem_walkRoot hmem').1, Option.bind_some]
  have hkinds : lit "file" ≠ lit "symlink" := by decide
  cases e with
  | dir | other => cases hk
  | file content x =>
    cases e' with
    | dir | other => cases hdesc'
    | link text => exact absurd (hdesc.1.symm.trans hdesc'.1) hkinds
    | file content' x' =>
      have hbytes := hc _ (mem_contents (mem_walkRoot hmem).1) _ (mem_contents (mem_walkRoot hmem').1)
        (hex_injective (hdesc.2.2.symm.trans hdesc'.2.2))
      rw [← hk, kept, kept, hbytes]
  | link text =>
    cases e' with
    | dir | other => cases hdesc'
    | file content' x' => exact absurd (hdesc'.1.symm.trans hdesc.1) hkinds
    | link text' =>
      have htext := fsdecode_injective (Option.some.inj (hdesc.2.1.symm.trans hdesc'.2.1))
      rw [← hk, kept, kept, htext]

lemma NoCollision.symm (hc : NoCollision v fs fs') : NoCollision v fs' fs :=
  fun b hb b' hb' h => (hc b' hb' b hb h.symm).symm

lemma kept_eq (h : Verified v fs runtime artifacts tests) (h' : Verified v fs' runtime' artifacts tests)
    (hc : NoCollision v fs fs') (r : Path) :
    (fs.get (root runtime ++ r)).bind kept = (fs'.get (root runtime' ++ r)).bind kept :=
  Option.ext fun _ => ⟨kept_of_verified h h' hc, kept_of_verified h' h hc.symm⟩

lemma logFile_mem {log : Str} {content : File} (h : logFile v fs runtime log = some content) :
    content.bytes ∈ contents fs := by
  obtain ⟨p, -, h⟩ := Option.bind_eq_some_iff.mp h
  obtain ⟨q, -, h⟩ := Option.bind_eq_some_iff.mp h
  split at h
  · rename_i f x hget
    obtain rfl := Option.some.inj h
    have hq : q ≠ [] := by
      rintro rfl
      cases hget
    exact mem_contents ((get_eq_some_iff hq).mp hget)
  · cases h

lemma logFile_eq (h : Verified v fs runtime artifacts tests) (h' : Verified v fs' runtime' artifacts tests)
    (hc : NoCollision v fs fs') {t : TestEntry} (ht : t ∈ tests) :
    logFile v fs runtime t.log = logFile v fs' runtime' t.log := by
  obtain ⟨⟨bs, hbs⟩, hl, hd⟩ := h.logs t ht
  obtain ⟨⟨bs', hbs'⟩, hl', hd'⟩ := h'.logs t ht
  obtain rfl := hc _ (logFile_mem hl) _ (logFile_mem hl') (hex_injective (hd.symm.trans hd'))
  rw [hl, hl']

end

/-- A runtime directory that is accepted holds what its manifest lists, and every other one that is
accepted with the same manifest holds the same. -/
theorem verifyManifest_sound (v : Setting) (fs : FileSystem) (runtime repository : Path) (lock : Lock)
    (h : verifyManifest v fs runtime repository lock = .ok ()) :
    ∃ manifest artifacts tests, readJson v fs (manifestPath runtime) = some manifest ∧
      Lists manifest artifacts tests ∧ Verified v fs runtime artifacts tests ∧
      ∀ fs' runtime' repository' lock', verifyManifest v fs' runtime' repository' lock' = .ok () →
        fs'.readBytes v.steps (manifestPath runtime') = fs.readBytes v.steps (manifestPath runtime) →
        NoCollision v fs fs' →
        (∀ r, (fs.get (root runtime ++ r)).bind kept = (fs'.get (root runtime' ++ r)).bind kept) ∧
          ∀ t ∈ tests, logFile v fs runtime t.log = logFile v fs' runtime' t.log := by
  obtain ⟨manifest, hmanifest, hjson⟩ := of_bind_eq_ok h
  have hread := of_orError_eq_ok hmanifest
  obtain ⟨artifacts, tests, hlists, hverified⟩ := verifyJson_ok hjson
  refine ⟨manifest, artifacts, tests, hread, hlists, hverified, ?_⟩
  intro fs' runtime' repository' lock' h' hbytes hc
  obtain ⟨manifest', hmanifest', hjson'⟩ := of_bind_eq_ok h'
  have hread' := of_orError_eq_ok hmanifest'
  obtain ⟨artifacts', tests', hlists', hverified'⟩ := verifyJson_ok hjson'
  have hsame : readJson v fs' (manifestPath runtime') = readJson v fs (manifestPath runtime) := by
    rw [readJson, readJson, readText, readText, hbytes]
  obtain rfl := Option.some.inj (hread'.symm.trans (hsame.trans hread))
  obtain ⟨rfl, rfl⟩ := hlists'.unique hlists
  exact ⟨kept_eq hverified hverified' hc, fun t ht => logFile_eq hverified hverified' hc ht⟩

/-- A hash that tells lengths apart: the length in binary. -/
def lengthDigest (bs : Utf8.Bytes) : Digest where
  hex := (List.range 64).map fun i => if bs.length.testBit i then 49 else 48
  isHex := by
    rw [isHexOf, Bool.and_eq_true, List.all_map, List.all_eq_true]
    refine ⟨by simp, ?_⟩
    intro i _
    rw [Function.comp]
    split_ifs <;> rfl

def lengthSetting : Setting := ⟨lengthDigest, 9⟩

def runnable (x : Bool) : FileSystem where
  entries := [([bytes "out"], .dir), ([bytes "out", bytes "root"], .dir),
    ([bytes "out", bytes "root", bytes "bin"], .dir),
    ([bytes "out", bytes "root", bytes "bin", bytes "wine"], .file ⟨sampleElf, sampleElf_length_lt⟩ true),
    ([bytes "out", bytes "root", bytes "bin", bytes "wine64"], .link (bytes "wine")),
    ([bytes "out", bytes "root", bytes "libarm64ecfex.dll"], .file (Pe.sampleFile 0x3000) x),
    ([bytes "out", bytes "root", bytes "libwow64fex.dll"], .file ⟨sampleWow64, sampleWow64_length_lt⟩ false),
    ([bytes "out", bytes "boot.log"], .file ⟨bytes "ok", by decide⟩ false),
    ([bytes "src"], .dir), ([bytes "src", bytes "patches"], .dir),
    ([bytes "src", bytes "patches", bytes "wine"], .dir), ([bytes "src", bytes "patches", bytes "fex"], .dir)]
  nodup := by decide +revert
  names := by decide +revert
  parents := by simp

def bootTest : Dict :=
  [(lit "name", lit "boot"), (lit "status", lit "PASS"), (lit "log", lit "boot.log"),
    (lit "sha256", (lengthDigest (bytes "ok")).hex)]

def published (x : Bool) : FileSystem :=
  (generateManifest lengthSetting [bytes "out"] [bytes "src"] ⟨[], [], []⟩ [bootTest] (runnable x)).1

def isAccepted (fs : FileSystem) : Bool :=
  (verifyManifest lengthSetting fs [bytes "out"] [bytes "src"] ⟨[], [], []⟩).isOk

lemma published_facts : (isAccepted (published false) = true ∧ isAccepted (published true) = true) ∧
    (published true).readBytes 9 (manifestPath [bytes "out"]) =
      (published false).readBytes 9 (manifestPath [bytes "out"]) ∧
    ∀ b ∈ contents (published false), ∀ b' ∈ contents (published true), lengthDigest b = lengthDigest b' →
      b = b' := by
  decide +kernel

lemma verify_of_isAccepted {fs : FileSystem} (h : isAccepted fs = true) :
    verifyManifest lengthSetting fs [bytes "out"] [bytes "src"] ⟨[], [], []⟩ = .ok () := by
  unfold isAccepted at h
  cases hv : verifyManifest lengthSetting fs [bytes "out"] [bytes "src"] ⟨[], [], []⟩ with
  | error r =>
    rw [hv] at h
    cases h
  | ok u => rfl

theorem verifyManifest_sound_published : ∃ artifacts tests,
    Verified lengthSetting (published false) [bytes "out"] artifacts tests ∧
      ∀ r, ((published false).get (root [bytes "out"] ++ r)).bind kept =
        ((published true).get (root [bytes "out"] ++ r)).bind kept := by
  obtain ⟨⟨h, h'⟩, hbytes, hc⟩ := published_facts
  obtain ⟨-, artifacts, tests, -, -, hverified, hsame⟩ := verifyManifest_sound lengthSetting (published false)
    [bytes "out"] [bytes "src"] ⟨[], [], []⟩ (verify_of_isAccepted h)
  exact ⟨artifacts, tests, hverified, (hsame _ _ _ _ (verify_of_isAccepted h') hbytes hc).1⟩

end Graft64.Runtime.Manifest
