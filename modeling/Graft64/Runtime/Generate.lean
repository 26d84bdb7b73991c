import Graft64.Library.JsonAscii
import Graft64.Runtime.Checksums

/-! `generate_manifest`: the checks, and the two files that are written after them. -/

namespace Graft64.Runtime.Manifest

open Graft64.Library Utf8 Unpack Results DepsLock FileSystem
open PatchSeries (PatchEntry)

def artifactJson (a : Artifact) : Json :=
  .obj [(lit "path", .str a.path), (lit "sha256", .str a.sha256), (lit "role", .str a.role),
    (lit "kind", .str a.kind), (lit "link_target", match a.linkTarget with
      | some target => .str target
      | none => .null)]

/-- The dictionary that `generate_manifest` builds, from tests given as dictionaries of strings. -/
def manifestJson (lock : Lock) (tests : List Dict) (artifacts : List Artifact)
    (patches : List (PatchEntry Digest)) : Json :=
  .obj [(lit "schema_version", .int 1), (lit "stage", .str (lit "G1")), (lit "platform", platformJson),
    (lit "source_lock", sourceLockJson), (lit "toolchain", toolchainJson lock),
    (lit "dependencies", dependenciesJson lock), (lit "patches", patchesJson patches),
    (lit "artifacts", .arr (artifacts.map artifactJson)),
    (lit "tests", .arr (tests.map fun t => .obj (dictJson t)))]

def manifestPath (runtime : Path) : Path := runtime ++ [bytes "runtime-manifest.json"]

inductive GenerateError
  | check (r : Refusal)
  | write (e : WriteError)

section

variable (v : Setting) (runtime repository : Path) (lock : Lock) (tests : List Dict)

def checkRuntime (fs : FileSystem) : Except Refusal (List Artifact × List (PatchEntry Digest)) := do
  let artifacts ← collectArtifacts v fs runtime
  validateRequiredArtifacts v fs runtime artifacts
  let patches ← appliedPatchEntries v fs runtime repository
  return (artifacts, patches)

def manifestText (artifacts : List Artifact) (patches : List (PatchEntry Digest)) : Str :=
  Json.dumps (manifestJson lock tests artifacts patches) ++ [10]

def generateManifest (fs : FileSystem) : FileSystem × Except GenerateError Path :=
  match checkRuntime v runtime repository fs with
  | .error r => (fs, .error (.check r))
  | .ok (artifacts, patches) =>
    match writeText v.steps (manifestPath runtime) (manifestText lock tests artifacts patches) fs with
    | (fs', .error e) => (fs', .error (.write e))
    | (fs', .ok ()) => match writeChecksumManifest v.steps runtime artifacts fs' with
      | (fs'', .error e) => (fs'', .error (.write e))
      | (fs'', .ok ()) => (fs'', .ok (manifestPath runtime))

def SameFile (fs fs' : FileSystem) (p : Path) : Prop :=
  fs'.get p = fs.get p ∧ fs'.readBytes v.steps p = fs.readBytes v.steps p

def Untouched (fs : FileSystem) : Prop :=
  ∀ fs' e, generateManifest v runtime repository lock tests fs = (fs', .error e) →
    SameFile v fs fs' (manifestPath runtime) ∧ SameFile v fs fs' (checksumPath runtime)

def LeftBefore (fs : FileSystem) (artifacts : List Artifact) (patches : List (PatchEntry Digest)) : Prop :=
  fs.readBytes v.steps (checksumPath runtime) = some [] ∧
    fs.readBytes v.steps (manifestPath runtime) =
      if fs.openPath v.steps [] (manifestPath runtime) = fs.openPath v.steps [] (checksumPath runtime) then some []
      else encode (manifestText lock tests artifacts patches)

def Encodable (fs : FileSystem) : Prop :=
  ∀ artifacts patches, checkRuntime v runtime repository fs = .ok (artifacts, patches) →
    (∀ a ∈ artifacts, encode a.path ≠ none) ∨ LeftBefore v runtime lock tests fs artifacts patches

end

lemma encode_manifestText (lock : Lock) (tests : List Dict) (artifacts : List Artifact)
    (patches : List (PatchEntry Digest)) : ∃ bs, encode (manifestText lock tests artifacts patches) = some bs := by
  refine ⟨_, encode_ascii ?_⟩
  rw [manifestText]
  exact Json.ascii_append.mpr ⟨Json.render_ascii 0 _, by decide⟩

lemma encode_checksumText {artifacts : List Artifact} (hc : Collected artifacts) :
    encode (checksumText artifacts) ≠ none ↔ ∀ a ∈ artifacts, encode a.path ≠ none := by
  simp only [encode_ne_none_iff, checksumText_eq, List.mem_flatMap, List.mem_map]
  constructor
  · intro h a ha c hca
    refine h c ⟨_, ⟨a, ha, rfl⟩, ?_⟩
    simp [checksumLine, hca]
  · rintro h c ⟨_, ⟨a, ha, rfl⟩, hcl⟩
    rw [checksumLine, List.mem_append, List.mem_append, List.mem_append] at hcl
    have hascii {c : ℕ} (hlt : c < 0x80) : encodeChar c ≠ none := by simp [encodeChar, hlt]
    rcases hcl with ((hcl | hcl) | hcl) | hcl
    · have hhex := List.all_eq_true.mp (Bool.and_eq_true_iff.mp (hc.digest a ha)).2 c hcl
      simp only [isHex, decide_eq_true_eq] at hhex
      exact hascii (by omega)
    · have h32 : ∀ c ∈ lit "  ", c < 0x80 := by decide
      exact hascii (h32 c hcl)
    · exact h a ha c hcl
    · rw [List.mem_singleton.mp hcl]
      exact hascii (by decide)

variable {v : Setting} {runtime repository : Path} {lock : Lock} {tests : List Dict} {fs : FileSystem}

lemma checkRuntime_collected {artifacts : List Artifact} {patches : List (PatchEntry Digest)}
    (h : checkRuntime v runtime repository fs = .ok (artifacts, patches)) : Collected artifacts := by
  obtain ⟨artifacts', ha, h⟩ := of_bind_eq_ok h
  obtain ⟨_, -, h⟩ := of_bind_eq_ok h
  obtain ⟨_, -, h⟩ := of_bind_eq_ok h
  obtain ⟨rfl, -⟩ := Prod.mk.inj (Except.ok.inj h)
  exact collected_of_collectArtifacts ha

lemma sameFile_of_get {fs' : FileSystem} (h : ∀ q, fs'.get q = fs.get q) (p : Path) : SameFile v fs fs' p := by
  have hs : SameShape fs fs' := fun q => .inl (h q)
  refine ⟨h p, ?_⟩
  rw [readBytes, readBytes, stat, stat, hs.walk]
  cases fs.walk true v.steps [] p with
  | none => rfl
  | some q => rw [Option.bind_some, Option.bind_some, h]

lemma generateManifest_cases {artifacts : List Artifact} {patches : List (PatchEntry Digest)}
    (hc : checkRuntime v runtime repository fs = .ok (artifacts, patches))
    (hdisk : ∀ fs', generateManifest v runtime repository lock tests fs ≠ (fs', .error (.write .os))) :
    ((∀ a ∈ artifacts, encode a.path ≠ none) ∧
        ∃ fs', generateManifest v runtime repository lock tests fs = (fs', .ok (manifestPath runtime))) ∨
      ¬(∀ a ∈ artifacts, encode a.path ≠ none) ∧
        ∃ fs₁ fs₂ place₁ place₂ content,
          generateManifest v runtime repository lock tests fs = (fs₂, .error (.write .unicode)) ∧
          fs.openPath v.steps [] (manifestPath runtime) = some place₁ ∧
          encode (manifestText lock tests artifacts patches) = some content.bytes ∧
          fs.store place₁ content = some fs₁ ∧
          fs₁.openPath v.steps [] (checksumPath runtime) = some place₂ ∧
            fs₁.store place₂ emptyFile = some fs₂ := by
  have hcollected := checkRuntime_collected hc
  obtain ⟨bs, hbs⟩ := encode_manifestText lock tests artifacts patches
  rw [← encode_checksumText hcollected]
  unfold generateManifest at hdisk ⊢
  simp only [hc] at hdisk ⊢
  cases hw : writeText v.steps (manifestPath runtime) (manifestText lock tests artifacts patches) fs with
  | mk fs₁ r₁ =>
    cases r₁ with
    | error e =>
      cases e with
      | os =>
        have hd := hdisk fs₁
        rw [hw] at hd
        exact absurd rfl hd
      | unicode =>
        rw [(writeText_unicode hw).1] at hbs
        cases hbs
    | ok =>
      simp only [hw] at hdisk ⊢
      cases hw₂ : writeChecksumManifest v.steps runtime artifacts fs₁ with
      | mk fs₂ r₂ =>
        cases r₂ with
        | error e =>
          cases e with
          | os =>
            have hd := hdisk fs₂
            rw [hw₂] at hd
            exact absurd rfl hd
          | unicode =>
            obtain ⟨hnone, place₂, h₂, hs₂⟩ := writeText_unicode hw₂
            obtain ⟨bs', place₁, content, hb, h₁, rfl, hs₁⟩ := writeText_ok hw
            exact .inr ⟨by simp [hnone], fs₁, fs₂, place₁, place₂, content, rfl, h₁, hb, hs₁, h₂, hs₂⟩
        | ok =>
          obtain ⟨bs', -, -, hb, -⟩ := writeText_ok hw₂
          exact .inl ⟨by simp [hb], fs₂, rfl⟩

/-- A call that ends with an error leaves both files as they were exactly when the checks refuse, every
path of an artifact can be encoded, or the files hold already what the call leaves. -/
theorem untouched_iff (v : Setting) (runtime repository : Path) (lock : Lock) (tests : List Dict) (fs : FileSystem)
    (hdisk : ∀ fs', generateManifest v runtime repository lock tests fs ≠ (fs', .error (.write .os))) :
    Untouched v runtime repository lock tests fs ↔ Encodable v runtime repository lock tests fs := by
  cases hc : checkRuntime v runtime repository fs with
  | error r =>
    have hg : generateManifest v runtime repository lock tests fs = (fs, .error (.check r)) := by
      simp only [generateManifest, hc]
    refine iff_of_true ?_ ?_
    · intro fs' e h
      obtain rfl := (Prod.mk.inj (hg.symm.trans h)).1
      exact ⟨⟨rfl, rfl⟩, ⟨rfl, rfl⟩⟩
    · intro artifacts patches h
      rw [hc] at h
      cases h
  | ok found =>
    obtain ⟨artifacts, patches⟩ := found
    have hencodable : Encodable v runtime repository lock tests fs ↔
        (∀ a ∈ artifacts, encode a.path ≠ none) ∨ LeftBefore v runtime lock tests fs artifacts patches := by
      constructor
      · exact fun h => h artifacts patches hc
      · intro h artifacts' patches' hc'
        obtain ⟨rfl, rfl⟩ := Prod.mk.inj (Except.ok.inj (hc.symm.trans hc'))
        exact h
    rw [hencodable]
    rcases generateManifest_cases hc hdisk with ⟨hall, fs', hg⟩
    | ⟨hall, fs₁, fs₂, place₁, place₂, content, hg, h₁, hb, hs₁, h₂, hs₂⟩
    · refine iff_of_true ?_ (.inl hall)
      intro fs'' e h
      rw [hg] at h
      cases (Prod.mk.inj h).2
    · rw [or_iff_right hall, LeftBefore, hb]
      constructor
      · intro h
        obtain ⟨hm, hk⟩ := h fs₂ _ hg
        exact of_readBytes_store_store h₁ hs₁ h₂ hs₂ hm.2 hk.2
      · rintro ⟨hr₂, hr₁⟩ fs' e h
        obtain rfl := (Prod.mk.inj (hg.symm.trans h)).1
        have hget := get_store_store h₁ hs₁ h₂ hs₂ hr₂ hr₁
        exact ⟨sameFile_of_get hget _, sameFile_of_get hget _⟩

open LittleEndian in
def sampleElf : Unpack.Bytes :=
  [0x7f, 0x45, 0x4c, 0x46, 2, 1, 1] ++ List.replicate 9 0 ++ encode 2 2 ++ encode 2 183 ++ encode 4 1 ++
    List.replicate 8 0 ++ encode 8 64 ++ List.replicate 12 0 ++ encode 2 64 ++ encode 2 56 ++ encode 2 1 ++
    List.replicate 6 0 ++ encode 4 1 ++ List.replicate 52 0

open LittleEndian in
def sampleWow64 : Unpack.Bytes :=
  [0x4d, 0x5a] ++ List.replicate 58 0 ++ encode 4 64 ++ [0x50, 0x45, 0, 0] ++ encode 2 0xAA64 ++ encode 2 1 ++
    List.replicate 12 0 ++ encode 2 2 ++ encode 2 0 ++ [0x0b, 0x02] ++ List.replicate 40 0

lemma sampleElf_length_lt : sampleElf.length < 2 ^ 63 := by simp [sampleElf]

lemma sampleWow64_length_lt : sampleWow64.length < 2 ^ 63 := by simp [sampleWow64]

def undecodable : FileSystem where
  entries := [([bytes "out"], .dir), ([bytes "out", bytes "root"], .dir),
    ([bytes "out", bytes "root", bytes "bin"], .dir),
    ([bytes "out", bytes "root", bytes "bin", bytes "wine"], .file ⟨sampleElf, sampleElf_length_lt⟩ true),
    ([bytes "out", bytes "root", bytes "libarm64ecfex.dll"], .file (Pe.sampleFile 0x3000) false),
    ([bytes "out", bytes "root", bytes "libwow64fex.dll"], .file ⟨sampleWow64, sampleWow64_length_lt⟩ false),
    ([bytes "out", bytes "root", [0x80]], .file emptyFile false),
    ([bytes "src"], .dir), ([bytes "src", bytes "patches"], .dir),
    ([bytes "src", bytes "patches", bytes "wine"], .dir), ([bytes "src", bytes "patches", bytes "fex"], .dir)]
  nodup := by decide
  names := by decide
  parents := by decide

def generateSample : FileSystem × Except GenerateError Path :=
  generateManifest sampleSetting [bytes "out"] [bytes "src"] ⟨[], [], []⟩ [] undecodable

lemma generateSample_unicode : (match generateSample with
    | (fs', .error (.write .unicode)) => (fs'.readBytes 9 (manifestPath [bytes "out"])).isSome
    | _ => false) = true := by
  decide +kernel

lemma exists_generateSample : ∃ fs', generateSample = (fs', .error (.write .unicode)) ∧
    (fs'.readBytes 9 (manifestPath [bytes "out"])).isSome = true := by
  have h := generateSample_unicode
  split at h
  · rename_i fs' he
    exact ⟨fs', he, h⟩
  · cases h

/-- The manifest is there and the checksums are not. -/
theorem not_untouched :
    ¬Untouched sampleSetting [bytes "out"] [bytes "src"] ⟨[], [], []⟩ [] undecodable := by
  intro h
  obtain ⟨fs', hg, hsome⟩ := exists_generateSample
  have hread := (h fs' _ hg).1.2
  have hnone : undecodable.readBytes 9 (manifestPath [bytes "out"]) = none := by decide
  rw [sampleSetting, hnone] at hread
  rw [hread] at hsome
  cases hsome

theorem untouched_iff_undecodable :
    Untouched sampleSetting [bytes "out"] [bytes "src"] ⟨[], [], []⟩ [] undecodable ↔
      Encodable sampleSetting [bytes "out"] [bytes "src"] ⟨[], [], []⟩ [] undecodable := by
  refine untouched_iff sampleSetting [bytes "out"] [bytes "src"] ⟨[], [], []⟩ [] undecodable ?_
  intro fs' h
  obtain ⟨fs'', hg, -⟩ := exists_generateSample
  cases (Prod.mk.inj (hg.symm.trans h)).2

end Graft64.Runtime.Manifest
