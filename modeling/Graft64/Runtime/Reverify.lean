import Graft64.Runtime.ReadBack
import Graft64.Runtime.RequiredFields
import Graft64.Runtime.Unchanged

/-! `generate_manifest` and then `verify_manifest`: what is written is accepted exactly when nothing
that was hashed was written over. -/

namespace Graft64.Runtime.Manifest

open Graft64.Library Utf8 Unpack Results DepsLock FileSystem Json
open PatchSeries (Dependency PatchEntry)

structure Undisturbed (v : Setting) (runtime repository : Path) (tests : List TestEntry) (fs fs' : FileSystem) :
    Prop where
  apart : fs.openPath v.steps [] (manifestPath runtime) ≠ fs.openPath v.steps [] (checksumPath runtime)
  root : ∀ q, root runtime <+: q → fs'.get q = fs.get q
  state : fs'.readBytes v.steps (statePath runtime) = fs.readBytes v.steps (statePath runtime)
  patches : ∀ d name, (bytes ".patch") <:+ name →
    fs'.get (patchFile repository d name) = fs.get (patchFile repository d name)
  logs : ∀ t ∈ tests, logFile v fs' runtime t.log = logFile v fs runtime t.log
  lines : ∀ artifacts, collectArtifacts v fs runtime = .ok artifacts → OneLine artifacts

structure Generated (v : Setting) (runtime repository : Path) (lock : Lock) (tests : List TestEntry)
    (fs fs' : FileSystem) (artifacts : List Artifact) (patches : List (PatchEntry Digest)) where
  collected : collectArtifacts v fs runtime = .ok artifacts
  required : validateRequiredArtifacts v fs runtime artifacts = .ok ()
  applied : appliedPatchEntries v fs runtime repository = .ok patches
  fs₁ : FileSystem
  place₁ : Path × Unpack.Bytes
  place₂ : Path × Unpack.Bytes
  content₁ : File
  content₂ : File
  open₁ : fs.openPath v.steps [] (manifestPath runtime) = some place₁
  text₁ : encode (manifestText lock (tests.map testDict) artifacts patches) = some content₁.bytes
  store₁ : fs.store place₁ content₁ = some fs₁
  open₂ : fs₁.openPath v.steps [] (checksumPath runtime) = some place₂
  text₂ : encode (checksumText artifacts) = some content₂.bytes
  store₂ : fs₁.store place₂ content₂ = some fs'

variable {v : Setting} {fs fs' : FileSystem} {runtime repository : Path} {lock : Lock} {tests : List TestEntry}
  {artifacts : List Artifact} {patches : List (PatchEntry Digest)}

lemma exists_generated {p : Path}
    (h : generateManifest v runtime repository lock (tests.map testDict) fs = (fs', .ok p)) :
    ∃ artifacts patches, Nonempty (Generated v runtime repository lock tests fs fs' artifacts patches) := by
  unfold generateManifest at h
  split at h
  · cases (Prod.mk.inj h).2
  · rename_i artifacts patches hc
    split at h
    · cases (Prod.mk.inj h).2
    · rename_i fs₁ hw₁
      split at h
      · cases (Prod.mk.inj h).2
      · rename_i fs₂ hw₂
        obtain rfl := (Prod.mk.inj h).1
        obtain ⟨artifacts', ha, hc⟩ := of_bind_eq_ok hc
        obtain ⟨u, hrequired, hc⟩ := of_bind_eq_ok hc
        obtain ⟨patches', hp, hc⟩ := of_bind_eq_ok hc
        obtain ⟨rfl, rfl⟩ := Prod.mk.inj (Except.ok.inj hc)
        obtain ⟨_, place₁, content₁, hb₁, ho₁, rfl, hs₁⟩ := writeText_ok hw₁
        obtain ⟨_, place₂, content₂, hb₂, ho₂, rfl, hs₂⟩ := writeText_ok hw₂
        exact ⟨artifacts', patches',
          ⟨ha, hrequired, hp, fs₁, place₁, place₂, content₁, content₂, ho₁, hb₁, hs₁, ho₂, hb₂, hs₂⟩⟩

namespace Generated

variable (g : Generated v runtime repository lock tests fs fs' artifacts patches)

include g

lemma overwritten₁ : Overwritten fs g.fs₁ := overwritten_store g.open₁ g.store₁

lemma overwritten : Overwritten fs fs' := g.overwritten₁.trans (overwritten_store g.open₂ g.store₂)

lemma apart_iff : fs.openPath v.steps [] (manifestPath runtime) ≠ fs.openPath v.steps [] (checksumPath runtime) ↔
    g.place₁ ≠ g.place₂ := by
  have h₂ := g.open₂
  rw [g.overwritten₁.openPath] at h₂
  rw [g.open₁, h₂, Ne, Option.some.injEq]

lemma readBytes_or (p : List Utf8.Bytes) : fs'.readBytes v.steps p = fs.readBytes v.steps p ∨
    fs'.readBytes v.steps p = some g.content₁.bytes ∨ fs'.readBytes v.steps p = some g.content₂.bytes := by
  rcases readBytes_store_or g.open₂ g.store₂ v.steps p with h | h
  · rw [h]
    exact (readBytes_store_or g.open₁ g.store₁ v.steps p).imp_right .inl
  · exact .inr (.inr h)

lemma readBytes_checksums : fs'.readBytes v.steps (checksumPath runtime) = some g.content₂.bytes :=
  readBytes_store g.open₂ g.store₂

lemma readBytes_manifest : fs'.readBytes v.steps (manifestPath runtime) =
    some (if g.place₁ = g.place₂ then g.content₂.bytes else g.content₁.bytes) := by
  have hwalk : fs'.walk true v.steps [] (manifestPath runtime) = some (located g.place₁) :=
    (overwritten_store g.open₂ g.store₂).walk (walk_openPath g.open₁ g.store₁)
  have hget₁ := get_store g.store₁ (located g.place₁)
  have hget₂ := get_store g.store₂ (located g.place₁)
  rw [if_pos rfl] at hget₁
  split_ifs with he
  · rw [if_pos (congrArg located he)] at hget₂
    exact readBytes_of_get hwalk hget₂
  · rw [if_neg fun h => he (located_inj h), hget₁] at hget₂
    exact readBytes_of_get hwalk hget₂

lemma artifacts_ne_nil : artifacts ≠ [] := by
  have hone := validateRequiredArtifacts_ok g.required (lit "wine-loader") (by simp [requiredRoles])
  rintro rfl
  cases hone

end Generated

lemma universalNewlines_append {s t : Str} (h : 13 ∉ s) :
    universalNewlines (s ++ t) = s ++ universalNewlines t := by
  induction s with
  | nil => rfl
  | cons c s ih =>
    rw [List.mem_cons, not_or] at h
    rw [List.cons_append, universalNewlines.eq_def]
    split
    · rename_i he
      exact absurd (List.cons.inj he).1.symm h.1
    · rename_i he
      exact absurd (List.cons.inj he).1.symm h.1
    · rename_i he
      obtain ⟨rfl, rfl⟩ := List.cons.inj he
      rw [ih h.2]
      rfl
    · rename_i he
      cases he

lemma parse_checksums {a : Artifact} (ha : Listable a) (as : List Artifact) :
    parse true (universalNewlines (checksumText (a :: as))) = none := by
  obtain ⟨-, rest, hpath⟩ := exists_cons_of_safe (ha.safe [])
  obtain ⟨hlen, hhex⟩ := Bool.and_eq_true_iff.mp ha.digest
  have hd : ∀ c ∈ a.sha256, 48 ≤ c ∧ c ≤ 57 ∨ 97 ≤ c ∧ c ≤ 102 := by
    intro c hc
    simpa [isHex] using List.all_eq_true.mp hhex c hc
  have hspaces : lit "  " = [32, 32] := by decide
  obtain ⟨t, ht⟩ : ∃ t, checksumText (a :: as) = (a.sha256 ++ [32, 32, 114]) ++ t := by
    rw [checksumText_eq, List.map_cons, List.flatMap_cons, checksumLine, hpath, hspaces]
    exact ⟨_, by simp only [List.append_assoc, List.cons_append, List.nil_append]; rfl⟩
  have h13 : 13 ∉ a.sha256 ++ [32, 32, 114] := by
    intro hm
    rcases List.mem_append.mp hm with hm | hm
    · have := hd 13 hm
      omega
    · simp at hm
  rw [ht, universalNewlines_append h13, List.append_assoc]
  exact parse_hex_eq_none hd (by rw [eq_of_beq hlen]; decide) ⟨114, by simp, by decide⟩

lemma readJson_encoded {p : Path} {bs : Utf8.Bytes} {text : Str} (hr : fs.readBytes v.steps p = some bs)
    (he : encode text = some bs) : readJson v fs p = parse true (universalNewlines text) := by
  rw [readJson, readText, hr, Option.bind_some, decode_encode he]
  rfl

lemma printed_manifestText : 13 ∉ manifestText lock (tests.map testDict) artifacts patches := by
  rw [manifestText, List.mem_append, not_or]
  refine ⟨?_, by simp⟩
  intro h
  have := printed_render 0 (sortKeys (manifestJson lock (tests.map testDict) artifacts patches)) 13 h
  omega

lemma lowly_intercalate {ss : List Str} (h : ∀ s ∈ ss, Lowly s) : Lowly ([47].intercalate ss) := by
  induction ss with
  | nil => simp [Lowly]
  | cons s ss ih =>
    obtain ⟨hs, hss⟩ := List.forall_mem_cons.mp h
    cases ss with
    | nil => rwa [List.intercalate_singleton]
    | cons s' ss =>
      rw [List.intercalate_cons_cons]
      exact (hs.append (.of_ascii (by decide))).append (ih hss)

lemma lowly_relativeTo (p : Path) : Lowly (relativeTo runtime p) := by
  refine lowly_intercalate ?_
  rw [List.forall_mem_map]
  exact fun n _ => lowly_fsdecode n

lemma lowly_patches {es : List (PatchEntry Digest)}
    (h : PatchSeries.patchEntries v.sha256 (patchTree v fs repository) = .ok es) :
    ∀ e ∈ es, Lowly e.path := by
  intro e he
  obtain ⟨name, hpath, -⟩ := (patchEntries_series h e.dependency).1 e he rfl
  have hascii : Ascii (lit "patches/" ++ lit e.dependency.name ++ lit "/") := by cases e.dependency <;> decide
  rw [hpath]
  exact (Lowly.of_ascii hascii).append (lowly_fsdecode name)

lemma lowly_of_describes {e : Path × Entry} {a : Artifact} (hd : isHexOf 64 a.sha256 = true)
    (h : Describes v fs runtime e a) :
    Lowly a.path ∧ Lowly a.sha256 ∧ Lowly a.role ∧ Lowly a.kind ∧ ∀ t ∈ a.linkTarget, Lowly t := by
  obtain ⟨hpath, hrole, hkind⟩ := h
  have hroles : ∀ role ∈ [lit "wine-loader", lit "fex-arm64ec-module", lit "fex-wow64-module", lit "runtime-file"],
      Ascii role := by decide
  have hfile : Ascii (lit "file") := by decide
  have hsymlink : Ascii (lit "symlink") := by decide
  have hlowly : Lowly a.role := .of_ascii (hroles _ (hrole ▸ artifactRole_mem _))
  refine ⟨hpath ▸ lowly_relativeTo _, lowly_hex hd, hlowly, ?_⟩
  obtain ⟨p, e⟩ := e
  cases e with
  | dir | other => exact hkind.elim
  | file content x =>
    obtain ⟨hkind, htarget, -⟩ := hkind
    rw [hkind, htarget]
    exact ⟨.of_ascii hfile, by simp⟩
  | link text =>
    obtain ⟨hkind, htarget, -⟩ := hkind
    rw [hkind, htarget]
    refine ⟨.of_ascii hsymlink, ?_⟩
    rintro t ht
    obtain rfl := Option.some.inj ht
    exact lowly_fsdecode text

lemma oneLine_of_parsed {d : Dict} (h : parseChecksumManifest v fs' (checksumPath runtime) = .ok d)
    (hd : sameDict d (checksums artifacts) = true) : OneLine artifacts := by
  obtain ⟨text, -, h⟩ := of_bind_eq_ok h
  obtain ⟨_, -, h⟩ := of_bind_eq_ok h
  intro a ha c hc
  have hmem := mem_of_lookup ((lookup_iff_of_sameDict hd a.path a.sha256).mpr ⟨a, ha, rfl, rfl⟩)
  rcases mem_parseChecksumLines h hmem with hs | ⟨l, hl, hp⟩
  · cases hs
  · exact mem_splitLinesFrom (by simp) hl c (hp.subset hc)

lemma listsArtifact_map (artifacts : List Artifact) :
    List.Forall₂ ListsArtifact (sortElements (artifacts.map artifactJson)) artifacts := by
  rw [sortElements_map, List.map_map, List.forall₂_map_left_iff, List.forall₂_same]
  exact fun a _ => listsArtifact_sorted a

lemma listsTest_map (tests : List TestEntry) :
    List.Forall₂ ListsTest (sortElements (tests.map testJson)) tests := by
  rw [sortElements_map, List.map_map, List.forall₂_map_left_iff, List.forall₂_same]
  exact fun t _ => listsTest_sorted t

lemma patchEntry_of_eqv {e e' : PatchEntry Digest} (h : (sortKeys (patchJson e)).eqv true (patchJson e') = true) :
    e = e' := by
  obtain ⟨ms, hms, -, hvalues⟩ := eqv_obj.mp h
  have hms : sorted (membersOf (patchJson e)) = ms := Json.obj.inj hms
  have hn (e : PatchEntry Digest) : ((membersOf (patchJson e)).map Prod.fst).Nodup :=
    (by decide : [lit "dependency", lit "path", lit "sha256"].Nodup)
  have hvalue {key value value' : Str} (hm : (key, .str value) ∈ membersOf (patchJson e))
      (hm' : (key, .str value') ∈ membersOf (patchJson e')) : value = value' := by
    have hfield := field_sorted key (hn e)
    rw [field_of_mem (hn e) hm, hms] at hfield
    have heqv := hvalues key _ _ hfield (field_of_mem (hn e') hm')
    exact Json.str.inj (eqv_str.mp heqv)
  obtain ⟨d, path, digest⟩ := e
  obtain ⟨d', path', digest'⟩ := e'
  have hname : lit d.name = lit d'.name := hvalue List.mem_cons_self List.mem_cons_self
  have hpath : path = path' :=
    hvalue (List.mem_cons_of_mem _ List.mem_cons_self) (List.mem_cons_of_mem _ List.mem_cons_self)
  have hdigest : digest.hex = digest'.hex :=
    hvalue (List.mem_cons_of_mem _ (List.mem_cons_of_mem _ List.mem_cons_self))
      (List.mem_cons_of_mem _ (List.mem_cons_of_mem _ List.mem_cons_self))
  have hd : d = d' := by
    revert hname
    cases d <;> cases d' <;> decide
  rw [hd, hpath, hex_injective hdigest]

lemma patches_of_eqv {es es' : List (PatchEntry Digest)}
    (h : (sortKeys (patchesJson es)).eqv true (patchesJson es') = true) :
    es = es' := by
  obtain ⟨js, hjs, hall⟩ := eqv_arr.mp h
  obtain rfl := Json.arr.inj hjs
  rw [sortElements_map, List.map_map, List.forall₂_map_left_iff, List.forall₂_map_right_iff] at hall
  rw [← List.forall₂_eq_eq_eq]
  exact hall.imp fun e e' he => patchEntry_of_eqv he

lemma lock_dicts {text : Str} (htext : ∀ c ∈ text, Scalar c) (h : parseLock text = .ok lock) :
    ∀ d ∈ lock.toolchain :: lock.llvmMingw :: lock.dependencies,
      (d.map Prod.fst).Nodup ∧ ∀ f ∈ d, Unpaired f.1 ∧ Unpaired f.2 := by
  have hlocked := locked_of_parseLock h
  obtain ⟨htoolchain, hllvm, hdependencies⟩ := from_parseLock h
  have hdict {names : List Str} {d : Dict} (hkeys : d.map Prod.fst = names) (hn : names.Nodup)
      (ha : ∀ n ∈ names, Ascii n) (hd : From text d) :
      (d.map Prod.fst).Nodup ∧ ∀ f ∈ d, Unpaired f.1 ∧ Unpaired f.2 := by
    refine ⟨hkeys ▸ hn, ?_⟩
    intro f hf
    refine ⟨unpaired_of_ascii (ha f.1 (hkeys ▸ List.mem_map_of_mem hf)), ?_⟩
    exact (Lowly.of_scalar fun c hc => htext c ((hd f hf).subset hc)).unpaired
  simp only [List.forall_mem_cons]
  refine ⟨hdict hlocked.toolchain.keys (by decide) (by decide) htoolchain,
    hdict hlocked.llvm.keys (by decide) (by decide) hllvm, ?_⟩
  intro d hd
  obtain ⟨name, body, hparsed⟩ := hlocked.parsed d hd
  obtain ⟨d', rfl, hfilled, -⟩ := parseDependency_filled hparsed
  have hkeys : ((lit "name", name) :: d').map Prod.fst = lit "name" :: dependencyFields := by
    rw [List.map_cons, hfilled.keys]
  exact hdict hkeys (by decide) (by decide) (hdependencies _ hd)

namespace Generated

variable (g : Generated v runtime repository lock tests fs fs' artifacts patches)
include g

lemma writable {lockPath : Path} {text : Str} (htext : readText v fs lockPath = some text)
    (h : parseLock text = .ok lock) {report : Option (List Utf8.Bytes)}
    (htests : loadTests v fs runtime report = .ok tests) :
    Writable lock (tests.map testDict) artifacts patches := by
  have hlock := locked_of_parseLock h
  refine ⟨?_, ?_, ?_, ?_⟩
  · have hdicts := lock_dicts (scalar_of_readText htext) h
    have htestKeys : ∀ n ∈ [lit "name", lit "status", lit "log", lit "sha256"], Ascii n := by decide
    rw [← List.cons_append, ← List.cons_append, List.forall_mem_append, List.forall_mem_map]
    refine ⟨hdicts, ?_⟩
    intro t ht
    refine ⟨testKeys_nodup, fun f hf => ⟨?_, loadTests_unpaired htests t ht f hf⟩⟩
    exact unpaired_of_ascii (htestKeys f.1 (List.mem_map_of_mem (f := Prod.fst) hf))
  · rw [hlock.toolchain.keys]
    decide
  · intro a ha
    obtain ⟨e, -, hd⟩ := exists_of_forall₂ (collectArtifacts_describes g.collected).2.flip ha
    exact lowly_of_describes ((collected_of_collectArtifacts g.collected).digest a ha) hd
  · exact lowly_patches (appliedPatchEntries_ok g.applied)

lemma readJson_checksums {p : Path} (h : fs'.readBytes v.steps p = some g.content₂.bytes) :
    readJson v fs' p = none := by
  rw [readJson_encoded h g.text₂]
  obtain ⟨a, as, rfl⟩ := List.exists_cons_of_ne_nil g.artifacts_ne_nil
  exact parse_checksums (listable_of_collected g.collected a (by simp)) as

lemma readJson_manifest (hw : Writable lock (tests.map testDict) artifacts patches) {p : Path}
    (h : fs'.readBytes v.steps p = some g.content₁.bytes) :
    readJson v fs' p = some (.obj (readMembers lock tests artifacts patches)) := by
  rw [readJson_encoded h g.text₁, universalNewlines_of_not_mem printed_manifestText]
  exact hw.readBack

lemma parsed_checksums (hlines : OneLine artifacts) :
    parseChecksumManifest v fs' (checksumPath runtime) = .ok (checksums artifacts) := by
  have hc := collected_of_collectArtifacts g.collected
  have hr : readText v fs' (checksumPath runtime) = some (universalNewlines (checksumText artifacts)) := by
    rw [readText, g.readBytes_checksums, Option.bind_some, decode_encode g.text₂]
    rfl
  have hne : (splitLines (universalNewlines (checksumText artifacts))).isEmpty = false := by
    simp [splitLines_checksumText hc hlines, g.artifacts_ne_nil]
  rw [parseChecksumManifest, hr]
  simp only [hne, orError, ensure, bind, Except.bind]
  exact (parse_checksumText hc).mpr hlines

lemma holds (hfrom : ∃ raws, testsFrom (reportTest v fs runtime) [] 0 raws = .ok tests)
    (h : Undisturbed v runtime repository tests fs fs') :
    Holds v fs' runtime repository tests artifacts patches := by
  obtain ⟨raws, hraws⟩ := hfrom
  have hdir := (collectArtifacts_describes g.collected).1
  refine ⟨appliedPatchEntries_unchanged g.overwritten h.patches h.state g.applied,
    collectArtifacts_unchanged g.overwritten h.root g.collected,
    validateRequiredArtifacts_unchanged g.overwritten h.root hdir g.required,
    ⟨_, g.parsed_checksums (h.lines artifacts g.collected), ?_⟩, testsFrom_sorted g.overwritten hraws h.logs⟩
  have hn : ((checksums artifacts).map Prod.fst).Nodup := by
    rw [checksums, List.map_map]
    exact (collected_of_collectArtifacts g.collected).distinct
  have hall : ((checksums artifacts).all fun f => (checksums artifacts).lookup f.1 == some f.2) = true := by
    rw [List.all_eq_true]
    intro f hf
    rw [lookup_of_mem hn hf]
    exact beq_self_eq_true _
  rw [sameDict, hall]
  rfl

lemma seen (hw : Writable lock (tests.map testDict) artifacts patches)
    (h : verifyManifest v fs' runtime repository lock = .ok ()) :
    g.place₁ ≠ g.place₂ ∧ appliedPatchEntries v fs' runtime repository = .ok patches ∧
      collectArtifacts v fs' runtime = .ok artifacts ∧ OneLine artifacts ∧
        ∀ t ∈ tests, Logged v fs' runtime t := by
  obtain ⟨manifest, hread, h⟩ := of_bind_eq_ok h
  have hread : readJson v fs' (manifestPath runtime) = some manifest := of_orError_eq_ok hread
  have hbytes := g.readBytes_manifest
  have hapart : g.place₁ ≠ g.place₂ := by
    intro he
    rw [if_pos he] at hbytes
    rw [g.readJson_checksums hbytes] at hread
    cases hread
  rw [if_neg hapart] at hbytes
  obtain rfl := Option.some.inj ((g.readJson_manifest hw hbytes).symm.trans hread)
  obtain ⟨ms, patches', raws, artifacts', d, raws', tests', hms, ha⟩ := verifyJson_cases h
  obtain rfl := Json.obj.inj hms
  have hartifacts : artifacts' = artifacts := by
    obtain rfl := Json.arr.inj (Option.some.inj (ha.rawArtifacts.symm.trans field_artifacts))
    refine listsArtifact_unique.forall₂ (ha.listed.imp ?_) (listsArtifact_map artifacts)
    rintro raw a ⟨seen, index, hok⟩
    exact manifestArtifact_ok hok
  have htests : tests' = tests := by
    obtain rfl := Json.arr.inj (Option.some.inj (ha.rawTests.symm.trans field_tests))
    refine listsTest_unique.forall₂ (ha.tested.imp ?_) (listsTest_map tests)
    rintro raw t ⟨seen, index, hok⟩
    exact manifestTest_ok hok
  have hpatches : patches = patches' := by
    have hsame := ha.sameSeries
    rw [fieldIs, field_read (lit "patches") (patchesJson patches)
      (by simp [manifestMembers, membersOf, manifestJson])]
      at hsame
    exact patches_of_eqv hsame
  subst hartifacts htests hpatches
  refine ⟨hapart, ha.applied, ha.collected, oneLine_of_parsed ha.parsed ha.same, ?_⟩
  intro t ht
  obtain ⟨raw, -, seen, index, hok⟩ := exists_of_forall₂ ha.tested.flip ht
  obtain ⟨ms, -, -, -, -, -, -, -, -, -, hlogged⟩ := manifestTest_cases hok
  exact hlogged

end Generated

lemma file_ext {f g : File} (h : f.bytes = g.bytes) : f = g := by
  cases f
  cases g
  simpa using h

lemma overwritten_get_eq (hfs : Overwritten fs fs') (hc : NoCollision v fs fs') {q : Path}
    {f f' : File} {x x' : Bool}
    (hget : fs.get q = some (.file f x)) (hget' : fs'.get q = some (.file f' x'))
    (h : v.sha256 f.bytes = v.sha256 f'.bytes) : fs'.get q = fs.get q := by
  have hmem {fs : FileSystem} {f : File} {x : Bool} (hget : fs.get q = some (.file f x)) :
      f.bytes ∈ contents fs := by
    have hq : q ≠ [] := by
      rintro rfl
      cases hget
    exact mem_contents ((get_eq_some_iff hq).mp hget)
  have hx := hfs.executable q
  rw [executable, executable, hget, hget'] at hx
  rw [hget, hget', file_ext (hc _ (hmem hget) _ (hmem hget') h)]
  exact congrArg (fun x => some (Entry.file f' x)) hx

lemma root_eq (hfs : Overwritten fs fs') (hc : NoCollision v fs fs')
    (h : collectArtifacts v fs runtime = .ok artifacts)
    (h' : collectArtifacts v fs' runtime = .ok artifacts) {q : Path}
    (hq : root runtime <+: q) : fs'.get q = fs.get q := by
  rcases hfs q with he | ⟨⟨f, hf⟩, hold⟩
  · exact he
  · have hne : q ≠ root runtime := by
      rintro rfl
      rw [isDir_iff.mp (collectArtifacts_describes h').1] at hf
      cases hf
    have hmem' : (q, Entry.file f (fs.executable q)) ∈ walkRoot fs' runtime :=
      mem_sortBy.mpr (mem_below.mpr ⟨hf, hq, hne⟩)
    obtain ⟨a, ha, hd'⟩ := exists_of_forall₂ (collectArtifacts_describes h').2 (List.mem_filter.mpr ⟨hmem', rfl⟩)
    obtain ⟨⟨p, e⟩, he, hd⟩ := exists_of_forall₂ (collectArtifacts_describes h).2.flip ha
    have hmem := (List.mem_filter.mp he).1
    obtain ⟨r, hp, hp'⟩ := relativeTo_eq hmem hmem' (hd.1.symm.trans hd'.1)
    obtain rfl : p = q := hp.trans hp'.symm
    have hget := get_of_mem_entries (mem_walkRoot hmem).1
    have hkinds : lit "file" ≠ lit "symlink" := by decide
    cases e with
    | dir | other => exact hd.2.2.elim
    | link text => exact absurd (hd'.2.2.1.symm.trans hd.2.2.1) hkinds
    | file f' x' => exact overwritten_get_eq hfs hc hget hf (hex_injective (hd.2.2.2.2.symm.trans hd'.2.2.2.2))

lemma patches_eq (hfs : Overwritten fs fs') (hc : NoCollision v fs fs')
    (h : appliedPatchEntries v fs runtime repository = .ok patches)
    (h' : appliedPatchEntries v fs' runtime repository = .ok patches) (d : Dependency) {name : Utf8.Bytes}
    (hname : (bytes ".patch") <:+ name) :
    fs'.get (patchFile repository d name) = fs.get (patchFile repository d name) := by
  rcases hfs (patchFile repository d name) with he | ⟨⟨f, hf⟩, -⟩
  · exact he
  · have hmem := (mem_patchEntries (appliedPatchEntries_ok h') (d := d)).mpr ⟨hname, f, _, hf, rfl⟩
    obtain ⟨-, f', x', hget, hsame⟩ := (mem_patchEntries (appliedPatchEntries_ok h)).mp hmem
    exact overwritten_get_eq hfs hc hget hf hsame.symm

lemma state_isArray (h : appliedPatchEntries v fs runtime repository = .ok patches)
    (hsome : (fs.readBytes v.steps (statePath runtime)).isSome = true) :
    ∃ js, readJson v fs (statePath runtime) = some (.arr js) := by
  have hfile : fs.isFile v.steps (runtime ++ [bytes "applied-patches.json"]) = true := hsome
  obtain ⟨expected, -, h⟩ := of_bind_eq_ok h
  simp only [hfile, Bool.not_true, Bool.false_eq_true, if_false] at h
  obtain ⟨_, -, h⟩ := of_bind_eq_ok h
  obtain ⟨found, hfound, h⟩ := of_bind_eq_ok h
  obtain ⟨_, hsame, -⟩ := of_bind_eq_ok h
  obtain ⟨js, rfl, -⟩ := eqv_arr.mp (of_ensure hsame)
  exact ⟨js, of_orError_eq_ok hfound⟩

lemma state_eq (g : Generated v runtime repository lock tests fs fs' artifacts patches)
    (hw : Writable lock (tests.map testDict) artifacts patches)
    (h : appliedPatchEntries v fs' runtime repository = .ok patches) :
    fs'.readBytes v.steps (statePath runtime) = fs.readBytes v.steps (statePath runtime) := by
  rcases g.readBytes_or (statePath runtime) with he | he | he
  · exact he
  · obtain ⟨js, hjs⟩ := state_isArray h (by rw [he]; rfl)
    rw [g.readJson_manifest hw he] at hjs
    cases hjs
  · obtain ⟨js, hjs⟩ := state_isArray h (by rw [he]; rfl)
    rw [g.readJson_checksums he] at hjs
    cases hjs

lemma log_eq (hc : NoCollision v fs fs') {t : TestEntry} (h : Logged v fs runtime t)
    (h' : Logged v fs' runtime t) :
    logFile v fs' runtime t.log = logFile v fs runtime t.log := by
  obtain ⟨f, hf, hd⟩ := h
  obtain ⟨f', hf', hd'⟩ := h'
  rw [hf, hf', file_ext (hc _ (logFile_mem hf) _ (logFile_mem hf') (hex_injective (hd.symm.trans hd')))]

lemma reported_logs {report : Option (List Utf8.Bytes)} (h : loadTests v fs runtime report = .ok tests) :
    (∃ raws, testsFrom (reportTest v fs runtime) [] 0 raws = .ok tests) ∧ ∀ t ∈ tests, Logged v fs runtime t := by
  cases report with
  | none =>
    obtain rfl := Except.ok.inj h
    exact ⟨⟨[], rfl⟩, by simp⟩
  | some report =>
    obtain ⟨raw, -, h⟩ := of_bind_eq_ok h
    unfold validateTestReport at h
    split at h
    · rename_i raws
      cases hfrom : testsFrom (reportTest v fs runtime) [] 0 raws with
      | error r =>
        rw [hfrom] at h
        cases h
      | ok tests' =>
        rw [hfrom] at h
        obtain rfl := Except.ok.inj h
        refine ⟨⟨raws, hfrom⟩, ?_⟩
        intro t ht
        obtain ⟨raw, -, seen, index, hok⟩ := exists_of_forall₂ (testsFrom_ok hfrom).flip ht
        obtain ⟨ms, -, -, -, -, -, -, located, hlocated, hdigest⟩ := reportTest_cases hok
        exact ⟨located.content, locateLog_ok hlocated, hdigest⟩
    · cases h

/-- What `generate_manifest` wrote is accepted by `verify_manifest` exactly when the two files were
written outside of all that was hashed and compared, and every path is one line. -/
theorem generated_accepted_iff {v : Setting} {runtime repository lockPath : Path} {text : Str} {lock : Lock}
    {report : Option (List Utf8.Bytes)} {tests : List TestEntry} {fs fs' : FileSystem} {output : Path}
    (htext : readText v fs lockPath = some text) (hlock : parseLock text = .ok lock)
    (htests : loadTests v fs runtime report = .ok tests)
    (hg : generateManifest v runtime repository lock (tests.map testDict) fs = (fs', .ok output))
    (hc : NoCollision v fs fs') :
    verifyManifest v fs' runtime repository lock = .ok () ↔ Undisturbed v runtime repository tests fs fs' := by
  obtain ⟨artifacts, patches, ⟨g⟩⟩ := exists_generated hg
  have hw := g.writable htext hlock htests
  obtain ⟨hfrom, hlogged⟩ := reported_logs htests
  constructor
  · intro h
    obtain ⟨hapart, happlied, hcollected, hlines, hlogged'⟩ := g.seen hw h
    refine ⟨g.apart_iff.mpr hapart, fun q hq => root_eq g.overwritten hc g.collected hcollected hq,
      state_eq g hw happlied, fun d name hname => patches_eq g.overwritten hc g.applied happlied d hname,
      fun t ht => log_eq hc (hlogged t ht) (hlogged' t ht), ?_⟩
    intro artifacts' ha
    obtain rfl := Except.ok.inj (g.collected.symm.trans ha)
    exact hlines
  · intro h
    have hbytes := g.readBytes_manifest
    rw [if_neg (g.apart_iff.mp h.apart)] at hbytes
    have hread := g.readJson_manifest hw hbytes
    have hjson := verifyJson_read hw (listable_of_collected g.collected)
      (collected_of_collectArtifacts g.collected).distinct (g.holds hfrom h)
    rw [manifestPath] at hread
    rw [verifyManifest, hread]
    simp only [orError, bind, Except.bind]
    exact hjson

def textFile (text : Str) : File :=
  if h : (text.map UInt8.ofNat).length < 2 ^ 63 then ⟨text.map UInt8.ofNat, h⟩ else emptyFile

lemma bootLog_length_lt : (bytes "ok").length < 2 ^ 63 := by decide

def reported (text : Str) : FileSystem where
  entries := [([bytes "out"], .dir), ([bytes "out", bytes "root"], .dir),
    ([bytes "out", bytes "root", bytes "bin"], .dir),
    ([bytes "out", bytes "root", bytes "bin", bytes "wine"], .file ⟨sampleElf, sampleElf_length_lt⟩ true),
    ([bytes "out", bytes "root", bytes "bin", bytes "wine64"], .link (bytes "wine")),
    ([bytes "out", bytes "root", bytes "libarm64ecfex.dll"], .file (Pe.sampleFile 0x3000) false),
    ([bytes "out", bytes "root", bytes "libwow64fex.dll"], .file ⟨sampleWow64, sampleWow64_length_lt⟩ false),
    ([bytes "out", bytes "boot.log"], .file ⟨bytes "ok", bootLog_length_lt⟩ false),
    ([bytes "src"], .dir), ([bytes "src", bytes "patches"], .dir),
    ([bytes "src", bytes "patches", bytes "wine"], .dir), ([bytes "src", bytes "patches", bytes "fex"], .dir),
    ([bytes "deps.lock"], .file (textFile text) false),
    ([bytes "tests.json"],
      .file (textFile (lit "[\x7b\"name\": \"boot\", \"status\": \"PASS\", \"log\": \"boot.log\"\x7d]")) false)]
  nodup := by
    simp only [List.map_cons, List.map_nil]
    decide
  names := by
    simp only [List.map_cons, List.map_nil]
    decide
  parents := by simp

def parsedLock (text : Str) : Lock := (parseLock text).toOption.getD ⟨[], [], []⟩

def reportedTests (text : Str) : List TestEntry :=
  (loadTests lengthSetting (reported text) [bytes "out"] (some [bytes "tests.json"])).toOption.getD []

def regenerated (text : Str) : FileSystem × Except GenerateError Path :=
  generateManifest lengthSetting [bytes "out"] [bytes "src"] (parsedLock text) ((reportedTests text).map testDict)
    (reported text)

set_option maxRecDepth 10000 in
lemma regenerated_facts : (parseLock sampleText).isOk = true ∧
    readText lengthSetting (reported sampleText) [bytes "deps.lock"] = some sampleText ∧
    (loadTests lengthSetting (reported sampleText) [bytes "out"] (some [bytes "tests.json"])).isOk = true ∧
    (regenerated sampleText).2.isOk = true ∧
    (verifyManifest lengthSetting (regenerated sampleText).1 [bytes "out"] [bytes "src"]
      (parsedLock sampleText)).isOk = true ∧
    ∀ b ∈ contents (reported sampleText), ∀ b' ∈ contents (regenerated sampleText).1,
      lengthDigest b = lengthDigest b' → b = b' := by
  generalize ht : sampleText = text
  rw [sampleText, lit_ofList] at ht
  subst ht
  decide +kernel

theorem generated_accepted_iff_sample : Undisturbed lengthSetting [bytes "out"] [bytes "src"]
    (reportedTests sampleText) (reported sampleText) (regenerated sampleText).1 := by
  obtain ⟨hlock, htext, htests, hg, hverify, hc⟩ := regenerated_facts
  have hparsed : parseLock sampleText = .ok (parsedLock sampleText) := eq_getD_of_isOk hlock _
  have hloaded : loadTests lengthSetting (reported sampleText) [bytes "out"] (some [bytes "tests.json"]) =
      .ok (reportedTests sampleText) := eq_getD_of_isOk htests _
  have hgenerated := eq_mk_of_isOk hg []
  have haccepted := eq_ok_of_isOk hverify
  exact (generated_accepted_iff htext hparsed hloaded hgenerated hc).mp haccepted

end Graft64.Runtime.Manifest
