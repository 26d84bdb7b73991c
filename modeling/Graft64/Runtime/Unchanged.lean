import Graft64.Library.Overwrites
import Graft64.Runtime.ManifestSchema

/-! The scans of a runtime directory after files were written outside of what they read. -/

namespace Graft64.Runtime.Manifest

open Graft64.Library Utf8 Unpack Results DepsLock FileSystem
open PatchSeries (Dependency Kind Node PatchEntry PatchTree patchEntries patchEntriesOf patchEntry
  sortedGlob globMatches)

variable {v : Setting} {fs fs' : FileSystem} {runtime repository : Path}

lemma mem_below {p : Path} {e : Path × Entry} : e ∈ fs.below p ↔ fs.get e.1 = some e.2 ∧ p <+: e.1 ∧ e.1 ≠ p := by
  rw [below, List.mem_filter, Bool.and_eq_true, List.isPrefixOf_iff_prefix, bne_iff_ne]
  constructor
  · rintro ⟨hm, hp, hne⟩
    exact ⟨get_of_mem_entries hm, hp, hne⟩
  · rintro ⟨hget, hp, hne⟩
    refine ⟨(get_eq_some_iff ?_).mp hget, hp, hne⟩
    intro hnil
    rw [hnil, List.prefix_nil] at hp
    exact hne (hnil.trans hp.symm)

lemma walkRoot_unchanged (h : ∀ q, root runtime <+: q → fs'.get q = fs.get q) :
    walkRoot fs' runtime = walkRoot fs runtime := by
  have hnodup (fs : FileSystem) : (fs.below (root runtime)).Nodup := (List.Nodup.of_map _ fs.nodup).filter _
  have hperm : (fs'.below (root runtime)).Perm (fs.below (root runtime)) := by
    rw [List.perm_ext_iff_of_nodup (hnodup fs') (hnodup fs)]
    intro e
    rw [mem_below, mem_below]
    exact and_congr_left fun hp => by rw [h e.1 hp.1]
  refine sortBy_unique ?_ ((sortBy_perm _ _).trans hperm) (sortBy_pairwise _ _)
  intro e he e' he' hkey
  have hpath := List.map_injective_iff.mpr fsdecode_injective hkey
  exact List.inj_on_of_nodup_map fs.nodup (List.mem_filter.mp he).1 (List.mem_filter.mp he').1 hpath

lemma collectArtifact_unchanged (hfs : Overwritten fs fs') {e : Path × Entry} {r : Option Artifact}
    (h : collectArtifact v fs runtime e = .ok r) : collectArtifact v fs' runtime e = .ok r := by
  obtain ⟨p, e⟩ := e
  cases e with
  | dir | other | file => exact h
  | link text =>
    obtain ⟨s, hs, h⟩ := of_bind_eq_ok h
    obtain ⟨u, habsolute, h⟩ := of_bind_eq_ok h
    obtain ⟨q, hq, h⟩ := of_bind_eq_ok h
    have hwalk : fs'.resolve v.steps p = some q := hfs.walk (of_orError_eq_ok hq)
    unfold collectArtifact
    simp only [hs, habsolute, hwalk, orError, bind, Except.bind]
    exact h

lemma collectArtifacts_unchanged (hfs : Overwritten fs fs')
    (hroot : ∀ q, root runtime <+: q → fs'.get q = fs.get q)
    {artifacts : List Artifact} (h : collectArtifacts v fs runtime = .ok artifacts) :
    collectArtifacts v fs' runtime = .ok artifacts := by
  have hdir := isDir_iff.mp (collectArtifacts_describes h).1
  rw [collectArtifacts, hdir] at h
  obtain ⟨found, hf, rfl⟩ := of_map_eq_ok h
  have hf' := mapM_ok_imp hf fun e _ r hr => collectArtifact_unchanged hfs hr
  rw [collectArtifacts, hroot _ List.prefix_rfl, hdir, walkRoot_unchanged hroot]
  simp only [hf']
  rfl

lemma requiredFile_unchanged (hfs : Overwritten fs fs') (hroot : ∀ q, root runtime <+: q → fs'.get q = fs.get q)
    {artifacts : List Artifact} {role : Str} {located : Located} (hdir : fs.isDir (root runtime) = true)
    (h : requiredFile v fs runtime artifacts role = .ok located) :
    requiredFile v fs' runtime artifacts role = .ok located := by
  obtain ⟨a, ha, h⟩ := of_bind_eq_ok h
  obtain ⟨p, hp, h⟩ := of_bind_eq_ok h
  obtain ⟨rootAt, hr, h⟩ := of_bind_eq_ok h
  obtain ⟨resolved, hresolved, h⟩ := of_bind_eq_ok h
  obtain ⟨u, hinside, h⟩ := of_bind_eq_ok h
  have hrootAt : rootAt = [] ++ root runtime := walk_of_isDir (p := []) hdir (of_orError_eq_ok hr)
  have hr' : fs'.resolve v.steps (root runtime) = some rootAt := hfs.walk (of_orError_eq_ok hr)
  have hresolved' : fs'.resolve v.steps (runtime ++ p) = some resolved := hfs.walk (of_orError_eq_ok hresolved)
  have hget : fs'.get resolved = fs.get resolved := by
    apply hroot
    rw [List.nil_append] at hrootAt
    rw [← hrootAt]
    exact List.isPrefixOf_iff_prefix.mp (of_ensure hinside)
  rw [requiredFile, ha]
  simp only [bind, Except.bind, of_orError_eq_ok hp, resolveFileInside, hr', hresolved', orError, hinside, hget]
  exact h

lemma validateRequiredArtifacts_unchanged (hfs : Overwritten fs fs')
    (hroot : ∀ q, root runtime <+: q → fs'.get q = fs.get q) {artifacts : List Artifact}
    (hdir : fs.isDir (root runtime) = true) (h : validateRequiredArtifacts v fs runtime artifacts = .ok ()) :
    validateRequiredArtifacts v fs' runtime artifacts = .ok () := by
  obtain ⟨u, hmissing, h⟩ := of_bind_eq_ok h
  obtain ⟨u', hambiguous, h⟩ := of_bind_eq_ok h
  obtain ⟨wine, hwine, h⟩ := of_bind_eq_ok h
  obtain ⟨arm64ec, harm64ec, h⟩ := of_bind_eq_ok h
  obtain ⟨wow64, hwow64, h⟩ := of_bind_eq_ok h
  rw [validateRequiredArtifacts]
  simp only [hmissing, hambiguous, requiredFile_unchanged hfs hroot hdir hwine,
    requiredFile_unchanged hfs hroot hdir harm64ec, requiredFile_unchanged hfs hroot hdir hwow64,
    bind, Except.bind]
  exact h

def patchFile (repository : Path) (d : Dependency) (name : Utf8.Bytes) : Path :=
  repository ++ [bytes "patches", bytes d.name] ++ [name]

lemma mem_listing {p : Path} {n : Node} : n ∈ (listing v fs p).entries ↔
    ∃ e, fs.get (p ++ [n.name]) = some e ∧ n.kind = kindOf v fs (p ++ [n.name]) e := by
  simp only [listing, List.mem_map, Prod.exists, mem_children]
  constructor
  · rintro ⟨name, e, hm, rfl⟩
    exact ⟨e, get_of_mem_entries hm, rfl⟩
  · rintro ⟨e, hget, hk⟩
    refine ⟨n.name, e, (get_eq_some_iff (by simp)).mp hget, ?_⟩
    cases n
    exact congrArg (Node.mk _) hk.symm

lemma mem_sortedGlob {p : Path} {n : Node} : n ∈ sortedGlob (listing v fs p) ↔
    (∃ e, fs.get (p ++ [n.name]) = some e ∧ n.kind = kindOf v fs (p ++ [n.name]) e) ∧
      (bytes ".patch") <:+ n.name := by
  rw [sortedGlob, mem_sortBy, List.mem_filter, mem_listing, PatchSeries.globMatches_fsdecode,
    List.isSuffixOf_iff_suffix]

lemma sortedGlob_unchanged {p : Path}
    (hreal : ∀ n ∈ sortedGlob (listing v fs p), ∃ content, n.kind = .regular content)
    (h : ∀ name, (bytes ".patch") <:+ name → fs'.get (p ++ [name]) = fs.get (p ++ [name])) :
    sortedGlob (listing v fs' p) = sortedGlob (listing v fs p) := by
  have hnames (fs : FileSystem) : ((listing v fs p).entries.map Node.name).Nodup := (listing v fs p).nodup
  have hnodup (fs : FileSystem) : (sortedGlob (listing v fs p)).Nodup :=
    sortBy_nodup ((List.Nodup.of_map _ (hnames fs)).filter _)
  have hperm : (sortedGlob (listing v fs' p)).Perm (sortedGlob (listing v fs p)) := by
    rw [List.perm_ext_iff_of_nodup (hnodup fs') (hnodup fs)]
    intro n
    rw [mem_sortedGlob, mem_sortedGlob]
    refine and_congr_left fun hn => ?_
    rw [h n.name hn]
    refine exists_congr fun e => and_congr_right fun hget => ?_
    -- in the tree before, what is named so is a regular file
    obtain ⟨content, hk⟩ := hreal ⟨n.name, kindOf v fs (p ++ [n.name]) e⟩ (mem_sortedGlob.mpr ⟨⟨e, hget, rfl⟩, hn⟩)
    cases e with
    | file f x => exact Iff.rfl
    | dir | other | link => cases hk
  refine sortBy_unique ?_ ?_ (sortBy_pairwise _ _)
  · intro a ha b hb hkey
    exact List.inj_on_of_nodup_map (hnames fs) (List.mem_filter.mp ha).1 (List.mem_filter.mp hb).1
      (fsdecode_injective hkey)
  · exact hperm.trans (sortBy_perm _ _)

lemma patchEntry_regular {d : Dependency} {n : Node} {e : PatchEntry Digest}
    (h : patchEntry v.sha256 d n = .ok e) :
    ∃ content, n.kind = .regular content ∧ e = ⟨d, PatchSeries.patchPath d n.name, v.sha256 content⟩ := by
  unfold patchEntry at h
  split at h
  · rename_i content hk
    exact ⟨content, hk, (Except.ok.inj h).symm⟩
  · cases h

lemma patchEntriesOf_cases {d : Dependency} {es : List (PatchEntry Digest)}
    (h : patchEntriesOf v.sha256 (patchTree v fs repository) d = .ok es) :
    fs.isDir (repository ++ [bytes "patches", bytes d.name]) = true ∧
      (sortedGlob (listing v fs (repository ++ [bytes "patches", bytes d.name]))).mapM (patchEntry v.sha256 d) =
        .ok es := by
  simp only [patchEntriesOf, patchTree] at h
  split_ifs at h with hd
  exact ⟨hd, h⟩

lemma patchEntries_cases {es : List (PatchEntry Digest)}
    (h : patchEntries v.sha256 (patchTree v fs repository) = .ok es) :
    fs.isDir (repository ++ [bytes "patches"]) = true ∧
      ∃ wine fex, es = wine ++ fex ∧ patchEntriesOf v.sha256 (patchTree v fs repository) .wine = .ok wine ∧
        patchEntriesOf v.sha256 (patchTree v fs repository) .fex = .ok fex := by
  cases hroot : fs.isDir (repository ++ [bytes "patches"]) with
  | false => simp [patchEntries, patchTree, hroot, throw, throwThe, MonadExceptOf.throw, bind, Except.bind] at h
  | true =>
    simp only [patchEntries, patchTree, hroot, Bool.true_eq_false, if_false] at h
    obtain ⟨wine, hwine, h⟩ := of_bind_eq_ok h
    obtain ⟨fex, hfex, h⟩ := of_bind_eq_ok h
    exact ⟨rfl, wine, fex, (Except.ok.inj h).symm, hwine, hfex⟩

lemma patchEntriesOf_unchanged (hfs : Overwritten fs fs') {d : Dependency} {es : List (PatchEntry Digest)}
    (hpatches : ∀ name, (bytes ".patch") <:+ name →
      fs'.get (patchFile repository d name) = fs.get (patchFile repository d name))
    (h : patchEntriesOf v.sha256 (patchTree v fs repository) d = .ok es) :
    patchEntriesOf v.sha256 (patchTree v fs' repository) d = .ok es := by
  obtain ⟨hd, hm⟩ := patchEntriesOf_cases h
  have hreal : ∀ n ∈ sortedGlob (listing v fs (repository ++ [bytes "patches", bytes d.name])),
      ∃ content, n.kind = .regular content := by
    intro n hn
    obtain ⟨e, -, he⟩ := exists_of_forall₂ (of_mapM_eq_ok hm) hn
    obtain ⟨content, hk, -⟩ := patchEntry_regular he
    exact ⟨content, hk⟩
  simp only [patchEntriesOf, patchTree, hfs.isDir, hd, if_true]
  rw [sortedGlob_unchanged hreal hpatches]
  exact hm

lemma patchEntries_unchanged (hfs : Overwritten fs fs') {es : List (PatchEntry Digest)}
    (hpatches : ∀ d name, (bytes ".patch") <:+ name →
      fs'.get (patchFile repository d name) = fs.get (patchFile repository d name))
    (h : patchEntries v.sha256 (patchTree v fs repository) = .ok es) :
    patchEntries v.sha256 (patchTree v fs' repository) = .ok es := by
  obtain ⟨hroot, wine, fex, rfl, hwine, hfex⟩ := patchEntries_cases h
  have hroot' : (patchTree v fs' repository).rootReal = true := by
    rw [patchTree, hfs.isDir, hroot]
  rw [patchEntries]
  simp only [hroot', patchEntriesOf_unchanged hfs (hpatches .wine) hwine,
    patchEntriesOf_unchanged hfs (hpatches .fex) hfex, Bool.true_eq_false, if_false, bind, Except.bind]
  rfl

lemma mem_patchEntriesOf {d d' : Dependency} {es : List (PatchEntry Digest)}
    (h : patchEntriesOf v.sha256 (patchTree v fs repository) d' = .ok es) {name : Utf8.Bytes} {digest : Digest} :
    ⟨d, PatchSeries.patchPath d name, digest⟩ ∈ es ↔ d = d' ∧ (bytes ".patch") <:+ name ∧
      ∃ f x, fs.get (patchFile repository d name) = some (.file f x) ∧ digest = v.sha256 f.bytes := by
  rw [mem_of_mapM_eq_ok (patchEntriesOf_cases h).2]
  constructor
  · rintro ⟨n, hn, he⟩
    obtain ⟨content, hk, he⟩ := patchEntry_regular he
    obtain ⟨rfl, hpath, rfl⟩ := PatchEntry.mk.inj he
    obtain rfl := PatchSeries.patchPath_injective d hpath
    obtain ⟨⟨e, hget, hkind⟩, hsuffix⟩ := mem_sortedGlob.mp hn
    rw [hk] at hkind
    cases e with
    | file f x =>
      obtain rfl := Kind.regular.inj hkind
      exact ⟨rfl, hsuffix, f, x, hget, rfl⟩
    | dir | other | link => cases hkind
  · rintro ⟨rfl, hsuffix, f, x, hget, rfl⟩
    exact ⟨⟨name, .regular f.bytes⟩, mem_sortedGlob.mpr ⟨⟨_, hget, rfl⟩, hsuffix⟩, rfl⟩

lemma mem_patchEntries {es : List (PatchEntry Digest)}
    (h : patchEntries v.sha256 (patchTree v fs repository) = .ok es)
    {d : Dependency} {name : Utf8.Bytes} {digest : Digest} :
    ⟨d, PatchSeries.patchPath d name, digest⟩ ∈ es ↔ (bytes ".patch") <:+ name ∧
      ∃ f x, fs.get (patchFile repository d name) = some (.file f x) ∧ digest = v.sha256 f.bytes := by
  obtain ⟨-, wine, fex, rfl, hwine, hfex⟩ := patchEntries_cases h
  rw [List.mem_append, mem_patchEntriesOf hwine, mem_patchEntriesOf hfex, ← or_and_right, and_iff_right_of_imp]
  intro _
  cases d with
  | wine => exact .inl rfl
  | fex => exact .inr rfl

def statePath (runtime : Path) : Path := runtime ++ [bytes "applied-patches.json"]

lemma appliedPatchEntries_unchanged (hfs : Overwritten fs fs') {es : List (PatchEntry Digest)}
    (hpatches : ∀ d name, (bytes ".patch") <:+ name →
      fs'.get (patchFile repository d name) = fs.get (patchFile repository d name))
    (hstate : fs'.readBytes v.steps (statePath runtime) = fs.readBytes v.steps (statePath runtime))
    (h : appliedPatchEntries v fs runtime repository = .ok es) :
    appliedPatchEntries v fs' runtime repository = .ok es := by
  have hseries := appliedPatchEntries_ok h
  have hfile : fs'.isFile v.steps (statePath runtime) = fs.isFile v.steps (statePath runtime) := by
    rw [FileSystem.isFile, FileSystem.isFile]
    exact congrArg Option.isSome hstate
  have hread : readJson v fs' (statePath runtime) = readJson v fs (statePath runtime) := by
    rw [readJson, readJson, readText, readText, hstate]
  rw [statePath] at hfile hread
  rw [appliedPatchEntries, hseries] at h
  rw [appliedPatchEntries, patchEntries_unchanged hfs hpatches hseries]
  simp only [hfile, hread, hfs.isLink]
  exact h

end Graft64.Runtime.Manifest
