import Graft64.Library.Directories
import Graft64.Runtime.Manifest

/-! What `collect_artifacts` finds: one artifact for each file and each link, and nothing else. -/

namespace Graft64.Runtime.Manifest

open Graft64.Library Utf8 Unpack Results DepsLock FileSystem

structure Collected (artifacts : List Artifact) : Prop where
  distinct : (artifacts.map Artifact.path).Nodup
  safe : ∀ a ∈ artifacts, ∀ owner, safeRelativePath a.path owner true = .ok a.path
  digest : ∀ a ∈ artifacts, isHexOf 64 a.sha256 = true

def isTracked (e : Path × Entry) : Bool :=
  match e.2 with
  | .file _ _ | .link _ => true
  | .dir | .other => false

def Describes (v : Setting) (fs : FileSystem) (runtime : Path) (e : Path × Entry) (a : Artifact) : Prop :=
  a.path = relativeTo runtime e.1 ∧ a.role = artifactRole a.path ∧ match e.2 with
    | .file content _ => a.kind = lit "file" ∧ a.linkTarget = none ∧ a.sha256 = (v.sha256 content.bytes).hex
    | .link text => a.kind = lit "symlink" ∧ a.linkTarget = some (fsdecode text) ∧ a.sha256 = (v.sha256 text).hex ∧
        isAbsolute (fsdecode text) = false ∧
        ∃ q, fs.resolve v.steps e.1 = some q ∧ root runtime <+: q ∧ (fs.get q).isSome = true
    | .dir | .other => False

variable {v : Setting} {fs : FileSystem} {runtime : Path}

lemma mem_walkRoot {e : Path × Entry} (h : e ∈ walkRoot fs runtime) :
    e ∈ fs.entries ∧ root runtime <+: e.1 ∧ e.1 ≠ root runtime := by
  rw [walkRoot, mem_sortBy, below, List.mem_filter, Bool.and_eq_true, List.isPrefixOf_iff_prefix] at h
  exact ⟨h.1, h.2.1, bne_iff_ne.mp h.2.2⟩

lemma relativeTo_eq {fs' : FileSystem} {runtime' : Path} {e e' : Path × Entry} (he : e ∈ walkRoot fs runtime)
    (he' : e' ∈ walkRoot fs' runtime') (h : relativeTo runtime e.1 = relativeTo runtime' e'.1) :
    ∃ r, e.1 = root runtime ++ r ∧ e'.1 = root runtime' ++ r := by
  have hnames {fs : FileSystem} {runtime : Path} {e : Path × Entry} (he : e ∈ walkRoot fs runtime) :
      ∃ r, e.1 = root runtime ++ r ∧ e.1.drop runtime.length = bytes "root" :: r ∧
        ∀ n ∈ (e.1.drop runtime.length).map fsdecode, 47 ∉ n := by
    obtain ⟨hmem, ⟨r, hp⟩, -⟩ := mem_walkRoot he
    have hdrop : e.1.drop runtime.length = bytes "root" :: r := by
      rw [← hp, root, List.append_assoc, List.drop_left]
      rfl
    refine ⟨r, hp.symm, hdrop, ?_⟩
    intro n hn
    obtain ⟨m, hm, rfl⟩ := List.mem_map.mp hn
    have hname := (fs.names e.1 (List.mem_map_of_mem hmem)).2 m (List.mem_of_mem_drop hm)
    rw [mem_fsdecode (by decide)]
    exact hname.2.2.2.1
  obtain ⟨r, hp, hdrop, hn⟩ := hnames he
  obtain ⟨r', hp', hdrop', hn'⟩ := hnames he'
  have hsplit := congrArg (List.splitOn 47) h
  rw [relativeTo, relativeTo, List.splitOn_intercalate _ hn (by simp [hdrop]),
    List.splitOn_intercalate _ hn' (by simp [hdrop'])] at hsplit
  have hr := List.map_injective_iff.mpr fsdecode_injective hsplit
  rw [hdrop, hdrop'] at hr
  exact ⟨r, hp, by rw [hp', (List.cons.inj hr).2]⟩

lemma relativeTo_injective {e e' : Path × Entry} (he : e ∈ walkRoot fs runtime) (he' : e' ∈ walkRoot fs runtime)
    (h : relativeTo runtime e.1 = relativeTo runtime e'.1) : e.1 = e'.1 := by
  obtain ⟨r, hr, hr'⟩ := relativeTo_eq he he' h
  rw [hr, hr']

lemma collectArtifact_some {e : Path × Entry} {a : Artifact} (h : collectArtifact v fs runtime e = .ok (some a)) :
    a.path = relativeTo runtime e.1 ∧ isHexOf 64 a.sha256 = true ∧
      ∃ s, safeRelativePath a.path (lit "runtime artifact") true = .ok s := by
  unfold collectArtifact at h
  split at h
  · cases h
  · cases h
  · obtain ⟨s, hs, h⟩ := of_bind_eq_ok h
    obtain rfl := Option.some.inj (Except.ok.inj h)
    exact ⟨rfl, Digest.isHex _, s, hs⟩
  · obtain ⟨s, hs, h⟩ := of_bind_eq_ok h
    obtain ⟨_, -, h⟩ := of_bind_eq_ok h
    obtain ⟨_, -, h⟩ := of_bind_eq_ok h
    obtain ⟨_, -, h⟩ := of_bind_eq_ok h
    obtain ⟨_, -, h⟩ := of_bind_eq_ok h
    obtain rfl := Option.some.inj (Except.ok.inj h)
    exact ⟨rfl, Digest.isHex _, s, hs⟩

lemma safeRelativePath_owner {value owner s : Str} (h : safeRelativePath value owner true = .ok s) (owner' : Str) :
    safeRelativePath value owner' true = .ok value := by
  unfold safeRelativePath at h ⊢
  split_ifs at h with hn hr
  rw [if_neg hn, if_neg hr]

lemma paths_sublist {es : List (Path × Entry)} {found : List (Option Artifact)}
    (h : List.Forall₂ (fun e r => collectArtifact v fs runtime e = .ok r) es found) :
    ((found.filterMap id).map Artifact.path).Sublist (es.map fun e => relativeTo runtime e.1) := by
  induction h with
  | nil => simp
  | @cons e r es found hr _ ih =>
    cases r with
    | none => exact ih.cons _
    | some a =>
      simp only [List.filterMap_cons, id, List.map_cons, (collectArtifact_some hr).1]
      exact ih.cons_cons _

theorem collected_of_collectArtifacts {artifacts : List Artifact}
    (h : collectArtifacts v fs runtime = .ok artifacts) : Collected artifacts := by
  unfold collectArtifacts at h
  split at h
  · obtain ⟨found, hf, rfl⟩ := of_map_eq_ok h
    have hforall := of_mapM_eq_ok hf
    have hfrom {a : Artifact} (ha : a ∈ found.filterMap id) :
        ∃ e ∈ walkRoot fs runtime, collectArtifact v fs runtime e = .ok (some a) := by
      obtain ⟨r, hr, he⟩ := List.mem_filterMap.mp ha
      obtain rfl : r = some a := he
      exact (mem_of_mapM_eq_ok hf).mp hr
    refine ⟨?_, ?_, ?_⟩
    · refine (paths_sublist hforall).nodup ?_
      refine List.Nodup.map_on (fun e he e' he' hee => ?_) (sortBy_nodup ?_)
      · exact List.inj_on_of_nodup_map fs.nodup (mem_walkRoot he).1 (mem_walkRoot he').1
          (relativeTo_injective he he' hee)
      · exact (List.Nodup.of_map _ fs.nodup).filter _
    · intro a ha owner
      obtain ⟨e, -, he⟩ := hfrom ha
      obtain ⟨-, -, s, hs⟩ := collectArtifact_some he
      exact safeRelativePath_owner hs owner
    · intro a ha
      obtain ⟨e, -, he⟩ := hfrom ha
      exact (collectArtifact_some he).2.1
  · split at h <;> cases h
  · cases h

lemma eq_of_encode_fsdecode {bs cs : Utf8.Bytes} (h : encode (fsdecode bs) = some cs) : cs = bs :=
  fsdecode_injective (decode_unique (decode_encode h)).symm

lemma of_ensure {b : Bool} {r : Refusal} {u : Unit} (h : ensure b r = .ok u) : b = true := by
  unfold ensure at h
  split_ifs at h with hb
  exact hb

lemma collectArtifact_describes {e : Path × Entry} {r : Option Artifact}
    (h : collectArtifact v fs runtime e = .ok r) :
    (isTracked e = false ∧ r = none) ∨ isTracked e = true ∧ ∃ a, r = some a ∧ Describes v fs runtime e a := by
  obtain ⟨p, e⟩ := e
  cases e with
  | dir | other => exact .inl ⟨rfl, (Except.ok.inj h).symm⟩
  | file content x =>
    obtain ⟨_, -, h⟩ := of_bind_eq_ok h
    exact .inr ⟨rfl, _, (Except.ok.inj h).symm, rfl, rfl, rfl, rfl, rfl⟩
  | link text =>
    obtain ⟨_, -, h⟩ := of_bind_eq_ok h
    obtain ⟨_, habsolute, h⟩ := of_bind_eq_ok h
    obtain ⟨q, hq, h⟩ := of_bind_eq_ok h
    obtain ⟨_, hinside, h⟩ := of_bind_eq_ok h
    obtain ⟨encoded, he, h⟩ := of_bind_eq_ok h
    have hresolve := of_orError_eq_ok hq
    obtain rfl := eq_of_encode_fsdecode (of_orError_eq_ok he)
    refine .inr ⟨rfl, _, (Except.ok.inj h).symm, rfl, rfl, rfl, rfl, rfl, ?_, q, hresolve, ?_, ?_⟩
    · simpa using of_ensure habsolute
    · exact List.isPrefixOf_iff_prefix.mp (of_ensure hinside)
    · exact walk_isSome rfl hresolve

lemma describes_of_forall₂ {es : List (Path × Entry)} {found : List (Option Artifact)}
    (h : List.Forall₂ (fun e r => collectArtifact v fs runtime e = .ok r) es found) :
    List.Forall₂ (Describes v fs runtime) (es.filter isTracked) (found.filterMap id) := by
  induction h with
  | nil => exact .nil
  | cons hr _ ih =>
    rcases collectArtifact_describes hr with ⟨ht, rfl⟩ | ⟨ht, a, rfl, hd⟩
    · rw [List.filter_cons_of_neg (by simp [ht])]
      exact ih
    · rw [List.filter_cons_of_pos ht]
      exact .cons hd ih

theorem collectArtifacts_describes {artifacts : List Artifact}
    (h : collectArtifacts v fs runtime = .ok artifacts) :
    fs.isDir (root runtime) = true ∧
      List.Forall₂ (Describes v fs runtime) ((walkRoot fs runtime).filter isTracked) artifacts := by
  unfold collectArtifacts at h
  split at h
  · rename_i hroot
    obtain ⟨found, hf, rfl⟩ := of_map_eq_ok h
    refine ⟨isDir_iff.mpr hroot, ?_⟩
    exact describes_of_forall₂ (of_mapM_eq_ok hf)
  · split at h <;> cases h
  · cases h

end Graft64.Runtime.Manifest
