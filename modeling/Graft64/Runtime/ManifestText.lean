import Graft64.Library.JsonNames
import Graft64.Runtime.LockText
import Graft64.Runtime.ManifestSchema
import Graft64.Runtime.TestReport

/-! The manifest that is written can be read back: every string in it survives the escapes. -/

namespace Graft64.Runtime.Manifest

open Graft64.Library Utf8 Unpack Results DepsLock FileSystem Json
open PatchSeries (PatchEntry)

variable {v : Setting} {fs : FileSystem} {runtime repository : Path}

lemma mem_universalNewlines {c : ℕ} {s : Str} (h : c ∈ universalNewlines s) : c = 10 ∨ c ∈ s := by
  fun_induction universalNewlines s with
  | case1 s ih =>
    rcases List.mem_cons.mp h with h | h
    · exact .inl h
    · exact (ih h).imp_right fun hs => List.mem_cons_of_mem _ (List.mem_cons_of_mem _ hs)
  | case2 s _ ih =>
    rcases List.mem_cons.mp h with h | h
    · exact .inl h
    · exact (ih h).imp_right (List.mem_cons_of_mem _)
  | case3 d s _ _ ih =>
    rcases List.mem_cons.mp h with rfl | h
    · exact .inr List.mem_cons_self
    · exact (ih h).imp_right (List.mem_cons_of_mem _)
  | case4 => cases h

lemma scalar_of_readText {p : Path} {text : Str} (h : readText v fs p = some text) : ∀ c ∈ text, Scalar c := by
  obtain ⟨s, hs, rfl⟩ := Option.map_eq_some_iff.mp h
  obtain ⟨bs, -, hd⟩ := Option.bind_eq_some_iff.mp hs
  intro c hc
  rcases mem_universalNewlines hc with rfl | hc
  · exact scalar_of_lt (by decide)
  · exact scalar_of_decode hd c hc

lemma texts_of_readJson {p : Path} {j : Json} (h : readJson v fs p = some j) : Texts Unpaired j := by
  obtain ⟨text, ht, hj⟩ := Option.bind_eq_some_iff.mp h
  exact parse_texts hj (scalar_of_readText ht)

lemma lowly_hex {s : Str} {n : ℕ} (h : isHexOf n s = true) : Lowly s := by
  refine .of_ascii ?_
  intro c hc
  have hhex := List.all_eq_true.mp (Bool.and_eq_true_iff.mp h).2 c hc
  simp only [isHex, decide_eq_true_eq] at hhex
  omega

lemma loadTests_unpaired {report : Option (List Utf8.Bytes)} {tests : List TestEntry}
    (h : loadTests v fs runtime report = .ok tests) : ∀ t ∈ tests, ∀ f ∈ testDict t, Unpaired f.2 := by
  cases report with
  | none =>
    obtain rfl := Except.ok.inj h
    simp
  | some report =>
    obtain ⟨raw, hraw, h⟩ := of_bind_eq_ok h
    have htexts := texts_of_readJson (of_orError_eq_ok hraw)
    unfold validateTestReport at h
    split at h
    · rename_i raws
      cases hfrom : testsFrom (reportTest v fs runtime) [] 0 raws with
      | error r =>
        rw [hfrom] at h
        cases h
      | ok tests' =>
        rw [hfrom] at h
        obtain rfl := Except.ok.inj h
        intro t ht
        obtain ⟨raw, hmem, seen, index, hok⟩ := exists_of_forall₂ (testsFrom_ok hfrom).flip ht
        obtain ⟨ms, rfl, hn, hs, hl, -, -, located, -, hd⟩ := reportTest_cases hok
        have hms : MemberTexts Unpaired ms := texts_of_mem htexts _ hmem
        have hfield {key value : Str} (hf : strField key ms = some value) : Unpaired value :=
          texts_of_field hms (field_of_strField hf)
        simp only [testDict, List.forall_mem_cons]
        refine ⟨hfield hn, hfield hs, hfield hl, ?_, by simp⟩
        rw [hd]
        exact (lowly_hex (Digest.isHex _)).unpaired
    · cases h

lemma strings_dictJson {P : Str → Prop} {d : Dict} (h : ∀ f ∈ d, P f.1 ∧ P f.2) :
    MemberStrings P (dictJson d) := by
  rw [memberStrings_iff, dictJson, List.forall_mem_map]
  exact h

lemma distinct_dictJson (d : Dict) : DistinctMembers (dictJson d) := by
  rw [distinctMembers_iff, dictJson, List.forall_mem_map]
  exact fun f _ => trivial

structure Writable (lock : Lock) (tests : List Dict) (artifacts : List Artifact)
    (patches : List (PatchEntry Digest)) :
    Prop where
  dicts : ∀ d ∈ lock.toolchain :: lock.llvmMingw :: (lock.dependencies ++ tests),
    (d.map Prod.fst).Nodup ∧ ∀ f ∈ d, Unpaired f.1 ∧ Unpaired f.2
  llvm_not_mem : lit "llvm_mingw" ∉ lock.toolchain.map Prod.fst
  artifacts_lowly : ∀ a ∈ artifacts, Lowly a.path ∧ Lowly a.sha256 ∧ Lowly a.role ∧ Lowly a.kind ∧
    ∀ t ∈ a.linkTarget, Lowly t
  patches_lowly : ∀ e ∈ patches, Lowly e.path

section

variable {lock : Lock} {tests : List Dict} {artifacts : List Artifact} {patches : List (PatchEntry Digest)}

lemma unpaired_of_ascii {s : Str} (h : Ascii s) : Unpaired s := (Lowly.of_ascii h).unpaired

lemma strings_artifactJson {a : Artifact} (h : Lowly a.path ∧ Lowly a.sha256 ∧ Lowly a.role ∧ Lowly a.kind ∧
    ∀ t ∈ a.linkTarget, Lowly t) : Strings Unpaired (artifactJson a) := by
  obtain ⟨hp, hd, hr, hk, ht⟩ := h
  simp (disch := decide) only [artifactJson, Strings, MemberStrings, unpaired_of_ascii, hp.unpaired, hd.unpaired,
    hr.unpaired, hk.unpaired, true_and, and_true]
  cases hl : a.linkTarget with
  | none => trivial
  | some t => exact (ht t hl).unpaired

lemma strings_patchJson {e : PatchEntry Digest} (h : Lowly e.path) : Strings Unpaired (patchJson e) := by
  have hname : Ascii (lit e.dependency.name) := by cases e.dependency <;> decide
  simp (disch := decide) only [patchJson, Strings, MemberStrings, unpaired_of_ascii, unpaired_of_ascii hname,
    h.unpaired, (lowly_hex e.sha256.isHex).unpaired, true_and]

lemma strings_map {α : Type} {P : Str → Prop} {f : α → Json} {as : List α} (h : ∀ a ∈ as, Strings P (f a)) :
    ElementStrings P (as.map f) := by
  rw [elementStrings_iff, List.forall_mem_map]
  exact h

lemma distinct_map {α : Type} {f : α → Json} {as : List α} (h : ∀ a ∈ as, Distinct (f a)) :
    DistinctElements (as.map f) := by
  rw [distinctElements_iff, List.forall_mem_map]
  exact h

lemma Writable.strings_toolchain (h : Writable lock tests artifacts patches) :
    Strings Unpaired (toolchainJson lock) := by
  rw [toolchainJson, Strings, memberStrings_iff, List.forall_mem_append]
  refine ⟨memberStrings_iff.mp (strings_dictJson (h.dicts _ (by simp)).2), ?_⟩
  have hkey : Unpaired (lit "llvm_mingw") := unpaired_of_ascii (by decide)
  rw [List.forall_mem_singleton]
  exact ⟨hkey, strings_dictJson (h.dicts _ (by simp)).2⟩

lemma Writable.strings (h : Writable lock tests artifacts patches) :
    Strings Unpaired (manifestJson lock tests artifacts patches) := by
  have hdependencies : ElementStrings Unpaired (lock.dependencies.map fun d => .obj (dictJson d)) :=
    strings_map fun d hd => strings_dictJson (h.dicts d (by simp [hd])).2
  have htests : ElementStrings Unpaired (tests.map fun d => .obj (dictJson d)) :=
    strings_map fun d hd => strings_dictJson (h.dicts d (by simp [hd])).2
  have hpatches := strings_map fun e he => strings_patchJson (h.patches_lowly e he)
  have hartifacts := strings_map fun a ha => strings_artifactJson (h.artifacts_lowly a ha)
  simp (disch := decide) only [manifestJson, Strings, MemberStrings, platformJson, sourceLockJson,
    dependenciesJson, patchesJson, unpaired_of_ascii, h.strings_toolchain, hdependencies, hpatches, hartifacts,
    htests, and_self]

lemma Writable.distinct_toolchain (h : Writable lock tests artifacts patches) : Distinct (toolchainJson lock) := by
  refine ⟨?_, ?_⟩
  · rw [List.map_append, dictJson_keys, List.nodup_append]
    refine ⟨(h.dicts _ (by simp)).1, by simp, ?_⟩
    rintro key hkey _ hllvm rfl
    obtain rfl : key = lit "llvm_mingw" := List.mem_singleton.mp hllvm
    exact h.llvm_not_mem hkey
  · rw [distinctMembers_iff, List.forall_mem_append, List.forall_mem_singleton]
    refine ⟨distinctMembers_iff.mp (distinct_dictJson _), ?_, distinct_dictJson _⟩
    rw [dictJson_keys]
    exact (h.dicts _ (by simp)).1

lemma Writable.distinct_dependencies (h : Writable lock tests artifacts patches) :
    Distinct (dependenciesJson lock) := by
  refine distinct_map fun d hd => ⟨?_, distinct_dictJson d⟩
  rw [dictJson_keys]
  exact (h.dicts d (by simp [hd])).1

lemma distinct_patches (es : List (PatchEntry Digest)) : Distinct (patchesJson es) :=
  distinct_map fun e _ =>
    ⟨(by decide : [lit "dependency", lit "path", lit "sha256"].Nodup), trivial, trivial, trivial, trivial⟩

/-- The members of the manifest, in the order they are read back in. -/
def manifestMembers (lock : Lock) (tests : List Dict) (artifacts : List Artifact)
    (patches : List (PatchEntry Digest)) :
    List (Str × Json) :=
  membersOf (manifestJson lock tests artifacts patches)

lemma Writable.readBack (h : Writable lock tests artifacts patches) :
    parse true (manifestText lock tests artifacts patches) =
      some (.obj (sorted (manifestMembers lock tests artifacts patches))) := by
  rw [manifestText, parse_dumps true h.strings (by decide)]
  rfl

end

end Graft64.Runtime.Manifest
