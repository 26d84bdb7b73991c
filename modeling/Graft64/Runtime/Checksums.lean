import Graft64.Library.Writes
import Graft64.Runtime.Artifacts

/-! `runtime-manifest.sha256`: what `write_checksum_manifest` writes of the artifacts, and what
`parse_checksum_manifest` reads back. -/

namespace Graft64.Runtime.Manifest

open Graft64.Library Utf8 Unpack Results DepsLock FileSystem

def checksumLine (a : Artifact) : Str := a.sha256 ++ lit "  " ++ a.path

def checksumText (artifacts : List Artifact) : Str :=
  [10].intercalate (artifacts.map checksumLine) ++ if artifacts = [] then [] else [10]

def checksumPath (runtime : Path) : Path := runtime ++ [bytes "runtime-manifest.sha256"]

def writeChecksumManifest (steps : ℕ) (runtime : Path) (artifacts : List Artifact) (fs : FileSystem) :
    FileSystem × Except WriteError Unit :=
  writeText steps (checksumPath runtime) (checksumText artifacts) fs

def OneLine (artifacts : List Artifact) : Prop := ∀ a ∈ artifacts, ∀ c ∈ a.path, endsLine c = false

def checksums (artifacts : List Artifact) : Dict := artifacts.map fun a => (a.path, a.sha256)

lemma splitLinesFrom_append {l line rest : Str} (h : ∀ c ∈ l, endsLine c = false) :
    splitLinesFrom line (l ++ rest) = splitLinesFrom (line ++ l) rest := by
  induction l generalizing line with
  | nil => simp
  | cons c l ih =>
    obtain ⟨hc, hl⟩ := List.forall_mem_cons.mp h
    have h13 : c ≠ 13 := by rintro rfl; cases hc
    have hstep : splitLinesFrom line (c :: (l ++ rest)) = splitLinesFrom (line ++ [c]) (l ++ rest) := by
      rw [splitLinesFrom.eq_def]
      split
      · rename_i he; cases he
      · rename_i he
        exact absurd (List.cons.inj he).1 h13
      · rename_i he
        obtain ⟨rfl, rfl⟩ := List.cons.inj he
        rw [hc]
        rfl
    rw [List.cons_append, hstep, ih hl, List.append_assoc]
    rfl

lemma splitLines_flatMap {ls : List Str} (h : ∀ l ∈ ls, ∀ c ∈ l, endsLine c = false) :
    splitLines (ls.flatMap fun l => l ++ [10]) = ls := by
  unfold splitLines
  induction ls with
  | nil => rfl
  | cons l ls ih =>
    obtain ⟨hl, hls⟩ := List.forall_mem_cons.mp h
    rw [List.flatMap_cons, List.append_assoc, splitLinesFrom_append hl]
    exact congrArg (l :: ·) (ih hls)

lemma mem_splitLinesFrom {line text l : Str} (hline : ∀ c ∈ line, endsLine c = false)
    (h : l ∈ splitLinesFrom line text) : ∀ c ∈ l, endsLine c = false := by
  fun_induction splitLinesFrom line text with
  | case1 => cases h
  | case2 line _ =>
    obtain rfl := List.mem_singleton.mp h
    exact hline
  | case3 line s ih =>
    rcases List.mem_cons.mp h with rfl | h
    · exact hline
    · exact ih (by simp) h
  | case4 line c s _ _ ih =>
    rcases List.mem_cons.mp h with rfl | h
    · exact hline
    · exact ih (by simp) h
  | case5 line c s _ hc ih =>
    refine ih ?_ h
    intro d hd
    rcases List.mem_append.mp hd with hd | hd
    · exact hline d hd
    · rw [List.mem_singleton.mp hd]
      simpa using hc

lemma checksumText_eq (artifacts : List Artifact) :
    checksumText artifacts = (artifacts.map checksumLine).flatMap fun l => l ++ [10] := by
  unfold checksumText
  induction artifacts with
  | nil => rfl
  | cons a as ih =>
    cases as with
    | nil => simp [List.intercalate]
    | cons b as =>
      rw [List.map_cons, List.flatMap_cons, ← ih]
      simp [List.intercalate_cons_cons]

lemma exists_cons_of_safe {value owner s : Str} (h : safeRelativePath value owner true = .ok s) :
    s = value ∧ ∃ rest, value = 114 :: rest := by
  unfold safeRelativePath at h
  split_ifs at h with hn hr
  refine ⟨(Except.ok.inj h).symm, ?_⟩
  simp only [not_or, not_not] at hn
  have hroot : (parts value).head? = some (lit "root") := by simpa using hr
  obtain ⟨ps, hps⟩ : ∃ ps, parts value = lit "root" :: ps := by
    cases hp : parts value with
    | nil => simp [hp] at hroot
    | cons q ps =>
      rw [hp] at hroot
      exact ⟨ps, by rw [Option.some.inj hroot]⟩
  have hvalue := hn.2.2.2.2.2
  rw [asPosix, hps, if_neg (by simp)] at hvalue
  rw [← hvalue]
  cases ps with
  | nil => exact ⟨_, rfl⟩
  | cons q ps => exact ⟨_, rfl⟩

lemma checksumPattern_line {digest path rest : Str} (hd : isHexOf 64 digest = true) (hp : path = 114 :: rest)
    (h10 : 10 ∉ path) :
    ∃ c, checksumPattern.matchAt ⟨true, digest ++ (lit "  " ++ path)⟩ = some (c, [digest, path]) := by
  obtain ⟨hlen, hhex⟩ := Bool.and_eq_true_iff.mp hd
  have hrep : List.replicate 64 (Regex.char isHex) = List.replicate digest.length (Regex.char isHex) := by
    rw [eq_of_beq hlen]
  have hspaces : ∀ c ∈ lit "  ", isSpace c = true := by decide
  have hline : ∀ c ∈ path, inLine c = true := by
    intro c hc
    exact bne_iff_ne.mpr fun he => h10 (he ▸ hc)
  have hhead : ∀ c ∈ path.head?, isSpace c = false := by
    rw [hp]
    rintro c ⟨⟩
    decide
  refine ⟨⟨Regex.bolAfter (Regex.bolAfter (Regex.bolAfter true digest) (lit "  ")) path, []⟩, ?_⟩
  rw [checksumPattern, hrep, Regex.matchAt]
  simp only [Regex.seqs, Regex.run]
  rw [Regex.run_chars (List.all_eq_true.mp hhex), Regex.take_group]
  refine Regex.run_plus_greedy (by decide) hspaces hhead ?_
  refine Regex.run_plus_all (by simp [hp]) hline ?_
  simp

lemma lookup_isNone_iff {d : Dict} {key : Str} : (d.lookup key).isNone = true ↔ key ∉ d.map Prod.fst := by
  rw [Option.isNone_iff_eq_none, List.lookup_eq_none_iff, List.mem_map]
  constructor
  · rintro h ⟨f, hf, rfl⟩
    simpa using h f hf
  · intro h f hf
    exact bne_iff_ne.mpr fun he => h ⟨f, hf, he.symm⟩

lemma parseChecksumLines_checksumLine {seen : Dict} {index : ℕ} {artifacts : List Artifact}
    (hs : ∀ a ∈ artifacts, ∀ owner, safeRelativePath a.path owner true = .ok a.path)
    (hd : ∀ a ∈ artifacts, isHexOf 64 a.sha256 = true) (hl : OneLine artifacts)
    (hn : (seen.map Prod.fst ++ artifacts.map Artifact.path).Nodup) :
    parseChecksumLines seen index (artifacts.map checksumLine) = .ok (seen ++ checksums artifacts) := by
  induction artifacts generalizing seen index with
  | nil => simp [parseChecksumLines, checksums]
  | cons a as ih =>
    obtain ⟨hsa, hs⟩ := List.forall_mem_cons.mp hs
    obtain ⟨hda, hd⟩ := List.forall_mem_cons.mp hd
    obtain ⟨hla, hl⟩ := List.forall_mem_cons.mp hl
    obtain ⟨-, rest, hpath⟩ := exists_cons_of_safe (hsa [])
    have h10 : 10 ∉ a.path := by
      intro h
      have := hla 10 h
      cases this
    obtain ⟨c, hm⟩ := checksumPattern_line hda hpath h10
    rw [← List.append_assoc] at hm
    have hnew : (seen.lookup a.path).isNone = true := by
      rw [lookup_isNone_iff]
      intro h
      exact (List.nodup_append.mp hn).2.2 _ h _ (by simp) rfl
    have hn' : ((seen ++ [(a.path, a.sha256)]).map Prod.fst ++ as.map Artifact.path).Nodup := by
      simpa using hn
    rw [List.map_cons, parseChecksumLines, checksumLine, hm]
    have hrest : parseChecksumLines (seen ++ [(a.path, a.sha256)]) (index + 1) (as.map checksumLine) =
        .ok (seen ++ [(a.path, a.sha256)] ++ checksums as) := ih hs hd hl hn'
    simp only [hsa, hnew, ensure, bind, Except.bind, if_true, hrest]
    simp [checksums]

lemma mem_parseChecksumLines {seen d : Dict} {index : ℕ} {ls : List Str}
    (h : parseChecksumLines seen index ls = .ok d) {field : Str × Str} (hf : field ∈ d) :
    field ∈ seen ∨ ∃ l ∈ ls, field.1 <:+: l := by
  induction ls generalizing seen index with
  | nil =>
    obtain rfl := Except.ok.inj h
    exact .inl hf
  | cons l ls ih =>
    rw [parseChecksumLines] at h
    split at h
    · rename_i c digest relative hm
      obtain ⟨_, -, h⟩ := of_bind_eq_ok h
      obtain ⟨_, -, h⟩ := of_bind_eq_ok h
      rcases ih h with hs | ⟨l', hl', hp⟩
      · rcases List.mem_append.mp hs with hs | hs
        · exact .inl hs
        · rw [List.mem_singleton.mp hs]
          exact .inr ⟨l, List.mem_cons_self, Regex.infix_of_group hm (by simp)⟩
      · exact .inr ⟨l', List.mem_cons_of_mem _ hl', hp⟩
    · cases h

lemma splitLines_checksumText {artifacts : List Artifact} (hc : Collected artifacts) (hl : OneLine artifacts) :
    splitLines (universalNewlines (checksumText artifacts)) = artifacts.map checksumLine := by
  have hlines : ∀ l ∈ artifacts.map checksumLine, ∀ c ∈ l, endsLine c = false := by
    intro l hm c hcl
    obtain ⟨a, ha, rfl⟩ := List.mem_map.mp hm
    rw [checksumLine, List.mem_append, List.mem_append] at hcl
    rcases hcl with (hcl | hcl) | hcl
    · have hhex := List.all_eq_true.mp (Bool.and_eq_true_iff.mp (hc.digest a ha)).2 c hcl
      simp only [isHex, decide_eq_true_eq] at hhex
      simp only [endsLine, Bool.or_eq_false_iff, beq_eq_false_iff_ne]
      omega
    · revert c
      decide
    · exact hl a ha c hcl
  have h13 : 13 ∉ checksumText artifacts := by
    rw [checksumText_eq, List.mem_flatMap]
    rintro ⟨l, hm, h⟩
    rcases List.mem_append.mp h with h | h
    · have := hlines l hm 13 h
      cases this
    · cases List.mem_singleton.mp h
  rw [universalNewlines_of_not_mem h13, checksumText_eq, splitLines_flatMap hlines]

lemma parse_checksumText {artifacts : List Artifact} (hc : Collected artifacts) :
    parseChecksumLines [] 1 (splitLines (universalNewlines (checksumText artifacts))) = .ok (checksums artifacts) ↔
      OneLine artifacts := by
  constructor
  · intro h a ha c hca
    have hm : (a.path, a.sha256) ∈ checksums artifacts := List.mem_map.mpr ⟨a, ha, rfl⟩
    rcases mem_parseChecksumLines h hm with hs | ⟨l, hl, hp⟩
    · cases hs
    · exact mem_splitLinesFrom (by simp) hl c (hp.subset hca)
  · intro hl
    rw [splitLines_checksumText hc hl]
    have hp : parseChecksumLines [] 1 (artifacts.map checksumLine) = .ok ([] ++ checksums artifacts) :=
      parseChecksumLines_checksumLine hc.safe hc.digest hl (by simpa using hc.distinct)
    rwa [List.nil_append] at hp

/-- The checksums that were written are read back exactly when no path has a character that ends a
line. -/
theorem checksums_roundtrip_iff (v : Setting) (runtime : Path) (fs fs' : FileSystem) (artifacts : List Artifact)
    (hc : Collected artifacts) (hne : artifacts ≠ [])
    (hw : writeChecksumManifest v.steps runtime artifacts fs = (fs', .ok ())) :
    parseChecksumManifest v fs' (checksumPath runtime) = .ok (checksums artifacts) ↔ OneLine artifacts := by
  obtain ⟨bs, place, content, hb, hp, rfl, hs⟩ := writeText_ok hw
  have hr : readText v fs' (checksumPath runtime) = some (universalNewlines (checksumText artifacts)) := by
    rw [readText, readBytes_store hp hs, Option.bind_some, decode_encode hb, Option.map_some]
  rw [← parse_checksumText hc]
  simp only [parseChecksumManifest, hr, orError]
  constructor
  · intro h
    obtain ⟨text, ht, h⟩ := of_bind_eq_ok h
    obtain rfl := Except.ok.inj ht
    obtain ⟨_, -, h⟩ := of_bind_eq_ok h
    exact h
  · intro h
    have hlines := splitLines_checksumText hc ((parse_checksumText hc).mp h)
    have hnonempty : (splitLines (universalNewlines (checksumText artifacts))).isEmpty = false := by
      simp [hlines, hne]
    simp only [hnonempty, ensure, bind, Except.bind, h]
    rfl

def oneFile (name : Utf8.Bytes) (h : IsName name) : FileSystem where
  entries := [([bytes "out"], .dir), ([bytes "out", bytes "root"], .dir),
    ([bytes "out", bytes "root", name], .file emptyFile false)]
  nodup := by simp
  names := by
    have hout : IsName (bytes "out") := by decide
    have hroot : IsName (bytes "root") := by decide
    simp [hout, hroot, h]
  parents := by simp

def sampleSetting : Setting := ⟨fun _ => ⟨List.replicate 64 48, by decide⟩, 9⟩

def sampleArtifact (path : Str) : Artifact := ⟨path, List.replicate 64 48, lit "runtime-file", lit "file", none⟩

def nextLineName : Utf8.Bytes := [97, 0xC2, 0x85, 98]

def written (artifact : Artifact) (fs : FileSystem) : FileSystem :=
  (writeChecksumManifest 9 [bytes "out"] [artifact] fs).1

/-- A file that is collected, whose checksum is written and cannot be read back. -/
theorem checksums_unreadable :
    ∃ artifacts fs', collectArtifacts sampleSetting (oneFile nextLineName (by decide)) [bytes "out"] =
      .ok artifacts ∧
      artifacts ≠ [] ∧
      writeChecksumManifest 9 [bytes "out"] artifacts (oneFile nextLineName (by decide)) = (fs', .ok ()) ∧
      parseChecksumManifest sampleSetting fs' (checksumPath [bytes "out"]) ≠ .ok (checksums artifacts) := by
  let a := sampleArtifact (lit "root/a" ++ [133, 98])
  let fs' := written a (oneFile nextLineName (by decide))
  have he : parseChecksumManifest sampleSetting fs' (checksumPath [bytes "out"]) = .error (.checksumLine 2) := rfl
  refine ⟨[a], fs', rfl, by simp, rfl, ?_⟩
  rw [he]
  intro h
  cases h

theorem checksums_roundtrip_space :
    parseChecksumManifest sampleSetting
      (written (sampleArtifact (lit "root/a b")) (oneFile (bytes "a b") (by decide)))
      (checksumPath [bytes "out"]) = .ok [(lit "root/a b", List.replicate 64 48)] := by
  have hc : Collected [sampleArtifact (lit "root/a b")] := by
    have h : collectArtifacts sampleSetting (oneFile (bytes "a b") (by decide)) [bytes "out"] =
        .ok [sampleArtifact (lit "root/a b")] := rfl
    exact collected_of_collectArtifacts h
  have hl : OneLine [sampleArtifact (lit "root/a b")] := by
    unfold OneLine
    decide
  exact (checksums_roundtrip_iff sampleSetting [bytes "out"] (oneFile (bytes "a b") (by decide)) _ _ hc (by simp)
    rfl).mpr hl

end Graft64.Runtime.Manifest
