import Graft64.Library.CsvWriter
import Graft64.Runtime.DepsLock
import Graft64.Runtime.PatchSeries
import Graft64.Runtime.Upstream

/-! `prepared-sources.tsv`: the rows that the Python step of `apply-patches.sh` writes, and what the shell loop
makes of them. -/

namespace Graft64.Runtime.SourcesTable

open Graft64.Library Utf8 DepsLock
open PatchSeries (Dependency)
open Upstream (word)

/-- `dir / name`, for a directory that is an absolute path. -/
def joinPath (dir name : Str) : Str := if dir = [47] then 47 :: name else dir ++ 47 :: name

section

variable (commit : Dependency → Str)

/-- `upstream / "downloads" / f"{name}-{commit}.tar.gz"` -/
def archivePath (upstream : Str) (d : Dependency) : Str :=
  joinPath (joinPath upstream (lit "downloads")) (lit d.name ++ 45 :: commit d ++ lit ".tar.gz")

/-- `work_root / f"{name}-{commit}"` -/
def preparedPath (workRoot : Str) (d : Dependency) : Str := joinPath workRoot (lit d.name ++ 45 :: commit d)

def preparedRow (upstream workRoot : Str) (d : Dependency) : List Str :=
  [lit d.name, commit d, archivePath commit upstream d, preparedPath commit workRoot d]

def header : List Str := [lit "dependency", lit "commit", lit "archive", lit "prepared_source"]

def dependencies : List Dependency := [.wine, .fex]

/-- What `csv.writer` writes. -/
def sourcesText (cr : Bool) (upstream workRoot : Str) : Str :=
  Csv.writeRow 9 cr header ++ dependencies.flatMap fun d =>
    Csv.writeRow 9 cr (preparedRow commit upstream workRoot d)

/-- The file, for the resolved directories; `none` when a name in them cannot be written. -/
def sourcesFile (cr : Bool) (upstream workRoot : Bytes) : Option Bytes :=
  encode (sourcesText commit cr (fsdecode upstream) (fsdecode workRoot))

end

/-- The variables of the shell loop. -/
structure Row where
  dependency : Str
  commit : Str
  archive : Str
  prepared : Str
  extra : Str
deriving DecidableEq

/-- `IFS=$'\t' read -r dependency commit archive prepared_source extra` -/
def Row.read (line : Str) : Row :=
  let dependency := word line
  let commit := word dependency.2
  let archive := word commit.2
  let prepared := word archive.2
  ⟨dependency.1, commit.1, archive.1, prepared.1, (prepared.2.dropWhile (· == 9)).rdropWhile (· == 9)⟩

def linesFrom : Str → Str → List Str
  | _, [] => []
  | w, c :: s => if c = 10 then w :: linesFrom [] s else linesFrom (w ++ [c]) s

/-- The lines that `read` is content with: each ends with its newline. -/
def lines (text : Str) : List Str := linesFrom [] text

def rowsRead (file : Bytes) : List Row := (lines (view file)).map Row.read

/-- The checks on a row; `workRoot` is `$WORK_ROOT`. -/
def checkRow (workRoot : Str) (row : Row) : Except Str Unit :=
  if row.extra ≠ [] then .error (lit "invalid prepared source record for " ++ row.dependency)
  else if ¬ (row.dependency = lit "fex" ∨ row.dependency = lit "wine") then
    .error (lit "unexpected prepared dependency: " ++ row.dependency)
  else if row.prepared ≠ workRoot ++ 47 :: row.dependency ++ 45 :: row.commit then
    .error (lit "prepared source path is outside the build source root: " ++ row.prepared)
  else .ok ()

/-- The rows whose trees the loop makes anew, when `tar` and `git apply` do not stop it, and why it dies. -/
def takeUp (workRoot : Str) : List Row → List Row × Option Str
  | [] => ([], none)
  | row :: rows =>
    if row.dependency = lit "dependency" then takeUp workRoot rows
    else match checkRow workRoot row with
      | .error message => ([], some message)
      | .ok () => (row :: (takeUp workRoot rows).1, (takeUp workRoot rows).2)

/-- `$OUT/build/sources` -/
def shellWorkRoot (out : Bytes) : Str := view out ++ lit "/build/sources"

def takenUp (out file : Bytes) : List Row × Option Str := takeUp (shellWorkRoot out) (rowsRead file)

def Plain (cr : Bool) (path : Bytes) : Prop := ∀ c ∈ view path, Csv.special 9 cr c = false

def writtenRow (commit : Dependency → Str) (upstream workRoot : Bytes) (d : Dependency) : Row :=
  ⟨lit d.name, commit d, archivePath commit (view upstream) d, preparedPath commit (view workRoot) d, []⟩

variable {commit : Dependency → Str} {cr : Bool} {upstream workRoot out file : Bytes}

lemma lines_cons {l : Str} (h : 10 ∉ l) (rest : Str) : lines (l ++ 10 :: rest) = l :: lines rest := by
  have hfrom (w : Str) : linesFrom w (l ++ 10 :: rest) = (w ++ l) :: linesFrom [] rest := by
    induction l generalizing w with
    | nil => simp [linesFrom]
    | cons c l ih =>
      rw [List.mem_cons, not_or] at h
      rw [List.cons_append, linesFrom, if_neg (Ne.symm h.1), ih h.2, List.append_assoc, List.singleton_append]
  exact hfrom []

def Safe (s : Str) : Prop := ∀ c ∈ s, 45 ≤ c ∧ c < 0x80

lemma Safe.append {s t : Str} (hs : Safe s) (ht : Safe t) : Safe (s ++ t) := List.forall_mem_append.mpr ⟨hs, ht⟩

lemma safe_hex {n : ℕ} {s : Str} (h : isHexOf n s = true) : Safe s := by
  rw [isHexOf, Bool.and_eq_true, List.all_eq_true] at h
  intro c hc
  have := h.2 c hc
  simp only [isHex, decide_eq_true_eq] at this
  omega

lemma safe_name (d : Dependency) : Safe (lit d.name) := by
  cases d with
  | wine | fex =>
    rw [Dependency.name, lit_ofList, Safe]
    decide

lemma special_of_le {c : ℕ} (h : 45 ≤ c) : Csv.special 9 cr c = false := by
  simp only [Csv.special, Bool.or_eq_false_iff, beq_eq_false_iff_ne, Bool.and_eq_false_iff]
  omega

lemma Safe.not_mem {s : Str} (h : Safe s) {c : ℕ} (hc : c < 45) : c ∉ s := fun hm => by
  have := h c hm
  omega

lemma writeField_safe {s : Str} (h : Safe s) : Csv.writeField 9 cr s = s :=
  Csv.writeField_plain fun c hc => special_of_le (h c hc).1

lemma mem_joinPath {dir name : Str} {c : ℕ} : c ∈ joinPath dir name ↔ c ∈ dir ∨ c = 47 ∨ c ∈ name := by
  rw [joinPath]
  split_ifs with h
  · simp [h]
  · simp

lemma safe_downloads : Safe (lit "downloads") := by
  rw [lit_ofList, Safe]
  decide

lemma safe_tar : Safe (lit ".tar.gz") := by
  rw [lit_ofList, Safe]
  decide

lemma safe_tree (hc : ∀ d, isHexOf 40 (commit d) = true) (d : Dependency) : Safe (lit d.name ++ 45 :: commit d) :=
  (safe_name d).append (List.forall_mem_cons.mpr ⟨by decide, safe_hex (hc d)⟩)

lemma mem_archivePath (hc : ∀ d, isHexOf 40 (commit d) = true) (dir : Str) (d : Dependency) {c : ℕ} :
    (c ∈ dir → c ∈ archivePath commit dir d) ∧ (c ∈ archivePath commit dir d → c ∈ dir ∨ 45 ≤ c ∧ c < 0x80) := by
  simp only [archivePath, mem_joinPath]
  constructor
  · exact fun h => .inl (.inl h)
  · rintro ((h | rfl | h) | rfl | h)
    · exact .inl h
    · exact .inr (by decide)
    · exact .inr (safe_downloads c h)
    · exact .inr (by decide)
    · exact .inr ((safe_tree hc d).append safe_tar c h)

lemma mem_preparedPath (hc : ∀ d, isHexOf 40 (commit d) = true) (dir : Str) (d : Dependency) {c : ℕ} :
    (c ∈ dir → c ∈ preparedPath commit dir d) ∧ (c ∈ preparedPath commit dir d → c ∈ dir ∨ 45 ≤ c ∧ c < 0x80) := by
  simp only [preparedPath, mem_joinPath]
  constructor
  · exact fun h => .inl h
  · rintro (h | rfl | h)
    · exact .inl h
    · exact .inr (by decide)
    · exact .inr (safe_tree hc d c h)

lemma writeRow_prepared (hc : ∀ d, isHexOf 40 (commit d) = true) (up root : Str) (d : Dependency) :
    Csv.writeRow 9 cr (preparedRow commit up root d) =
      lit d.name ++ 9 :: (commit d ++ 9 :: (Csv.writeField 9 cr (archivePath commit up d) ++
        9 :: (Csv.writeField 9 cr (preparedPath commit root d) ++ [10]))) := by
  simp only [Csv.writeRow, preparedRow, List.map_cons, List.map_nil, Csv.line_cons, writeField_safe (safe_name d),
    writeField_safe (safe_hex (hc d)), List.flatMap_cons, List.flatMap_nil, List.append_assoc, List.cons_append,
    List.nil_append]

lemma sourcesText_eq (up root : Str) : sourcesText commit cr up root =
    lit "dependency\tcommit\tarchive\tprepared_source" ++ 10 ::
      (Csv.writeRow 9 cr (preparedRow commit up root .wine) ++
      Csv.writeRow 9 cr (preparedRow commit up root .fex)) := by
  have hheader : Csv.writeRow 9 cr header = lit "dependency\tcommit\tarchive\tprepared_source" ++ [10] := by
    cases cr <;> decide +kernel
  rw [sourcesText, hheader, dependencies, List.flatMap_cons, List.flatMap_cons, List.flatMap_nil, List.append_nil,
    List.append_assoc, List.singleton_append]

lemma seen_joinPath {dir dir' name : Str} (hd : Seen dir dir') (hn : Safe name) :
    Seen (joinPath dir name) (joinPath dir' name) := by
  have hslash : Seen [47] [47] := seen_ascii (by simp)
  have hroot : dir = [47] ↔ dir' = [47] := by
    constructor
    · rintro rfl
      exact seen_unique hd hslash
    · rintro rfl
      exact hd.injective hslash
  have hname : Seen (47 :: name) (47 :: name) :=
    seen_ascii (List.forall_mem_cons.mpr ⟨by decide, fun c hc => (hn c hc).2⟩)
  rw [joinPath, joinPath]
  split_ifs with h h' h'
  · exact hname
  · exact absurd (hroot.mp h) h'
  · exact absurd (hroot.mpr h') h
  · exact seen_append hd hname

lemma seen_safe {s : Str} (h : Safe s) : Seen s s := seen_ascii fun c hc => (h c hc).2

lemma seen_low {c : ℕ} (hc : c < 0x80) {s v : Str} (h : Seen s v) : Seen (c :: s) (c :: v) :=
  seen_append (s := [c]) (seen_ascii (by simpa using hc)) h

lemma seen_writeRow (hc : ∀ d, isHexOf 40 (commit d) = true) {up up' root root' : Str} (hup : Seen up up')
    (hroot : Seen root root') (d : Dependency) : Seen (Csv.writeRow 9 cr (preparedRow commit up root d))
      (Csv.writeRow 9 cr (preparedRow commit up' root' d)) := by
  have harchive : Seen (archivePath commit up d) (archivePath commit up' d) :=
    seen_joinPath (seen_joinPath hup safe_downloads) ((safe_tree hc d).append safe_tar)
  have hprepared : Seen (preparedPath commit root d) (preparedPath commit root' d) :=
    seen_joinPath hroot (safe_tree hc d)
  have hend : Seen [10] [10] := seen_ascii (by simp)
  rw [writeRow_prepared hc, writeRow_prepared hc]
  refine seen_append (seen_safe (safe_name d)) (seen_low (by decide) ?_)
  refine seen_append (seen_safe (safe_hex (hc d))) (seen_low (by decide) ?_)
  refine seen_append (Csv.seen_writeField (by decide) cr harchive) (seen_low (by decide) ?_)
  exact seen_append (Csv.seen_writeField (by decide) cr hprepared) hend

lemma encodable_of_mem {s t : Str} (h : encode t ≠ none) (hs : ∀ c ∈ s, c ∈ t ∨ c < 0x80) : encode s ≠ none := by
  rw [encode_ne_none_iff] at h ⊢
  intro c hc
  rcases hs c hc with hm | hlow
  · exact h c hm
  · simp [encodeChar, hlow]

lemma view_sourcesFile (hc : ∀ d, isHexOf 40 (commit d) = true)
    (hf : sourcesFile commit cr upstream workRoot = some file) :
    view file = sourcesText commit cr (view upstream) (view workRoot) := by
  have htext : encode (sourcesText commit cr (fsdecode upstream) (fsdecode workRoot)) ≠ none := by
    rw [← sourcesFile, hf]
    simp
  have hrow {c : ℕ} (h : c ∈
      Csv.writeRow 9 cr (preparedRow commit (fsdecode upstream) (fsdecode workRoot) .wine)) :
      c ∈ sourcesText commit cr (fsdecode upstream) (fsdecode workRoot) := by
    rw [sourcesText_eq]
    simp [h]
  have hup : Seen (fsdecode upstream) (view upstream) := by
    refine seen_fsdecode (encodable_of_mem htext fun c h => ?_)
    by_cases hq : c = 34
    · exact .inr (by omega)
    · refine .inl (hrow ?_)
      rw [writeRow_prepared hc]
      simp [(Csv.mem_writeField hq).mpr ((mem_archivePath hc _ .wine).1 h)]
  have hroot : Seen (fsdecode workRoot) (view workRoot) := by
    refine seen_fsdecode (encodable_of_mem htext fun c h => ?_)
    by_cases hq : c = 34
    · exact .inr (by omega)
    · refine .inl (hrow ?_)
      rw [writeRow_prepared hc]
      simp [(Csv.mem_writeField hq).mpr ((mem_preparedPath hc _ .wine).1 h)]
  have hheader : Seen (lit "dependency\tcommit\tarchive\tprepared_source")
      (lit "dependency\tcommit\tarchive\tprepared_source") := seen_ascii (by decide +kernel)
  have hseen : Seen (sourcesText commit cr (fsdecode upstream) (fsdecode workRoot))
      (sourcesText commit cr (view upstream) (view workRoot)) := by
    rw [sourcesText_eq, sourcesText_eq]
    refine seen_append hheader (seen_low (by decide) ?_)
    exact seen_append (seen_writeRow hc hup hroot .wine) (seen_writeRow hc hup hroot .fex)
  rw [Seen, ← sourcesFile, hf] at hseen
  exact Option.some.inj hseen

lemma word_of_ne {c : ℕ} (hc : c ≠ 9) (s : Str) :
    word (c :: s) = (c :: s.takeWhile (· != 9), s.dropWhile (· != 9)) := by
  simp [word, hc]

lemma word_last {s : Str} (hs : s ≠ []) (h9 : 9 ∉ s) : word s = (s, []) := by
  rw [word, ← List.append_nil s, Upstream.dropWhile_tabs hs h9, List.append_nil,
    List.takeWhile_eq_self_iff.mpr (Upstream.ne_of_not_mem h9),
    List.dropWhile_eq_nil_iff.mpr (Upstream.ne_of_not_mem h9)]

def trim (s : Str) : Str := (s.dropWhile (· == 9)).rdropWhile (· == 9)

lemma trim_eq_nil {s : Str} (h : trim s = []) : ∀ c ∈ s, c = 9 := by
  rw [trim, List.rdropWhile_eq_nil_iff] at h
  intro c hc
  rw [← List.takeWhile_append_dropWhile (p := (· == 9)) (l := s), List.mem_append] at hc
  rcases hc with hc | hc
  · simpa using List.mem_takeWhile_imp hc
  · simpa using h c hc

lemma read_front (hc : ∀ d, isHexOf 40 (commit d) = true) (d : Dependency) (x : Str) :
    Row.read (lit d.name ++ 9 :: (commit d ++ 9 :: x)) =
      ⟨lit d.name, commit d, (word x).1, (word (word x).2).1, trim (word (word x).2).2⟩ := by
  have hname : lit d.name ≠ [] := by cases d <;> decide
  have hcommit : commit d ≠ [] := by
    intro h
    have := hc d
    rw [h] at this
    cases this
  simp only [Row.read, Upstream.word_append hname ((safe_name d).not_mem (by decide)), Upstream.word_tab,
    Upstream.word_append hcommit ((safe_hex (hc d)).not_mem (by decide)), trim]

def tableRow (commit : Dependency → Str) (d : Dependency) (archive prepared : Str) : Str :=
  lit d.name ++ 9 :: (commit d ++ 9 :: (archive ++ 9 :: (prepared ++ [10])))

lemma line_front {front x l rest : Str} (h : front ++ x = l ++ 10 :: rest) (hfront : 10 ∉ front) :
    ∃ y, l = front ++ y ∧ x = y ++ 10 :: rest := by
  rcases List.append_eq_append_iff.mp h with ⟨y, hl, hx⟩ | ⟨y, hf, hx⟩
  · exact ⟨y, hl, hx⟩
  · cases y with
    | nil =>
      rw [List.append_nil] at hf
      rw [List.nil_append] at hx
      exact ⟨[], by rw [List.append_nil, hf], hx.symm⟩
    | cons c y =>
      rw [List.cons_append] at hx
      obtain ⟨rfl, -⟩ := List.cons.inj hx
      exact absurd (hf ▸ by simp) hfront

lemma front_line (hc : ∀ d, isHexOf 40 (commit d) = true) (d : Dependency) {x l rest : Str}
    (h : lit d.name ++ 9 :: (commit d ++ 9 :: x) = l ++ 10 :: rest) :
    ∃ y, l = lit d.name ++ 9 :: (commit d ++ 9 :: y) ∧ x = y ++ 10 :: rest := by
  have hfront : 10 ∉ lit d.name ++ 9 :: (commit d ++ [9]) := by
    simp [(safe_name d).not_mem (show 10 < 45 by decide), (safe_hex (hc d)).not_mem (show 10 < 45 by decide)]
  have h' : lit d.name ++ 9 :: (commit d ++ [9]) ++ x = l ++ 10 :: rest := by
    simpa using h
  obtain ⟨y, rfl, hx⟩ := line_front h' hfront
  exact ⟨y, by simp, hx⟩

section

variable {d : Dependency} {archive prepared l rest after : Str}

lemma read_quoted_archive (hc : ∀ d, isHexOf 40 (commit d) = true) {body : Str} (ha : archive = 34 :: body)
    (h : tableRow commit d archive prepared ++ after = l ++ 10 :: rest) :
    (Row.read l).archive.head? = some 34 := by
  subst ha
  rw [tableRow] at h
  simp only [List.append_assoc, List.cons_append] at h
  obtain ⟨y, rfl, hy⟩ := front_line hc d h
  obtain ⟨y, rfl⟩ : ∃ y', y = 34 :: y' := by
    cases y with
    | nil => simp at hy
    | cons c y => exact ⟨y, by rw [(List.cons.inj hy).1]⟩
  rw [read_front hc, word_of_ne (by decide)]
  rfl

lemma read_archive (hc : ∀ d, isHexOf 40 (commit d) = true) (hne : archive ≠ []) (h9 : 9 ∉ archive)
    (h10 : 10 ∉ archive)
    (h : tableRow commit d archive prepared ++ after = l ++ 10 :: rest) :
    ∃ y, Row.read l = ⟨lit d.name, commit d, archive, (word y).1, trim (word y).2⟩ ∧
      prepared ++ 10 :: after = y ++ 10 :: rest := by
  rw [tableRow] at h
  simp only [List.append_assoc, List.cons_append, List.nil_append] at h
  obtain ⟨y, rfl, hy⟩ := front_line hc d h
  have hfront : 10 ∉ archive ++ [9] := by simp [h10]
  obtain ⟨y', rfl, hy'⟩ := line_front (by simpa using hy) hfront
  refine ⟨y', ?_, hy'⟩
  rw [read_front hc, List.append_assoc, List.singleton_append, Upstream.word_append hne h9, Upstream.word_tab]

lemma read_quoted_prepared (hc : ∀ d, isHexOf 40 (commit d) = true) (hne : archive ≠ []) (h9 : 9 ∉ archive)
    (h10 : 10 ∉ archive) {body : Str} (hp : prepared = 34 :: body)
    (h : tableRow commit d archive prepared ++ after = l ++ 10 :: rest) :
    (Row.read l).prepared.head? = some 34 := by
  obtain ⟨y, hread, hy⟩ := read_archive hc hne h9 h10 h
  subst hp
  obtain ⟨y, rfl⟩ : ∃ y', y = 34 :: y' := by
    cases y with
    | nil => simp at hy
    | cons c y => exact ⟨y, by rw [(List.cons.inj hy).1]⟩
  rw [hread, word_of_ne (by decide)]
  rfl

lemma lines_tableRow (hc : ∀ d, isHexOf 40 (commit d) = true) (hne : archive ≠ []) (h9 : 9 ∉ archive)
    (h10 : 10 ∉ archive)
    (hne' : prepared ≠ []) (h9' : 9 ∉ prepared) (h10' : 10 ∉ prepared) :
    (lines (tableRow commit d archive prepared ++ after)).map Row.read =
      ⟨lit d.name, commit d, archive, prepared, []⟩ :: (lines after).map Row.read := by
  have hrow : tableRow commit d archive prepared ++ after =
      (lit d.name ++ 9 :: (commit d ++ 9 :: (archive ++ 9 :: prepared))) ++ 10 :: after := by
    simp [tableRow]
  have h10'' : 10 ∉ lit d.name ++ 9 :: (commit d ++ 9 :: (archive ++ 9 :: prepared)) := by
    simp [(safe_name d).not_mem (show 10 < 45 by decide),
      (safe_hex (hc d)).not_mem (show 10 < 45 by decide), h10, h10']
  rw [hrow, lines_cons h10'', List.map_cons, read_front hc, Upstream.word_append hne h9, Upstream.word_tab,
    word_last hne' h9']
  rfl

lemma word_rest {v y : Str} (hv : ∃ c ∈ v, c ≠ 9) : ∃ v', (word (v ++ 9 :: y)).2 = v' ++ 9 :: y := by
  have hd : ¬ (v.dropWhile (· == 9)).isEmpty = true := by
    rw [List.isEmpty_iff, List.dropWhile_eq_nil_iff]
    intro h
    obtain ⟨c, hc, hne⟩ := hv
    exact hne (beq_iff_eq.mp (h c hc))
  rw [word, List.dropWhile_append, if_neg hd, List.dropWhile_append]
  split_ifs
  · exact ⟨[], by simp⟩
  · exact ⟨_, rfl⟩

lemma read_tab_archive (hc : ∀ d, isHexOf 40 (commit d) = true) {body : Str} (ha : archive = 34 :: (body ++ [34]))
    (h9 : 9 ∈ body) (h10 : 10 ∉ archive) {c : ℕ} {tail : Str} (hp : prepared = c :: tail) (hc9 : c ≠ 9)
    (hc10 : c ≠ 10)
    (h : tableRow commit d archive prepared ++ after = l ++ 10 :: rest) :
    (Row.read l).dependency = lit d.name ∧ (Row.read l).extra ≠ [] := by
  rw [tableRow] at h
  simp only [List.append_assoc, List.cons_append, List.nil_append] at h
  obtain ⟨y, rfl, hy⟩ := front_line hc d h
  have hfront : 10 ∉ archive ++ [9] := by simp [h10]
  obtain ⟨z, rfl, hz⟩ := line_front (by simpa using hy) hfront
  obtain ⟨z, rfl⟩ : ∃ z', z = c :: z' := by
    subst hp
    cases z with
    | nil => exact absurd (List.cons.inj hz).1 hc10
    | cons b z => exact ⟨z, by rw [(List.cons.inj hz).1]⟩
  subst ha
  obtain ⟨u, v, rfl, hu⟩ := List.eq_append_cons_of_mem h9
  have hsplit : 34 :: (u ++ 9 :: v ++ [34]) ++ [9] ++ c :: z = (34 :: u) ++ 9 :: (v ++ [34] ++ 9 :: c :: z) := by
    simp
  have h34 : 9 ∉ 34 :: u := by simp [hu]
  rw [read_front hc, hsplit, Upstream.word_append (by simp) h34, Upstream.word_tab]
  refine ⟨rfl, fun hnil => ?_⟩
  obtain ⟨v', hv'⟩ := word_rest (v := v ++ [34]) (y := c :: z) ⟨34, by simp, by decide⟩
  rw [hv'] at hnil
  exact hc9 (trim_eq_nil hnil c (by simp))

end

lemma head_joinPath {dir name : Str} (h : dir.head? = some 47) : (joinPath dir name).head? = some 47 := by
  rw [joinPath]
  split_ifs
  · rfl
  · cases dir with
    | nil => cases h
    | cons c dir => exact h

lemma head_archivePath {dir : Str} (h : dir.head? = some 47) (d : Dependency) :
    (archivePath commit dir d).head? = some 47 :=
  head_joinPath (head_joinPath h)

lemma plain_archivePath (hc : ∀ d, isHexOf 40 (commit d) = true) (dir : Str) (d : Dependency) :
    (∀ c ∈ archivePath commit dir d, Csv.special 9 cr c = false) ↔ ∀ c ∈ dir, Csv.special 9 cr c = false := by
  constructor
  · exact fun h c hm => h c ((mem_archivePath hc dir d).1 hm)
  · exact fun h c hm => ((mem_archivePath hc dir d).2 hm).elim (h c) fun hs => special_of_le hs.1

lemma plain_preparedPath (hc : ∀ d, isHexOf 40 (commit d) = true) (dir : Str) (d : Dependency) :
    (∀ c ∈ preparedPath commit dir d, Csv.special 9 cr c = false) ↔ ∀ c ∈ dir, Csv.special 9 cr c = false := by
  constructor
  · exact fun h c hm => h c ((mem_preparedPath hc dir d).1 hm)
  · exact fun h c hm => ((mem_preparedPath hc dir d).2 hm).elim (h c) fun hs => special_of_le hs.1

lemma Plain.archive (h : Plain cr upstream) (hc : ∀ d, isHexOf 40 (commit d) = true) (d : Dependency) :
    ∀ c ∈ archivePath commit (view upstream) d, Csv.special 9 cr c =
      false := (plain_archivePath hc (view upstream) d).mpr h

lemma Plain.prepared (h : Plain cr workRoot) (hc : ∀ d, isHexOf 40 (commit d) = true) (d : Dependency) :
    ∀ c ∈ preparedPath commit (view workRoot) d, Csv.special 9 cr c =
      false := (plain_preparedPath hc (view workRoot) d).mpr h

def headerRow : Row := ⟨lit "dependency", lit "commit", lit "archive", lit "prepared_source", []⟩

def tableText (commit : Dependency → Str) (cr : Bool) (upstream workRoot : Bytes) (d : Dependency) : Str :=
  tableRow commit d (Csv.writeField 9 cr (archivePath commit (view upstream) d))
    (Csv.writeField 9 cr (preparedPath commit (view workRoot) d))

lemma rowsRead_eq (hc : ∀ d, isHexOf 40 (commit d) = true)
    (hf : sourcesFile commit cr upstream workRoot = some file) :
    rowsRead file = headerRow ::
    (lines (tableText commit cr upstream workRoot .wine ++ tableText commit cr upstream workRoot .fex)).map
      Row.read := by
  have hrow (d : Dependency) : Csv.writeRow 9 cr (preparedRow commit (view upstream) (view workRoot) d) =
      tableText commit cr upstream workRoot d := writeRow_prepared hc _ _ d
  have hline : 10 ∉ lit "dependency\tcommit\tarchive\tprepared_source" := by decide +kernel
  have hread : Row.read (lit "dependency\tcommit\tarchive\tprepared_source") = headerRow := by decide +kernel
  rw [rowsRead, view_sourcesFile hc hf, sourcesText_eq, lines_cons hline, List.map_cons, hread, hrow, hrow]

lemma not_mem_of_plain {s : Str} (h : ∀ c ∈ s, Csv.special 9 cr c = false) {c : ℕ}
    (hs : Csv.special 9 cr c = true) :
    c ∉ s := fun hm => by
  rw [h c hm] at hs
  cases hs

lemma ne_nil_of_head {s : Str} (h : s.head? = some 47) : s ≠ [] := by
  rintro rfl
  cases h

lemma special_tab : Csv.special 9 cr 9 = true := rfl

lemma special_newline : Csv.special 9 cr 10 = true := rfl

lemma plain_of_read (hc : ∀ d, isHexOf 40 (commit d) = true) (hup : (view upstream).head? = some 47)
    (hroot : (view workRoot).head? = some 47) {d : Dependency} {after l rest : Str}
    (ht : tableText commit cr upstream workRoot d ++ after = l ++ 10 :: rest)
    (hr : Row.read l = writtenRow commit upstream workRoot d) : Plain cr upstream ∧ Plain cr workRoot := by
  have harchive : (archivePath commit (view upstream) d).head? = some 47 := head_archivePath hup d
  have hprepared : (preparedPath commit (view workRoot) d).head? = some 47 := head_joinPath hroot
  rcases Csv.plain_or_quoted 9 cr (archivePath commit (view upstream) d) with ha | ⟨body, ha⟩
  · have hw := Csv.writeField_plain ha
    have h9 := not_mem_of_plain ha special_tab
    have h10 := not_mem_of_plain ha special_newline
    rcases Csv.plain_or_quoted 9 cr (preparedPath commit (view workRoot) d) with hp | ⟨body, hp⟩
    · exact ⟨(plain_archivePath hc _ d).mp ha, (plain_preparedPath hc _ d).mp hp⟩
    · rw [tableText, hw] at ht
      have hq := read_quoted_prepared hc (ne_nil_of_head harchive) h9 h10 hp ht
      rw [hr] at hq
      exact absurd (hprepared.symm.trans hq) (by decide)
  · have hq := read_quoted_archive hc ha ht
    rw [hr] at hq
    exact absurd (harchive.symm.trans hq) (by decide)

variable (commit cr upstream workRoot) in
lemma first_line (d : Dependency) (after : Str) :
    ∃ l rest, tableText commit cr upstream workRoot d ++ after = l ++ 10 :: rest ∧
    lines (tableText commit cr upstream workRoot d ++ after) = l :: lines rest := by
  have h10 : 10 ∈ tableText commit cr upstream workRoot d ++ after := by simp [tableText, tableRow]
  obtain ⟨l, rest, he, hl⟩ := List.eq_append_cons_of_mem h10
  exact ⟨l, rest, he, he ▸ lines_cons hl rest⟩

/-- The loop reads the rows that were written when nothing in the two paths is quoted, and only then. -/
theorem rows_read_iff (hc : ∀ d, isHexOf 40 (commit d) = true) (hup : (view upstream).head? = some 47)
    (hroot : (view workRoot).head? = some 47) (hf : sourcesFile commit cr upstream workRoot = some file) :
    rowsRead file = headerRow :: dependencies.map (writtenRow commit upstream workRoot) ↔
      Plain cr upstream ∧ Plain cr workRoot := by
  rw [rowsRead_eq hc hf, List.cons.injEq, and_iff_right rfl]
  constructor
  · intro h
    obtain ⟨l, rest, ht, hl⟩ := first_line commit cr upstream workRoot .wine
      (tableText commit cr upstream workRoot .fex)
    rw [hl] at h
    exact plain_of_read hc hup hroot ht (List.cons.inj h).1
  · rintro ⟨hplain, hplain'⟩
    have hrow (d : Dependency) (after : Str) :
        (lines (tableText commit cr upstream workRoot d ++ after)).map Row.read =
        writtenRow commit upstream workRoot d :: (lines after).map Row.read := by
      have ha := hplain.archive hc d
      have hp := hplain'.prepared hc d
      rw [tableText, Csv.writeField_plain ha, Csv.writeField_plain hp]
      exact lines_tableRow hc (ne_nil_of_head (head_archivePath hup d)) (not_mem_of_plain ha special_tab)
        (not_mem_of_plain ha special_newline) (ne_nil_of_head (head_joinPath hroot))
          (not_mem_of_plain hp special_tab)
        (not_mem_of_plain hp special_newline)
    have hlast := hrow .fex []
    rw [List.append_nil] at hlast
    rw [hrow, hlast]
    rfl

def sampleCommit (_ : Dependency) : Str := List.replicate 40 97

lemma sampleCommit_hex (d : Dependency) : isHexOf 40 (sampleCommit d) = true := by
  cases d <;> rfl

def sampleUpstream : Bytes := bytes "/up"

def sampleWorkRoot : Bytes := bytes "/out/build/sources"

lemma sampleFile_isSome : (sourcesFile sampleCommit true sampleUpstream sampleWorkRoot).isSome = true := by
  decide +kernel

def sampleFile : Bytes := (sourcesFile sampleCommit true sampleUpstream sampleWorkRoot).get sampleFile_isSome

lemma sampleFile_eq : sourcesFile sampleCommit true sampleUpstream sampleWorkRoot = some sampleFile :=
  (Option.some_get sampleFile_isSome).symm

theorem rows_read_sample :
    rowsRead sampleFile = headerRow :: dependencies.map (writtenRow sampleCommit sampleUpstream sampleWorkRoot) ↔
      Plain true sampleUpstream ∧ Plain true sampleWorkRoot :=
  rows_read_iff sampleCommit_hex (by decide) (by decide) sampleFile_eq

lemma checkRow_fails {root : Str} {row : Row}
    (h : row.extra ≠ [] ∨ row.prepared ≠ root ++ 47 :: row.dependency ++ 45 :: row.commit) :
    ∃ message, checkRow root row = .error message := by
  rw [checkRow]
  by_cases he : row.extra ≠ []
  · exact ⟨_, if_pos he⟩
  · rw [if_neg he, if_pos (h.resolve_left he)]
    split_ifs
    · exact ⟨_, rfl⟩
    · exact ⟨_, rfl⟩

lemma takeUp_header (root : Str) (rows : List Row) :
    takeUp root (headerRow :: rows) = takeUp root rows := if_pos rfl

lemma name_ne (d : Dependency) : lit d.name ≠ lit "dependency" := by
  cases d <;> decide

lemma takeUp_fails {root : Str} {row : Row} {rows : List Row} {d : Dependency} (hd : row.dependency = lit d.name)
    (h : row.extra ≠ [] ∨ row.prepared ≠ root ++ 47 :: row.dependency ++ 45 :: row.commit) :
    ∃ message, takeUp root (headerRow :: row :: rows) = ([], some message) := by
  obtain ⟨message, hm⟩ := checkRow_fails h
  have hne : row.dependency ≠ lit "dependency" := hd ▸ name_ne d
  refine ⟨message, ?_⟩
  rw [takeUp_header, takeUp, if_neg hne, hm]

lemma joinPath_inj {root dir name : Str} (hd : dir ≠ []) (h : joinPath root name = dir ++ 47 :: name) :
    root = dir := by
  rw [joinPath] at h
  split_ifs at h with hr
  · have hlen := congrArg List.length h
    rw [List.length_cons, List.length_append, List.length_cons] at hlen
    exact absurd (List.length_eq_zero_iff.mp (by omega)) hd
  · exact List.append_cancel_right h

lemma shellWorkRoot_head (h : (view out).head? = some 47) : (shellWorkRoot out).head? = some 47 := by
  rw [shellWorkRoot, List.head?_append, h]
  rfl

lemma shellWorkRoot_ne : shellWorkRoot out ≠ [47] := by
  intro h
  have hlen := congrArg List.length h
  have hlit : (lit "/build/sources").length = 14 := by decide +kernel
  rw [shellWorkRoot, List.length_append, hlit, List.length_singleton] at hlen
  omega

def quotedRow (commit : Dependency → Str) (cr : Bool) (upstream workRoot : Bytes) (d : Dependency) : Row :=
  { writtenRow commit upstream workRoot d with
    archive := Csv.writeField 9 cr (archivePath commit (view upstream) d) }

lemma writeField_ne_nil {s : Str} (h : s ≠ []) : Csv.writeField 9 cr s ≠ [] := by
  rw [Csv.writeField]
  split_ifs
  · simp
  · exact h

lemma checkRow_written (hw : view workRoot = shellWorkRoot out) (d : Dependency) :
    checkRow (shellWorkRoot out) (quotedRow commit cr upstream workRoot d) = .ok () := by
  have hd : lit d.name = lit "fex" ∨ lit d.name = lit "wine" := by
    cases d
    · exact .inr rfl
    · exact .inl rfl
  have hp : preparedPath commit (view workRoot) d = shellWorkRoot out ++ 47 :: lit d.name ++ 45 :: commit d := by
    rw [preparedPath, joinPath, hw, if_neg shellWorkRoot_ne]
    simp
  simp [checkRow, quotedRow, writtenRow, hd, hp]

section

variable {after : Str}

variable (cr) in
lemma not_mem_archiveField (hc : ∀ d, isHexOf 40 (commit d) = true) {c : ℕ} (hlt : c < 34) (h : c ∉ view upstream)
    (d : Dependency) : c ∉ Csv.writeField 9 cr (archivePath commit (view upstream) d) := by
  rw [Csv.mem_writeField (by omega)]
  exact fun hm => ((mem_archivePath hc _ d).2 hm).elim h (by omega)

lemma archiveField_ne_nil (hup : (view upstream).head? = some 47) (d : Dependency) :
    Csv.writeField 9 cr (archivePath commit (view upstream) d) ≠ [] :=
  writeField_ne_nil (ne_nil_of_head (head_archivePath hup d))

variable (commit cr) in
lemma preparedField_cons (hroot : (view workRoot).head? = some 47) (d : Dependency) :
    ∃ c tail, Csv.writeField 9 cr (preparedPath commit (view workRoot) d) = c :: tail ∧ c ≠ 9 ∧ c ≠ 10 := by
  rcases Csv.plain_or_quoted 9 cr (preparedPath commit (view workRoot) d) with hp | ⟨body, hp⟩
  · rw [Csv.writeField_plain hp]
    obtain ⟨tail, ht⟩ := List.head?_eq_some_iff.mp (head_joinPath hroot)
    exact ⟨47, tail, ht, by decide, by decide⟩
  · exact ⟨34, body, hp, by decide, by decide⟩

/-- Where the path of the tree is not quoted, a row without a tab or a newline in the upstream path is one line. -/
lemma lines_tableText (hc : ∀ d, isHexOf 40 (commit d) = true) (hup : (view upstream).head? = some 47)
    (hroot : (view workRoot).head? = some 47) (h9 : 9 ∉ view upstream) (h10 : 10 ∉ view upstream)
    (hp : Plain cr workRoot) (d : Dependency) (after : Str) :
    (lines (tableText commit cr upstream workRoot d ++ after)).map Row.read =
      quotedRow commit cr upstream workRoot d :: (lines after).map Row.read := by
  have hplain := hp.prepared hc d
  rw [tableText, Csv.writeField_plain hplain]
  exact lines_tableRow hc (archiveField_ne_nil hup d) (not_mem_archiveField cr hc (by decide) h9 d)
    (not_mem_archiveField cr hc (by decide) h10 d) (ne_nil_of_head (head_joinPath hroot))
    (not_mem_of_plain hplain special_tab) (not_mem_of_plain hplain special_newline)

lemma takeUp_quotedRow (hw : view workRoot = shellWorkRoot out) (d : Dependency) (rows : List Row) :
    takeUp (shellWorkRoot out) (quotedRow commit cr upstream workRoot d :: rows) =
      (quotedRow commit cr upstream workRoot d :: (takeUp (shellWorkRoot out) rows).1,
        (takeUp (shellWorkRoot out) rows).2) := by
  have hname : (quotedRow commit cr upstream workRoot d).dependency ≠ lit "dependency" := name_ne d
  rw [takeUp, if_neg hname, checkRow_written hw]

lemma first_line_tab (hc : ∀ d, isHexOf 40 (commit d) = true) (hroot : (view workRoot).head? = some 47)
    (h9 : 9 ∈ view upstream) (h10 : 10 ∉ view upstream) {d : Dependency} {l rest : Str}
    (hl : tableText commit cr upstream workRoot d ++ after = l ++ 10 :: rest) :
    (Row.read l).dependency = lit d.name ∧ (Row.read l).extra ≠ [] := by
  have hm : 9 ∈ archivePath commit (view upstream) d := (mem_archivePath hc _ d).1 h9
  have hq : Csv.writeField 9 cr (archivePath commit (view upstream) d) = _ :=
    Csv.writeField_special hm special_tab
  obtain ⟨c, tail, hct, hc9, hc10⟩ := preparedField_cons commit cr hroot d
  exact read_tab_archive hc hq (Csv.mem_flatMap_doubled.mpr hm) (not_mem_archiveField cr hc (by decide) h10 d)
    hct hc9 hc10 hl

lemma first_line_refused (hc : ∀ d, isHexOf 40 (commit d) = true) (hup : (view upstream).head? = some 47)
    (hroot : (view workRoot).head? = some 47) (hout : (view out).head? = some 47) (h9 : 9 ∉ view upstream)
    (h10 : 10 ∉ view upstream) (h : ¬ Plain cr workRoot ∨ view workRoot ≠ shellWorkRoot out) {d : Dependency}
    {l rest : Str} (ht : tableText commit cr upstream workRoot d ++ after = l ++ 10 :: rest)
    (hl : lines (tableText commit cr upstream workRoot d ++ after) = l :: lines rest) :
    (Row.read l).dependency = lit d.name ∧
      (Row.read l).prepared ≠ shellWorkRoot out ++ 47 :: (Row.read l).dependency ++ 45 :: (Row.read l).commit := by
  have hn9 := not_mem_archiveField cr hc (by decide) h9 d
  have hn10 := not_mem_archiveField cr hc (by decide) h10 d
  obtain ⟨y, hread, -⟩ := read_archive hc (archiveField_ne_nil hup d) hn9 hn10 ht
  refine ⟨by rw [hread], fun he => ?_⟩
  rcases Csv.plain_or_quoted 9 cr (preparedPath commit (view workRoot) d) with hp | ⟨body, hp⟩
  · have hplain := (plain_preparedPath hc _ d).mp hp
    have hroot' : view workRoot ≠ shellWorkRoot out := h.resolve_left fun hn => hn hplain
    have hfirst := lines_tableText hc hup hroot h9 h10 hplain d after
    rw [hl, List.map_cons] at hfirst
    rw [(List.cons.inj hfirst).1] at he
    refine hroot' (joinPath_inj (ne_nil_of_head (shellWorkRoot_head hout)) (he.trans ?_))
    rw [List.append_assoc]
    rfl
  · have hhead := read_quoted_prepared hc (archiveField_ne_nil hup d) hn9 hn10 hp ht
    rw [he, List.append_assoc, List.head?_append, shellWorkRoot_head hout] at hhead
    exact absurd (Option.some.inj hhead) (by decide)

end

/-- When there is no newline in the upstream path, the loop takes up nothing and dies unless the build directory is
the one that the Python step has resolved, nothing in it is quoted, and the upstream path has no tab; then it takes
up both rows, with the paths of the archives as they are quoted. -/
theorem taken_up (hc : ∀ d, isHexOf 40 (commit d) = true) (hup : (view upstream).head? = some 47)
    (hroot : (view workRoot).head? = some 47) (hout : (view out).head? = some 47) (h10 : 10 ∉ view upstream)
    (hf : sourcesFile commit cr upstream workRoot = some file) :
    (9 ∈ view upstream ∨ ¬ Plain cr workRoot ∨ view workRoot ≠ shellWorkRoot out →
        ∃ message, takenUp out file = ([], some message)) ∧
      (9 ∉ view upstream → Plain cr workRoot → view workRoot = shellWorkRoot out →
        takenUp out file = (dependencies.map (quotedRow commit cr upstream workRoot), none)) := by
  rw [takenUp, rowsRead_eq hc hf]
  constructor
  · intro h
    obtain ⟨l, rest, ht, hl⟩ := first_line commit cr upstream workRoot .wine
      (tableText commit cr upstream workRoot .fex)
    rw [hl, List.map_cons]
    by_cases h9 : 9 ∈ view upstream
    · obtain ⟨hdep, hextra⟩ := first_line_tab hc hroot h9 h10 ht
      exact takeUp_fails hdep (.inl hextra)
    · obtain ⟨hdep, hprepared⟩ :=
        first_line_refused hc hup hroot hout h9 h10 (h.resolve_left h9) ht hl
      exact takeUp_fails hdep (.inr hprepared)
  · intro h9 hplain hw
    have hlast := lines_tableText hc hup hroot h9 h10 hplain .fex []
    rw [List.append_nil] at hlast
    rw [lines_tableText hc hup hroot h9 h10 hplain, hlast, takeUp_header, takeUp_quotedRow hw,
      takeUp_quotedRow hw]
    rfl

theorem taken_up_sample :
    (9 ∈ view sampleUpstream ∨ ¬ Plain true sampleWorkRoot ∨ view sampleWorkRoot ≠ shellWorkRoot (bytes "/out") →
        ∃ message, takenUp (bytes "/out") sampleFile = ([], some message)) ∧
      (9 ∉ view sampleUpstream → Plain true sampleWorkRoot → view sampleWorkRoot = shellWorkRoot (bytes "/out") →
        takenUp (bytes "/out") sampleFile =
          (dependencies.map (quotedRow sampleCommit true sampleUpstream sampleWorkRoot), none)) :=
  taken_up sampleCommit_hex (by decide) (by decide) (by decide) (by decide) sampleFile_eq

/-- A path with a newline in it, whose lines pass for rows. -/
def forgedUpstream : Bytes :=
  bytes "/a\t/out/build/sources/wine-" ++ List.replicate 40 97 ++ bytes "\nfex\t" ++ List.replicate 40 97 ++
    bytes "\t/other.tar.gz\t/out/build/sources/fex-" ++ List.replicate 40 97 ++ bytes "\ndependency\t"

example : ((sourcesFile sampleCommit true forgedUpstream sampleWorkRoot).map fun file =>
    ((takenUp (bytes "/out") file).1.map Row.archive).contains (lit "/other.tar.gz")) = some true := by
  decide +kernel

end Graft64.Runtime.SourcesTable
