import Graft64.Library.Decimal
import Mathlib.Data.List.DropRight
import Mathlib.Logic.Function.Basic

/-! `fetch-upstream.sh`: what a history of runs leaves in the upstream directory. -/

namespace Graft64.Runtime.Upstream

open Graft64.Library

structure Dep where
  name : Str
  ref : Str
  commit : Str
  archive : Str
  sha : Str
deriving DecidableEq

/-- The line that the reader prints. -/
def Dep.record (d : Dep) : Str :=
  d.name ++ 9 :: d.ref ++ 9 :: d.commit ++ 9 :: d.archive ++ 9 :: d.sha

/-- The line as `IFS= read -r record` takes it: NUL characters are dropped. -/
def Dep.line (d : Dep) : Str := d.record.filter (· != 0)

/-- The next word of a line and what follows it, for `read` with `IFS` a tab: tabs are white space
there, so that several of them separate two words like one. -/
def word (s : Str) : Str × Str :=
  ((s.dropWhile (· == 9)).takeWhile (· != 9), (s.dropWhile (· == 9)).dropWhile (· != 9))

/-- `IFS=$'\t' read -r name ref commit archive expected_sha` -/
def Dep.read (line : Str) : Dep :=
  let name := word line
  let ref := word name.2
  let commit := word ref.2
  let archive := word commit.2
  ⟨name.1, ref.1, commit.1, archive.1, (archive.2.dropWhile (· == 9)).rdropWhile (· == 9)⟩

/-- `$name-$commit` -/
def Dep.key (d : Dep) : Str := d.name ++ 45 :: d.commit

/-- `$DOWNLOADS/$name-$commit.tar.gz` -/
def Dep.archiveFile (out : Str) (d : Dep) : Str := out ++ lit "/downloads/" ++ d.key ++ lit ".tar.gz"

variable {Blob Tree : Type}

inductive Transfer (Blob : Type)
  | done (file : Blob)
  | cut (left : Option Blob)

/-- What `mkdir` and `tar` do. -/
inductive Extraction (Tree : Type)
  | done
  | cut (left : Option Tree)

structure Outcome (Blob Tree : Type) where
  curl : Transfer Blob
  digest : Bool
  tar : Extraction Tree
  record : Bool

/-- One run: the commands before the loop, the loop, and the last `printf`. -/
structure Run (Blob Tree : Type) where
  /-- Every command before the loop succeeds but the reader of the lock, whose status nothing asks for. -/
  ready : Bool
  /-- How many records the reader has printed when it is stopped; `none` when it is not. -/
  reader : Option ℕ
  /-- bash before 4.4 takes an empty array for an unset one. -/
  emptyUnset : Bool
  /-- `$OUT` -/
  out : Str
  /-- Newer versions of `sha256sum` escape a carriage return too. -/
  escapesReturn : Bool
  outcome : Dep → Outcome Blob Tree
  printed : Bool

/-- The records that come out of the process substitution. -/
def Run.records (r : Run Blob Tree) (lock : List Dep) : List Dep :=
  match r.reader with
  | none => lock
  | some k => lock.take k

/-- `shasum` and `sha256sum` write such a character of a path with a backslash. -/
def Run.escapes (r : Run Blob Tree) (c : ℕ) : Bool := c == 92 || c == 10 || r.escapesReturn && c == 13

/-- `$("${SHA256_COMMAND[@]}" "$archive_file" | awk '{print $1}')`: a line whose path is escaped begins with a
backslash. -/
def Run.actualSha (sha256 : Blob → Str) (r : Run Blob Tree) (d : Dep) (file : Blob) : Str :=
  if (d.archiveFile r.out).any r.escapes then 92 :: sha256 file else sha256 file

structure State (Blob Tree : Type) where
  archives : Str → Option Blob
  dirs : Str → Option Tree
  /-- The whole rows of `fetched-manifest.tsv`. -/
  manifest : List (List Str)

def State.empty : State Blob Tree := ⟨fun _ => none, fun _ => none, []⟩

def header : List Str := [lit "name", lit "ref", lit "commit", lit "archive_sha256", lit "archive"]

/-- `[[ ! -f "$archive_file" ]]` and the download. -/
def download (d : Dep) (o : Outcome Blob Tree) (s : State Blob Tree) : Bool × State Blob Tree :=
  match s.archives d.key with
  | some _ => (true, s)
  | none => match o.curl with
    | .done file => (true, { s with archives := Function.update s.archives d.key (some file) })
    | .cut left => (false, { s with archives := Function.update s.archives d.key left })

/-- `[[ ! -d "$source_dir" ]]` and the extraction. -/
def extract (unpack : Blob → Tree) (d : Dep) (o : Outcome Blob Tree) (file : Blob) (s : State Blob Tree) :
    Bool × State Blob Tree :=
  match s.dirs d.key with
  | some _ => (true, s)
  | none => match o.tar with
    | .done => (true, { s with dirs := Function.update s.dirs d.key (some (unpack file)) })
    | .cut left => (false, { s with dirs := Function.update s.dirs d.key left })

/-- The body of the loop; `false` when the script stops. -/
def fetchDep (actual : Blob → Str) (unpack : Blob → Tree) (d : Dep) (o : Outcome Blob Tree) (s : State Blob Tree) :
    Bool × State Blob Tree :=
  match download d o s with
  | (false, s) => (false, s)
  | (true, s) => match s.archives d.key with
    | none => (false, s)
    | some file =>
      if o.digest = false ∨ actual file ≠ d.sha then (false, s)
      else match extract unpack d o file s with
        | (false, s) => (false, s)
        | (true, s) =>
          if o.record then
            let row := [d.name, d.ref, d.commit, actual file, d.archive]
            (true, { s with manifest := s.manifest ++ [row] })
          else (false, s)

def fetchDeps (actual : Dep → Blob → Str) (unpack : Blob → Tree) (o : Dep → Outcome Blob Tree) :
    List Dep → State Blob Tree → Bool × State Blob Tree
  | [], s => (true, s)
  | d :: ds, s => match fetchDep (actual d) unpack d (o d) s with
    | (false, s) => (false, s)
    | (true, s) => fetchDeps actual unpack o ds s

section

variable (sha256 : Blob → Str) (unpack : Blob → Tree)

/-- A run on the lock that the reader takes to list these dependencies: whether it exits with
status 0, and the directory after it. -/
def run (lock : List Dep) (r : Run Blob Tree) (s : State Blob Tree) : Bool × State Blob Tree :=
  if r.ready then
    if r.emptyUnset ∧ r.records lock = [] then (false, { s with manifest := [header] })
    else
      let result := fetchDeps (r.actualSha sha256) unpack r.outcome ((r.records lock).map fun d => Dep.read d.line)
        { s with manifest := [header] }
      (result.1 && r.printed, result.2)
  else (false, s)

def after (lock : List Dep) (rs : List (Run Blob Tree)) : State Blob Tree :=
  rs.foldl (fun s r => (run sha256 unpack lock r s).2) .empty

end

/-- A dependency whose record `read` takes apart again, and whose directory is a single component of
a path that is not the manifest. -/
structure Dep.Plain (d : Dep) : Prop where
  fields : ∀ s ∈ [d.name, d.ref, d.commit, d.archive, d.sha], s ≠ [] ∧ 9 ∉ s ∧ 0 ∉ s
  component : 47 ∉ d.key
  key_ne : d.key ≠ lit "fetched-manifest.tsv"

lemma ne_of_not_mem {s : Str} (h9 : 9 ∉ s) : ∀ c ∈ s, (c != 9) = true := by
  rintro c hc
  have hne : c ≠ 9 := by
    rintro rfl
    exact h9 hc
  exact bne_iff_ne.mpr hne

lemma dropWhile_tabs {s : Str} (hs : s ≠ []) (h9 : 9 ∉ s) (r : Str) :
    (s ++ r).dropWhile (· == 9) = s ++ r := by
  obtain ⟨c, s, rfl⟩ := List.exists_cons_of_ne_nil hs
  rw [List.cons_append, List.dropWhile_cons_of_neg]
  simp only [List.mem_cons, not_or] at h9
  simpa using Ne.symm h9.1

lemma word_append {s : Str} (hs : s ≠ []) (h9 : 9 ∉ s) (r : Str) : word (s ++ 9 :: r) = (s, 9 :: r) := by
  rw [word, dropWhile_tabs hs h9, List.takeWhile_append_of_pos (ne_of_not_mem h9),
    List.dropWhile_append_of_pos (ne_of_not_mem h9)]
  simp

lemma word_tab (s : Str) : word (9 :: s) = word s := by
  simp [word]

lemma last_eq {s : Str} (hs : s ≠ []) (h9 : 9 ∉ s) :
    ((9 :: s).dropWhile (· == 9)).rdropWhile (· == 9) = s := by
  have hd : (9 :: s).dropWhile (· == 9) = s := by
    rw [List.dropWhile_cons_of_pos rfl]
    simpa using dropWhile_tabs hs h9 []
  rw [hd, List.rdropWhile_eq_self_iff]
  intro hl h
  rw [beq_iff_eq] at h
  exact h9 (h ▸ List.getLast_mem hl)

lemma line_eq {d : Dep} (h : ∀ s ∈ [d.name, d.ref, d.commit, d.archive, d.sha], 0 ∉ s) : d.line = d.record := by
  simp only [List.mem_cons, List.not_mem_nil, or_false, forall_eq_or_imp, forall_eq] at h
  rw [Dep.line, List.filter_eq_self]
  intro c hc
  rw [bne_iff_ne]
  rintro rfl
  simp only [Dep.record, List.mem_append, List.mem_cons] at hc
  tauto

lemma read_record {d : Dep} (h : d.Plain) : Dep.read d.record = d := by
  have hf := h.fields
  simp only [List.mem_cons, List.not_mem_nil, or_false, forall_eq_or_imp, forall_eq] at hf
  obtain ⟨⟨hn, hn9, -⟩, ⟨hr, hr9, -⟩, ⟨hc, hc9, -⟩, ⟨ha, ha9, -⟩, ⟨hs, hs9, -⟩⟩ := hf
  simp only [Dep.read, Dep.record, List.cons_append, List.append_assoc, word_append hn hn9, word_tab,
    word_append hr hr9, word_append hc hc9, word_append ha ha9, last_eq hs hs9]

lemma read_line {d : Dep} (h : d.Plain) : Dep.read d.line = d := by
  rw [line_eq fun s hs => (h.fields s hs).2.2, read_record h]

section

variable {sha256 actual : Blob → Str} {unpack : Blob → Tree}

def Held (d : Dep) (o : Outcome Blob Tree) (s : State Blob Tree) (file : Blob) : Prop :=
  s.archives d.key = some file ∨ s.archives d.key = none ∧ o.curl = .done file

variable (actual unpack) in
inductive Fetches (d : Dep) (o : Outcome Blob Tree) (s : State Blob Tree) :
    Bool → Option Blob → Option Tree → Prop
  | cut (left : Option Blob) : s.archives d.key = none → o.curl = .cut left →
    Fetches d o s false left (s.dirs d.key)
  | refused (file : Blob) : Held d o s file → o.digest = false ∨ actual file ≠ d.sha →
    Fetches d o s false (some file) (s.dirs d.key)
  | kept (file : Blob) (tree : Tree) : Held d o s file → actual file = d.sha → s.dirs d.key = some tree →
    Fetches d o s o.record (some file) (some tree)
  | extracted (file : Blob) : Held d o s file → actual file = d.sha → s.dirs d.key = none → o.tar = .done →
    Fetches d o s o.record (some file) (some (unpack file))
  | torn (file : Blob) (left : Option Tree) : Held d o s file → actual file = d.sha → s.dirs d.key = none →
    o.tar = .cut left → Fetches d o s false (some file) left

lemma fetches_of_held {d : Dep} {o : Outcome Blob Tree} {s t : State Blob Tree} {file : Blob}
    (hd : download d o s = (true, t)) (hf : Held d o s file) (ha : t.archives d.key = some file)
    (hs : t.dirs = s.dirs) :
    Fetches actual unpack d o s (fetchDep actual unpack d o s).1
      ((fetchDep actual unpack d o s).2.archives d.key) ((fetchDep actual unpack d o s).2.dirs d.key) := by
  by_cases hh : o.digest = false ∨ actual file ≠ d.sha
  · have he : fetchDep actual unpack d o s = (false, t) := by
      simp only [fetchDep, hd, ha, if_pos hh]
    rw [he]
    simp only [ha, hs]
    exact .refused file hf hh
  · have hsha : actual file = d.sha := by
      by_contra hne
      exact hh (.inr hne)
    cases ht : s.dirs d.key with
    | some tree =>
      have he : (fetchDep actual unpack d o s).1 = o.record ∧
          (fetchDep actual unpack d o s).2.archives = t.archives ∧
          (fetchDep actual unpack d o s).2.dirs = t.dirs := by
        simp only [fetchDep, hd, ha, if_neg hh, extract, hs, ht]
        cases o.record <;> simp [hs]
      rw [he.1, he.2.1, he.2.2, ha, hs, ht]
      exact .kept file tree hf hsha ht
    | none => cases hx : o.tar with
      | done =>
        have he : (fetchDep actual unpack d o s).1 = o.record ∧
            (fetchDep actual unpack d o s).2.archives = t.archives ∧
            (fetchDep actual unpack d o s).2.dirs d.key = some (unpack file) := by
          simp only [fetchDep, hd, ha, if_neg hh, extract, hs, ht, hx]
          cases o.record <;> simp
        rw [he.1, he.2.1, he.2.2, ha]
        exact .extracted file hf hsha ht hx
      | cut left =>
        have he : fetchDep actual unpack d o s =
            (false, { t with dirs := Function.update t.dirs d.key left }) := by
          simp only [fetchDep, hd, ha, if_neg hh, extract, hs, ht, hx]
        rw [he]
        simp only [ha, Function.update_self]
        exact .torn file left hf hsha ht hx

variable (actual unpack) in
lemma fetchDep_fetches (d : Dep) (o : Outcome Blob Tree) (s : State Blob Tree) :
    Fetches actual unpack d o s (fetchDep actual unpack d o s).1
      ((fetchDep actual unpack d o s).2.archives d.key) ((fetchDep actual unpack d o s).2.dirs d.key) := by
  cases ha : s.archives d.key with
  | some file =>
    have hd : download d o s = (true, s) := by rw [download, ha]
    exact fetches_of_held hd (.inl ha) ha rfl
  | none => cases hc : o.curl with
    | done file =>
      have hd : download d o s = (true, { s with archives := Function.update s.archives d.key (some file) }) := by
        rw [download, ha, hc]
      apply fetches_of_held hd (.inr ⟨ha, hc⟩) (Function.update_self _ _ _) rfl
    | cut left =>
      have he : fetchDep actual unpack d o s =
          (false, { s with archives := Function.update s.archives d.key left }) := by
        rw [fetchDep, download, ha, hc]
      rw [he]
      simp only [Function.update_self]
      exact .cut left ha hc

def State.at (s : State Blob Tree) (key : Str) : Option Blob × Option Tree := (s.archives key, s.dirs key)

lemma download_at {d : Dep} {o : Outcome Blob Tree} {s : State Blob Tree} {key : Str} (h : key ≠ d.key) :
    (download d o s).2.at key = s.at key := by
  unfold download
  split
  · rfl
  · split <;> simp [State.at, Function.update_of_ne h]

lemma extract_at {d : Dep} {o : Outcome Blob Tree} {file : Blob} {s : State Blob Tree} {key : Str}
    (h : key ≠ d.key) : (extract unpack d o file s).2.at key = s.at key := by
  unfold extract
  split
  · rfl
  · split <;> simp [State.at, Function.update_of_ne h]

lemma fetchDep_at {d : Dep} {o : Outcome Blob Tree} {s : State Blob Tree} {key : Str} (h : key ≠ d.key) :
    (fetchDep actual unpack d o s).2.at key = s.at key := by
  have hd := download_at (o := o) (s := s) h
  rw [fetchDep]
  generalize download d o s = p at hd
  obtain ⟨_ | _, t⟩ := p
  · exact hd
  · have ht : t.at key = s.at key := hd
    cases ha : t.archives d.key with
    | none => simpa only [ha] using ht
    | some file =>
      by_cases hh : o.digest = false ∨ actual file ≠ d.sha
      · simpa only [ha, if_pos hh] using ht
      · simp only [ha, if_neg hh]
        have hx : (extract unpack d o file t).2.at key = t.at key := extract_at h
        generalize extract unpack d o file t = q at hx
        obtain ⟨_ | _, u⟩ := q
        · exact hx.trans ht
        · have hu : u.at key = s.at key := hx.trans ht
          cases o.record
          · exact hu
          · exact hu

variable (sha256 unpack)

def GoodAt (d : Dep) (there : Option Blob × Option Tree) : Prop :=
  (∀ file, there.1 = some file → sha256 file = d.sha) ∧
    ∀ tree, there.2 = some tree → ∃ file, there.1 = some file ∧ tree = unpack file

def CompleteAt (d : Dep) (there : Option Blob × Option Tree) : Prop :=
  ∃ file, there = (some file, some (unpack file)) ∧ sha256 file = d.sha

/-- The commands for a dependency leave nothing that a later run takes for done, but the pinned
archive and the complete extraction of it. -/
structure HarmlessAt (d : Dep) (o : Outcome Blob Tree) (s : State Blob Tree) : Prop where
  delivered : s.archives d.key = none → ∀ file, o.curl = .done file → sha256 file = d.sha
  partly : s.archives d.key = none → ∀ file, o.curl = .cut (some file) → sha256 file = d.sha
  torn : s.dirs d.key = none → ∀ tree, o.tar = .cut (some tree) → ∃ file, Held d o s file ∧ tree = unpack file

structure CompletesAt (d : Dep) (o : Outcome Blob Tree) (s : State Blob Tree) : Prop where
  delivered : s.archives d.key = none → ∃ file, o.curl = .done file ∧ sha256 file = d.sha
  digest : o.digest = true
  tar : o.tar = .done
  record : o.record = true

variable {sha256 unpack}

lemma sha_of_held {d : Dep} {o : Outcome Blob Tree} {s : State Blob Tree} {file : Blob}
    (hg : GoodAt sha256 unpack d (s.at d.key))
    (ho : s.archives d.key = none → o.curl = .done file → sha256 file = d.sha)
    (hf : Held d o s file) : sha256 file = d.sha := by
  rcases hf with hf | ⟨hn, hc⟩
  · exact hg.1 file hf
  · exact ho hn hc

lemma held_unique {d : Dep} {o : Outcome Blob Tree} {s : State Blob Tree} {file file' : Blob}
    (h : Held d o s file) (h' : Held d o s file') : file = file' := by
  rcases h with h | ⟨h, hc⟩ <;> rcases h' with h' | ⟨h', hc'⟩
  · exact Option.some.inj (h.symm.trans h')
  · cases h.symm.trans h'
  · cases h.symm.trans h'
  · exact Transfer.done.inj (hc.symm.trans hc')

lemma tree_of_held {d : Dep} {o : Outcome Blob Tree} {s : State Blob Tree} {file : Blob} {tree : Tree}
    (hg : GoodAt sha256 unpack d (s.at d.key)) (hf : Held d o s file) (ht : s.dirs d.key = some tree) :
    tree = unpack file := by
  obtain ⟨file', ha, rfl⟩ := hg.2 tree ht
  have ha : s.archives d.key = some file' := ha
  rcases hf with hf | ⟨hn, _⟩
  · rw [Option.some.inj (ha.symm.trans hf)]
  · cases ha.symm.trans hn

variable (actual) in
lemma fetchDep_good {d : Dep} {o : Outcome Blob Tree} {s : State Blob Tree}
    (hg : GoodAt sha256 unpack d (s.at d.key)) (ho : HarmlessAt sha256 unpack d o s) :
    GoodAt sha256 unpack d ((fetchDep actual unpack d o s).2.at d.key) := by
  have hf := fetchDep_fetches actual unpack d o s
  rw [State.at]
  generalize (fetchDep actual unpack d o s).1 = ok, (fetchDep actual unpack d o s).2.archives d.key = archive,
    (fetchDep actual unpack d o s).2.dirs d.key = there at hf ⊢
  have hsha {file : Blob} (h : Held d o s file) : sha256 file = d.sha :=
    sha_of_held hg (fun hn hc => ho.delivered hn file hc) h
  cases hf with
  | cut left hn hc =>
    refine ⟨?_, ?_⟩
    · rintro file rfl
      exact ho.partly hn file hc
    · intro tree ht
      obtain ⟨file, ha, _⟩ := hg.2 tree ht
      cases hn.symm.trans ha
  | refused file hh hne =>
    refine ⟨?_, ?_⟩
    · rintro file' ⟨⟩
      exact hsha hh
    · intro tree ht
      exact ⟨file, rfl, tree_of_held hg hh ht⟩
  | kept file tree hh _ ht =>
    refine ⟨?_, ?_⟩
    · rintro file' ⟨⟩
      exact hsha hh
    · rintro tree' ⟨⟩
      exact ⟨file, rfl, tree_of_held hg hh ht⟩
  | extracted file hh =>
    refine ⟨?_, ?_⟩
    · rintro file' ⟨⟩
      exact hsha hh
    · rintro tree' ⟨⟩
      exact ⟨file, rfl, rfl⟩
  | torn file left hh _ hn ht =>
    refine ⟨?_, ?_⟩
    · rintro file' ⟨⟩
      exact hsha hh
    · rintro tree rfl
      obtain ⟨file', hh', rfl⟩ := ho.torn hn tree ht
      exact ⟨file, rfl, congrArg unpack (held_unique hh' hh)⟩

lemma fetchDep_complete {d : Dep} {o : Outcome Blob Tree} {s : State Blob Tree} (ha : actual = sha256)
    (hg : GoodAt sha256 unpack d (s.at d.key)) (h : (fetchDep actual unpack d o s).1 = true) :
    CompleteAt sha256 unpack d ((fetchDep actual unpack d o s).2.at d.key) := by
  subst ha
  have hf := fetchDep_fetches actual unpack d o s
  rw [State.at]
  generalize (fetchDep actual unpack d o s).1 = ok, (fetchDep actual unpack d o s).2.archives d.key = archive,
    (fetchDep actual unpack d o s).2.dirs d.key = there at hf h ⊢
  cases hf with
  | cut => cases h
  | refused => cases h
  | kept file tree hh hs ht => exact ⟨file, by rw [tree_of_held hg hh ht], hs⟩
  | extracted file _ hs => exact ⟨file, rfl, hs⟩
  | torn => cases h

lemma fetchDep_ok {d : Dep} {o : Outcome Blob Tree} {s : State Blob Tree} (ha : actual = sha256)
    (hg : GoodAt sha256 unpack d (s.at d.key)) (ho : CompletesAt sha256 d o s) :
    (fetchDep actual unpack d o s).1 = true := by
  subst ha
  have hf := fetchDep_fetches actual unpack d o s
  generalize (fetchDep actual unpack d o s).1 = ok, (fetchDep actual unpack d o s).2.archives d.key = archive,
    (fetchDep actual unpack d o s).2.dirs d.key = there at hf ⊢
  cases hf with
  | cut left hn hc =>
    obtain ⟨file, hd, _⟩ := ho.delivered hn
    cases hd.symm.trans hc
  | refused file hh hne =>
    have hs : actual file = d.sha := by
      apply sha_of_held hg _ hh
      intro hn hc
      obtain ⟨file', hd, hs⟩ := ho.delivered hn
      obtain rfl := Transfer.done.inj (hd.symm.trans hc)
      exact hs
    rcases hne with hne | hne
    · cases ho.digest.symm.trans hne
    · exact absurd hs hne
  | kept => exact ho.record
  | extracted => exact ho.record
  | torn file left hh hs hn ht => cases ho.tar.symm.trans ht

lemma fetchDep_kept (d : Dep) (o : Outcome Blob Tree) (s : State Blob Tree) {key : Str} {file : Blob}
    (h : s.archives key = some file) :
    (fetchDep actual unpack d o s).2.archives key = some file ∧
      ∀ tree, s.dirs key = some tree → (fetchDep actual unpack d o s).2.dirs key = some tree := by
  by_cases hk : key = d.key
  · subst hk
    have hf := fetchDep_fetches actual unpack d o s
    generalize (fetchDep actual unpack d o s).1 = ok, (fetchDep actual unpack d o s).2.archives d.key = archive,
      (fetchDep actual unpack d o s).2.dirs d.key = there at hf ⊢
    have hu {file' : Blob} (hh : Held d o s file') : some file' = some file :=
      congrArg some (held_unique hh (.inl h))
    cases hf with
    | cut left hn => cases hn.symm.trans h
    | refused file' hh => exact ⟨hu hh, fun _ ht => ht⟩
    | kept file' tree hh _ ht => exact ⟨hu hh, fun _ ht' => ht.symm.trans ht'⟩
    | extracted file' hh _ hn => exact ⟨hu hh, fun _ ht => by cases hn.symm.trans ht⟩
    | torn file' left hh _ hn => exact ⟨hu hh, fun _ ht => by cases hn.symm.trans ht⟩
  · have he : (fetchDep actual unpack d o s).2.at key = s.at key := fetchDep_at hk
    exact ⟨(congrArg Prod.fst he).trans h, fun _ ht => (congrArg Prod.snd he).trans ht⟩

lemma fetchDep_foreign {d : Dep} {o : Outcome Blob Tree} {s : State Blob Tree} {file : Blob}
    (h : s.archives d.key = some file) (hs : actual file ≠ d.sha) : (fetchDep actual unpack d o s).1 = false := by
  have hf := fetchDep_fetches actual unpack d o s
  have hne {file' : Blob} (hh : Held d o s file') : actual file' ≠ d.sha := held_unique (.inl h) hh ▸ hs
  generalize (fetchDep actual unpack d o s).1 = ok, (fetchDep actual unpack d o s).2.archives d.key = archive,
    (fetchDep actual unpack d o s).2.dirs d.key = there at hf ⊢
  cases hf with
  | cut => rfl
  | refused => rfl
  | kept file' tree hh hs' => exact absurd hs' (hne hh)
  | extracted file' hh hs' => exact absurd hs' (hne hh)
  | torn => rfl

def OnePin (ds : List Dep) : Prop := ∀ d ∈ ds, ∀ e ∈ ds, d.key = e.key → d.sha = e.sha

lemma OnePin.tail {d : Dep} {ds : List Dep} (h : OnePin (d :: ds)) : OnePin ds := by
  intro e he f hf
  exact h e (List.mem_cons_of_mem _ he) f (List.mem_cons_of_mem _ hf)

lemma OnePin.head {d e : Dep} {ds : List Dep} (h : OnePin (d :: ds)) (he : e ∈ ds) :
    d.key = e.key → d.sha = e.sha :=
  h d List.mem_cons_self e (List.mem_cons_of_mem _ he)

lemma fetchDep_good_of_good {o : Outcome Blob Tree} {d e : Dep} (hk : d.key = e.key → d.sha = e.sha)
    {s : State Blob Tree} (hd : GoodAt sha256 unpack d ((fetchDep actual unpack d o s).2.at d.key))
    (hg : GoodAt sha256 unpack e (s.at e.key)) :
    GoodAt sha256 unpack e ((fetchDep actual unpack d o s).2.at e.key) := by
  by_cases hkey : e.key = d.key
  · rw [hkey]
    exact ⟨fun file ha => (hd.1 file ha).trans (hk hkey.symm), hd.2⟩
  · rwa [fetchDep_at hkey]

lemma CompleteAt.good {d : Dep} {there : Option Blob × Option Tree} (h : CompleteAt sha256 unpack d there) :
    GoodAt sha256 unpack d there := by
  obtain ⟨file, rfl, hs⟩ := h
  refine ⟨?_, ?_⟩
  · rintro file' ⟨⟩
    exact hs
  · rintro tree ⟨⟩
    exact ⟨file, rfl, rfl⟩

lemma fetchDep_completesAt {o o' : Outcome Blob Tree} {d e : Dep} {s : State Blob Tree}
    (hd : CompleteAt sha256 unpack d ((fetchDep actual unpack d o s).2.at d.key))
    (he : CompletesAt sha256 e o' s) :
    CompletesAt sha256 e o' (fetchDep actual unpack d o s).2 where
  delivered hn := by
    by_cases hkey : e.key = d.key
    · obtain ⟨file, hc, _⟩ := hd
      rw [hkey] at hn
      cases hn.symm.trans (congrArg Prod.fst hc)
    · exact he.delivered ((congrArg Prod.fst (fetchDep_at hkey)).symm.trans hn)
  digest := he.digest
  tar := he.tar
  record := he.record

section

variable {actualSha : Dep → Blob → Str}

variable (sha256 actualSha unpack) in
def HarmlessLoop (o : Dep → Outcome Blob Tree) : List Dep → State Blob Tree → Prop
  | [], _ => True
  | d :: ds, s => HarmlessAt sha256 unpack d (o d) s ∧
    ((fetchDep (actualSha d) unpack d (o d) s).1 = true →
      HarmlessLoop o ds (fetchDep (actualSha d) unpack d (o d) s).2)

lemma fetchDeps_cons_true {o : Dep → Outcome Blob Tree} {d : Dep} {ds : List Dep} {s : State Blob Tree}
    (h : (fetchDep (actualSha d) unpack d (o d) s).1 = true) :
    fetchDeps actualSha unpack o (d :: ds) s =
      fetchDeps actualSha unpack o ds (fetchDep (actualSha d) unpack d (o d) s).2 := by
  rw [fetchDeps]
  generalize fetchDep (actualSha d) unpack d (o d) s = p at h
  obtain ⟨ok, t⟩ := p
  obtain rfl : ok = true := h
  rfl

lemma fetchDeps_cons_false {o : Dep → Outcome Blob Tree} {d : Dep} {ds : List Dep} {s : State Blob Tree}
    (h : (fetchDep (actualSha d) unpack d (o d) s).1 = false) :
    fetchDeps actualSha unpack o (d :: ds) s = (false, (fetchDep (actualSha d) unpack d (o d) s).2) := by
  rw [fetchDeps]
  generalize fetchDep (actualSha d) unpack d (o d) s = p at h
  obtain ⟨ok, t⟩ := p
  obtain rfl : ok = false := h
  rfl

lemma fetchDeps_invariant {P : State Blob Tree → Prop}
    (h : ∀ d o s, P s → P (fetchDep (actualSha d) unpack d o s).2) (o : Dep → Outcome Blob Tree) (ds : List Dep)
    {s : State Blob Tree} (hs : P s) : P (fetchDeps actualSha unpack o ds s).2 := by
  induction ds generalizing s with
  | nil => exact hs
  | cons d ds ih =>
    have hd := h d (o d) s hs
    cases hb : (fetchDep (actualSha d) unpack d (o d) s).1 with
    | false => rwa [fetchDeps_cons_false hb]
    | true =>
      rw [fetchDeps_cons_true hb]
      exact ih hd

variable (actualSha unpack) in
lemma fetchDeps_kept (o : Dep → Outcome Blob Tree) (ds : List Dep) (s : State Blob Tree) {key : Str} {file : Blob}
    (h : s.archives key = some file) :
    (fetchDeps actualSha unpack o ds s).2.archives key = some file ∧
      ∀ tree, s.dirs key = some tree → (fetchDeps actualSha unpack o ds s).2.dirs key = some tree := by
  apply fetchDeps_invariant
    (P := fun t => t.archives key = some file ∧ ∀ tree, s.dirs key = some tree → t.dirs key = some tree) _ o ds
    ⟨h, fun _ ht => ht⟩
  rintro d o t ⟨ha, ht⟩
  obtain ⟨ha', ht'⟩ := fetchDep_kept d o t ha
  exact ⟨ha', fun tree hs => ht' tree (ht tree hs)⟩

lemma fetchDeps_completeAt {o : Dep → Outcome Blob Tree} {ds : List Dep} {d : Dep} {s : State Blob Tree}
    (h : CompleteAt sha256 unpack d (s.at d.key)) :
    CompleteAt sha256 unpack d ((fetchDeps actualSha unpack o ds s).2.at d.key) := by
  obtain ⟨file, hc, hs⟩ := h
  obtain ⟨ha, ht⟩ := fetchDeps_kept unpack actualSha o ds s (congrArg Prod.fst hc)
  exact ⟨file, Prod.ext ha (ht _ (congrArg Prod.snd hc)), hs⟩

lemma fetchDeps_good {o : Dep → Outcome Blob Tree} {ds : List Dep} {s : State Blob Tree} (hk : OnePin ds)
    (hg : ∀ d ∈ ds, GoodAt sha256 unpack d (s.at d.key))
    (ho : HarmlessLoop sha256 unpack actualSha o ds s) {e : Dep}
    (hke : ∀ d ∈ ds, d.key = e.key → d.sha = e.sha) (he : GoodAt sha256 unpack e (s.at e.key)) :
    GoodAt sha256 unpack e ((fetchDeps actualSha unpack o ds s).2.at e.key) := by
  induction ds generalizing s with
  | nil => exact he
  | cons d ds ih =>
    have hd := fetchDep_good (actualSha d) (hg d List.mem_cons_self) ho.1
    have he' := fetchDep_good_of_good (hke d List.mem_cons_self) hd he
    cases hb : (fetchDep (actualSha d) unpack d (o d) s).1 with
    | false => rwa [fetchDeps_cons_false hb]
    | true =>
      rw [fetchDeps_cons_true hb]
      apply ih hk.tail _ (ho.2 hb) _ he'
      · intro f hf
        exact fetchDep_good_of_good (hk.head hf) hd (hg f (List.mem_cons_of_mem _ hf))
      · intro f hf
        exact hke f (List.mem_cons_of_mem _ hf)

lemma fetchDeps_complete {o : Dep → Outcome Blob Tree} {ds : List Dep} {s : State Blob Tree} (hk : OnePin ds)
    (ha : ∀ d ∈ ds, actualSha d = sha256) (hg : ∀ d ∈ ds, GoodAt sha256 unpack d (s.at d.key))
    (h : (fetchDeps actualSha unpack o ds s).1 = true) :
    ∀ d ∈ ds, CompleteAt sha256 unpack d ((fetchDeps actualSha unpack o ds s).2.at d.key) := by
  induction ds generalizing s with
  | nil => simp
  | cons d ds ih =>
    cases hb : (fetchDep (actualSha d) unpack d (o d) s).1 with
    | false =>
      rw [fetchDeps_cons_false hb] at h
      cases h
    | true =>
      rw [fetchDeps_cons_true hb] at h ⊢
      obtain ⟨had, ha⟩ := List.forall_mem_cons.mp ha
      have hd := fetchDep_complete had (hg d List.mem_cons_self) hb
      intro e he
      rcases List.mem_cons.mp he with rfl | he
      · exact fetchDeps_completeAt hd
      · apply ih hk.tail ha _ h e he
        intro f hf
        exact fetchDep_good_of_good (hk.head hf) hd.good (hg f (List.mem_cons_of_mem _ hf))

lemma fetchDeps_ok {o : Dep → Outcome Blob Tree} {ds : List Dep} {s : State Blob Tree} (hk : OnePin ds)
    (ha : ∀ d ∈ ds, actualSha d = sha256) (hg : ∀ d ∈ ds, GoodAt sha256 unpack d (s.at d.key))
    (ho : ∀ d ∈ ds, CompletesAt sha256 d (o d) s) : (fetchDeps actualSha unpack o ds s).1 = true := by
  induction ds generalizing s with
  | nil => rfl
  | cons d ds ih =>
    obtain ⟨had, ha⟩ := List.forall_mem_cons.mp ha
    have hb := fetchDep_ok had (hg d List.mem_cons_self) (ho d List.mem_cons_self)
    have hd := fetchDep_complete had (hg d List.mem_cons_self) hb
    rw [fetchDeps_cons_true hb]
    apply ih hk.tail ha
    · intro e he
      exact fetchDep_good_of_good (hk.head he) hd.good (hg e (List.mem_cons_of_mem _ he))
    · intro e he
      exact fetchDep_completesAt hd (ho e (List.mem_cons_of_mem _ he))

variable (unpack) in
lemma fetchDeps_foreign (o : Dep → Outcome Blob Tree) {ds : List Dep} {d : Dep} (hd : d ∈ ds) {s : State Blob Tree}
    {file : Blob} (h : s.archives d.key = some file) (hs : actualSha d file ≠ d.sha) :
    (fetchDeps actualSha unpack o ds s).1 = false := by
  induction ds generalizing s with
  | nil => cases hd
  | cons e ds ih =>
    cases hb : (fetchDep (actualSha e) unpack e (o e) s).1 with
    | false => rw [fetchDeps_cons_false hb]
    | true =>
      rw [fetchDeps_cons_true hb]
      rcases List.mem_cons.mp hd with rfl | hd
      · cases (fetchDep_foreign h hs).symm.trans hb
      · exact ih hd (fetchDep_kept e (o e) s h).1

end

variable (sha256 unpack)

def HarmlessRun (lock : List Dep) (r : Run Blob Tree) (s : State Blob Tree) : Prop :=
  r.ready = true → HarmlessLoop sha256 unpack (r.actualSha sha256) r.outcome (r.records lock)
    { s with manifest := [header] }

def HarmlessRuns (lock : List Dep) : List (Run Blob Tree) → State Blob Tree → Prop
  | [], _ => True
  | r :: rs, s => HarmlessRun sha256 unpack lock r s ∧ HarmlessRuns lock rs (run sha256 unpack lock r s).2

structure Completes (lock : List Dep) (r : Run Blob Tree) (s : State Blob Tree) : Prop where
  ready : r.ready = true
  reader : r.reader = none
  loop : r.emptyUnset = true → lock ≠ []
  outcome : ∀ d ∈ lock, CompletesAt sha256 d (r.outcome d) s
  printed : r.printed = true

/-- No path of an archive is written with escapes, so that its digest is printed as it is. -/
def Legible (lock : List Dep) (r : Run Blob Tree) : Prop :=
  ∀ d ∈ lock, ∀ c ∈ d.archiveFile r.out, r.escapes c = false

variable {sha256 unpack}

section

variable {lock : List Dep} {r : Run Blob Tree}

lemma mem_of_mem_records {d : Dep} (h : d ∈ r.records lock) : d ∈ lock := by
  rw [Run.records] at h
  cases hr : r.reader with
  | none => rwa [hr] at h
  | some k =>
    rw [hr] at h
    exact List.mem_of_mem_take h

lemma records_eq (h : r.reader = none) : r.records lock = lock := by
  rw [Run.records, h]

lemma actualSha_eq (h : Legible lock r) : ∀ d ∈ lock, r.actualSha sha256 d = sha256 := by
  intro d hd
  have hnone : (d.archiveFile r.out).any r.escapes = false := by
    simpa only [List.any_eq_false, Bool.not_eq_true] using h d hd
  funext file
  rw [Run.actualSha, hnone]
  rfl

lemma read_records (hp : ∀ d ∈ lock, d.Plain) :
    (r.records lock).map (fun d => Dep.read d.line) = r.records lock := by
  rw [List.map_congr_left fun d hd => read_line (hp d (mem_of_mem_records hd)), List.map_id']

lemma run_state (hp : ∀ d ∈ lock, d.Plain) (hr : r.ready = true) (s : State Blob Tree) :
    (run sha256 unpack lock r s).2 = (fetchDeps (r.actualSha sha256) unpack r.outcome (r.records lock)
      { s with manifest := [header] }).2 := by
  rw [run, if_pos hr, read_records hp]
  split_ifs with hempty
  · rw [hempty.2, fetchDeps]
  · rfl

lemma run_exits (hp : ∀ d ∈ lock, d.Plain) (s : State Blob Tree) :
    (run sha256 unpack lock r s).1 = true ↔ r.ready = true ∧ (r.emptyUnset = true → r.records lock ≠ []) ∧
      (fetchDeps (r.actualSha sha256) unpack r.outcome (r.records lock) { s with manifest := [header] }).1 = true ∧
        r.printed = true := by
  rw [run, read_records hp]
  split_ifs with hr hempty
  · simp [hempty]
  · rw [not_and] at hempty
    simpa [hr] using fun _ _ => hempty
  · simp [hr]

lemma OnePin.records (hk : OnePin lock) : OnePin (r.records lock) := fun d hd e he =>
  hk d (mem_of_mem_records hd) e (mem_of_mem_records he)

lemma run_good (hp : ∀ d ∈ lock, d.Plain) (hk : OnePin lock) {s : State Blob Tree}
    (hg : ∀ d ∈ lock, GoodAt sha256 unpack d (s.at d.key)) (hr : HarmlessRun sha256 unpack lock r s) :
    ∀ d ∈ lock, GoodAt sha256 unpack d ((run sha256 unpack lock r s).2.at d.key) := by
  by_cases hb : r.ready = true
  · rw [run_state hp hb]
    intro d hd
    exact fetchDeps_good (s := { s with manifest := [header] }) hk.records
      (fun e he => hg e (mem_of_mem_records he))
      (hr hb) (fun e he => hk e (mem_of_mem_records he) d hd) (hg d hd)
  · rwa [run, if_neg hb]

lemma runs_good (hp : ∀ d ∈ lock, d.Plain) (hk : OnePin lock) {rs : List (Run Blob Tree)}
    {s : State Blob Tree} (hg : ∀ d ∈ lock, GoodAt sha256 unpack d (s.at d.key))
    (hr : HarmlessRuns sha256 unpack lock rs s) :
    ∀ d ∈ lock, GoodAt sha256 unpack d
      ((rs.foldl (fun s r => (run sha256 unpack lock r s).2) s).at d.key) := by
  induction rs generalizing s with
  | nil => exact hg
  | cons r rs ih => exact ih (run_good hp hk hg hr.1) hr.2

variable (sha256 unpack) in
lemma runs_kept (hp : ∀ d ∈ lock, d.Plain) (rs : List (Run Blob Tree)) {s : State Blob Tree} {key : Str}
    {file : Blob} (h : s.archives key = some file) :
    (rs.foldl (fun s r => (run sha256 unpack lock r s).2) s).archives key = some file ∧
      ∀ tree, s.dirs key = some tree →
        (rs.foldl (fun s r => (run sha256 unpack lock r s).2) s).dirs key = some tree := by
  induction rs generalizing s with
  | nil => exact ⟨h, fun _ ht => ht⟩
  | cons r rs ih =>
    rw [List.foldl_cons]
    by_cases hb : r.ready = true
    · rw [run_state hp hb]
      obtain ⟨ha, ht⟩ :=
        fetchDeps_kept unpack (r.actualSha sha256) r.outcome (r.records lock) { s with manifest := [header] } h
      obtain ⟨ha', ht'⟩ := ih ha
      exact ⟨ha', fun tree hs => ht' tree (ht tree hs)⟩
    · rw [run, if_neg hb]
      exact ih h

theorem run_foreign (hp : ∀ d ∈ lock, d.Plain) {d : Dep} (hd : d ∈ r.records lock) (hl : Legible lock r)
    (rs : List (Run Blob Tree)) {s : State Blob Tree} {file : Blob} (h : s.archives d.key = some file)
    (hs : sha256 file ≠ d.sha) :
    (run sha256 unpack lock r (rs.foldl (fun s r => (run sha256 unpack lock r s).2) s)).1 = false := by
  obtain ⟨ha, _⟩ := runs_kept sha256 unpack hp rs h
  have hne : r.actualSha sha256 d file ≠ d.sha := by rwa [actualSha_eq hl d (mem_of_mem_records hd)]
  have hloop : (fetchDeps (r.actualSha sha256) unpack r.outcome (r.records lock)
      { rs.foldl (fun s r => (run sha256 unpack lock r s).2) s with manifest := [header] }).1 = false :=
    fetchDeps_foreign unpack r.outcome hd ha hne
  rw [← Bool.not_eq_true, run_exits hp, hloop]
  rintro ⟨-, -, h, -⟩
  cases h

theorem run_torn (hp : ∀ d ∈ lock, d.Plain) {d : Dep} (rs : List (Run Blob Tree))
    {s : State Blob Tree} {file : Blob}
    {tree : Tree} (h : s.archives d.key = some file) (ht : s.dirs d.key = some tree) (hne : tree ≠ unpack file) :
    ¬ CompleteAt sha256 unpack d ((rs.foldl (fun s r => (run sha256 unpack lock r s).2) s).at d.key) := by
  rintro ⟨file', hc, _⟩
  obtain ⟨ha, ht'⟩ := runs_kept sha256 unpack hp rs h
  obtain rfl := Option.some.inj (ha.symm.trans (congrArg Prod.fst hc))
  exact hne (Option.some.inj ((ht' tree ht).symm.trans (congrArg Prod.snd hc)))

lemma good_empty (d : Dep) : GoodAt sha256 unpack d ((.empty : State Blob Tree).at d.key) := by
  refine ⟨?_, ?_⟩
  · intro file h
    cases h
  · intro tree h
    cases h

end

end

/-- After a harmless history a run whose downloads deliver exits with status 0, and every run that
does and whose reader was not stopped leaves each dependency complete. -/
theorem run_after_fetched (sha256 : Blob → Str) (unpack : Blob → Tree) {lock : List Dep}
    (hp : ∀ d ∈ lock, d.Plain) (hk : OnePin lock) (rs : List (Run Blob Tree))
    (hr : HarmlessRuns sha256 unpack lock rs .empty) (r : Run Blob Tree) (hl : Legible lock r) :
    (Completes sha256 lock r (after sha256 unpack lock rs) →
        (run sha256 unpack lock r (after sha256 unpack lock rs)).1 = true) ∧
      (r.records lock = lock → (run sha256 unpack lock r (after sha256 unpack lock rs)).1 = true →
        ∀ d ∈ lock, CompleteAt sha256 unpack d
          ((run sha256 unpack lock r (after sha256 unpack lock rs)).2.at d.key)) := by
  have hg : ∀ d ∈ lock, GoodAt sha256 unpack d ((after sha256 unpack lock rs).at d.key) :=
    runs_good hp hk (fun d _ => good_empty d) hr
  have ha : ∀ d ∈ lock, r.actualSha sha256 d = sha256 := actualSha_eq hl
  refine ⟨?_, ?_⟩
  · intro hc
    have ho := fetchDeps_ok (o := r.outcome)
      (s := { after sha256 unpack lock rs with manifest := [header] }) hk ha hg
      fun d hd => ⟨(hc.outcome d hd).delivered, (hc.outcome d hd).digest, (hc.outcome d hd).tar,
        (hc.outcome d hd).record⟩
    rw [run_exits hp, records_eq hc.reader]
    exact ⟨hc.ready, hc.loop, ho, hc.printed⟩
  · intro hall h
    obtain ⟨hready, -, hloop, -⟩ := (run_exits hp _).mp h
    rw [run_state hp hready, hall]
    rw [hall] at hloop
    exact fetchDeps_complete hk ha hg hloop

def sampleDep : Dep := ⟨lit "wine", lit "wine-11.13", lit "a1", lit "https://wine", lit "pinned"⟩

def sampleRun (reader : Option ℕ) (curl : Transfer Str) (tar : Extraction Str) : Run Str Str :=
  ⟨true, reader, false, lit "out/upstream", false, fun _ => ⟨curl, true, tar, true⟩, true⟩

def sampleDone : Run Str Str := sampleRun none (.done (lit "pinned")) .done

lemma plain_sampleDep : ∀ d ∈ [sampleDep], d.Plain := by
  intro d hd
  obtain rfl := List.mem_singleton.mp hd
  exact ⟨by decide, by decide, by decide⟩

lemma legible_sampleDone : Legible [sampleDep] sampleDone := by
  intro d hd
  obtain rfl := List.mem_singleton.mp hd
  decide

lemma harmless_sampleDep (s : State Str Str) :
    HarmlessRun id id [sampleDep] (sampleRun none (.done (lit "pinned")) (.cut none)) s := by
  rintro -
  refine ⟨⟨?_, ?_, ?_⟩, fun _ => trivial⟩
  · rintro - file h
    exact (Transfer.done.inj h).symm
  · rintro - file h
    cases h
  · rintro - tree h
    cases h

theorem run_after_fetched_sample :
    (Completes id [sampleDep] sampleDone
          (after id id [sampleDep] [sampleRun none (.done (lit "pinned")) (.cut none)]) →
        (run id id [sampleDep] sampleDone
          (after id id [sampleDep] [sampleRun none (.done (lit "pinned")) (.cut none)])).1 = true) ∧
      (sampleDone.records [sampleDep] = [sampleDep] →
        (run id id [sampleDep] sampleDone
          (after id id [sampleDep] [sampleRun none (.done (lit "pinned")) (.cut none)])).1 = true →
        ∀ d ∈ [sampleDep], CompleteAt id id d
          ((run id id [sampleDep] sampleDone
            (after id id [sampleDep] [sampleRun none (.done (lit "pinned")) (.cut none)])).2.at d.key)) := by
  apply run_after_fetched
  · exact plain_sampleDep
  · intro d hd e he _
    rw [List.mem_singleton.mp hd, List.mem_singleton.mp he]
  · exact ⟨harmless_sampleDep _, trivial⟩
  · exact legible_sampleDone

/-- After a download that was cut short a run that is not stopped fails; after a `tar` that was cut
short such a run exits with status 0, over a directory that is not complete; and a run whose reader is stopped
exits with status 0 over nothing. -/
theorem partly_fetched_taken_for_done :
    let short := after id id [sampleDep] [sampleRun none (.cut (some (lit "pin"))) .done]
    let torn := after id id [sampleDep] [sampleRun none (.done (lit "pinned")) (.cut (some (lit "pin")))]
    let stopped := run id id [sampleDep] (sampleRun (some 0) (.done (lit "pinned")) .done) .empty
    (Completes id [sampleDep] sampleDone short ∧ (run id id [sampleDep] sampleDone short).1 = false) ∧
      ((run id id [sampleDep] sampleDone torn).1 = true ∧
        ¬ CompleteAt id id sampleDep ((run id id [sampleDep] sampleDone torn).2.at sampleDep.key)) ∧
      stopped.1 = true ∧ stopped.2.at sampleDep.key = (none, none) := by
  intro short torn stopped
  have hshort : short.archives sampleDep.key = some (lit "pin") := by decide
  have htorn : (run id id [sampleDep] sampleDone torn).2.at sampleDep.key =
      (some (lit "pinned"), some (lit "pin")) := by
    decide
  refine ⟨⟨⟨rfl, rfl, fun _ => List.cons_ne_nil _ _, ?_, rfl⟩, ?_⟩, ⟨by decide, ?_⟩, by decide, by decide⟩
  · intro d hd
    obtain rfl := List.mem_singleton.mp hd
    refine ⟨?_, rfl, rfl, rfl⟩
    intro hn
    cases hshort.symm.trans hn
  · exact run_foreign plain_sampleDep (List.mem_singleton_self _) legible_sampleDone [] hshort (by decide)
  · rintro ⟨file, he, _⟩
    rw [htorn] at he
    obtain ⟨ha, ht⟩ := Prod.mk.inj he
    exact absurd (ha.trans ht.symm) (by decide)

end Graft64.Runtime.Upstream
