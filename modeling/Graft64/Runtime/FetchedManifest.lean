import Graft64.Library.Csv
import Graft64.Runtime.LockAgreement
import Graft64.Runtime.Manifest

/-! `fetched-manifest.tsv`: what `fetch-upstream.sh` writes, and how `apply-patches.sh` checks it against the
lock. -/

namespace Graft64.Runtime.FetchedManifest

open Graft64.Library DepsLock Upstream Results
open Manifest (universalNewlines)

/-- `csv.field_size_limit()` -/
def fieldLimit : ℕ := 131072

/-- The row is named by its number in the file. -/
def lineError (line : ℕ) (what : Str) : Str := lit "fetched-manifest.tsv line " ++ Decimal.ofNat line ++ what

section

variable (repr : Str → Str)

def readRow (line : ℕ) (found : List Dep) : List Str → Except Str Dep
  | [name, ref, commit, sha, archive] =>
    if ¬ (name = lit "wine" ∨ name = lit "fex") then
      .error (lineError line (lit " has unexpected dependency: " ++ repr name))
    else if (found.map (·.name)).contains name then
      .error (lit "fetched-manifest.tsv has duplicate dependency: " ++ name)
    else if ref = [] ∨ archive = [] then .error (lineError line (lit " has an empty ref or archive"))
    else if isHexOf 40 commit = false then .error (lineError line (lit " has an invalid commit"))
    else if isHexOf 64 sha = false then .error (lineError line (lit " has an invalid archive SHA-256"))
    else .ok ⟨name, ref, commit, archive, sha⟩
  | _ => .error (lineError line (lit " must have five fields"))

def readRows (line : ℕ) (found : List Dep) : List (List Str) → Except Str (List Dep)
  | [] => .ok found
  | row :: rows => (readRow repr line found row).bind fun dep => readRows (line + 1) (found ++ [dep]) rows

def readManifest : List (List Str) → Except Str (List Dep)
  | [] => .error (lit "fetched-manifest.tsv has an invalid header")
  | head :: rows =>
    if head = header then readRows repr 2 [] rows else .error (lit "fetched-manifest.tsv has an invalid header")

/-- `record[field]`, for the fields that are compared. -/
def comparedFields : List (Str × (Dep → Str)) :=
  [(lit "ref", (·.ref)), (lit "commit", (·.commit)), (lit "archive_sha256", (·.sha)), (lit "archive", (·.archive))]

def compareFields (name : Str) (expected actual : Dep) : List (Str × (Dep → Str)) → Except Str Unit
  | [] => .ok ()
  | (field, get) :: fields =>
    if get actual = get expected then compareFields name expected actual fields
    else .error (lit "fetched-manifest.tsv " ++ name ++ 46 :: field ++ lit " does not match dependency lock")

/-- The dictionaries have the key when it is asked for. -/
def compareNamed (locked fetched : List Dep) (name : Str) : Except Str Unit :=
  match locked.find? (·.name == name), fetched.find? (·.name == name) with
  | some expected, some actual => compareFields name expected actual comparedFields
  | _, _ => .error name

/-- The checks of `apply-patches.sh` on the text of the manifest and that of the lock, up to the prepared
sources. -/
def crossCheck (manifest lock : Str) : Except Str (List Dep) := do
  let rows ← orError (lit "field larger than field limit (" ++ Decimal.ofNat fieldLimit ++ lit ")")
    (Csv.rows 9 fieldLimit manifest)
  let fetched ← readManifest repr rows
  check (areWineAndFex (fetched.map (·.name))) (lit "fetched-manifest.tsv must contain exactly wine and fex")
  let locked ← applyReader lock
  compareNamed locked fetched (lit "wine")
  compareNamed locked fetched (lit "fex")
  return fetched

end

/-- What the `printf` commands write. -/
def manifestText (rows : List (List Str)) : Str := rows.flatMap (Csv.line 9)

def rowOf (d : Dep) : List Str := [d.name, d.ref, d.commit, d.sha, d.archive]

variable {Blob Tree : Type} {sha256 : Blob → Str} {unpack : Blob → Tree} {repr : Str → Str}

lemma download_manifest (d : Dep) (o : Outcome Blob Tree) (s : State Blob Tree) :
    (download d o s).2.manifest = s.manifest := by
  rw [download]
  cases s.archives d.key with
  | some file => rfl
  | none => cases o.curl <;> rfl

variable (unpack) in
lemma extract_manifest (d : Dep) (o : Outcome Blob Tree) (file : Blob) (s : State Blob Tree) :
    (extract unpack d o file s).2.manifest = s.manifest := by
  rw [extract]
  cases s.dirs d.key with
  | some tree => rfl
  | none => cases o.tar <;> rfl

lemma fetchDep_manifest {actual : Blob → Str} {d : Dep} {o : Outcome Blob Tree} {s : State Blob Tree}
    (h : (fetchDep actual unpack d o s).1 = true) :
    (fetchDep actual unpack d o s).2.manifest = s.manifest ++ [rowOf d] ∧ ∃ file, actual file = d.sha := by
  have hdown := download_manifest d o s
  rw [fetchDep] at h ⊢
  generalize download d o s = p at h hdown ⊢
  obtain ⟨_ | _, t⟩ := p
  · cases h
  · dsimp only at h hdown ⊢
    cases ht : t.archives d.key with
    | none =>
      rw [ht] at h
      cases h
    | some file =>
      have hext := extract_manifest unpack d o file t
      rw [ht] at h
      dsimp only at h ⊢
      by_cases hne : o.digest = false ∨ actual file ≠ d.sha
      · rw [if_pos hne] at h
        cases h
      · rw [if_neg hne] at h ⊢
        generalize extract unpack d o file t = q at h hext ⊢
        obtain ⟨_ | _, u⟩ := q
        · cases h
        · dsimp only at h hext ⊢
          split_ifs at h ⊢
          rw [not_or, not_not] at hne
          exact ⟨by rw [rowOf, hext, hdown, hne.2], file, hne.2⟩

lemma fetchDeps_manifest {actualSha : Dep → Blob → Str} {o : Dep → Outcome Blob Tree} {ds : List Dep}
    {s : State Blob Tree} (h : (fetchDeps actualSha unpack o ds s).1 = true) :
    (fetchDeps actualSha unpack o ds s).2.manifest = s.manifest ++ ds.map rowOf ∧
      ∀ d ∈ ds, ∃ file, actualSha d file = d.sha := by
  induction ds generalizing s with
  | nil => simp [fetchDeps]
  | cons d ds ih =>
    cases hd : (fetchDep (actualSha d) unpack d (o d) s).1 with
    | false =>
      rw [fetchDeps_cons_false hd] at h
      cases h
    | true =>
      obtain ⟨hrow, hfile⟩ := fetchDep_manifest hd
      rw [fetchDeps_cons_true hd] at h ⊢
      obtain ⟨hrows, hfiles⟩ := ih h
      rw [hrows, hrow]
      exact ⟨by simp, List.forall_mem_cons.mpr ⟨hfile, hfiles⟩⟩

lemma run_manifest {lock : List Dep} {r : Run Blob Tree} {s : State Blob Tree}
    (h : (run sha256 unpack lock r s).1 = true) :
    (run sha256 unpack lock r s).2.manifest = header :: (r.records lock).map (fun d => rowOf (Dep.read d.line)) ∧
      ∀ d ∈ r.records lock, ∃ e file, r.actualSha sha256 e file = (Dep.read d.line).sha := by
  rw [run] at h ⊢
  split_ifs at h ⊢ with hr hempty
  obtain ⟨hrows, hfiles⟩ := fetchDeps_manifest ((Bool.and_eq_true _ _).mp h).1
  refine ⟨?_, ?_⟩
  · rw [hrows, List.map_map]
    rfl
  · intro d hd
    exact ⟨_, hfiles _ (List.mem_map_of_mem hd)⟩

structure Sound (d : Dep) : Prop where
  name : d.name = lit "wine" ∨ d.name = lit "fex"
  commit : isHexOf 40 d.commit = true
  sha : isHexOf 64 d.sha = true
  texts : ∀ s ∈ [d.ref, d.archive], s ≠ [] ∧ s.head? ≠ some 34 ∧ 10 ∉ s ∧ 13 ∉ s

/-- A ref or an archive that passes through `read` and through `csv` as it is. -/
def Passes (s : Str) : Prop := 9 ∉ s ∧ 0 ∉ s ∧ s.length ≤ fieldLimit

def Whole (d : Dep) : Prop := Passes d.ref ∧ Passes d.archive

lemma not_mem_hex {n : ℕ} {s : Str} (h : isHexOf n s = true) {c : ℕ} (hc : isHex c = false) : c ∉ s := by
  rw [isHexOf, Bool.and_eq_true, List.all_eq_true] at h
  intro hm
  rw [h.2 c hm] at hc
  cases hc

lemma length_hex {n : ℕ} {s : Str} (h : isHexOf n s = true) : s.length = n := by
  rw [isHexOf, Bool.and_eq_true, beq_iff_eq] at h
  exact h.1

lemma plain_hex {n : ℕ} (hn : n ≠ 0) {s : Str} (h : isHexOf n s = true) : Csv.Plain 9 s := by
  have hno {c : ℕ} (hc : isHex c = false) : c ∉ s := not_mem_hex h hc
  refine ⟨?_, ?_, ?_⟩
  · rintro rfl
    exact hn (length_hex h).symm
  · intro hq
    exact hno (c := 34) rfl (List.mem_of_mem_head? hq)
  · intro c hc
    have hhex : isHex c = true := by
      by_contra hne
      exact hno (Bool.not_eq_true _ ▸ hne) hc
    refine ⟨?_, ?_⟩
    · rintro rfl
      cases hhex
    · by_contra hl
      rw [Bool.not_eq_false, Csv.isLineEnd, Bool.or_eq_true, beq_iff_eq, beq_iff_eq] at hl
      rcases hl with rfl | rfl <;> cases hhex

section

variable {d : Dep}

lemma plain_text (hs : Sound d) {s : Str} (hm : s ∈ [d.ref, d.archive]) (h9 : 9 ∉ s) : Csv.Plain 9 s := by
  obtain ⟨hne, hq, h10, h13⟩ := hs.texts s hm
  refine ⟨hne, hq, ?_⟩
  intro c hc
  refine ⟨?_, ?_⟩
  · rintro rfl
    exact h9 hc
  · by_contra hl
    rw [Bool.not_eq_false, Csv.isLineEnd, Bool.or_eq_true, beq_iff_eq, beq_iff_eq] at hl
    rcases hl with rfl | rfl
    · exact h10 hc
    · exact h13 hc

lemma plain_name (hs : Sound d) : Csv.Plain 9 d.name := by
  rcases hs.name with hn | hn
  · rw [hn]
    exact ⟨List.cons_ne_nil _ _, by decide, by decide⟩
  · rw [hn]
    exact ⟨List.cons_ne_nil _ _, by decide, by decide⟩

lemma plain_row (hs : Sound d) (hw : Whole d) : ∀ s ∈ rowOf d, Csv.Plain 9 s := by
  simp only [rowOf, List.forall_mem_cons, List.not_mem_nil, false_imp_iff, implies_true, and_true]
  exact ⟨plain_name hs, plain_text hs (by simp) hw.1.1, plain_hex (by decide) hs.commit,
    plain_hex (by decide) hs.sha,
    plain_text hs (by simp) hw.2.1⟩

lemma row_length (hs : Sound d) (hw : Whole d) : ∀ s ∈ rowOf d, s.length ≤ fieldLimit := by
  have hname : d.name.length ≤ fieldLimit := by
    rcases hs.name with hn | hn <;> rw [hn] <;> decide
  have hcommit : d.commit.length ≤ fieldLimit := by
    rw [length_hex hs.commit]
    decide
  have hsha : d.sha.length ≤ fieldLimit := by
    rw [length_hex hs.sha]
    decide
  simp only [rowOf, List.forall_mem_cons, List.not_mem_nil, false_imp_iff, implies_true, and_true]
  exact ⟨hname, hw.1.2.2, hcommit, hsha, hw.2.2.2⟩

lemma nul_not_mem_name (hs : Sound d) : 0 ∉ d.name := by
  rcases hs.name with hn | hn <;> rw [hn] <;> decide

lemma nul_not_mem_row (hs : Sound d) (hw : Whole d) : ∀ s ∈ rowOf d, 0 ∉ s := by
  simp only [rowOf, List.forall_mem_cons, List.not_mem_nil, false_imp_iff, implies_true, and_true]
  exact ⟨nul_not_mem_name hs, hw.1.2.1, not_mem_hex hs.commit rfl, not_mem_hex hs.sha rfl, hw.2.2.1⟩

lemma dep_plain (hs : Sound d) (hw : Whole d) : d.Plain := by
  have hplain := plain_row hs hw
  have hne (s : Str) (hm : s ∈ rowOf d) : s ≠ [] ∧ 9 ∉ s ∧ 0 ∉ s :=
    ⟨(hplain s hm).ne, fun h => ((hplain s hm).clean 9 h).1 rfl, nul_not_mem_row hs hw s hm⟩
  refine ⟨?_, ?_, ?_⟩
  · intro s hm
    apply hne s
    simp only [rowOf, List.mem_cons, List.not_mem_nil, or_false] at hm ⊢
    tauto
  · rw [Dep.key, List.mem_append, not_or]
    refine ⟨?_, ?_⟩
    · rcases hs.name with hn | hn <;> rw [hn] <;> decide
    · rw [List.mem_cons, not_or]
      exact ⟨by decide, not_mem_hex hs.commit rfl⟩
  · intro hkey
    have hlen := congrArg List.length hkey
    rw [Dep.key, List.length_append, List.length_cons, length_hex hs.commit] at hlen
    have hfile : (lit "fetched-manifest.tsv").length = 20 := by decide
    omega

lemma read_whole (hs : Sound d) (hw : Whole d) : Dep.read d.line = d := read_line (dep_plain hs hw)

end

lemma readRow_ok {d : Dep} (hs : Sound d) {line : ℕ} {found : List Dep}
    (hn : ¬ (found.map (·.name)).contains d.name = true) : readRow repr line found (rowOf d) = .ok d := by
  have hr := (hs.texts d.ref (by simp)).1
  have ha := (hs.texts d.archive (by simp)).1
  rw [rowOf, readRow, if_neg (not_not.mpr hs.name), if_neg hn, if_neg (not_or.mpr ⟨hr, ha⟩), hs.commit, hs.sha]
  rfl

lemma readRows_ok {ds found : List Dep} (hs : ∀ d ∈ ds, Sound d)
    (hn : ((found ++ ds).map (·.name)).Nodup) (line : ℕ) :
    readRows repr line found (ds.map rowOf) = .ok (found ++ ds) := by
  induction ds generalizing found line with
  | nil => simp [readRows]
  | cons d ds ih =>
    obtain ⟨hd, hs⟩ := List.forall_mem_cons.mp hs
    have hnot : ¬ (found.map (·.name)).contains d.name = true := by
      rw [List.map_append, List.map_cons] at hn
      exact not_contains hn
    have hn' : ((found ++ [d] ++ ds).map (·.name)).Nodup := by simpa using hn
    rw [List.map_cons, readRows, readRow_ok hd hnot, Except.bind, ih hs hn']
    simp

lemma of_readRow {line : ℕ} {found : List Dep} {row : List Str} {d : Dep}
    (h : readRow repr line found row = .ok d) :
    row = rowOf d ∧ ¬ (found.map (·.name)).contains d.name = true := by
  rcases row with _ | ⟨name, _ | ⟨ref, _ | ⟨commit, _ | ⟨sha, _ | ⟨archive, _ | ⟨extra, row⟩⟩⟩⟩⟩⟩
  · cases h
  · cases h
  · cases h
  · cases h
  · cases h
  · rw [readRow] at h
    split_ifs at h with hname hdup
    obtain rfl := Except.ok.inj h
    exact ⟨rfl, hdup⟩
  · cases h

lemma of_readRows {line : ℕ} {found fetched : List Dep} {rows : List (List Str)}
    (h : readRows repr line found rows = .ok fetched) (hn : (found.map (·.name)).Nodup) :
    ∃ ds, fetched = found ++ ds ∧ rows = ds.map rowOf ∧ (fetched.map (·.name)).Nodup := by
  induction rows generalizing line found with
  | nil =>
    obtain rfl := Except.ok.inj h
    exact ⟨[], by simp, rfl, hn⟩
  | cons row rows ih =>
    obtain ⟨d, hd, hrest⟩ := of_bind_eq_ok h
    obtain ⟨rfl, hnot⟩ := of_readRow hd
    have hn' : ((found ++ [d]).map (·.name)).Nodup := by
      rw [List.map_append, List.map_singleton, List.nodup_append]
      refine ⟨hn, by simp, ?_⟩
      rintro name hm _ hm' rfl
      rw [List.mem_singleton] at hm'
      exact hnot (List.contains_iff_mem.mpr (hm' ▸ hm))
    obtain ⟨ds, rfl, rfl, hnodup⟩ := ih hrest hn'
    exact ⟨d :: ds, by simp, rfl, hnodup⟩

structure Same (expected actual : Dep) : Prop where
  ref : actual.ref = expected.ref
  commit : actual.commit = expected.commit
  sha : actual.sha = expected.sha
  archive : actual.archive = expected.archive

lemma compareFields_ok {name : Str} {expected actual : Dep} {u : Unit} :
    compareFields name expected actual comparedFields = .ok u ↔ Same expected actual := by
  simp only [comparedFields, compareFields]
  constructor
  · intro h
    split_ifs at h with hr hc hs ha
    exact ⟨hr, hc, hs, ha⟩
  · rintro ⟨hr, hc, hs, ha⟩
    rw [if_pos hr, if_pos hc, if_pos hs, if_pos ha]

lemma of_compareNamed {locked fetched : List Dep} {name : Str} {u : Unit}
    (h : compareNamed locked fetched name = .ok u) :
    ∃ expected actual, locked.find? (·.name == name) = some expected ∧
      fetched.find? (·.name == name) = some actual ∧
      Same expected actual := by
  rw [compareNamed] at h
  cases he : locked.find? (·.name == name) with
  | none =>
    rw [he] at h
    cases h
  | some expected =>
    cases ha : fetched.find? (·.name == name) with
    | none =>
      rw [he, ha] at h
      cases h
    | some actual =>
      rw [he, ha] at h
      exact ⟨expected, actual, rfl, rfl, compareFields_ok.mp h⟩

lemma areWineAndFex_iff {names : List Str} (hn : names.Nodup) :
    areWineAndFex names = true ↔ names.Perm [lit "wine", lit "fex"] := by
  have hpair : [lit "wine", lit "fex"].Nodup := by decide
  rw [List.perm_ext_iff_of_nodup hn hpair, areWineAndFex, Bool.and_eq_true, Bool.and_eq_true, List.all_eq_true,
    List.contains_iff_mem, List.contains_iff_mem]
  constructor
  · rintro ⟨⟨hall, hwine⟩, hfex⟩ name
    constructor
    · intro hm
      simpa using hall name hm
    · intro hm
      simp only [List.mem_cons, List.not_mem_nil, or_false] at hm
      rcases hm with rfl | rfl
      · exact hwine
      · exact hfex
  · intro h
    refine ⟨⟨?_, (h _).mpr (by simp)⟩, (h _).mpr (by simp)⟩
    intro name hm
    simpa using (h name).mp hm

lemma find_of_mem {ds : List Dep} (hn : (ds.map (·.name)).Nodup) {d : Dep} (hd : d ∈ ds) :
    ds.find? (·.name == d.name) = some d := by
  induction ds with
  | nil => cases hd
  | cons e ds ih =>
    rw [List.map_cons, List.nodup_cons] at hn
    rcases List.mem_cons.mp hd with rfl | hd
    · simp
    · have hne : (e.name == d.name) = false := by
        rw [beq_eq_false_iff_ne]
        intro he
        exact hn.1 (he ▸ List.mem_map_of_mem hd)
      rw [List.find?_cons, hne]
      exact ih hn.2 hd

lemma compareNamed_self {ds : List Dep} (hn : (ds.map (·.name)).Nodup) {name : Str} (hm : name ∈ ds.map (·.name)) :
    compareNamed ds ds name = .ok () := by
  obtain ⟨d, hd, rfl⟩ := List.mem_map.mp hm
  rw [compareNamed, find_of_mem hn hd]
  exact compareFields_ok.mpr ⟨rfl, rfl, rfl, rfl⟩

structure Accepted (manifest lock : Str) (fetched : List Dep) : Prop where
  rows : Csv.rows 9 fieldLimit manifest = some (header :: fetched.map rowOf)
  names : (fetched.map (·.name)).Perm [lit "wine", lit "fex"]
  same : ∃ locked, applyReader lock = .ok locked ∧ ∀ name ∈ [lit "wine", lit "fex"], ∃ expected actual,
    locked.find? (·.name == name) = some expected ∧ fetched.find? (·.name == name) = some actual ∧
      Same expected actual

lemma of_crossCheck {manifest lock : Str} {fetched : List Dep} (h : crossCheck repr manifest lock = .ok fetched) :
    Accepted manifest lock fetched := by
  obtain ⟨rows, hrows, h⟩ := of_bind_eq_ok h
  obtain ⟨fetched', hread, h⟩ := of_bind_eq_ok h
  obtain ⟨_, hnames, h⟩ := of_bind_eq_ok h
  obtain ⟨locked, hlocked, h⟩ := of_bind_eq_ok h
  obtain ⟨_, hwine, h⟩ := of_bind_eq_ok h
  obtain ⟨_, hfex, h⟩ := of_bind_eq_ok h
  obtain rfl := Except.ok.inj h
  have hrows := of_orError_eq_ok hrows
  cases rows with
  | nil => cases hread
  | cons head rows =>
    rw [readManifest] at hread
    split_ifs at hread with hhead
    obtain ⟨ds, rfl, rfl, hnodup⟩ := of_readRows hread List.nodup_nil
    refine ⟨hhead ▸ hrows, (areWineAndFex_iff hnodup).mp (of_check hnames), locked, hlocked, ?_⟩
    simp only [List.forall_mem_cons, List.not_mem_nil, false_imp_iff, implies_true, and_true]
    exact ⟨of_compareNamed hwine, of_compareNamed hfex⟩

lemma crossCheck_ok {manifest lock : Str} {ds : List Dep}
    (hrows : Csv.rows 9 fieldLimit manifest = some (header :: ds.map rowOf))
    (hs : ∀ d ∈ ds, Sound d) (hn : (ds.map (·.name)).Nodup) (hnames : areWineAndFex (ds.map (·.name)) = true)
    (hlock : applyReader lock = .ok ds) : crossCheck repr manifest lock = .ok ds := by
  have hread : readManifest repr (header :: ds.map rowOf) = .ok ds := by
    rw [readManifest, if_pos rfl, readRows_ok hs (by simpa using hn), List.nil_append]
  have hperm := (areWineAndFex_iff hn).mp hnames
  have hwine := compareNamed_self hn (hperm.mem_iff.mpr (show lit "wine" ∈ [lit "wine", lit "fex"] by simp))
  have hfex := compareNamed_self hn (hperm.mem_iff.mpr (show lit "fex" ∈ [lit "wine", lit "fex"] by simp))
  rw [crossCheck, hrows, hlock]
  simp [bind, Except.bind, pure, Except.pure, orError, check, hread, hnames, hwine, hfex]

lemma plain_header : ∀ s ∈ header, Csv.Plain 9 s := by
  have hplain (s : Str) (hs : s ∈ header) :
      s ≠ [] ∧ s.head? ≠ some 34 ∧ ∀ c ∈ s, c ≠ 9 ∧ Csv.isLineEnd c = false := by
    revert s
    decide
  intro s hs
  obtain ⟨hne, hq, hc⟩ := hplain s hs
  exact ⟨hne, hq, hc⟩

lemma rows_whole {ds : List Dep} (hs : ∀ d ∈ ds, Sound d) (hw : ∀ d ∈ ds, Whole d) :
    Csv.rows 9 fieldLimit (manifestText (header :: ds.map rowOf)) = some (header :: ds.map rowOf) := by
  have hrows : Csv.rowsFrom 9 .startRecord (manifestText (header :: ds.map rowOf)) = header :: ds.map rowOf := by
    apply Csv.rowsFrom_lines (by decide) (by decide)
    rw [List.forall_mem_cons, List.forall_mem_map]
    exact ⟨⟨List.cons_ne_nil _ _, plain_header⟩, fun d hd => ⟨List.cons_ne_nil _ _, plain_row (hs d hd) (hw d hd)⟩⟩
  rw [Csv.rows, hrows, if_pos]
  rw [List.forall_mem_cons, List.forall_mem_map]
  exact ⟨by decide, fun d hd => row_length (hs d hd) (hw d hd)⟩

lemma universalNewlines_not_mem (s : Str) : 13 ∉ universalNewlines s := by
  fun_induction universalNewlines s with
  | case1 s ih => simpa using ih
  | case2 s _ ih => simpa using ih
  | case3 c s _ hne ih =>
    simp only [List.mem_cons, not_or]
    exact ⟨fun h => hne h.symm, ih⟩
  | case4 => simp

section

variable {source : Str} {lock : Lock}

lemma fetchValue_text (key : Str) {body text : Str} (hb : body <:+: text) (h13 : 13 ∉ text) :
    (fetchValue key body).head? ≠ some 34 ∧ 10 ∉ fetchValue key body ∧ 13 ∉ fetchValue key body := by
  have hbare := stripOf_bare isDoubleQuote ((lastOf key (findPairs trimmedPattern body)).getD [])
  have hsub {c : ℕ} (hc : c ∈ fetchValue key body) : c ∈ (lastOf key (findPairs trimmedPattern body)).getD [] :=
    (List.dropWhile_suffix isDoubleQuote).mem ((List.rdropWhile_prefix isDoubleQuote _).mem hc)
  have hvalue : 10 ∉ (lastOf key (findPairs trimmedPattern body)).getD [] ∧
      13 ∉ (lastOf key (findPairs trimmedPattern body)).getD [] := by
    cases hl : lastOf key (findPairs trimmedPattern body) with
    | none => exact ⟨List.not_mem_nil, List.not_mem_nil⟩
    | some value =>
      obtain ⟨p, hp, hv⟩ := List.mem_filterMap.mp (List.mem_of_getLast? hl)
      obtain ⟨-, hv⟩ := Option.ite_none_right_eq_some.mp hv
      obtain rfl := Option.some.inj hv
      exact ⟨findPairs_trimmed_line hp, fun h => h13 (hb.mem ((findPairs_isInfix hp).2.mem h))⟩
  refine ⟨?_, fun h => hvalue.1 (hsub h), fun h => hvalue.2 (hsub h)⟩
  intro h
  cases hbare.head 34 h

lemma hex_entry {d : Dict} {key : Str} {n : ℕ} {name : Str} (hne : (key == lit "name") = false)
    (h : hasValue d key (isHexOf n) = true) : isHexOf n (entry ((lit "name", name) :: d) key) = true := by
  obtain ⟨v, hv, hex⟩ := (Option.any_eq_true _ _).mp h
  have hlookup : List.lookup key ((lit "name", name) :: d) = some v := by rw [List.lookup_cons, hne, hv]
  rw [entry, hlookup]
  exact hex

lemma sound_of_agree (h : parseLock (universalNewlines source) = .ok lock)
    (ha : ReadersAgree (universalNewlines source) lock) {d : Dict} (hd : d ∈ lock.dependencies) :
    Sound (depOf d) := by
  have hp := parsedLock h
  have hprinted := ((fetchReader_eq_iff hp).mp ha.fetch).2
  obtain ⟨block', hb', heq⟩ :
      ∃ block' ∈ unendedBlocks (universalNewlines source), printedDep block' = depOf d := by
    rw [← List.mem_map, hprinted]
    exact List.mem_map_of_mem hd
  obtain ⟨-, hvalues⟩ := depWith_inj.mp heq
  obtain ⟨block, -, hparsed⟩ := exists_of_forall₂ hp.blocks.flip hd
  obtain ⟨d', rfl, -, hcommit, hsha⟩ := parseDependency_filled hparsed.dependency
  have htext {key : Str} (hk : key ∈ printedFields) : entry ((lit "name", scalar block.1) :: d') key ≠ [] ∧
      (entry ((lit "name", scalar block.1) :: d') key).head? ≠ some 34 ∧
      10 ∉ entry ((lit "name", scalar block.1) :: d') key ∧
        13 ∉ entry ((lit "name", scalar block.1) :: d') key := by
    obtain ⟨raw, -, hentry, hne⟩ := parsed_field hparsed (printedFields_subset hk)
    refine ⟨hentry ▸ hne, ?_⟩
    rw [← hvalues key hk]
    exact fetchValue_text key (findPairs_isInfix hb').2 (universalNewlines_not_mem source)
  refine ⟨hparsed.name, hex_entry (by decide) hcommit, hex_entry (by decide) hsha, ?_⟩
  simp only [List.forall_mem_cons, List.not_mem_nil, false_imp_iff, implies_true, and_true]
  exact ⟨htext (by decide), htext (by decide)⟩

end

lemma word_clean {p : ℕ → Prop} {s : Str} (h : ∀ c ∈ s, p c) :
    (∀ c ∈ (word s).1, p c) ∧ ∀ c ∈ (word s).2, p c := by
  have hdrop : ∀ c ∈ s.dropWhile (· == 9), p c := fun c hc => h c ((List.dropWhile_suffix _).mem hc)
  exact ⟨fun c hc => hdrop c ((List.takeWhile_prefix _).mem hc),
    fun c hc => hdrop c ((List.dropWhile_suffix _).mem hc)⟩

lemma word_tabless (s : Str) : (word s).1.count 9 = 0 := by
  rw [List.count_eq_zero]
  intro hm
  have h := List.mem_takeWhile_imp hm
  cases h

lemma read_clean {p : ℕ → Prop} {line : Str} (h : ∀ c ∈ line, p c) :
    ∀ f ∈ rowOf (Dep.read line), ∀ c ∈ f, p c := by
  obtain ⟨hname, h1⟩ := word_clean h
  obtain ⟨href, h2⟩ := word_clean h1
  obtain ⟨hcommit, h3⟩ := word_clean h2
  obtain ⟨harchive, h4⟩ := word_clean h3
  have hsha : ∀ c ∈ (Dep.read line).sha, p c := fun c hc =>
    h4 c ((List.dropWhile_suffix _).mem ((List.rdropWhile_prefix _ _).mem hc))
  simp only [rowOf, List.forall_mem_cons, List.not_mem_nil, false_imp_iff, implies_true, and_true]
  exact ⟨hname, href, hcommit, hsha, harchive⟩

lemma line_clean (d : Dep) : ∀ c ∈ d.line, c ≠ 0 := fun _ hc => bne_iff_ne.mp (List.mem_filter.mp hc).2

lemma rowCount_read {line : Str} (hsha : 9 ∉ (Dep.read line).sha) :
    Csv.rowCount 9 (rowOf (Dep.read line)) = 4 := by
  have hcount : (Dep.read line).sha.count 9 = 0 := List.count_eq_zero.mpr hsha
  simp only [Csv.rowCount, Csv.countFields, rowOf, List.map_cons, List.map_nil, List.sum_cons, List.sum_nil,
    List.length_cons, List.length_nil, hcount]
  simp [Dep.read, word_tabless]

lemma rowsCount_of_forall {n : ℕ} {rows : List (List Str)} (h : ∀ row ∈ rows, Csv.rowCount 9 row = n) :
    Csv.rowsCount 9 rows = n * rows.length := by
  induction rows with
  | nil => rfl
  | cons row rows ih =>
    obtain ⟨hrow, h⟩ := List.forall_mem_cons.mp h
    have hcons : Csv.rowsCount 9 (row :: rows) = Csv.rowCount 9 row + Csv.rowsCount 9 rows := rfl
    rw [hcons, hrow, ih h, List.length_cons, Nat.mul_succ, Nat.add_comm]

lemma rowsCount_cons (d : Dep) (ds : List Dep) : Csv.rowsCount 9 ((d :: ds).map rowOf) =
    4 + Csv.countFields 9 (rowOf d) + Csv.rowsCount 9 (ds.map rowOf) := rfl

lemma le_rowsCount (ds : List Dep) : 4 * ds.length ≤ Csv.rowsCount 9 (ds.map rowOf) := by
  induction ds with
  | nil => exact Nat.le_refl 0
  | cons d ds ih =>
    rw [rowsCount_cons, List.length_cons]
    omega

lemma tabless_of_count {ds : List Dep} (h : Csv.rowsCount 9 (ds.map rowOf) = 4 * ds.length) :
    ∀ d ∈ ds, ∀ f ∈ rowOf d, 9 ∉ f := by
  induction ds with
  | nil => simp
  | cons d ds ih =>
    have hds := le_rowsCount ds
    rw [rowsCount_cons, List.length_cons] at h
    refine List.forall_mem_cons.mpr ⟨?_, ih (by omega)⟩
    intro f hf hm
    have hzero : Csv.countFields 9 (rowOf d) = 0 := by omega
    exact List.count_eq_zero.mp (List.sum_eq_zero_iff_forall_eq_nat.mp hzero _ (List.mem_map_of_mem hf)) hm

def written (ds : List Dep) : Str :=
  manifestText (header :: ds.map fun d => rowOf (Dep.read d.line))

lemma written_clean (ds : List Dep) : ∀ c ∈ written ds, c ≠ 0 := by
  intro c hc
  obtain ⟨row, hrow, hc⟩ := List.mem_flatMap.mp hc
  refine Csv.line_within (P := (· ≠ 0)) (by decide) (by decide) ?_ c hc
  rcases List.mem_cons.mp hrow with rfl | hrow
  · rw [Csv.Within]
    decide
  · obtain ⟨d, -, rfl⟩ := List.mem_map.mp hrow
    exact read_clean (line_clean d)

lemma written_count {ds : List Dep} (h : ∀ d ∈ ds, 9 ∉ (Dep.read d.line).sha) :
    (written ds).count 9 = 4 * (ds.length + 1) := by
  have hrows : ∀ row ∈ header :: ds.map (fun d => rowOf (Dep.read d.line)), Csv.rowCount 9 row = 4 := by
    rw [List.forall_mem_cons, List.forall_mem_map]
    exact ⟨by decide, fun d hd => rowCount_read (h d hd)⟩
  rw [written, manifestText, Csv.lines_count (by decide), rowsCount_of_forall hrows, List.length_cons,
    List.length_map]

section

variable {ws fetched : List Dep}

lemma count_of_written (h : Csv.rows 9 fieldLimit (written ws) = some (header :: fetched.map rowOf))
    (hsha : ∀ d ∈ ws, 9 ∉ (Dep.read d.line).sha) : Csv.rowsCount 9 (fetched.map rowOf) = 4 * ws.length := by
  obtain ⟨-, hrows⟩ := Option.ite_none_right_eq_some.mp h
  have hcount := Csv.rowsFrom_count (d := 9) (by decide) (by decide) (by decide) .startRecord (written ws)
  have hrows : Csv.rowsFrom 9 .startRecord (written ws) = header :: fetched.map rowOf := Option.some.inj hrows
  have hsum : Csv.rowsCount 9 (header :: fetched.map rowOf) = 4 + Csv.rowsCount 9 (fetched.map rowOf) := rfl
  have hstart : Csv.State.startRecord.count 9 = 0 := rfl
  rw [hrows, hsum, written_count hsha, hstart] at hcount
  omega

lemma passes_of_written (h : Csv.rows 9 fieldLimit (written ws) = some (header :: fetched.map rowOf))
    (hsha : ∀ d ∈ ws, 9 ∉ (Dep.read d.line).sha) (hlen : fetched.length = ws.length) :
    ∀ d ∈ fetched, ∀ f ∈ rowOf d, Passes f := by
  have htabless := tabless_of_count (hlen ▸ count_of_written h hsha)
  obtain ⟨hlimit, hrows⟩ := Option.ite_none_right_eq_some.mp h
  have hrows : Csv.rowsFrom 9 .startRecord (written ws) = header :: fetched.map rowOf := Option.some.inj hrows
  have hclean := Csv.rowsFrom_within (d := 9) (s := .startRecord) trivial (written_clean ws)
  rw [hrows] at hlimit hclean
  intro d hd f hf
  have hrow : rowOf d ∈ header :: fetched.map rowOf := List.mem_cons_of_mem _ (List.mem_map_of_mem hd)
  exact ⟨htabless d hd f hf, fun h0 => hclean _ hrow f hf 0 h0 rfl, hlimit _ hrow f hf⟩

lemma crossCheck_written_iff {ds : List Dep} {lock : Str} (hs : ∀ d ∈ ds, Sound d)
    (hperm : (ds.map (·.name)).Perm [lit "wine", lit "fex"]) (hlock : applyReader lock = .ok ds) (hpre : ws <+: ds)
    (hsha : ∀ d ∈ ws, 9 ∉ (Dep.read d.line).sha) (fetched : List Dep) :
    crossCheck repr (written ws) lock = .ok fetched ↔ fetched = ds ∧ ws = ds ∧ ∀ d ∈ ds, Whole d := by
  have hn : (ds.map (·.name)).Nodup := hperm.nodup_iff.mpr (by decide)
  have hok (hw : ∀ d ∈ ds, Whole d) : crossCheck repr (written ds) lock = .ok ds := by
    have hread : (ds.map fun d => rowOf (Dep.read d.line)) = ds.map rowOf := by
      apply List.map_congr_left
      intro d hd
      rw [read_whole (hs d hd) (hw d hd)]
    apply crossCheck_ok _ hs hn ((areWineAndFex_iff hn).mpr hperm) hlock
    rw [written, hread]
    exact rows_whole hs hw
  constructor
  · intro h
    obtain ⟨hrows, hnames, locked, hlocked, hsame⟩ := of_crossCheck h
    obtain rfl := Except.ok.inj (hlock.symm.trans hlocked)
    have hlen : fetched.length = ds.length := by
      have heq := (hnames.trans hperm.symm).length_eq
      rwa [List.length_map, List.length_map] at heq
    -- a row stands for four tabs at least, so a part of the records cannot be read as all of them
    have hcount := count_of_written hrows hsha
    have hfew := le_rowsCount fetched
    have hshort := hpre.length_le
    have hall : ws = ds := hpre.eq_of_length (by omega)
    rw [hall] at hrows hsha h
    have hpasses := passes_of_written hrows hsha hlen
    have hw : ∀ d ∈ ds, Whole d := by
      intro d hd
      obtain ⟨expected, actual, he, ha, same⟩ := hsame d.name (hperm.mem_iff.mp (List.mem_map_of_mem hd))
      obtain rfl := Option.some.inj ((find_of_mem hn hd).symm.trans he)
      have hactual := hpasses actual (List.mem_of_find?_eq_some ha)
      refine ⟨same.ref ▸ hactual actual.ref ?_, same.archive ▸ hactual actual.archive ?_⟩ <;> simp [rowOf]
    exact ⟨Except.ok.inj (h.symm.trans (hok hw)), hall, hw⟩
  · rintro ⟨rfl, rfl, hw⟩
    exact hok hw

end

lemma actualSha_tabless (hsha : ∀ file, isHexOf 64 (sha256 file) = true) (r : Run Blob Tree) (d : Dep)
    (file : Blob) :
    9 ∉ r.actualSha sha256 d file := by
  have hhex : 9 ∉ sha256 file := not_mem_hex (hsha file) rfl
  rw [Run.actualSha]
  split_ifs
  · rw [List.mem_cons, not_or]
    exact ⟨by decide, hhex⟩
  · exact hhex

lemma isPrefix_records (r : Run Blob Tree) (lock : List Dep) : r.records lock <+: lock := by
  rw [Run.records]
  cases r.reader with
  | none => exact List.prefix_refl _
  | some k => exact List.take_prefix _ _

/-- Where all readers of the lock agree, what `fetch-upstream.sh` writes is accepted by `apply-patches.sh` exactly
when the reader of the lock was not stopped before its last record, and the refs and the archives pass through the
line of fields and the table unchanged. -/
theorem fetched_manifest_accepted_iff {source : Str} {lock : Lock}
    (h : parseLock (universalNewlines source) = .ok lock)
    (ha : ReadersAgree (universalNewlines source) lock) (hsha : ∀ file, isHexOf 64 (sha256 file) = true)
    {r : Run Blob Tree} {s s' : State Blob Tree}
    (hr : run sha256 unpack (fetchReader (universalNewlines source)).printed r s = (true, s'))
    (fetched : List Dep) :
    crossCheck repr (manifestText s'.manifest) (universalNewlines source) = .ok fetched ↔
      fetched = lock.dependencies.map depOf ∧
        r.records (lock.dependencies.map depOf) = lock.dependencies.map depOf ∧
        ∀ d ∈ lock.dependencies, Whole (depOf d) := by
  have hn : ((lock.dependencies.map depOf).map (·.name)).Nodup := by
    rw [List.map_map]
    exact (locked_of_parseLock h).distinct
  have hperm := (areWineAndFex_iff hn).mp (parsedLock h).pinned
  have hs : ∀ d ∈ lock.dependencies.map depOf, Sound d :=
    List.forall_mem_map.mpr fun d hd => sound_of_agree h ha hd
  obtain ⟨hmanifest, hfiles⟩ := run_manifest (congrArg Prod.fst hr)
  rw [hr, ha.fetch] at hmanifest
  rw [ha.fetch] at hfiles
  have hshas : ∀ d ∈ r.records (lock.dependencies.map depOf), 9 ∉ (Dep.read d.line).sha := by
    intro d hd
    obtain ⟨e, file, hfile⟩ := hfiles d hd
    exact hfile ▸ actualSha_tabless hsha r e file
  have hwritten : manifestText s'.manifest = written (r.records (lock.dependencies.map depOf)) := by
    rw [hmanifest]
    rfl
  rw [hwritten, crossCheck_written_iff hs hperm ha.apply (isPrefix_records _ _) hshas, List.forall_mem_map]

def sampleDigest (file : Str) : Str := if isHexOf 64 file then file else List.replicate 64 48

def sampleRun : Run Str Unit :=
  ⟨true, none, false, lit "out/upstream", false, fun d => ⟨.done d.sha, true, .done, true⟩, true⟩

def readersAgree (text : Str) : Bool :=
  (parseLock text).toOption.any fun lock =>
    fetchReader text == ⟨lock.dependencies.map depOf, none⟩ &&
      (applyReader text).toOption == some (lock.dependencies.map depOf) &&
      (containerReader text).toOption.any fun c =>
        c.archive == entry lock.llvmMingw (lit "archive") && c.sha == entry lock.llvmMingw (lit "archive_sha256")

lemma eq_ok_of_toOption {ε α : Type} {x : Except ε α} {a : α} (h : x.toOption = some a) : x = .ok a := by
  cases x with
  | error e => cases h
  | ok b =>
    obtain rfl := Option.some.inj h
    rfl

lemma of_readersAgree {text : Str} (h : readersAgree text = true) :
    ∃ lock, parseLock text = .ok lock ∧ ReadersAgree text lock := by
  obtain ⟨lock, hl, h⟩ := (Option.any_eq_true _ _).mp h
  rw [Bool.and_eq_true, Bool.and_eq_true, beq_iff_eq, beq_iff_eq] at h
  obtain ⟨⟨hfetch, happly⟩, hcontainer⟩ := h
  obtain ⟨⟨base, archive, sha⟩, hc, h⟩ := (Option.any_eq_true _ _).mp hcontainer
  rw [Bool.and_eq_true, beq_iff_eq, beq_iff_eq] at h
  obtain ⟨rfl, rfl⟩ := h
  exact ⟨lock, eq_ok_of_toOption hl, hfetch, eq_ok_of_toOption happly, base, eq_ok_of_toOption hc⟩

lemma exists_of_fst {α : Type} {p : Bool × α} (h : p.1 = true) : ∃ a, p = (true, a) := ⟨p.2, Prod.ext h rfl⟩

lemma sampleDigest_hex (file : Str) : isHexOf 64 (sampleDigest file) = true := by
  rw [sampleDigest]
  split_ifs with h
  · exact h
  · decide

set_option maxRecDepth 10000 in
lemma sample_agrees : universalNewlines sampleText = sampleText ∧ readersAgree sampleText = true ∧
    (run sampleDigest (fun _ => ()) (fetchReader sampleText).printed sampleRun .empty).1 = true := by
  have hsample : 13 ∉ sampleText ∧ readersAgree sampleText = true ∧
      (run sampleDigest (fun _ => ()) (fetchReader sampleText).printed sampleRun .empty).1 = true := by
    generalize ht : sampleText = text
    rw [sampleText, lit_ofList] at ht
    subst ht
    decide
  exact ⟨Manifest.universalNewlines_of_not_mem hsample.1, hsample.2⟩

theorem fetched_manifest_accepted_iff_sample : ∃ lock s',
    parseLock (universalNewlines sampleText) = .ok lock ∧
      run sampleDigest (fun _ => ()) (fetchReader (universalNewlines sampleText)).printed sampleRun .empty =
        (true, s') ∧
      ∀ fetched, crossCheck (fun name => 39 :: name ++ [39]) (manifestText s'.manifest)
          (universalNewlines sampleText) = .ok fetched ↔
        fetched = lock.dependencies.map depOf ∧
          sampleRun.records (lock.dependencies.map depOf) = lock.dependencies.map depOf ∧
          ∀ d ∈ lock.dependencies, Whole (depOf d) := by
  obtain ⟨hlines, hagree, hrun⟩ := sample_agrees
  rw [← hlines] at hagree hrun
  obtain ⟨lock, hlock, hreaders⟩ := of_readersAgree hagree
  obtain ⟨s', hr⟩ := exists_of_fst hrun
  exact ⟨lock, s', hlock, hr, fetched_manifest_accepted_iff hlock hreaders sampleDigest_hex hr⟩

end Graft64.Runtime.FetchedManifest
