import Graft64.Runtime.LockQuotes
import Graft64.Runtime.LockValues
import Graft64.Runtime.TrimmedFields

/-! Where the readers of the lock extract what `parse_lock` returns. -/

namespace Graft64.Runtime.DepsLock

open Graft64.Library Regex Results

/-- `^  - name:\s*([^\n]+)\n` -/
def nameHeader : Regex :=
  .seqs [.startOfLine, .text (lit "  - name:"), .many isSpace, .group (.plus inLine), .char isNewline]

/-- `^  - name:` -/
def nameStart : Regex := .seq .startOfLine (.text (lit "  - name:"))

/-- `^  - name:|\Z` -/
def nameOrEnd : Regex := .alt nameStart .endOfText

/-- `^  - name:|^notes:|\Z` -/
def nameNotesOrEnd : Regex := .alt nameStart (.alt (.seq .startOfLine (.text (lit "notes:"))) .endOfText)

lemma findAll_of_matchAt {r r' : Regex} (h : ∀ c, r.matchAt c = r'.matchAt c) (text : Str) :
    r.findAll text = r'.findAll text := by
  have hsearch (b : Bool) (s : Str) : searchFrom r b s = searchFrom r' b s := by
    induction s generalizing b with
    | nil => exact h _
    | cons c s ih => rw [searchFrom, searchFrom, h, ih]
  have hall (n : ℕ) (c : Cursor) : findAllFrom r n c = findAllFrom r' n c := by
    induction n generalizing c with
    | zero => rfl
    | succ n ih => simp only [findAllFrom, hsearch, ih]
  exact hall _ _

lemma stopsAt_iff {stop : Regex} {c : Cursor} : stopsAt stop c = true ↔ ∃ d, stop.Accepts c d :=
  matchAt_isSome stop c

lemma nameOrEnd_end (b : Bool) : stopsAt nameOrEnd ⟨b, []⟩ = true := stopsAt_iff.mpr ⟨⟨b, []⟩, .inr ⟨rfl, rfl⟩⟩

lemma nameNotesOrEnd_of_nameOrEnd (c : Cursor) (h : stopsAt nameOrEnd c = true) :
    stopsAt nameNotesOrEnd c = true := by
  obtain ⟨d, h | h⟩ := stopsAt_iff.mp h
  · exact stopsAt_iff.mpr ⟨d, .inl h⟩
  · exact stopsAt_iff.mpr ⟨d, .inr (.inr h)⟩

lemma nameOrEnd_of_match (c : Cursor) (h : stopsAt nameOrEnd c = false) :
    (Regex.seq nameHeader (blockUpTo nameNotesOrEnd)).matchAt c = none := by
  by_contra hne
  obtain ⟨d, e, ⟨s, hs, t, ht, -⟩, -⟩ := (matchAt_isSome _ c).mp (Option.isSome_iff_ne_none.mpr hne)
  have hstop : stopsAt nameOrEnd c = true := stopsAt_iff.mpr ⟨t, .inl ⟨s, hs, ht⟩⟩
  rw [h] at hstop
  cases hstop

def LongerBlock (block block' : Str × Str) : Prop := block.1 = block'.1 ∧ block.2 <+: block'.2

lemma findPairs_longer {r r' : Regex} {text : Str} (h : List.Forall₂ Longer (r.findAll text) (r'.findAll text)) :
    List.Forall₂ LongerBlock (findPairs r text) (findPairs r' text) := by
  rw [findPairs, findPairs]
  generalize r.findAll text = as, r'.findAll text = bs at h ⊢
  induction h with
  | nil => exact .nil
  | cons hab _ ih =>
    obtain ⟨front, w, w', rfl, rfl, hw⟩ := hab
    rcases front with _ | ⟨a, _ | ⟨b, _ | ⟨c, front⟩⟩⟩
    · exact ih
    · exact .cons ⟨rfl, hw⟩ ih
    · exact ih
    · exact ih

theorem unendedBlocks_longer (text : Str) :
    List.Forall₂ LongerBlock (dependencyBlocks text) (unendedBlocks text) := by
  have hparse : dependencyPattern.findAll text =
      (Regex.seq nameHeader (blockUpTo nameNotesOrEnd)).findAll text := by
    apply findAll_of_matchAt
    exact fun _ => rfl
  have hfetch : unendedPattern.findAll text = (Regex.seq nameHeader (blockUpTo nameOrEnd)).findAll text := by
    apply findAll_of_matchAt
    exact fun _ => rfl
  apply findPairs_longer
  rw [hparse, hfetch]
  exact findAll_longer nameOrEnd_end nameNotesOrEnd_of_nameOrEnd nameOrEnd_of_match text

def printedFields : List Str := [lit "ref", lit "commit", lit "archive", lit "archive_sha256"]

def fieldValue (key body : Str) : Str :=
  scalar (scalar ((valuesOf key (findPairs (fieldPattern 4) body)).headD []))

/-- A field of a block and of the block that goes on after the notes: it is not without a value at the end of the
block, its quotes are even, and its last line before the next block says the same, in double quotes at most. -/
structure UniformField (key body body' : Str) : Prop where
  ends : ¬ EndsInKey key body
  quotes : ∀ raw ∈ valuesOf key (findPairs (fieldPattern 4) body), EvenQuotes (strip raw)
  last : ∃ value ∈ lastOf key (findPairs trimmedPattern body'), OnlyDoubleQuoted (fieldValue key body) value

structure UniformBlock (block block' : Str × Str) : Prop where
  name : ∀ c ∈ (strip block.1).head?, isQuote c = false
  repository : ∃ value ∈ lastOf (lit "repository") (findPairs trimmedPattern block'.2), value ≠ []
  fields : ∀ key ∈ printedFields, UniformField key block.2 block'.2

def fetchValue (key body : Str) : Str :=
  stripOf isDoubleQuote ((lastOf key (findPairs trimmedPattern body)).getD [])

def applyValue (key body : Str) : Str :=
  stripOf isQuote (strip ((lastOf key (findPairs trimmedPattern body)).getD []))

lemma fieldValue_eq {key body raw : Str} (h : valuesOf key (findPairs (fieldPattern 4) body) = [raw]) :
    fieldValue key body = scalar (scalar raw) := by
  rw [fieldValue, h]
  rfl

lemma uniformField_iff {key body raw : Str} (body' : Str)
    (h : valuesOf key (findPairs (fieldPattern 4) body) = [raw])
    (hne : scalar (scalar raw) ≠ []) :
    applyValue key body = scalar (scalar raw) ∧ fetchValue key body' = scalar (scalar raw) ↔
      UniformField key body body' := by
  have hvalue := fieldValue_eq h
  have hstrip : strip (strip raw) = strip raw := stripOf_eq_self (stripOf_bare isSpace raw)
  have happly (hends : ¬ EndsInKey key body) : applyValue key body = stripOf isQuote (strip raw) := by
    rw [applyValue, lastOf_trimmed h, if_neg hends, Option.getD_some, hstrip]
  have heven : stripOf isQuote (strip raw) = scalar (scalar raw) ↔ EvenQuotes (strip raw) :=
    evenQuotes_iff (stripOf_bare isSpace raw) hne
  constructor
  · rintro ⟨ha, hf⟩
    have hends : ¬ EndsInKey key body := by
      intro hends
      rw [applyValue, lastOf_trimmed h, if_pos hends] at ha
      exact hne ha.symm
    rw [happly hends] at ha
    refine ⟨hends, ?_, ?_⟩
    · intro raw' hraw
      rw [h] at hraw
      obtain rfl := List.mem_singleton.mp hraw
      exact heven.mp ha
    · rw [fetchValue] at hf
      cases hlast : lastOf key (findPairs trimmedPattern body') with
      | none =>
        rw [hlast] at hf
        exact absurd hf.symm hne
      | some value =>
        rw [hlast] at hf
        exact ⟨value, rfl, hvalue ▸ (onlyDoubleQuoted_iff (ha ▸ stripOf_bare isQuote _) hne).mp hf⟩
  · rintro ⟨hends, hquotes, value, hlast, honly⟩
    have ha := heven.mpr (hquotes raw (h ▸ List.mem_singleton_self raw))
    refine ⟨(happly hends).trans ha, ?_⟩
    rw [hvalue] at honly
    rw [fetchValue, Option.mem_def.mp hlast]
    exact (onlyDoubleQuoted_iff (ha ▸ stripOf_bare isQuote _) hne).mpr honly

def fetchMissing (body : Str) : List Str :=
  fetchRequired.filter fun field => (lastOf field (findPairs trimmedPattern body)).getD [] == []

def depWith (name : Str) (value : Str → Str) : Upstream.Dep :=
  ⟨name, value (lit "ref"), value (lit "commit"), value (lit "archive"), value (lit "archive_sha256")⟩

def printedDep (block : Str × Str) : Upstream.Dep := depWith (strip block.1) fun key => fetchValue key block.2

def lockedDep (block : Str × Str) : Upstream.Dep :=
  depWith (stripOf isQuote (strip block.1)) fun key => applyValue key block.2

def entry (d : Dict) (key : Str) : Str := (d.lookup key).getD []

def depOf (d : Dict) : Upstream.Dep := depWith (entry d (lit "name")) (entry d)

lemma depWith_inj {name name' : Str} {value value' : Str → Str} :
    depWith name value = depWith name' value' ↔ name = name' ∧ ∀ key ∈ printedFields, value key = value' key := by
  simp [depWith, printedFields]

lemma fetchBlocks_cons (seen : List Str) (block : Str × Str) (blocks : List (Str × Str)) :
    fetchBlocks seen (block :: blocks) =
      if seen.contains (strip block.1) then ⟨[], some (lit "duplicate dependency: " ++ strip block.1)⟩
      else if fetchMissing block.2 ≠ [] then
        ⟨[], some (strip block.1 ++ lit ": missing fields: " ++ (lit ", ").intercalate (fetchMissing block.2))⟩
      else ⟨printedDep block :: (fetchBlocks (seen ++ [strip block.1]) blocks).printed,
        (fetchBlocks (seen ++ [strip block.1]) blocks).error⟩ := rfl

lemma applyBlocks_cons (locked : List Upstream.Dep) (block : Str × Str) (blocks : List (Str × Str)) :
    applyBlocks locked (block :: blocks) =
      if (locked.map (·.name)).contains (lockedDep block).name then
        .error (lit "dependency lock has duplicate dependency: " ++ (lockedDep block).name)
      else applyBlocks (locked ++ [lockedDep block]) blocks := rfl

lemma not_contains {seen names : List Str} {name : Str} (h : (seen ++ name :: names).Nodup) :
    ¬ seen.contains name = true := by
  rw [List.contains_iff_mem]
  intro hm
  exact (List.nodup_append.mp h).2.2 name hm name List.mem_cons_self rfl

lemma fetchBlocks_eq_iff {seen : List Str} {blocks : List (Str × Str)} {deps : List Upstream.Dep}
    (hn : (seen ++ blocks.map fun block => strip block.1).Nodup) :
    fetchBlocks seen blocks = ⟨deps, none⟩ ↔
      (∀ block ∈ blocks, fetchMissing block.2 = []) ∧ blocks.map printedDep = deps := by
  induction blocks generalizing seen deps with
  | nil =>
    rw [fetchBlocks, Fetched.mk.injEq]
    simp
  | cons block blocks ih =>
    rw [List.map_cons] at hn
    have hn' : (seen ++ [strip block.1] ++ blocks.map fun block => strip block.1).Nodup := by
      simpa using hn
    rw [fetchBlocks_cons, if_neg (not_contains hn), List.forall_mem_cons]
    by_cases hmissing : fetchMissing block.2 = []
    · rw [if_neg (not_not.mpr hmissing), Fetched.mk.injEq, List.map_cons]
      constructor
      · rintro ⟨rfl, herror⟩
        obtain ⟨hall, hmap⟩ := (@ih _ (fetchBlocks (seen ++ [strip block.1]) blocks).printed hn').mp
          (herror ▸ rfl)
        exact ⟨⟨hmissing, hall⟩, by rw [hmap]⟩
      · rintro ⟨⟨-, hall⟩, rfl⟩
        rw [(ih hn').mpr ⟨hall, rfl⟩]
        exact ⟨rfl, rfl⟩
    · rw [if_pos hmissing, Fetched.mk.injEq]
      simp [hmissing]

lemma applyBlocks_eq {locked : List Upstream.Dep} {blocks : List (Str × Str)}
    (hn : (locked.map (·.name) ++ blocks.map fun block => (lockedDep block).name).Nodup) :
    applyBlocks locked blocks = .ok (locked ++ blocks.map lockedDep) := by
  induction blocks generalizing locked with
  | nil => simp [applyBlocks]
  | cons block blocks ih =>
    rw [List.map_cons] at hn
    have hn' : ((locked ++ [lockedDep block]).map (·.name) ++
        blocks.map fun block => (lockedDep block).name).Nodup := by
      simpa using hn
    rw [applyBlocks_cons, if_neg (not_contains hn), ih hn']
    simp

lemma fetchMissing_eq_nil {body : Str} : fetchMissing body = [] ↔
    ∀ key ∈ fetchRequired, (lastOf key (findPairs trimmedPattern body)).getD [] ≠ [] := by
  rw [fetchMissing, List.filter_eq_nil_iff]
  simp

structure Parsed (block : Str × Str) (d : Dict) : Prop where
  dependency : parseDependency (scalar block.1) block.2 = .ok d
  name : scalar block.1 = lit "wine" ∨ scalar block.1 = lit "fex"

lemma bare_wine : Bare isQuote (lit "wine") := ⟨by rintro c ⟨⟩; rfl, by rintro c ⟨⟩; rfl⟩

lemma bare_fex : Bare isQuote (lit "fex") := ⟨by rintro c ⟨⟩; rfl, by rintro c ⟨⟩; rfl⟩

lemma parsed_field {block : Str × Str} {d : Dict} (h : Parsed block d) {key : Str} (hk : key ∈ dependencyFields) :
    ∃ raw, valuesOf key (findPairs (fieldPattern 4) block.2) = [raw] ∧ entry d key = scalar (scalar raw) ∧
      scalar (scalar raw) ≠ [] := by
  obtain ⟨fields, hu, h⟩ := of_bind_eq_ok h.dependency
  obtain ⟨dict, hr, h⟩ := of_bind_eq_ok h
  obtain ⟨-, -, h⟩ := of_bind_eq_ok h
  obtain ⟨-, -, h⟩ := of_bind_eq_ok h
  obtain rfl := Except.ok.inj h
  obtain ⟨raw, hraw, hlookup, hne⟩ := value_of_required hu hr hk
  have hname : lit "name" ≠ key := by
    rintro rfl
    exact name_not_mem hk
  refine ⟨raw, hraw, ?_, hne⟩
  rw [entry, lookup_cons, if_neg hname, hlookup]
  rfl

lemma parsed_name {block : Str × Str} {d : Dict} (h : Parsed block d) : entry d (lit "name") = scalar block.1 := by
  obtain ⟨d', rfl, -⟩ := parseDependency_filled h.dependency
  rfl

section

variable {block : Str × Str} {d : Dict}

lemma name_bare (h : Parsed block d) : Bare isQuote (scalar block.1) ∧ scalar block.1 ≠ [] := by
  rcases h.name with hn | hn
  · exact hn ▸ ⟨bare_wine, List.cons_ne_nil _ _⟩
  · exact hn ▸ ⟨bare_fex, List.cons_ne_nil _ _⟩

lemma applyName_eq (h : Parsed block d) : stripOf isQuote (strip block.1) = scalar block.1 := by
  obtain ⟨hbare, hne⟩ := name_bare h
  rw [scalar_eq] at hbare hne ⊢
  rcases unquote_cases (strip block.1) with ⟨q, t, hq, ht⟩ | ⟨-, hu⟩
  · rw [ht, unquote_quoted hq] at hbare hne ⊢
    exact stripOf_quoted hq hbare hne
  · rw [hu] at hbare ⊢
    exact stripOf_eq_self hbare

lemma fetchName_iff (h : Parsed block d) :
    strip block.1 = scalar block.1 ↔ ∀ c ∈ (strip block.1).head?, isQuote c = false := by
  constructor
  · intro hs
    rw [hs]
    exact (name_bare h).1.head
  · intro hhead
    rw [scalar_eq]
    rcases unquote_cases (strip block.1) with ⟨q, t, hq, ht⟩ | ⟨-, hu⟩
    · rw [ht] at hhead
      cases hq.symm.trans (hhead q rfl)
    · exact hu.symm

lemma printedFields_subset : printedFields ⊆ dependencyFields := by decide

lemma uniformBlock_iff (h : Parsed block d) {block' : Str × Str} (hb : block.1 = block'.1) :
    (fetchMissing block'.2 = [] ∧ printedDep block' = depOf d) ∧ lockedDep block = depOf d ↔
      UniformBlock block block' := by
  have hfield {key : Str} (hk : key ∈ printedFields) :
      applyValue key block.2 = entry d key ∧ fetchValue key block'.2 = entry d key ↔
        UniformField key block.2 block'.2 := by
    obtain ⟨raw, hraw, hentry, hne⟩ := parsed_field h (printedFields_subset hk)
    rw [hentry]
    exact uniformField_iff block'.2 hraw hne
  rw [printedDep, lockedDep, depOf, depWith_inj, depWith_inj, ← hb, parsed_name h, applyName_eq h, fetchName_iff h,
    fetchMissing_eq_nil]
  constructor
  · rintro ⟨⟨hmissing, hname, hfetch⟩, -, happly⟩
    refine ⟨hname, ?_, fun key hk => (hfield hk).mp ⟨happly key hk, hfetch key hk⟩⟩
    have hrep := hmissing (lit "repository") List.mem_cons_self
    cases hl : lastOf (lit "repository") (findPairs trimmedPattern block'.2) with
    | none =>
      rw [hl] at hrep
      exact absurd rfl hrep
    | some value =>
      rw [hl] at hrep
      exact ⟨value, rfl, hrep⟩
  · rintro ⟨hname, ⟨value, hvalue, hne⟩, hfields⟩
    refine ⟨⟨?_, hname, fun key hk => ((hfield hk).mpr (hfields key hk)).2⟩, rfl,
      fun key hk => ((hfield hk).mpr (hfields key hk)).1⟩
    intro key hk
    rcases List.mem_cons.mp hk with rfl | hk
    · rw [Option.mem_def.mp hvalue]
      exact hne
    · intro hnil
      have hfetch := ((hfield hk).mpr (hfields key hk)).2
      obtain ⟨raw, -, hentry, hne'⟩ := parsed_field h (printedFields_subset hk)
      rw [fetchValue, hnil, hentry] at hfetch
      exact hne' hfetch.symm

end

lemma parseDependencies_parsed {seen : List Str} {blocks : List (Str × Str)} {ds : List Dict}
    (h : parseDependencies seen blocks = .ok ds) :
    List.Forall₂ (fun block d => parseDependency (scalar block.1) block.2 = .ok d) blocks ds := by
  induction blocks generalizing seen ds with
  | nil =>
    obtain rfl := Except.ok.inj h
    exact .nil
  | cons block blocks ih =>
    obtain ⟨-, -, h⟩ := of_bind_eq_ok h
    obtain ⟨d, hd, h⟩ := of_bind_eq_ok h
    obtain ⟨ds', hds, h⟩ := of_bind_eq_ok h
    obtain rfl := Except.ok.inj h
    exact .cons hd (ih hds)

section

variable {blocks : List (Str × Str)} {ds : List Dict}

lemma dependency_name {block : Str × Str} {d : Dict} (h : parseDependency (scalar block.1) block.2 = .ok d) :
    entry d (lit "name") = scalar block.1 := by
  obtain ⟨d', rfl, -⟩ := parseDependency_filled h
  rfl

lemma dependency_names
    (h : List.Forall₂ (fun block d => parseDependency (scalar block.1) block.2 = .ok d) blocks ds) :
    (blocks.map fun block => scalar block.1) = ds.map fun d => entry d (lit "name") := by
  induction h with
  | nil => rfl
  | cons hd _ ih => rw [List.map_cons, List.map_cons, ih, dependency_name hd]

lemma forall₂_parsed (h : List.Forall₂ (fun block d => parseDependency (scalar block.1) block.2 = .ok d) blocks ds)
    (hn : ∀ d ∈ ds, entry d (lit "name") = lit "wine" ∨ entry d (lit "name") = lit "fex") :
    List.Forall₂ Parsed blocks ds := by
  induction h with
  | nil => exact .nil
  | cons hd _ ih =>
    obtain ⟨hd', hn⟩ := List.forall_mem_cons.mp hn
    rw [dependency_name hd] at hd'
    exact .cons ⟨hd, hd'⟩ (ih hn)

end

structure ParsedLock (text : Str) (lock : Lock) : Prop where
  nonempty : dependencyBlocks text ≠ []
  blocks : List.Forall₂ Parsed (dependencyBlocks text) lock.dependencies
  distinct : ((dependencyBlocks text).map fun block => scalar block.1).Nodup
  pinned : areWineAndFex ((lock.dependencies.map depOf).map (·.name)) = true
  llvm : ∃ body, (toolchainBody text).bind llvmBody = some body ∧ parseLlvm body = .ok lock.llvmMingw

lemma parsedLock {text : Str} {lock : Lock} (h : parseLock text = .ok lock) : ParsedLock text lock := by
  have hlocked := locked_of_parseLock h
  have hpinned : areWineAndFex ((lock.dependencies.map depOf).map (·.name)) = true := by
    rw [List.map_map]
    exact hlocked.pinned
  obtain ⟨-, -, h⟩ := of_bind_eq_ok h
  obtain ⟨-, -, h⟩ := of_bind_eq_ok h
  obtain ⟨-, -, h⟩ := of_bind_eq_ok h
  obtain ⟨toolchainText, ht, h⟩ := of_bind_eq_ok h
  obtain ⟨toolchain, -, h⟩ := of_bind_eq_ok h
  obtain ⟨llvmText, hl, h⟩ := of_bind_eq_ok h
  obtain ⟨llvm, hllvm, h⟩ := of_bind_eq_ok h
  obtain ⟨_, hne, h⟩ := of_bind_eq_ok h
  obtain ⟨dependencies, hd, h⟩ := of_bind_eq_ok h
  obtain ⟨-, -, h⟩ := of_bind_eq_ok h
  obtain rfl := Except.ok.inj h
  have hparsed := parseDependencies_parsed hd
  have hwine : ∀ d ∈ dependencies, entry d (lit "name") = lit "wine" ∨ entry d (lit "name") = lit "fex" := by
    intro d hd
    rw [areWineAndFex, Bool.and_eq_true, Bool.and_eq_true, List.all_eq_true] at hpinned
    have hmem : entry d (lit "name") ∈ (dependencies.map depOf).map (·.name) := by
      rw [List.map_map]
      exact List.mem_map_of_mem hd
    simpa using hpinned.1.1 _ hmem
  refine ⟨?_, forall₂_parsed hparsed hwine, ?_, hpinned, llvmText, ?_, hllvm⟩
  · simpa using of_check hne
  · rw [dependency_names hparsed]
    exact hlocked.distinct
  · rw [of_orError_eq_ok ht, Option.bind_some, of_orError_eq_ok hl]

lemma forall₂_uniform {blocks blocks' : List (Str × Str)} {ds : List Dict} (hp : List.Forall₂ Parsed blocks ds)
    (hb : List.Forall₂ LongerBlock blocks blocks') :
    ((∀ block ∈ blocks', fetchMissing block.2 = []) ∧ blocks'.map printedDep = ds.map depOf) ∧
      blocks.map lockedDep = ds.map depOf ↔ List.Forall₂ UniformBlock blocks blocks' := by
  induction hp generalizing blocks' with
  | nil =>
    cases hb
    simp
  | cons hd _ ih =>
    cases hb with
    | cons hl hb =>
      rw [List.forall₂_cons, ← ih hb, ← uniformBlock_iff hd hl.1, List.forall_mem_cons, List.map_cons,
        List.map_cons, List.map_cons, List.cons.injEq, List.cons.injEq]
      tauto

lemma longer_names {blocks blocks' : List (Str × Str)} (hb : List.Forall₂ LongerBlock blocks blocks') :
    (blocks'.map fun block => strip block.1) = blocks.map fun block => strip block.1 := by
  induction hb with
  | nil => rfl
  | cons hl _ ih => rw [List.map_cons, List.map_cons, ih, hl.1]

lemma fetchReader_eq_iff {text : Str} {lock : Lock} (h : ParsedLock text lock) {deps : List Upstream.Dep} :
    fetchReader text = ⟨deps, none⟩ ↔
      (∀ block ∈ unendedBlocks text, fetchMissing block.2 = []) ∧ (unendedBlocks text).map printedDep = deps := by
  have hlonger := unendedBlocks_longer text
  have hne : unendedBlocks text ≠ [] := by
    intro hnil
    rw [hnil, List.forall₂_nil_right_iff] at hlonger
    exact h.nonempty hlonger
  have hnodup : (([] : List Str) ++ (unendedBlocks text).map fun block => strip block.1).Nodup := by
    rw [List.nil_append, longer_names hlonger]
    apply List.Nodup.of_map unquote
    rw [List.map_map]
    exact h.distinct
  rw [fetchReader, if_neg hne, fetchBlocks_eq_iff hnodup]

lemma applyReader_eq_iff {text : Str} {lock : Lock} (h : ParsedLock text lock) :
    applyReader text = .ok (lock.dependencies.map depOf) ↔
      (dependencyBlocks text).map lockedDep = lock.dependencies.map depOf := by
  have hnames : ((dependencyBlocks text).map fun block => (lockedDep block).name) =
      (dependencyBlocks text).map fun block => scalar block.1 := by
    apply List.map_congr_left
    intro block hb
    obtain ⟨d, -, hd⟩ := exists_of_forall₂ h.blocks hb
    exact applyName_eq hd
  have hblocks : applyBlocks [] (dependencyBlocks text) = .ok ((dependencyBlocks text).map lockedDep) :=
    applyBlocks_eq (by simpa [hnames] using h.distinct)
  rw [applyReader, hblocks]
  constructor
  · intro hok
    obtain ⟨locked, hlocked, hok⟩ := of_bind_eq_ok hok
    obtain ⟨-, -, hok⟩ := of_bind_eq_ok hok
    rw [Except.ok.inj hlocked]
    exact Except.ok.inj hok
  · intro heq
    have hcheck : check (areWineAndFex ((lock.dependencies.map depOf).map (·.name)))
        (lit "dependency lock must contain exactly wine and fex") = .ok () := by
      rw [check, if_pos h.pinned]
    rw [heq]
    change (check (areWineAndFex ((lock.dependencies.map depOf).map (·.name)))
      (lit "dependency lock must contain exactly wine and fex")).bind (fun _ =>
        .ok (lock.dependencies.map depOf)) = _
    rw [hcheck]
    rfl

/-- The first lines of the text with the names that the reader of `build-runtime-linux-arm64.sh` looks for have
values, and those of `llvm_mingw` where that is what they are taken for. -/
structure UniformContainer (text llvmText : Str) : Prop where
  base : ∃ raw ∈ firstRaw text (lit "  container_base"), isField (scalar raw) = true
  archive : ∃ raw ∈ firstRaw text (lit "    archive"),
    scalar raw = fieldValue (lit "archive") llvmText ∧ isField (scalar raw) = true
  sha : ∃ raw ∈ firstRaw text (lit "    archive_sha256"), scalar raw = fieldValue (lit "archive_sha256") llvmText

lemma containerScalar_ok {text name owner value : Str} : containerScalar text name owner = .ok value ↔
    ∃ raw ∈ firstRaw text name, scalar raw = value ∧ isField (scalar raw) = true := by
  rw [containerScalar]
  cases firstRaw text name with
  | none => simp
  | some raw =>
    by_cases hf : isField (scalar raw) = true
    · simp [hf]
    · simp [hf]

lemma isField_of_hex {n : ℕ} {value : Str} (hn : n ≠ 0) (h : isHexOf n value = true) : isField value = true := by
  rw [isHexOf, Bool.and_eq_true, beq_iff_eq, List.all_eq_true] at h
  obtain ⟨hlen, hhex⟩ := h
  have hno {c : ℕ} (hc : isHex c = false) : value.contains c = false := by
    rw [← Bool.not_eq_true, List.contains_iff_mem]
    intro hm
    rw [hhex c hm] at hc
    cases hc
  have hne : value.isEmpty = false := by
    rw [List.isEmpty_eq_false_iff]
    rintro rfl
    exact hn hlen.symm
  rw [isField, hne, hno rfl, hno rfl]
  rfl

lemma llvm_field {body : Str} {d : Dict} (h : parseLlvm body = .ok d) {key : Str} (hk : key ∈ llvmFields) :
    entry d key = fieldValue key body := by
  obtain ⟨fields, hu, h⟩ := of_bind_eq_ok h
  obtain ⟨dict, hr, h⟩ := of_bind_eq_ok h
  obtain ⟨-, -, h⟩ := of_bind_eq_ok h
  obtain rfl := Except.ok.inj h
  obtain ⟨raw, hraw, hlookup, -⟩ := value_of_required hu hr hk
  rw [fieldValue_eq hraw, entry, hlookup]
  rfl

lemma containerReader_iff {text body : Str} {d : Dict} (h : parseLlvm body = .ok d) :
    (∃ base, containerReader text = .ok ⟨base, entry d (lit "archive"), entry d (lit "archive_sha256")⟩) ↔
      UniformContainer text body := by
  have hsha : isHexOf 64 (entry d (lit "archive_sha256")) = true := by
    obtain ⟨v, hv, hex⟩ := (Option.any_eq_true _ _).mp (parseLlvm_filled h).2
    rw [entry, hv]
    exact hex
  rw [llvm_field h (by decide)] at hsha
  rw [llvm_field h (by decide), llvm_field h (by decide)]
  constructor
  · rintro ⟨base, hok⟩
    obtain ⟨base', hbase, hok⟩ := of_bind_eq_ok hok
    obtain ⟨archive, harchive, hok⟩ := of_bind_eq_ok hok
    obtain ⟨sha, hs, hok⟩ := of_bind_eq_ok hok
    obtain ⟨-, -, hok⟩ := of_bind_eq_ok hok
    obtain ⟨rfl, rfl, rfl⟩ := Container.mk.inj (Except.ok.inj hok)
    obtain ⟨raw, hraw, -, hfield⟩ := containerScalar_ok.mp hbase
    obtain ⟨raw', hraw', heq, -⟩ := containerScalar_ok.mp hs
    exact ⟨⟨raw, hraw, hfield⟩, containerScalar_ok.mp harchive, raw', hraw', heq⟩
  · rintro ⟨⟨base, hbase, hfield⟩, harchive, sha, hs, heq⟩
    refine ⟨scalar base, ?_⟩
    have hcheck : check (isHexOf 64 (fieldValue (lit "archive_sha256") body))
        (lit "deps.lock has an invalid toolchain.llvm_mingw.archive_sha256") = .ok () := by
      rw [check, if_pos hsha]
    rw [containerReader, containerScalar_ok.mpr ⟨base, hbase, rfl, hfield⟩, containerScalar_ok.mpr harchive,
      containerScalar_ok.mpr ⟨sha, hs, heq, heq ▸ isField_of_hex (by decide) hsha⟩]
    simp only [bind, Except.bind, hcheck]
    rfl

structure ReadersAgree (text : Str) (lock : Lock) : Prop where
  fetch : fetchReader text = ⟨lock.dependencies.map depOf, none⟩
  apply : applyReader text = .ok (lock.dependencies.map depOf)
  container : ∃ base, containerReader text =
    .ok ⟨base, entry lock.llvmMingw (lit "archive"), entry lock.llvmMingw (lit "archive_sha256")⟩

structure UniformLock (text : Str) : Prop where
  blocks : List.Forall₂ UniformBlock (dependencyBlocks text) (unendedBlocks text)
  container : ∀ body ∈ (toolchainBody text).bind llvmBody, UniformContainer text body

set_option maxRecDepth 10000 in
lemma exists_parseLock_sample : ∃ lock, parseLock sampleText = .ok lock := by
  have hok : (parseLock sampleText).isOk = true := by
    generalize ht : sampleText = text
    rw [sampleText, lit_ofList] at ht
    subst ht
    decide
  cases h : parseLock sampleText with
  | ok lock => exact ⟨lock, rfl⟩
  | error e =>
    rw [h] at hok
    cases hok

end Graft64.Runtime.DepsLock
