import Graft64.Runtime.PatchSeries

/-! `apply-patches.sh`: the prepared source trees, and the two records of how they were made. -/

namespace Graft64.Runtime.PreparedSources

open PatchSeries (Dependency)

structure Key where
  dependency : Dependency
  commit : String
deriving DecidableEq

variable {Archive Patch Tree : Type}

structure Row (Archive Patch : Type) where
  key : Key
  archive : Archive
  patches : List Patch

inductive Command (Archive Patch : Type)
  | checkTools
  | resolvePaths
  | refuseUnsafe
  | prepareOutput
  | checkInputs
  | makeDirectories
  | makeTemporary
  | writeExpected
  | checkRow (key : Key)
  | remove (key : Key)
  | makeTree (key : Key)
  | extract (key : Key) (archive : Archive)
  | checkPatch (key : Key) (patch : Patch)
  | applyPatch (key : Key) (patch : Patch)
  | recordSources
  | recordPatches
  | printDone
deriving DecidableEq

def preliminaries : List (Command Archive Patch) :=
  [.checkTools, .resolvePaths, .refuseUnsafe, .prepareOutput, .checkInputs, .makeDirectories, .makeTemporary,
    .writeExpected]

def rebuild (row : Row Archive Patch) : List (Command Archive Patch) :=
  [.checkRow row.key, .remove row.key, .makeTree row.key, .extract row.key row.archive] ++
    row.patches.flatMap fun patch => [.checkPatch row.key patch, .applyPatch row.key patch]

def script (rows : List (Row Archive Patch)) : List (Command Archive Patch) :=
  preliminaries ++ rows.flatMap rebuild ++ [.recordSources, .recordPatches, .printDone]

structure Tools (Archive Patch Tree : Type) where
  empty : Tree
  unpack : Archive → Tree
  apply : Patch → Tree → Tree

structure State (Archive Patch Tree : Type) where
  trees : Key → Option Tree
  /-- `prepared-sources.tsv` -/
  sources : Option (List (Key × Archive))
  /-- `applied-patches.json` -/
  patches : Option (List (Dependency × Patch))

def sourcesRecord (rows : List (Row Archive Patch)) : List (Key × Archive) :=
  rows.map fun row => (row.key, row.archive)

def patchesRecord (rows : List (Row Archive Patch)) : List (Dependency × Patch) :=
  rows.flatMap fun row => row.patches.map fun patch => (row.key.dependency, patch)

variable (tools : Tools Archive Patch Tree) (rows : List (Row Archive Patch))

def setTree (s : State Archive Patch Tree) (key : Key) (tree : Option Tree) : State Archive Patch Tree :=
  { s with trees := Function.update s.trees key tree }

def done (s : State Archive Patch Tree) : Command Archive Patch → State Archive Patch Tree
  | .remove key => setTree s key none
  | .makeTree key => setTree s key (some tools.empty)
  | .extract key archive => setTree s key (some (tools.unpack archive))
  | .applyPatch key patch => setTree s key ((s.trees key).map (tools.apply patch))
  | .recordSources => { s with sources := some (sourcesRecord rows) }
  | .recordPatches => { s with patches := some (patchesRecord rows) }
  | _ => s

/-- The state after a command that fails; `left` is what it leaves of the tree it works on. A rename
that fails changes nothing. -/
def cut (left : Option Tree) (s : State Archive Patch Tree) : Command Archive Patch → State Archive Patch Tree
  | .remove key | .makeTree key | .extract key _ | .applyPatch key _ => setTree s key left
  | _ => s

def stoppedAt (start : State Archive Patch Tree) (n : Fin (script rows).length) (left : Option Tree) :
    State Archive Patch Tree :=
  cut left (((script rows).take n).foldl (done tools rows) start) (script rows)[n]

def prepared (row : Row Archive Patch) : Tree :=
  row.patches.foldl (fun tree patch => tools.apply patch tree) (tools.unpack row.archive)

def Described (s : State Archive Patch Tree) : Prop :=
  ∃ rows : List (Row Archive Patch), s.sources = some (sourcesRecord rows) ∧
    s.patches = some (patchesRecord rows) ∧ ∀ row ∈ rows, s.trees row.key = some (prepared tools row)

def Unrecorded (s : State Archive Patch Tree) : Prop := s.sources = none ∧ s.patches = none

def Command.changes : Command Archive Patch → Bool
  | remove _ | makeTree _ | extract _ _ | applyPatch _ _ | recordSources | recordPatches => true
  | _ => false

def StopsInTime (start : State Archive Patch Tree) (n : Fin (script rows).length) : Prop :=
  (∀ c ∈ (script rows).take (n + 1), c.changes = false) ∨
    (Unrecorded start ∧ Command.recordSources ∉ (script rows).take n ∧
      Command.recordPatches ∉ (script rows).take n)

section

variable {tools rows}

lemma done_of_not_changes {c : Command Archive Patch} (h : c.changes = false) (s : State Archive Patch Tree) :
    done tools rows s c = s := by
  cases c with
  | remove | makeTree | extract | applyPatch | recordSources | recordPatches => cases h
  | _ => rfl

lemma cut_of_not_changes {c : Command Archive Patch} (h : c.changes = false) (left : Option Tree)
    (s : State Archive Patch Tree) : cut left s c = s := by
  cases c with
  | remove | makeTree | extract | applyPatch | recordSources | recordPatches => cases h
  | _ => rfl

lemma foldl_of_not_changes {cs : List (Command Archive Patch)} (h : ∀ c ∈ cs, c.changes = false)
    (s : State Archive Patch Tree) : cs.foldl (done tools rows) s = s := by
  induction cs with
  | nil => rfl
  | cons c cs ih =>
    rw [List.foldl_cons, done_of_not_changes (h c List.mem_cons_self)]
    exact ih fun d hd => h d (List.mem_cons_of_mem _ hd)

variable (tools rows) in
lemma done_records {c : Command Archive Patch} (h₁ : c ≠ .recordSources) (h₂ : c ≠ .recordPatches)
    (s : State Archive Patch Tree) :
    (done tools rows s c).sources = s.sources ∧ (done tools rows s c).patches = s.patches := by
  cases c with
  | recordSources => exact absurd rfl h₁
  | recordPatches => exact absurd rfl h₂
  | _ => exact ⟨rfl, rfl⟩

lemma cut_records (c : Command Archive Patch) (left : Option Tree) (s : State Archive Patch Tree) :
    (cut left s c).sources = s.sources ∧ (cut left s c).patches = s.patches := by
  cases c <;> exact ⟨rfl, rfl⟩

variable (tools rows) in
lemma foldl_records {cs : List (Command Archive Patch)} (h₁ : .recordSources ∉ cs) (h₂ : .recordPatches ∉ cs)
    (s : State Archive Patch Tree) :
    (cs.foldl (done tools rows) s).sources = s.sources ∧ (cs.foldl (done tools rows) s).patches = s.patches := by
  induction cs generalizing s with
  | nil => exact ⟨rfl, rfl⟩
  | cons c cs ih =>
    simp only [List.mem_cons, not_or] at h₁ h₂
    obtain ⟨hs, hp⟩ := done_records tools rows (Ne.symm h₁.1) (Ne.symm h₂.1) s
    obtain ⟨hs', hp'⟩ := ih h₁.2 h₂.2 (done tools rows s c)
    exact ⟨hs'.trans hs, hp'.trans hp⟩

variable (tools rows) in
lemma stoppedAt_records (start : State Archive Patch Tree) {n : Fin (script rows).length} (left : Option Tree)
    (h₁ : .recordSources ∉ (script rows).take n) (h₂ : .recordPatches ∉ (script rows).take n) :
    (stoppedAt tools rows start n left).sources = start.sources ∧
      (stoppedAt tools rows start n left).patches = start.patches := by
  obtain ⟨hs, hp⟩ := cut_records (script rows)[n] left (((script rows).take n).foldl (done tools rows) start)
  obtain ⟨hs', hp'⟩ := foldl_records tools rows h₁ h₂ start
  exact ⟨hs.trans hs', hp.trans hp'⟩

end

/-- A run that fails in time leaves the records and the trees as they were, or leaves no record; and
if the records described the trees, those that are left still do. -/
theorem stoppedAt_described (start : State Archive Patch Tree) (n : Fin (script rows).length)
    (left : Option Tree) (h : StopsInTime rows start n) :
    (stoppedAt tools rows start n left = start ∨ Unrecorded (stoppedAt tools rows start n left)) ∧
      (Described tools start → Unrecorded (stoppedAt tools rows start n left) ∨
        Described tools (stoppedAt tools rows start n left)) := by
  rcases h with h | ⟨⟨hs, hp⟩, h₁, h₂⟩
  · have he : stoppedAt tools rows start n left = start := by
      have hn : (script rows)[n] ∈ (script rows).take (n + 1) := by
        rw [List.take_succ_eq_append_getElem n.isLt]
        exact List.mem_append_right _ (List.mem_singleton_self _)
      rw [stoppedAt, cut_of_not_changes (h _ hn)]
      apply foldl_of_not_changes
      intro c hc
      exact h c (List.take_subset_take_left _ (Nat.le_succ n) hc)
    exact ⟨.inl he, fun hd => .inr (he.symm ▸ hd)⟩
  · obtain ⟨hs', hp'⟩ := stoppedAt_records tools rows start left h₁ h₂
    have hu : Unrecorded (stoppedAt tools rows start n left) := ⟨hs'.trans hs, hp'.trans hp⟩
    exact ⟨.inr hu, fun _ => .inl hu⟩

theorem stoppedAt_stale (start : State Archive Patch Tree) (n : Fin (script rows).length) (left : Option Tree)
    (key : Key) (hc : (script rows)[n] = .remove key ∨ (script rows)[n] = .makeTree key ∨
      ∃ archive, (script rows)[n] = .extract key archive)
    (h₁ : .recordSources ∉ (script rows).take n) (h₂ : .recordPatches ∉ (script rows).take n)
    (hl : left ≠ start.trees key) (hr : ¬ Unrecorded start) :
    ¬ (stoppedAt tools rows start n left = start ∨ Unrecorded (stoppedAt tools rows start n left)) := by
  rintro (he | hu)
  · have ht : (stoppedAt tools rows start n left).trees key = left := by
      rcases hc with hc | hc | ⟨archive, hc⟩
      all_goals
        rw [stoppedAt, hc]
        exact Function.update_self _ _ _
    rw [he] at ht
    exact hl ht.symm
  · obtain ⟨hs, hp⟩ := stoppedAt_records tools rows start left h₁ h₂
    exact hr ⟨hs.symm.trans hu.1, hp.symm.trans hu.2⟩

def sampleTools : Tools ℕ ℕ (List ℕ) := ⟨[], fun archive => [archive], fun patch tree => tree ++ [patch]⟩

def sampleRows : List (Row ℕ ℕ) := [⟨⟨.wine, "1"⟩, 1, [10]⟩, ⟨⟨.fex, "2"⟩, 2, []⟩]

def sampleStart : State ℕ ℕ (List ℕ) where
  trees key := if key = ⟨.wine, "1"⟩ then some [1, 10] else if key = ⟨.fex, "2"⟩ then some [2] else none
  sources := some (sourcesRecord sampleRows)
  patches := some (patchesRecord sampleRows)

lemma described_sampleStart : Described sampleTools sampleStart := by
  refine ⟨sampleRows, rfl, rfl, ?_⟩
  intro row hrow
  simp only [sampleRows, List.mem_cons, List.not_mem_nil, or_false] at hrow
  rcases hrow with rfl | rfl <;> rfl

theorem stoppedAt_described_sample :
    (stoppedAt sampleTools sampleRows sampleStart ⟨7, by decide⟩ none = sampleStart ∨
        Unrecorded (stoppedAt sampleTools sampleRows sampleStart ⟨7, by decide⟩ none)) ∧
      (Described sampleTools sampleStart →
        Unrecorded (stoppedAt sampleTools sampleRows sampleStart ⟨7, by decide⟩ none) ∨
          Described sampleTools (stoppedAt sampleTools sampleRows sampleStart ⟨7, by decide⟩ none)) :=
  stoppedAt_described sampleTools sampleRows sampleStart ⟨7, by decide⟩ none (.inl (by decide))

/-- A second run whose `tar` fails: the records of the first stay, over a tree with nothing in it. -/
theorem partly_extracted_recorded :
    let s := stoppedAt sampleTools sampleRows sampleStart ⟨11, by decide⟩ (some [])
    Described sampleTools sampleStart ∧ ¬ (s = sampleStart ∨ Unrecorded s) ∧
      s.sources = some (sourcesRecord sampleRows) ∧ s.patches = some (patchesRecord sampleRows) ∧
      s.trees ⟨.wine, "1"⟩ = some [] := by
  refine ⟨described_sampleStart, ?_, rfl, rfl, rfl⟩
  rintro (he | hu)
  · have ht := congrArg (fun s => s.trees ⟨.wine, "1"⟩) he
    exact absurd ht (by decide)
  · cases hu.1

end Graft64.Runtime.PreparedSources
