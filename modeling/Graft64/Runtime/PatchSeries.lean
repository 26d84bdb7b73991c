import Graft64.Library.Sorting
import Graft64.Library.Utf8
import Mathlib.Logic.Function.Basic

/-! `apply-patches.sh`: the patch series its Python step records, and the one its shell loop
applies. -/

namespace Graft64.Runtime.PatchSeries

open Graft64.Library Utf8

inductive Dependency
  | wine
  | fex
  deriving DecidableEq, Repr

def Dependency.name : Dependency → String
  | .wine => "wine"
  | .fex => "fex"

inductive Kind
  | regular (content : Bytes)
  | directory
  | symlink (dangling : Bool)
  | other

structure Node where
  name : Bytes
  kind : Kind

structure Listing where
  entries : List Node
  names : ∀ n ∈ entries, n.name ≠ [] ∧ 0 ∉ n.name ∧ 47 ∉ n.name
  nodup : (entries.map Node.name).Nodup

/-- What stands at a path that has to be a real directory. -/
inductive Dir
  | real (l : Listing)
  | unreal

structure PatchTree where
  rootReal : Bool
  dir : Dependency → Dir

inductive Refusal
  | patchesRoot
  | patchDir (d : Dependency)
  | notRegular (d : Dependency) (name : Bytes)

variable {H : Type}

structure PatchEntry (H : Type) where
  dependency : Dependency
  path : Str
  sha256 : H

/-- `patch.relative_to(patch_root).as_posix()`. -/
def patchPath (d : Dependency) (name : Bytes) : Str := lit "patches/" ++ lit d.name ++ lit "/" ++ fsdecode name

/-- The pattern `*.patch` of `Path.glob`, on the decoded name. -/
def globMatches (name : Str) : Bool := (lit ".patch").isSuffixOf name

def sortedGlob (l : Listing) : List Node :=
  sortBy (fun n => fsdecode n.name) (l.entries.filter fun n => globMatches (fsdecode n.name))

def patchEntry (sha256File : Bytes → H) (d : Dependency) (n : Node) : Except Refusal (PatchEntry H) :=
  match n.kind with
  | .regular content => .ok ⟨d, patchPath d n.name, sha256File content⟩
  | _ => .error (.notRegular d n.name)

/-- One round of the loop over the dependencies. A real directory in a real directory resolves below
it, so the escape check after the first one refuses nothing more. -/
def patchEntriesOf (sha256File : Bytes → H) (t : PatchTree) (d : Dependency) :
    Except Refusal (List (PatchEntry H)) :=
  match t.dir d with
  | .unreal => .error (.patchDir d)
  | .real l => (sortedGlob l).mapM (patchEntry sha256File d)

def patchEntries (sha256File : Bytes → H) (t : PatchTree) : Except Refusal (List (PatchEntry H)) := do
  if t.rootReal = false then throw .patchesRoot
  let wine ← patchEntriesOf sha256File t .wine
  let fex ← patchEntriesOf sha256File t .fex
  return wine ++ fex

/-- The pattern `*.patch` of bash: it does not match a leading dot. -/
def shellMatches (name : Bytes) : Bool := (bytes ".patch").isSuffixOf name && !(bytes ".").isPrefixOf name

/-- Pathname expansion: the matching names by byte order, or the pattern itself. -/
def expand (l : Listing) : List Bytes :=
  let names := sortBy (List.map UInt8.toNat) ((l.entries.map Node.name).filter shellMatches)
  if names = [] then [bytes "*.patch"] else names

def present (l : Listing) (name : Bytes) : Bool :=
  l.entries.any fun n => n.name == name && match n.kind with
    | .symlink dangling => !dangling
    | _ => true

def patches : Dir → List Bytes
  | .unreal => []
  | .real l => (expand l).filter (present l)

/-- The outcomes of the commands of one run, and whether each row read back from
`prepared-sources.tsv` passes the checks. -/
structure Commands where
  row : Dependency → Bool
  remove : Dependency → Bool
  mkdir : Dependency → Bool
  tar : Dependency → Bool
  check : Dependency → Bytes → Bool
  apply : Dependency → Bytes → Bool
  move : Bool

abbrev Sources := Dependency → Option (List Bytes)

def applyPatch (c : Commands) (d : Dependency) (applied : List Bytes) (patch : Bytes) : Option (List Bytes) :=
  if c.check d patch && c.apply d patch then some (applied ++ [patch]) else none

def prepare (c : Commands) (t : PatchTree) (s : Sources) (d : Dependency) : Option Sources :=
  if c.row d && c.remove d && c.mkdir d && c.tar d then
    ((patches (t.dir d)).foldlM (applyPatch c d) []).map fun applied => Function.update s d (some applied)
  else none

/-- A run of the script; `none` when it exits with another status than 0. -/
def applyPatches (sha256File : Bytes → H) (c : Commands) (t : PatchTree) (s : Sources) :
    Option (Sources × List (PatchEntry H)) := do
  let recorded ← (patchEntries sha256File t).toOption
  let s ← [Dependency.wine, .fex].foldlM (prepare c t) s
  if c.move then some (s, recorded) else none

def recordedFor (recorded : List (PatchEntry H)) (d : Dependency) : List Str :=
  (recorded.filter fun e => e.dependency = d).map PatchEntry.path

def appliedFor (s : Sources) (d : Dependency) : Option (List Str) :=
  (s d).map fun names => names.map (patchPath d)

def patchNames (l : Listing) : List Bytes := (l.entries.map Node.name).filter (bytes ".patch").isSuffixOf

def hidden (name : Bytes) : Bool := (bytes ".").isPrefixOf name

def SameSeries (l : Listing) : Prop :=
  (∀ a ∈ patchNames l, hidden a = false) ∧
    ∀ a ∈ patchNames l, ∀ b ∈ patchNames l,
      fsdecode a ≤ fsdecode b ↔ a.map UInt8.toNat ≤ b.map UInt8.toNat

lemma globMatches_fsdecode (name : Bytes) :
    globMatches (fsdecode name) = (bytes ".patch").isSuffixOf name := by
  have hd : fsdecode (bytes ".patch") = lit ".patch" := by decide
  have he : fsencode (lit ".patch") = some (bytes ".patch") := by decide
  rw [Bool.eq_iff_iff, globMatches, List.isSuffixOf_iff_suffix, List.isSuffixOf_iff_suffix]
  constructor
  · rintro ⟨t, ht⟩
    have hn := fsencode_fsdecode name
    rw [← ht] at hn
    obtain ⟨as, bs, -, hb, rfl⟩ := fsencode_split hn
    rw [he] at hb
    obtain rfl := Option.some.inj hb
    exact List.suffix_append as _
  · rintro ⟨m, rfl⟩
    refine ⟨fsdecode m, ?_⟩
    have hc := fsdecode_cut (show isTail 46 = false by decide) m (bytes "patch")
    rw [← hd]
    exact hc.symm

lemma patchPath_injective (d : Dependency) : Function.Injective (patchPath d) :=
  fun _ _ h => fsdecode_injective (List.append_cancel_left h)

lemma sortedGlob_names (l : Listing) :
    (sortedGlob l).map Node.name = sortBy fsdecode (patchNames l) := by
  simp only [sortedGlob, patchNames, globMatches_fsdecode, sortBy, List.filter_map]
  exact List.map_insertionSort _ _ _ _ fun _ _ _ _ => Iff.rfl

lemma mapM_patchEntry {sha256File : Bytes → H} {d : Dependency} {ns : List Node} {es : List (PatchEntry H)}
    (h : ns.mapM (patchEntry sha256File d) = .ok es) :
    es.map PatchEntry.path = (ns.map Node.name).map (patchPath d) ∧ (∀ e ∈ es, e.dependency = d) ∧
      ∀ n ∈ ns, ∃ content, n.kind = .regular content := by
  induction ns generalizing es with
  | nil =>
    obtain rfl : [] = es := by simpa [pure, Except.pure] using h
    simp
  | cons n ns ih =>
    rw [List.mapM_cons] at h
    cases hk : n.kind with
    | regular content =>
      cases hm : ns.mapM (patchEntry sha256File d) with
      | error e => simp [patchEntry, hk, hm, bind, Except.bind] at h
      | ok es' =>
        obtain rfl : _ = es := by simpa [patchEntry, hk, hm, bind, Except.bind, pure, Except.pure] using h
        obtain ⟨hp, hd, hr⟩ := ih hm
        simp [hp, hk]
        exact ⟨hd, hr⟩
    | directory | symlink | other => simp [patchEntry, hk, bind, Except.bind] at h

lemma patchEntriesOf_ok {sha256File : Bytes → H} {t : PatchTree} {d : Dependency}
    {es : List (PatchEntry H)} (h : patchEntriesOf sha256File t d = .ok es) :
    ∃ l, t.dir d = .real l ∧ es.map PatchEntry.path = (sortBy fsdecode (patchNames l)).map (patchPath d) ∧
      (∀ e ∈ es, e.dependency = d) ∧
      ∀ n ∈ l.entries, n.name ∈ patchNames l → ∃ content, n.kind = .regular content := by
  unfold patchEntriesOf at h
  cases hd : t.dir d with
  | unreal => simp [hd] at h
  | real l =>
    rw [hd] at h
    obtain ⟨hp, he, hr⟩ := mapM_patchEntry h
    refine ⟨l, rfl, by rw [hp, sortedGlob_names], he, fun n hn hm => hr n ?_⟩
    simp only [sortedGlob, mem_sortBy, List.mem_filter, hn, true_and, globMatches_fsdecode]
    exact (List.mem_filter.mp hm).2

lemma recordedFor_entries {sha256File : Bytes → H} {t : PatchTree} {es : List (PatchEntry H)}
    (h : patchEntries sha256File t = .ok es) (d : Dependency) :
    ∃ l, t.dir d = .real l ∧ recordedFor es d = (sortBy fsdecode (patchNames l)).map (patchPath d) ∧
      ∀ n ∈ l.entries, n.name ∈ patchNames l → ∃ content, n.kind = .regular content := by
  have hself {d : Dependency} {es : List (PatchEntry H)} (h : ∀ e ∈ es, e.dependency = d) :
      es.filter (fun e => e.dependency = d) = es := List.filter_eq_self.mpr (by simpa using h)
  have hother {d d' : Dependency} {es : List (PatchEntry H)} (h : ∀ e ∈ es, e.dependency = d) (hd : d ≠ d') :
      es.filter (fun e => e.dependency = d') = [] := by
    refine List.filter_eq_nil_iff.mpr fun e he => ?_
    simpa [h e he] using hd
  unfold patchEntries at h
  cases hroot : t.rootReal with
  | false => simp [hroot, throw, throwThe, MonadExceptOf.throw, bind, Except.bind] at h
  | true =>
    cases hw : patchEntriesOf sha256File t .wine with
    | error e => simp [hroot, hw, bind, Except.bind] at h
    | ok wine =>
      cases hf : patchEntriesOf sha256File t .fex with
      | error e => simp [hroot, hw, hf, bind, Except.bind] at h
      | ok fex =>
        obtain rfl : wine ++ fex = es := by
          simpa [hroot, hw, hf, bind, Except.bind, pure, Except.pure] using h
        obtain ⟨lw, htw, hpw, hdw, hrw⟩ := patchEntriesOf_ok hw
        obtain ⟨lf, htf, hpf, hdf, hrf⟩ := patchEntriesOf_ok hf
        cases d with
        | wine =>
          refine ⟨lw, htw, ?_, hrw⟩
          rw [recordedFor, List.filter_append, hself hdw, hother hdf (by decide), List.append_nil, hpw]
        | fex =>
          refine ⟨lf, htf, ?_, hrf⟩
          rw [recordedFor, List.filter_append, hother hdw (by decide), hself hdf, List.nil_append, hpf]

lemma patches_real {l : Listing}
    (h : ∀ n ∈ l.entries, n.name ∈ patchNames l → ∃ content, n.kind = .regular content) :
    patches (.real l) = sortBy (List.map UInt8.toNat) ((patchNames l).filter fun a => !hidden a) := by
  have hf : (l.entries.map Node.name).filter shellMatches = (patchNames l).filter fun a => !hidden a := by
    rw [patchNames, List.filter_filter]
    congr 1
    funext a
    simp [shellMatches, hidden, Bool.and_comm]
  unfold patches expand
  simp only [hf]
  split_ifs with hn
  · -- the unexpanded pattern ends in `.patch` too, so it would have been among the names
    have he : (patchNames l).filter (fun a => !hidden a) = [] := by
      simpa [hn] using sortBy_perm (List.map UInt8.toNat) ((patchNames l).filter fun a => !hidden a)
    rw [hn, List.filter_eq_nil_iff]
    intro a ha hp
    obtain rfl := List.mem_singleton.mp ha
    simp only [present, List.any_eq_true, Bool.and_eq_true, beq_iff_eq] at hp
    obtain ⟨n, hm, hname, -⟩ := hp
    have hmem : bytes "*.patch" ∈ (patchNames l).filter fun a => !hidden a := by
      refine List.mem_filter.mpr ⟨List.mem_filter.mpr ⟨List.mem_map.mpr ⟨n, hm, hname⟩, by decide⟩, by decide⟩
    rw [he] at hmem
    cases hmem
  · refine List.filter_eq_self.mpr fun a ha => ?_
    have hp := (List.mem_filter.mp (mem_sortBy.mp ha)).1
    obtain ⟨n, hm, rfl⟩ := List.mem_map.mp (List.mem_filter.mp hp).1
    obtain ⟨content, hk⟩ := h n hm hp
    simp only [present, List.any_eq_true, Bool.and_eq_true, beq_iff_eq]
    exact ⟨n, hm, rfl, by rw [hk]⟩

lemma foldlM_applyPatch {c : Commands} {d : Dependency} {ps applied done : List Bytes}
    (h : ps.foldlM (applyPatch c d) applied = some done) : done = applied ++ ps := by
  induction ps generalizing applied with
  | nil => simpa using h.symm
  | cons p ps ih =>
    rw [List.foldlM_cons] at h
    obtain ⟨a, ha, hr⟩ := Option.bind_eq_some_iff.mp h
    unfold applyPatch at ha
    split_ifs at ha
    obtain rfl := Option.some.inj ha
    simpa using ih hr

lemma prepare_some {c : Commands} {t : PatchTree} {s s' : Sources} {d : Dependency}
    (h : prepare c t s d = some s') : s' = Function.update s d (some (patches (t.dir d))) := by
  unfold prepare at h
  split_ifs at h
  obtain ⟨applied, ha, rfl⟩ := Option.map_eq_some_iff.mp h
  rw [foldlM_applyPatch ha, List.nil_append]

lemma applyPatches_some {sha256File : Bytes → H} {c : Commands} {t : PatchTree} {s s' : Sources}
    {recorded : List (PatchEntry H)} (h : applyPatches sha256File c t s = some (s', recorded)) :
    patchEntries sha256File t = .ok recorded ∧ ∀ d, s' d = some (patches (t.dir d)) := by
  simp only [applyPatches, List.foldlM_cons, List.foldlM_nil, Option.bind_eq_bind,
    Option.bind_eq_some_iff, Option.pure_def] at h
  obtain ⟨es, he, s₂, ⟨s₁, hw, s₂', hf, h₂⟩, hm⟩ := h
  obtain rfl := Option.some.inj h₂
  split_ifs at hm
  obtain ⟨rfl, rfl⟩ := Prod.mk.inj (Option.some.inj hm)
  refine ⟨?_, fun d => ?_⟩
  · cases hp : patchEntries sha256File t <;> simp_all [Except.toOption]
  · rw [prepare_some hf, prepare_some hw]
    cases d <;> simp

lemma sameSeries_iff (l : Listing) :
    sortBy fsdecode (patchNames l) =
        sortBy (List.map UInt8.toNat) ((patchNames l).filter fun a => !hidden a) ↔ SameSeries l := by
  have hb : ∀ a ∈ patchNames l, ∀ b ∈ patchNames l, a.map UInt8.toNat = b.map UInt8.toNat → a = b :=
    fun a _ b _ h => List.map_injective_iff.mpr (fun _ _ => UInt8.toNat_inj.mp) h
  have ho := sortBy_eq_iff (fun a (_ : a ∈ patchNames l) b _ h => fsdecode_injective h) hb
  constructor
  · intro h
    have hl := congrArg List.length h
    rw [(sortBy_perm _ _).length_eq, (sortBy_perm _ _).length_eq, eq_comm,
      List.length_filter_eq_length_iff] at hl
    refine ⟨fun a ha => by simpa using hl a ha, ho.mp ?_⟩
    rw [h, List.filter_eq_self.mpr hl]
  · rintro ⟨hh, hs⟩
    rw [List.filter_eq_self.mpr fun a ha => by simp [hh a ha]]
    exact ho.mpr hs

/-- After a run that exits with status 0 the recorded series are the applied ones exactly when each
patch directory meets the condition. -/
theorem recorded_eq_applied_iff (sha256File : Bytes → H) (c : Commands) (t : PatchTree) (s s' : Sources)
    (recorded : List (PatchEntry H)) (h : applyPatches sha256File c t s = some (s', recorded)) :
    (∀ d, appliedFor s' d = some (recordedFor recorded d)) ↔
      ∀ d l, t.dir d = .real l → SameSeries l := by
  obtain ⟨he, hs⟩ := applyPatches_some h
  refine forall_congr' fun d => ?_
  obtain ⟨l, hl, hr, hk⟩ := recordedFor_entries he d
  have hl' : (∀ l', t.dir d = .real l' → SameSeries l') ↔ SameSeries l := by
    simp [hl]
  rw [hl', ← sameSeries_iff, appliedFor, hs d, hl, hr, patches_real hk, Option.map_some,
    Option.some.injEq, eq_comm, List.map_inj_right fun _ _ h => patchPath_injective d h]

def succeeding : Commands where
  row _ := true
  remove _ := true
  mkdir _ := true
  tar _ := true
  check _ _ := true
  apply _ _ := true
  move := true

def emptyListing : Listing := ⟨[], by simp, by simp⟩

def wineTree (l : Listing) : PatchTree where
  rootReal := true
  dir
    | .wine => .real l
    | .fex => .real emptyListing

def runOn (l : Listing) : Option (Sources × List (PatchEntry ℕ)) :=
  applyPatches List.length succeeding (wineTree l) fun _ => none

def hiddenListing : Listing :=
  ⟨[⟨bytes ".0001-first.patch", .regular []⟩, ⟨bytes "0002-second.patch", .regular []⟩],
    by decide, by decide⟩

def numberedListing : Listing :=
  ⟨[⟨bytes "0002-second.patch", .regular []⟩, ⟨bytes "0001-first.patch", .regular []⟩,
    ⟨bytes "series", .directory⟩],
    by decide, by decide⟩

def undecodableListing : Listing :=
  ⟨[⟨0x80 :: bytes ".patch", .regular []⟩, ⟨0xC3 :: 0xA9 :: bytes ".patch", .regular []⟩],
    by decide, by decide⟩

/-- A name that starts with a dot is recorded and never applied, and a name that is no UTF-8 is
recorded after one it is applied before. -/
theorem recorded_ne_applied :
    (∃ h : (runOn hiddenListing).isSome = true, appliedFor ((runOn hiddenListing).get h).1 .wine ≠
      some (recordedFor ((runOn hiddenListing).get h).2 .wine)) ∧
    ∃ h : (runOn undecodableListing).isSome = true, appliedFor ((runOn undecodableListing).get h).1 .wine ≠
      some (recordedFor ((runOn undecodableListing).get h).2 .wine) := by
  decide

theorem recorded_eq_applied_numbered :
    ∃ h : (runOn numberedListing).isSome = true, ((∀ d, appliedFor ((runOn numberedListing).get h).1 d =
        some (recordedFor ((runOn numberedListing).get h).2 d)) ↔
      ∀ d l, (wineTree numberedListing).dir d = .real l → SameSeries l) :=
  ⟨by decide, recorded_eq_applied_iff _ succeeding (wineTree numberedListing) _ _ _
    (Option.some_get (by decide)).symm⟩

end Graft64.Runtime.PatchSeries
