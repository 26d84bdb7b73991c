import Graft64.Library.PrefixFree
import Graft64.Library.Results
import Graft64.Runtime.PatchSeries

/-! `build-runtime-linux-arm64.sh`: the fingerprint of the build inputs. -/

namespace Graft64.Runtime.Fingerprint

open Graft64.Library Utf8 Results PatchSeries

inductive Input
  | depsLock
  | dockerfile
  | fetchUpstream
  | applyPatches
  | prepareFexSubmodules
  | buildRuntime
  deriving DecidableEq

def Input.logicalPath : Input → String
  | .depsLock => "third_party/manifest/deps.lock"
  | .dockerfile => "containers/runtime-builder/Dockerfile"
  | .fetchUpstream => "scripts/fetch-upstream.sh"
  | .applyPatches => "scripts/apply-patches.sh"
  | .prepareFexSubmodules => "scripts/prepare-fex-submodules.sh"
  | .buildRuntime => "scripts/build-runtime-linux-arm64.sh"

def Input.all : List Input :=
  [.depsLock, .dockerfile, .fetchUpstream, .applyPatches, .prepareFexSubmodules, .buildRuntime]

structure BuildTree where
  file : Input → Option Bytes
  patches : PatchTree

inductive Failure
  | refused (r : Refusal)
  | notFound (logicalPath : Str)
  | unicode
  | struct

abbrev Item := Str × Option Bytes

def patchInput (d : Dependency) (n : Node) : Except Failure Item :=
  match n.kind with
  | .regular content => .ok (patchPath d n.name, some content)
  | _ => .error (.refused (.notRegular d n.name))

def patchInputs (t : PatchTree) (d : Dependency) : Except Failure (List Item) :=
  match t.dir d with
  | .unreal => .error (.refused (.patchDir d))
  | .real l => (sortedGlob l).mapM (patchInput d)

def inputs (t : BuildTree) : Except Failure (List Item) := do
  if t.patches.rootReal = false then throw (.refused .patchesRoot)
  let wine ← patchInputs t.patches .wine
  let fex ← patchInputs t.patches .fex
  return Input.all.map (fun i => (lit i.logicalPath, t.file i)) ++ (wine ++ fex)

def header : Bytes := bytes "Graft64 build inputs v1" ++ [0]

/-- One round of the loop that feeds the hash; `struct.pack(">Q", n)` is `bigEndian 8 n`. -/
def update (stream : Bytes) (input : Item) : Except Failure Bytes := do
  let contents ← orError (.notFound input.1) input.2
  let name ← orError .unicode (encode input.1)
  let nameLength ← orError .struct (bigEndian 8 name.length)
  let contentsLength ← orError .struct (bigEndian 8 contents.length)
  return stream ++ nameLength ++ name ++ contentsLength ++ contents

def stream (inputs : List Item) : Except Failure Bytes := inputs.foldlM update header

variable {D : Type}

def fingerprint (sha256 : Bytes → D) (t : BuildTree) : Except Failure D := do
  let inputs ← inputs t
  let stream ← stream inputs
  return sha256 stream

def patchSet (t : PatchTree) (d : Dependency) : Set (Bytes × Bytes) :=
  {p | ∃ l, t.dir d = .real l ∧ p.1 ∈ patchNames l ∧ ⟨p.1, .regular p.2⟩ ∈ l.entries}

def entry (input : Item) : Option Bytes :=
  (input.2.bind fun contents => (encode input.1).map fun name => (name, contents)).bind
    (PrefixFree.both (frame 8) (frame 8))

lemma entry_prefixFree : PrefixFree entry := by
  apply PrefixFree.bind_prefixFree (PrefixFree.both_prefixFree (frame_prefixFree 8) (frame_prefixFree 8))
  rintro ⟨s, c⟩ ⟨t, c'⟩ ⟨name, contents⟩ hs ht
  obtain ⟨_, rfl, hs⟩ := Option.bind_eq_some_iff.mp hs
  obtain ⟨_, rfl, ht⟩ := Option.bind_eq_some_iff.mp ht
  obtain ⟨n, hn, hs⟩ := Option.map_eq_some_iff.mp hs
  obtain ⟨m, hm, ht⟩ := Option.map_eq_some_iff.mp ht
  obtain ⟨rfl, rfl⟩ := Prod.mk.inj hs
  obtain ⟨rfl, rfl⟩ := Prod.mk.inj ht
  have hst := (decode_encode hn).symm.trans (decode_encode hm)
  obtain rfl : s = t := Option.some.inj hst
  rfl

lemma entry_ne_nil (input : Item) : entry input ≠ some [] := by
  intro h
  obtain ⟨p, -, h⟩ := Option.bind_eq_some_iff.mp h
  obtain ⟨x, y, hx, -, hxy⟩ := PrefixFree.of_both_eq_some h
  obtain ⟨rfl, -⟩ := List.append_eq_nil_iff.mp hxy
  exact frame_ne_nil (by decide) _ hx

lemma update_ok {s s' : Bytes} {input : Item} (h : update s input = .ok s') :
    ∃ w, entry input = some w ∧ s' = s ++ w := by
  obtain ⟨contents, hc, h⟩ := of_bind_eq_ok h
  obtain ⟨name, hn, h⟩ := of_bind_eq_ok h
  obtain ⟨n, hnl, h⟩ := of_bind_eq_ok h
  obtain ⟨m, hml, h⟩ := of_bind_eq_ok h
  obtain rfl := Except.ok.inj h
  refine ⟨(n ++ name) ++ (m ++ contents), ?_, by simp⟩
  simp [entry, PrefixFree.both, frame, of_orError_eq_ok hc, of_orError_eq_ok hn, of_orError_eq_ok hnl,
    of_orError_eq_ok hml]

lemma foldlM_update {is : List Item} {s s' : Bytes} (h : is.foldlM update s = .ok s') :
    ∃ w, PrefixFree.sequence entry is = some w ∧ s' = s ++ w := by
  induction is generalizing s with
  | nil => exact ⟨[], rfl, by simpa using (Except.ok.inj h).symm⟩
  | cons i is ih =>
    rw [List.foldlM_cons] at h
    obtain ⟨s₁, hi, h⟩ := of_bind_eq_ok h
    obtain ⟨v, hv, rfl⟩ := update_ok hi
    obtain ⟨w, hw, rfl⟩ := ih h
    exact ⟨v ++ w, by simp [PrefixFree.sequence, hv, hw], by simp⟩

lemma stream_injective {is js : List Item} {s : Bytes} (hi : stream is = .ok s) (hj : stream js = .ok s) :
    is = js := by
  obtain ⟨v, hv, rfl⟩ := foldlM_update hi
  obtain ⟨w, hw, h⟩ := foldlM_update hj
  obtain rfl := List.append_cancel_left h
  exact PrefixFree.sequence_injective entry_prefixFree entry_ne_nil hv hw

def Fits (input : Item) : Prop := ∃ contents name, input.2 = some contents ∧ encode input.1 = some name ∧
  name.length < 2 ^ 64 ∧ contents.length < 2 ^ 64

lemma update_ok_iff {s : Bytes} {input : Item} : (∃ s', update s input = .ok s') ↔ Fits input := by
  have hp : (2 : ℕ) ^ 64 = 256 ^ 8 := by norm_num
  constructor
  · rintro ⟨s', h⟩
    obtain ⟨contents, hc, h⟩ := of_bind_eq_ok h
    obtain ⟨name, hn, h⟩ := of_bind_eq_ok h
    obtain ⟨n, hnl, h⟩ := of_bind_eq_ok h
    obtain ⟨m, hml, -⟩ := of_bind_eq_ok h
    refine ⟨contents, name, of_orError_eq_ok hc, of_orError_eq_ok hn, ?_⟩
    rw [hp]
    exact ⟨(Option.ite_none_right_eq_some.mp (of_orError_eq_ok hnl)).1,
      (Option.ite_none_right_eq_some.mp (of_orError_eq_ok hml)).1⟩
  · rintro ⟨contents, name, hc, hn, hnl, hml⟩
    rw [hp] at hnl hml
    have hname : bigEndian 8 name.length = some _ := if_pos hnl
    have hcontents : bigEndian 8 contents.length = some _ := if_pos hml
    simp [update, hc, hn, orError, hname, hcontents, bind, Except.bind, pure, Except.pure]

theorem stream_ok_iff {is : List Item} : (∃ s, stream is = .ok s) ↔ ∀ i ∈ is, Fits i := by
  unfold stream
  generalize header = s
  induction is generalizing s with
  | nil => exact ⟨by simp, fun _ => ⟨s, rfl⟩⟩
  | cons i is ih =>
    rw [List.forall_mem_cons, List.foldlM_cons, ← update_ok_iff (s := s)]
    constructor
    · rintro ⟨s', h⟩
      obtain ⟨s₁, hi, h⟩ := of_bind_eq_ok h
      exact ⟨⟨s₁, hi⟩, (ih s₁).mp ⟨s', h⟩⟩
    · rintro ⟨⟨s₁, hi⟩, his⟩
      obtain ⟨s', h⟩ := (ih s₁).mpr his
      refine ⟨s', ?_⟩
      rw [hi]
      exact h

lemma take_patchPath (d : Dependency) (name : Bytes) :
    (patchPath d name).take 11 = (lit "patches/" ++ lit d.name ++ lit "/").take 11 := by
  cases d <;> rfl

lemma patchPath_dependency {d d' : Dependency} {a b : Bytes} (h : patchPath d a = patchPath d' b) : d = d' := by
  have ht := congrArg (List.take 11) h
  rw [take_patchPath, take_patchPath] at ht
  cases d <;> cases d' <;> first | rfl | (revert ht; decide)

lemma patchInput_ok {d : Dependency} {n : Node} {i : Item} (h : patchInput d n = .ok i) :
    ∃ content, n.kind = .regular content ∧ i = (patchPath d n.name, some content) := by
  unfold patchInput at h
  split at h
  · exact ⟨_, ‹_›, (Except.ok.inj h).symm⟩
  · cases h

lemma mem_patchInputs {t : PatchTree} {d : Dependency} {is : List Item} (h : patchInputs t d = .ok is) {i : Item} :
    i ∈ is ↔ ∃ p ∈ patchSet t d, i = (patchPath d p.1, some p.2) := by
  unfold patchInputs at h
  split at h
  · cases h
  · rename_i l hl
    rw [mem_of_mapM_eq_ok h]
    constructor
    · rintro ⟨n, hn, hi⟩
      obtain ⟨content, hk, rfl⟩ := patchInput_ok hi
      rw [sortedGlob, mem_sortBy, List.mem_filter, globMatches_fsdecode] at hn
      refine ⟨(n.name, content), ⟨l, hl, ?_, ?_⟩, rfl⟩
      · exact List.mem_filter.mpr ⟨List.mem_map.mpr ⟨n, hn.1, rfl⟩, hn.2⟩
      · rw [← hk]
        exact hn.1
    · rintro ⟨⟨name, content⟩, ⟨l', hl', hn, hm⟩, rfl⟩
      obtain rfl : l = l' := Dir.real.inj (hl.symm.trans hl')
      refine ⟨⟨name, .regular content⟩, ?_, rfl⟩
      rw [sortedGlob, mem_sortBy, List.mem_filter, globMatches_fsdecode]
      exact ⟨hm, (List.mem_filter.mp hn).2⟩

lemma inputs_ok {t : BuildTree} {is : List Item} (h : inputs t = .ok is) :
    ∃ wine fex, patchInputs t.patches .wine = .ok wine ∧ patchInputs t.patches .fex = .ok fex ∧
      is = Input.all.map (fun i => (lit i.logicalPath, t.file i)) ++ (wine ++ fex) := by
  unfold inputs at h
  by_cases hr : t.patches.rootReal = false
  · rw [if_pos hr] at h
    cases h
  · rw [if_neg hr] at h
    obtain ⟨wine, hw, h⟩ := of_bind_eq_ok h
    obtain ⟨fex, hf, h⟩ := of_bind_eq_ok h
    exact ⟨wine, fex, hw, hf, (Except.ok.inj h).symm⟩

lemma mem_patchSet {t : PatchTree} {wine fex : List Item} (hw : patchInputs t .wine = .ok wine)
    (hf : patchInputs t .fex = .ok fex) (d : Dependency) (p : Bytes × Bytes) :
    p ∈ patchSet t d ↔ (patchPath d p.1, some p.2) ∈ wine ++ fex := by
  have hd (d' : Dependency) : (∃ q ∈ patchSet t d', (patchPath d p.1, some p.2) = (patchPath d' q.1, some q.2)) ↔
      d = d' ∧ p ∈ patchSet t d := by
    constructor
    · rintro ⟨q, hq, he⟩
      obtain ⟨hpath, hcontent⟩ := Prod.mk.inj he
      obtain rfl := patchPath_dependency hpath
      obtain rfl : p = q := Prod.ext (patchPath_injective d hpath) (Option.some.inj hcontent)
      exact ⟨rfl, hq⟩
    · rintro ⟨rfl, hp⟩
      exact ⟨p, hp, rfl⟩
  rw [List.mem_append, mem_patchInputs hw, mem_patchInputs hf, hd, hd]
  cases d <;> simp

lemma inputs_injective {t t' : BuildTree} {is : List Item} (h : inputs t = .ok is) (h' : inputs t' = .ok is) :
    t.file = t'.file ∧ ∀ d, patchSet t.patches d = patchSet t'.patches d := by
  obtain ⟨wine, fex, hw, hf, rfl⟩ := inputs_ok h
  obtain ⟨wine', fex', hw', hf', he⟩ := inputs_ok h'
  obtain ⟨hfile, hpatch⟩ := List.append_inj he (by simp)
  refine ⟨?_, ?_⟩
  · funext i
    have hm : i ∈ Input.all := by cases i <;> decide
    exact (Prod.mk.inj (List.map_inj_left.mp hfile i hm)).2
  · intro d
    ext p
    rw [mem_patchSet hw hf, mem_patchSet hw' hf', hpatch]

lemma stream_file {t : BuildTree} {is : List Item} {s : Bytes} (hi : inputs t = .ok is) (hs : stream is = .ok s)
    (i : Input) : ∃ content, t.file i = some content := by
  obtain ⟨wine, fex, -, -, rfl⟩ := inputs_ok hi
  have hm : (lit i.logicalPath, t.file i) ∈
      Input.all.map (fun i => (lit i.logicalPath, t.file i)) ++ (wine ++ fex) := by
    refine List.mem_append_left _ (List.mem_map.mpr ⟨i, ?_, rfl⟩)
    cases i <;> decide
  obtain ⟨content, _, hc, -⟩ := stream_ok_iff.mp ⟨s, hs⟩ _ hm
  exact ⟨content, hc⟩

/-- The fingerprint is a function of the bytes fed to the hash, and those show every input; two builds
whose streams do not collide have the same fingerprint only when they have the same inputs. -/
theorem fingerprint_injective (sha256 : Bytes → D) :
    (∀ is js s, stream is = .ok s → stream js = .ok s → is = js) ∧
    ∀ t t' d, (∀ s s', (inputs t).bind stream = .ok s → (inputs t').bind stream = .ok s' →
        sha256 s = sha256 s' → s = s') →
      fingerprint sha256 t = .ok d → fingerprint sha256 t' = .ok d →
      (∀ i, ∃ content, t.file i = some content ∧ t'.file i = some content) ∧
        ∀ dependency, patchSet t.patches dependency = patchSet t'.patches dependency := by
  refine ⟨fun _ _ _ => stream_injective, ?_⟩
  intro t t' d hs h h'
  obtain ⟨is, hi, h⟩ := of_bind_eq_ok h
  obtain ⟨s, hst, h⟩ := of_bind_eq_ok h
  obtain ⟨js, hj, h'⟩ := of_bind_eq_ok h'
  obtain ⟨s', hst', h'⟩ := of_bind_eq_ok h'
  have he := (Except.ok.inj h).trans (Except.ok.inj h').symm
  obtain rfl := hs s s' (by rw [hi]; exact hst) (by rw [hj]; exact hst') he
  obtain rfl := stream_injective hst hst'
  obtain ⟨hfile, hpatch⟩ := inputs_injective hi hj
  refine ⟨?_, hpatch⟩
  intro i
  obtain ⟨content, hc⟩ := stream_file hi hst i
  exact ⟨content, hc, hfile ▸ hc⟩

def orderedListing : Listing :=
  ⟨[⟨bytes "0001-first.patch", .regular []⟩, ⟨bytes "0002-second.patch", .regular []⟩,
    ⟨bytes "series", .directory⟩],
    by decide, by decide⟩

def sample (l : Listing) : BuildTree where
  file i := some (bytes i.logicalPath)
  patches := wineTree l

theorem fingerprint_injective_ordered :
    (∃ d, fingerprint id (sample numberedListing) = .ok d ∧ fingerprint id (sample orderedListing) = .ok d) ∧
    patchSet (sample numberedListing).patches .wine = patchSet (sample orderedListing).patches .wine :=
  have h : ∃ d, fingerprint id (sample numberedListing) = .ok d ∧ fingerprint id (sample orderedListing) = .ok d :=
    ⟨_, rfl, rfl⟩
  ⟨h, h.elim fun d hd => ((fingerprint_injective id).2 _ _ d (fun _ _ _ _ hs => hs) hd.1 hd.2).2 .wine⟩

end Graft64.Runtime.Fingerprint
