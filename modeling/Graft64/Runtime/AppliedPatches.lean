import Graft64.Runtime.Reverify

/-! `applied-patches.json`: the record that `apply-patches.sh` leaves, and the manifest tool's check of the patch
directories against it. -/

namespace Graft64.Runtime.Manifest

open Graft64.Library Utf8 Results Json
open PatchSeries (Dependency PatchEntry Listing Node patchPath patchNames patchEntries patchEntriesOf
  sortedGlob patchEntry)

/-- What `json.dump` writes of the entries, and the newline after it. -/
def patchesText (es : List (PatchEntry Digest)) : Str := dumps (patchesJson es) ++ [10]

structure Recorded (v : Setting) (fs : FileSystem) (runtime : Path) (es : List (PatchEntry Digest)) : Prop where
  regular : fs.isLink (statePath runtime) = false
  content : fs.readBytes v.steps (statePath runtime) = encode (patchesText es)

def patchDigest (v : Setting) (fs : FileSystem) (repository : Path) (d : Dependency) (name : Utf8.Bytes) :
    Option Digest :=
  match fs.get (patchFile repository d name) with
  | some (.file f _) => some (v.sha256 f.bytes)
  | _ => none

variable {v : Setting} {fs fs' : FileSystem} {runtime repository : Path} {es es' : List (PatchEntry Digest)}

lemma patchesText_printed (es : List (PatchEntry Digest)) : 13 ∉ patchesText es := by
  intro h
  rcases List.mem_append.mp h with h | h
  · have := printed_render 0 (sortKeys (patchesJson es)) 13 h
    omega
  · exact absurd (List.mem_singleton.mp h) (by decide)

lemma encode_patchesText (es : List (PatchEntry Digest)) :
    encode (patchesText es) = some ((patchesText es).map UInt8.ofNat) :=
  encode_ascii (List.forall_mem_append.mpr ⟨render_ascii 0 _, by decide⟩)

lemma Recorded.readJson (h : Recorded v fs runtime es) (hl : ∀ e ∈ es, Lowly e.path) :
    readJson v fs (statePath runtime) = some (sortKeys (patchesJson es)) := by
  have hbs := encode_patchesText es
  have hstrings : Strings Unpaired (patchesJson es) := strings_map fun e he => strings_patchJson (hl e he)
  rw [readJson_encoded (h.content.trans hbs) hbs, universalNewlines_of_not_mem (patchesText_printed es)]
  exact parse_dumps true hstrings (by decide)

lemma applied_recorded_iff (h : Recorded v fs runtime es) (hl : ∀ e ∈ es, Lowly e.path) :
    appliedPatchEntries v fs runtime repository = .ok es' ↔
      patchEntries v.sha256 (patchTree v fs repository) = .ok es' ∧ es' = es := by
  have hfile : fs.isFile v.steps (statePath runtime) = true := by
    rw [FileSystem.isFile]
    change (fs.readBytes v.steps (statePath runtime)).isSome = true
    rw [h.content, encode_patchesText]
    rfl
  constructor
  · intro ha
    have hseries := appliedPatchEntries_ok ha
    refine ⟨hseries, ?_⟩
    rw [appliedPatchEntries, hseries] at ha
    obtain ⟨_, hexpected, ha⟩ := of_bind_eq_ok ha
    obtain rfl := Except.ok.inj hexpected
    rw [statePath] at hfile
    simp only [hfile, Bool.not_true, Bool.false_eq_true, if_false] at ha
    obtain ⟨_, -, ha⟩ := of_bind_eq_ok ha
    obtain ⟨found, hfound, ha⟩ := of_bind_eq_ok ha
    obtain ⟨_, hsame, -⟩ := of_bind_eq_ok ha
    obtain rfl := Option.some.inj ((h.readJson hl).symm.trans (of_orError_eq_ok hfound))
    exact (patches_of_eqv (of_ensure hsame)).symm
  · rintro ⟨hseries, rfl⟩
    have hsame : (sortKeys (patchesJson es')).eqv true (patchesJson es') = true :=
      eqv_sortKeys true _ (strings_map (P := Unpaired) fun e he => strings_patchJson (hl e he))
        (distinct_patches es')
    have hread := h.readJson hl
    have hlink := h.regular
    rw [statePath] at hfile hread hlink
    rw [appliedPatchEntries, hseries]
    simp only [Except.mapError, hfile, hread, hlink, hsame, orError, ensure, bind, Except.bind, Bool.not_true,
      Bool.not_false, Bool.false_eq_true, if_false, if_true]
    rfl

lemma patchDigest_eq_some_iff {d : Dependency} {name : Utf8.Bytes} {digest : Digest} :
    patchDigest v fs repository d name = some digest ↔
      ∃ f x, fs.get (patchFile repository d name) = some (.file f x) ∧ digest = v.sha256 f.bytes := by
  rw [patchDigest]
  cases fs.get (patchFile repository d name) with
  | none => simp
  | some e => cases e <;> simp [eq_comm]

lemma mem_patchEntries_digest (h : patchEntries v.sha256 (patchTree v fs repository) = .ok es) {d : Dependency}
    {name : Utf8.Bytes} {digest : Digest} : ⟨d, patchPath d name, digest⟩ ∈ es ↔
      (bytes ".patch") <:+ name ∧ patchDigest v fs repository d name = some digest := by
  rw [mem_patchEntries h, patchDigest_eq_some_iff]

lemma mem_patchEntriesOf_digest {d : Dependency}
    (h : patchEntriesOf v.sha256 (patchTree v fs repository) d = .ok es)
    {name : Utf8.Bytes} {digest : Digest} : ⟨d, patchPath d name, digest⟩ ∈ es ↔
      (bytes ".patch") <:+ name ∧ patchDigest v fs repository d name = some digest := by
  rw [mem_patchEntriesOf h, patchDigest_eq_some_iff, and_iff_right rfl]

lemma patchEntriesOf_paths {d : Dependency} (h : patchEntriesOf v.sha256 (patchTree v fs repository) d = .ok es) :
    ∃ names : List Utf8.Bytes, names.Nodup ∧ es.map PatchEntry.path = (sortBy fsdecode names).map (patchPath d) ∧
      (∀ e ∈ es, e.dependency = d) ∧
      ∀ name, name ∈ names ↔ (bytes ".patch") <:+ name ∧ patchDigest v fs repository d name ≠ none := by
  obtain ⟨l, -, hpaths, hd, -⟩ := PatchSeries.patchEntriesOf_ok h
  have hnodup : (patchNames l).Nodup := l.nodup.filter _
  refine ⟨patchNames l, hnodup, hpaths, hd, fun name => ?_⟩
  have hmem : name ∈ patchNames l ↔ ∃ e ∈ es, e.path = patchPath d name := by
    rw [← List.mem_map, hpaths, List.mem_map]
    constructor
    · exact fun hn => ⟨name, mem_sortBy.mpr hn, rfl⟩
    · rintro ⟨name', hn, he⟩
      rw [← PatchSeries.patchPath_injective d he]
      exact mem_sortBy.mp hn
  rw [hmem]
  constructor
  · rintro ⟨e, he, hp⟩
    have hentry : e = ⟨d, patchPath d name, e.sha256⟩ := by
      rw [← hp, ← hd e he]
    rw [hentry, mem_patchEntriesOf_digest h] at he
    exact ⟨he.1, by simp [he.2]⟩
  · rintro ⟨hsuffix, hne⟩
    obtain ⟨digest, hdigest⟩ := Option.ne_none_iff_exists'.mp hne
    exact ⟨_, (mem_patchEntriesOf_digest h).mpr ⟨hsuffix, hdigest⟩, rfl⟩

lemma eq_of_map_eq {α β : Type} {f : α → β} {l l' : List α} (hmap : l'.map f = l.map f) (hn : (l.map f).Nodup)
    (h : ∀ a ∈ l', a ∈ l) : l' = l := by
  induction l generalizing l' with
  | nil => exact List.map_eq_nil_iff.mp hmap
  | cons a l ih =>
    obtain ⟨b, l', rfl, hb, htail⟩ := List.map_eq_cons_iff.mp hmap
    rw [List.map_cons, List.nodup_cons] at hn
    obtain ⟨hb', h⟩ := List.forall_mem_cons.mp h
    have hba : b = a := (List.mem_cons.mp hb').resolve_right fun hm => hn.1 (hb ▸ List.mem_map_of_mem hm)
    rw [hba, ih htail hn.2 fun c hc => (List.mem_cons.mp (h c hc)).resolve_left ?_]
    rintro rfl
    exact hn.1 (htail ▸ List.mem_map_of_mem hc)

lemma patchEntriesOf_eq {d : Dependency} (h : patchEntriesOf v.sha256 (patchTree v fs repository) d = .ok es)
    (h' : patchEntriesOf v.sha256 (patchTree v fs' repository) d = .ok es')
    (hsame : ∀ name, (bytes ".patch") <:+ name →
      patchDigest v fs' repository d name = patchDigest v fs repository d name) :
    es' = es := by
  obtain ⟨names, hnodup, hpaths, hd, hmem⟩ := patchEntriesOf_paths h
  obtain ⟨names', hnodup', hpaths', hd', hmem'⟩ := patchEntriesOf_paths h'
  have hperm : names'.Perm names := by
    rw [List.perm_ext_iff_of_nodup hnodup' hnodup]
    intro name
    rw [hmem, hmem']
    exact and_congr_right fun hn => by rw [hsame name hn]
  have hsorted : sortBy fsdecode names' = sortBy fsdecode names :=
    sortBy_unique (fun a _ b _ hab => fsdecode_injective hab) ((sortBy_perm _ _).trans hperm) (sortBy_pairwise _ _)
  refine eq_of_map_eq (f := PatchEntry.path) (by rw [hpaths', hpaths, hsorted]) ?_ fun e he => ?_
  · rw [hpaths, List.nodup_map_iff (PatchSeries.patchPath_injective d)]
    exact sortBy_nodup hnodup
  · have hp : e.path ∈ (sortBy fsdecode names').map (patchPath d) := hpaths' ▸ List.mem_map_of_mem he
    obtain ⟨name, -, hp⟩ := List.mem_map.mp hp
    have hentry : e = ⟨d, patchPath d name, e.sha256⟩ := by
      rw [hp, ← hd' e he]
    rw [hentry, mem_patchEntriesOf_digest h'] at he
    rw [hentry, mem_patchEntriesOf_digest h, ← hsame name he.1]
    exact he

lemma patchEntries_eq_iff (h : patchEntries v.sha256 (patchTree v fs repository) = .ok es)
    (h' : patchEntries v.sha256 (patchTree v fs' repository) = .ok es') :
    es' = es ↔ ∀ d name, (bytes ".patch") <:+ name →
      patchDigest v fs' repository d name = patchDigest v fs repository d name := by
  constructor
  · rintro rfl d name hsuffix
    refine Option.ext fun digest => ?_
    have hmem : (⟨d, patchPath d name, digest⟩ : PatchEntry Digest) ∈ es' ↔ _ := mem_patchEntries_digest h
    have hmem' : (⟨d, patchPath d name, digest⟩ : PatchEntry Digest) ∈ es' ↔ _ := mem_patchEntries_digest h'
    rw [and_iff_right hsuffix] at hmem hmem'
    exact hmem'.symm.trans hmem
  · intro hsame
    obtain ⟨-, wine, fex, rfl, hwine, hfex⟩ := patchEntries_cases h
    obtain ⟨-, wine', fex', rfl, hwine', hfex'⟩ := patchEntries_cases h'
    rw [patchEntriesOf_eq hwine hwine' (hsame .wine), patchEntriesOf_eq hfex hfex' (hsame .fex)]

/-- The manifest tool takes the record that `apply-patches.sh` left for the state of the patch directories exactly
when they can be read and every patch still has the digest it had. -/
theorem applied_patches_accepted_iff {applied : FileSystem}
    (h : patchEntries v.sha256 (patchTree v applied repository) = .ok es) (hr : Recorded v fs runtime es) :
    appliedPatchEntries v fs runtime repository = .ok es' ↔
      patchEntries v.sha256 (patchTree v fs repository) = .ok es' ∧ ∀ d name, (bytes ".patch") <:+ name →
        patchDigest v fs repository d name = patchDigest v applied repository d name := by
  rw [applied_recorded_iff hr (lowly_patches h)]
  exact and_congr_right fun h' => patchEntries_eq_iff h h'

def sampleEntries : List (PatchEntry Digest) :=
  [⟨.wine, patchPath .wine (bytes "0001-first.patch"), lengthDigest (bytes "diff")⟩]

def sampleRecord : Unpack.Bytes := (patchesText sampleEntries).map UInt8.ofNat

lemma samplePatch_length_lt : (bytes "diff").length < 2 ^ 63 := by decide

lemma sampleRecord_length_lt : sampleRecord.length < 2 ^ 63 := by decide +kernel

def patchesOnly : List (Path × Entry) :=
  [([bytes "out"], .dir), ([bytes "src"], .dir), ([bytes "src", bytes "patches"], .dir),
    ([bytes "src", bytes "patches", bytes "wine"], .dir), ([bytes "src", bytes "patches", bytes "fex"], .dir),
    ([bytes "src", bytes "patches", bytes "wine", bytes "0001-first.patch"],
      .file ⟨bytes "diff", samplePatch_length_lt⟩ false)]

def patchedTree : FileSystem where
  entries := patchesOnly
  nodup := by decide
  names := by decide
  parents := by simp [patchesOnly]

/-- The tree later: the record is there, and a file beside the patches. -/
def recordedTree : FileSystem where
  entries := patchesOnly ++
    [([bytes "out", bytes "applied-patches.json"], .file ⟨sampleRecord, sampleRecord_length_lt⟩ false),
      ([bytes "src", bytes "patches", bytes "wine", bytes "series"],
        .file ⟨bytes "diff", samplePatch_length_lt⟩ false)]
  nodup := by decide
  names := by decide
  parents := by simp [patchesOnly]

lemma patchedTree_entries :
    patchEntries lengthSetting.sha256 (patchTree lengthSetting patchedTree [bytes "src"]) = .ok sampleEntries := by
  rfl

lemma recordedTree_recorded : Recorded lengthSetting recordedTree [bytes "out"] sampleEntries := by
  refine ⟨by decide, ?_⟩
  rw [encode_patchesText]
  rfl

theorem applied_patches_accepted_sample :
    appliedPatchEntries lengthSetting recordedTree [bytes "out"] [bytes "src"] = .ok sampleEntries ↔
      patchEntries lengthSetting.sha256 (patchTree lengthSetting recordedTree [bytes "src"]) = .ok sampleEntries ∧
        ∀ d name, (bytes ".patch") <:+ name →
          patchDigest lengthSetting recordedTree [bytes "src"] d name =
            patchDigest lengthSetting patchedTree [bytes "src"] d name :=
  applied_patches_accepted_iff patchedTree_entries recordedTree_recorded

end Graft64.Runtime.Manifest
