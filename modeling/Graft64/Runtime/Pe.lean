import Graft64.Library.Intervals
import Graft64.Library.Sorting
import Graft64.Library.Unpack

/-! `validate_pe_machine` and `validate_arm64ec_metadata`. -/

namespace Graft64.Runtime.Pe

open Graft64.Library LittleEndian Results Unpack Intervals

inductive Fault
  | notPe
  | headerOffset
  | machine (found expected : ℕ)
  | sectionTable
  | optionalHeader
  | truncatedTable
  | payload
  | noLoadConfig
  | imageAlignment
  | rva
  | truncatedConfig
  | configSize
  | noMetadata
  | metadata
  | rangeType
  | rangeExtent
  | rangeCrossing
  | noRanges
deriving DecidableEq

def u32 (bs : Bytes) (offset : ℕ) : Except (Raised Fault) ℕ := unpackFrom (field · 0 4) 4 bs offset

def u64 (bs : Bytes) (offset : ℕ) : Except (Raised Fault) ℕ := unpackFrom (field · 0 8) 8 bs offset

/-- The format `<II`. -/
def u32Pair (bs : Bytes) (offset : ℕ) : Except (Raised Fault) (ℕ × ℕ) :=
  unpackFrom (fun r => (field r 0 4, field r 4 4)) 8 bs offset

/-- `x & ~mask` -/
def andNot (x mask : ℕ) : ℕ := x ^^^ (x &&& mask)

structure Section where
  virtualSize : ℕ
  start : ℕ
  rawSize : ℕ
  rawOffset : ℕ
  flags : ℕ

/-- The formats `<IIII` at 8 and `<I` at 36 of a section record. -/
def readSection (record : Bytes) : Except (Raised Fault) Section :=
  (unpackFrom id 16 record 8).bind fun r =>
    (u32 record 36).map fun flags => ⟨field r 0 4, field r 4 4, field r 8 4, field r 12 4, flags⟩

def Section.executable (s : Section) : Bool := s.flags &&& 0x20000000 != 0

def mapped (sections : List Bytes) (rva size : ℕ) (executable : Bool) : Except (Raised Fault) ℕ :=
  (sections.mapM readSection).bind fun ss =>
    let found := ss.filter fun s =>
      decide (0 < size ∧ s.start ≤ rva ∧ rva - s.start + size ≤ min s.virtualSize s.rawSize) &&
        (!executable || s.executable)
    match found.map fun s => s.rawOffset + (rva - s.start) with
    | [offset] => .ok offset
    | _ => .error (.value .rva)

structure CodeMap where
  alignment : ℕ
  imageSize : ℕ
  table : ℕ
  count : ℕ

/-- `validate_arm64ec_metadata` up to the code map. -/
def locateCodeMap (image optional : Bytes) (sections : List Bytes) : Except (Raised Fault) CodeMap :=
  (either (.ok (optional.length < 200)) ((u32 optional 108).map fun n => decide (n ≤ 10))).bind fun lacking =>
  if lacking then .error (.value .noLoadConfig)
  else (u32 optional 32).bind fun alignment =>
  (u32 optional 56).bind fun imageSize =>
  if alignment = 0 ∨ alignment &&& (alignment - 1) ≠ 0 ∨ imageSize = 0 then .error (.value .imageAlignment)
  else (u32Pair optional 192).bind fun (configRva, configSize) =>
  if configSize < 208 then .error (.value .truncatedConfig)
  else (mapped sections configRva configSize false).bind fun config =>
  (u32 image config).bind fun declaredSize =>
  if declaredSize < 208 ∨ configSize < declaredSize then .error (.value .configSize)
  else (u64 optional 24).bind fun imageBase =>
  (u64 image (config + 200)).bind fun metadataVa =>
  if metadataVa ≤ imageBase then .error (.value .noMetadata)
  else (mapped sections (metadataVa - imageBase) 80 false).bind fun metadata =>
  (unpackFrom (fun r => (field r 0 4, field r 4 4, field r 8 4)) 12 image metadata).bind
    fun (version, codeMap, count) =>
  if (version ≠ 1 ∧ version ≠ 2) ∨ count = 0 ∨ image.length / 8 < count then .error (.value .metadata)
  else (if version = 2 then (mapped sections (metadataVa - imageBase) 92 false).map fun _ => () else .ok ()).bind
    fun _ =>
  (mapped sections codeMap (count * 8) false).map fun table => ⟨alignment, imageSize, table, count⟩

def Section.spanEnd (alignment : ℕ) (s : Section) : ℕ :=
  andNot (s.start + max s.virtualSize s.rawSize + alignment - 1) (alignment - 1)

def executableSpans (alignment : ℕ) (sections : List Section) : List (ℕ × ℕ) :=
  (sections.filter Section.executable).map fun s => (s.start, s.spanEnd alignment)

/-- The loop over `sorted(executable_spans)`. -/
def cursorAfter (spans : List (ℕ × ℕ)) (start : ℕ) : ℕ :=
  (sortBy (fun s => [s.1, s.2]) spans).foldl
    (fun cursor s => if s.1 ≤ cursor ∧ cursor < s.2 then max cursor s.2 else cursor) start

/-- One code range: whether it is ARM64EC code. -/
def checkRange (sections : List Bytes) (m : CodeMap) (spans : List (ℕ × ℕ)) (start length : ℕ) :
    Except (Raised Fault) Bool :=
  let codeType := start &&& 3
  if codeType = 3 then .error (.value .rangeType)
  else
    let start := andNot start 3
    let stop := start + length
    if length = 0 ∨ m.imageSize < stop then .error (.value .rangeExtent)
    else (mapped sections start 1 true).bind fun _ =>
      (mapped sections (stop - 1) 1 true).bind fun _ =>
      if cursorAfter spans start < stop then .error (.value .rangeCrossing) else .ok (codeType == 1)

/-- The loop over `range(count)`, with `n` ranges to go and `arm64ec` for `has_arm64ec`. -/
def checkRanges (image : Bytes) (sections : List Bytes) (m : CodeMap) (spans : List (ℕ × ℕ)) :
    ℕ → ℕ → Bool → Except (Raised Fault) Bool
  | 0, _, arm64ec => .ok arm64ec
  | n + 1, index, arm64ec =>
    (u32Pair image (m.table + index * 8)).bind fun (start, length) =>
      (checkRange sections m spans start length).bind fun hit =>
        checkRanges image sections m spans n (index + 1) (arm64ec || hit)

def validateArm64ecMetadata (image optional : Bytes) (sections : List Bytes) : Except (Raised Fault) Unit :=
  (locateCodeMap image optional sections).bind fun m =>
    (sections.mapM readSection).bind fun ss =>
      (checkRanges image sections m (executableSpans m.alignment ss) m.count 0 false).bind fun arm64ec =>
        if arm64ec then .ok () else .error (.value .noRanges)

structure CoffHeader where
  machine : ℕ
  sectionCount : ℕ
  optionalHeaderSize : ℕ

/-- The format `<HHIIIHH`, less the fields that are not looked at. -/
def CoffHeader.fields (bs : Bytes) : CoffHeader := ⟨field bs 0 2, field bs 2 2, field bs 16 2⟩

def misplaced (rawSize rawOffset tableEnd fileSize : ℕ) : Prop :=
  rawSize ≠ 0 ∧ (rawOffset < tableEnd ∨ fileSize < rawOffset + rawSize)

instance (rawSize rawOffset tableEnd fileSize : ℕ) :
    Decidable (misplaced rawSize rawOffset tableEnd fileSize) := by
  unfold misplaced
  infer_instance

/-- The loop over `range(section_count)`: the stream stands at `pos`. -/
def sectionTable (f : File) (tableEnd : ℕ) : ℕ → ℕ → List Bytes → Except (Raised Fault) (List Bytes)
  | 0, _, sections => .ok sections
  | n + 1, pos, sections =>
    let record := f.read pos 40
    if record.length ≠ 40 then .error (.value .truncatedTable)
    else (u32Pair record 16).bind fun (rawSize, rawOffset) =>
      if misplaced rawSize rawOffset tableEnd f.size then .error (.value .payload)
      else sectionTable f tableEnd n (pos + record.length) (sections ++ [record])

def diskMachine (expected : ℕ) : ℕ := if expected = 0xA641 then 0x8664 else expected

/-- `validate_pe_machine` up to the ARM64EC metadata: the optional header and the section records. -/
def peSections (expected : ℕ) (f : File) : Except (Raised Fault) (Bytes × List Bytes) :=
  let dos := f.read 0 64
  (either (.ok (dos.length < 64)) ((slice dos 0 2).map (· != [0x4d, 0x5a]))).bind fun refused =>
  if refused then .error (.value .notPe)
  else (u32 dos 0x3c).bind fun peOffset =>
  if peOffset < 64 then .error (.value .headerOffset)
  else (File.seek peOffset).bind fun pos =>
  let header := f.read pos 24
  (either (.ok (header.length < 24)) ((slice header 0 4).map (· != [0x50, 0x45, 0, 0]))).bind fun refused =>
  if refused then .error (.value .notPe)
  else (unpackFrom CoffHeader.fields 20 header 4).bind fun h =>
  if h.machine ≠ diskMachine expected then .error (.value (.machine h.machine expected))
  else
    let optionalOffset := peOffset + 24
    let sectionOffset := optionalOffset + h.optionalHeaderSize
    let tableEnd := sectionOffset + h.sectionCount * 40
    if h.sectionCount = 0 ∨ h.optionalHeaderSize < 2 ∨ f.size < tableEnd then .error (.value .sectionTable)
    else (File.seek optionalOffset).bind fun pos =>
    let optional := f.read pos h.optionalHeaderSize
    (slice optional 0 2).bind fun magic =>
    if magic ≠ [0x0b, 0x02] then .error (.value .optionalHeader)
    else (File.seek sectionOffset).bind fun pos =>
    (sectionTable f tableEnd h.sectionCount pos []).map fun sections => (optional, sections)

def validatePeMachine (expected : ℕ) (f : File) : Except (Raised Fault) Unit :=
  (peSections expected f).bind fun (optional, sections) =>
    if expected = 0xA641 then validateArm64ecMetadata f.bytes optional sections else .ok ()

def roundUp (x n : ℕ) : ℕ := (x + n - 1) / n * n

lemma andNot_mask (x k : ℕ) : andNot x (2 ^ k - 1) = x / 2 ^ k * 2 ^ k := by
  rw [andNot, Nat.and_two_pow_sub_one_eq_mod]
  apply Nat.eq_of_testBit_eq
  intro i
  rw [Nat.testBit_xor, Nat.testBit_mod_two_pow, Nat.testBit_mul_two_pow, Nat.testBit_div_two_pow]
  by_cases h : i < k
  · simp [h, Nat.not_le.mpr h]
  · have hk : k ≤ i := Nat.not_lt.mp h
    simp [h, hk]

lemma spanEnd_eq (k : ℕ) (s : Section) :
    s.spanEnd (2 ^ k) = roundUp (s.start + max s.virtualSize s.rawSize) (2 ^ k) :=
  andNot_mask _ k

lemma cursorAfter_eq (spans : List (ℕ × ℕ)) (start : ℕ) :
    cursorAfter spans start = sweep start (sortBy (fun s => [s.1, s.2]) spans) := rfl

lemma le_cursorAfter_iff (spans : List (ℕ × ℕ)) (start stop : ℕ) :
    stop ≤ cursorAfter spans start ↔ ∀ a, start ≤ a → a < stop → ∃ s ∈ spans, Covers s a := by
  have hs : (sortBy (fun s : ℕ × ℕ => [s.1, s.2]) spans).Pairwise fun s t => s.1 ≤ t.1 := by
    refine (sortBy_pairwise _ spans).imp ?_
    intro s t h
    by_contra hlt
    exact absurd h (not_le.mpr (List.Lex.rel (not_le.mp hlt)))
  rw [cursorAfter_eq, le_sweep_iff hs]
  simp only [mem_sortBy]

theorem cursorAfter_covers_iff (sections : List Section) (k start stop : ℕ) :
    stop ≤ cursorAfter (executableSpans (2 ^ k) sections) start ↔
      ∀ a, start ≤ a → a < stop → ∃ s ∈ sections, s.executable = true ∧ s.start ≤ a ∧
        a < roundUp (s.start + max s.virtualSize s.rawSize) (2 ^ k) := by
  rw [le_cursorAfter_iff]
  simp only [executableSpans, List.mem_map, List.mem_filter, Covers, ← spanEnd_eq]
  constructor
  · intro h a ha hb
    obtain ⟨_, ⟨s, ⟨hs, he⟩, rfl⟩, hc⟩ := h a ha hb
    exact ⟨s, hs, he, hc⟩
  · intro h a ha hb
    obtain ⟨s, hs, he, hc⟩ := h a ha hb
    exact ⟨_, ⟨s, ⟨hs, he⟩, rfl⟩, hc⟩

lemma startsWith_eq (f : File) (pos : ℕ) {n k : ℕ} (m : Bytes) (hn : 0 < n) (hk : k ≤ n) :
    ∃ refused, either (ε := Fault) (.ok ((f.read pos n).length < n))
        ((slice (f.read pos n) 0 k).map (· != m)) = .ok refused ∧
      (refused = false ↔ pos + n ≤ f.size ∧ (f.bytes.drop pos).take k = m) := by
  have hl := f.read_length pos n
  by_cases h : pos + n ≤ f.size
  · have hlen : (f.read pos n).length = n := by omega
    have ht : ((f.read pos n).drop 0).take (k - 0) = (f.bytes.drop pos).take k := by
      rw [File.read, List.drop_zero, List.take_take, Nat.sub_zero, Nat.min_eq_left hk]
    have hd : ¬ (f.read pos n).length < n := by omega
    refine ⟨(f.bytes.drop pos).take k != m, ?_, ?_⟩
    · rw [slice_of_le (by omega), ht, decide_eq_false hd]
      rfl
    · simp [h]
  · refine ⟨true, ?_, ?_⟩
    · have hd : (f.read pos n).length < n := by omega
      rw [decide_eq_true hd]
      rfl
    · simp [h]

def peOffset (b : Bytes) : ℕ := field b 0x3c 4

def coffHeader (b : Bytes) : CoffHeader where
  machine := field b (peOffset b + 4) 2
  sectionCount := field b (peOffset b + 6) 2
  optionalHeaderSize := field b (peOffset b + 20) 2

def optionalOffset (b : Bytes) : ℕ := peOffset b + 24

def tableOffset (b : Bytes) : ℕ := optionalOffset b + (coffHeader b).optionalHeaderSize

def tableEnd (b : Bytes) : ℕ := tableOffset b + (coffHeader b).sectionCount * 40

def sectionAt (b : Bytes) (offset : ℕ) : Section where
  virtualSize := field b (offset + 8) 4
  start := field b (offset + 12) 4
  rawSize := field b (offset + 16) 4
  rawOffset := field b (offset + 20) 4
  flags := field b (offset + 36) 4

def Section.misplaced (s : Section) (tableEnd fileSize : ℕ) : Prop :=
  Pe.misplaced s.rawSize s.rawOffset tableEnd fileSize

instance (s : Section) (tableEnd fileSize : ℕ) : Decidable (s.misplaced tableEnd fileSize) := by
  unfold Section.misplaced
  infer_instance

def optionalHeader (f : File) : Bytes := f.read (optionalOffset f.bytes) (coffHeader f.bytes).optionalHeaderSize

def records (f : File) : List Bytes :=
  (List.range (coffHeader f.bytes).sectionCount).map fun i => f.read (tableOffset f.bytes + 40 * i) 40

structure IsPe (machine : ℕ) (b : Bytes) : Prop where
  dosHeader : 64 ≤ b.length
  dosMagic : b.take 2 = [0x4d, 0x5a]
  offset : 64 ≤ peOffset b
  header : peOffset b + 24 ≤ b.length
  signature : (b.drop (peOffset b)).take 4 = [0x50, 0x45, 0, 0]
  machine : (coffHeader b).machine = machine
  sections : 0 < (coffHeader b).sectionCount
  optionalSize : 2 ≤ (coffHeader b).optionalHeaderSize
  tableInside : tableEnd b ≤ b.length
  optionalMagic : (b.drop (optionalOffset b)).take 2 = [0x0b, 0x02]
  payloads : ∀ i < (coffHeader b).sectionCount,
    let s := sectionAt b (tableOffset b + 40 * i)
    s.rawSize ≠ 0 → tableEnd b ≤ s.rawOffset ∧ s.rawOffset + s.rawSize ≤ b.length

lemma sectionTable_eq (f : File) (stop n pos : ℕ) (sections : List Bytes) (h : pos + 40 * n ≤ f.size) :
    sectionTable f stop n pos sections =
      if ∃ i < n, (sectionAt f.bytes (pos + 40 * i)).misplaced stop f.size then .error (.value .payload)
      else .ok (sections ++ (List.range n).map fun i => f.read (pos + 40 * i) 40) := by
  induction n generalizing pos sections with
  | zero => simp [sectionTable]
  | succ n ih =>
    have hl : (f.read pos 40).length = 40 := File.read_length_of_le (by omega)
    have hpos (i : ℕ) : pos + 40 * (i + 1) = pos + 40 + 40 * i := by omega
    have hr : (u32Pair (f.read pos 40) 16) =
        .ok ((sectionAt f.bytes pos).rawSize, (sectionAt f.bytes pos).rawOffset) := by
      rw [u32Pair, unpackFrom_of_le (by omega), field_window (by decide), field_window (by decide),
        field_read (by decide), field_read (by decide)]
      rfl
    have hs : (∃ i < n + 1, (sectionAt f.bytes (pos + 40 * i)).misplaced stop f.size) ↔
        (sectionAt f.bytes pos).misplaced stop f.size ∨
          ∃ i < n, (sectionAt f.bytes (pos + 40 + 40 * i)).misplaced stop f.size := by
      rw [Nat.exists_lt_succ_left]
      simp only [hpos, Nat.mul_zero, Nat.add_zero]
    simp only [sectionTable, hl, ne_eq, not_true_eq_false, if_false, hr, Except.bind, ← Section.misplaced.eq_def]
    by_cases hm : (sectionAt f.bytes pos).misplaced stop f.size
    · rw [if_pos (hs.mpr (.inl hm)), if_pos hm]
    · rw [if_neg hm, ih (pos + 40) _ (by omega)]
      simp only [hs, hm, false_or, List.range_succ_eq_map, List.map_cons, List.map_map, List.append_assoc,
        Nat.mul_zero, Nat.add_zero, List.singleton_append]
      congr 4
      refine List.map_congr_left fun i _ => ?_
      simp only [Function.comp_apply, Nat.succ_eq_add_one, hpos]

section

variable {f : File}

lemma u32_peOffset (h : 64 ≤ f.size) : u32 (f.read 0 64) 0x3c = .ok (peOffset f.bytes) := by
  rw [u32, unpackFrom_of_le (by rw [File.read_length]; omega), field_window (by decide),
    field_read (by decide)]
  rfl

lemma seek_peOffset (b : Bytes) : File.seek (ε := Fault) (peOffset b) = .ok (peOffset b) := by
  have hlt := field_lt b 0x3c 4
  exact File.seek_of_lt (by unfold peOffset; omega)

lemma coffHeader_read (h : peOffset f.bytes + 24 ≤ f.size) :
    unpackFrom (ε := Fault) CoffHeader.fields 20 (f.read (peOffset f.bytes) 24) 4 =
      .ok (coffHeader f.bytes) := by
  rw [unpackFrom_of_le (by rw [File.read_length_of_le h])]
  simp only [CoffHeader.fields, field_window, field_read, coffHeader, Nat.reduceAdd, Nat.reduceLeDiff]

lemma table_inside (h : tableEnd f.bytes ≤ f.size) :
    tableOffset f.bytes + 40 * (coffHeader f.bytes).sectionCount ≤ f.size := by
  unfold tableEnd at h
  omega

lemma optional_inside (h : tableEnd f.bytes ≤ f.size) :
    optionalOffset f.bytes + (coffHeader f.bytes).optionalHeaderSize ≤ f.size := by
  have ht := table_inside h
  unfold tableOffset at ht
  omega

lemma optional_magic (hsize : 2 ≤ (coffHeader f.bytes).optionalHeaderSize) (h : tableEnd f.bytes ≤ f.size) :
    slice (ε := Fault) (optionalHeader f) 0 2 = .ok ((f.bytes.drop (optionalOffset f.bytes)).take 2) := by
  have hl : (optionalHeader f).length = (coffHeader f.bytes).optionalHeaderSize :=
    File.read_length_of_le (optional_inside h)
  have hm : ((optionalHeader f).drop 0).take (2 - 0) = (f.bytes.drop (optionalOffset f.bytes)).take 2 := by
    rw [optionalHeader, File.read, List.drop_zero, List.take_take, Nat.min_eq_left (by omega)]
  rw [slice_of_le (by omega), hm]

lemma eq_true_of_iff {refused : Bool} {p : Prop} (h : refused = false ↔ p) : (refused = true) = ¬ p := by
  rw [← h, Bool.not_eq_false]

end

theorem peSections_eq (expected : ℕ) (f : File) : peSections expected f =
    let b := f.bytes
    let h := coffHeader b
    if ¬ (64 ≤ f.size ∧ b.take 2 = [0x4d, 0x5a]) then .error (.value .notPe)
    else if peOffset b < 64 then .error (.value .headerOffset)
    else if ¬ (peOffset b + 24 ≤ f.size ∧ (b.drop (peOffset b)).take 4 = [0x50, 0x45, 0, 0]) then
      .error (.value .notPe)
    else if h.machine ≠ diskMachine expected then .error (.value (.machine h.machine expected))
    else if h.sectionCount = 0 ∨ h.optionalHeaderSize < 2 ∨ f.size < tableEnd b then .error (.value .sectionTable)
    else if (b.drop (optionalOffset b)).take 2 ≠ [0x0b, 0x02] then .error (.value .optionalHeader)
    else if ∃ i < h.sectionCount, (sectionAt b (tableOffset b + 40 * i)).misplaced (tableEnd b) f.size then
      .error (.value .payload)
    else .ok (optionalHeader f, records f) := by
  obtain ⟨refused, hr, hi⟩ := startsWith_eq f 0 [0x4d, 0x5a] (n := 64) (k := 2) (by decide) (by decide)
  rw [Nat.zero_add, List.drop_zero] at hi
  simp only [peSections, hr, Except.bind]
  refine ite_congr (eq_true_of_iff hi) (fun _ => rfl) fun h₁ => ?_
  rw [u32_peOffset (not_not.mp h₁).1]
  refine ite_congr rfl (fun _ => rfl) fun _ => ?_
  obtain ⟨refused, hr, hi⟩ := startsWith_eq f (peOffset f.bytes) [0x50, 0x45, 0, 0] (n := 24) (k := 4)
    (by decide) (by decide)
  rw [seek_peOffset]
  simp only [hr]
  refine ite_congr (eq_true_of_iff hi) (fun _ => rfl) fun h₃ => ?_
  rw [coffHeader_read (not_not.mp h₃).1]
  simp only [← optionalOffset.eq_def, ← tableOffset.eq_def, ← tableEnd.eq_def]
  refine ite_congr rfl (fun _ => rfl) fun _ => ?_
  refine ite_congr rfl (fun _ => rfl) fun h₅ => ?_
  obtain ⟨-, hsize, hend⟩ : (coffHeader f.bytes).sectionCount ≠ 0 ∧
      2 ≤ (coffHeader f.bytes).optionalHeaderSize ∧ tableEnd f.bytes ≤ f.size := by omega
  have ho := optional_inside hend
  have ht := table_inside hend
  rw [File.seek_of_le (f := f) (by omega)]
  simp only [← optionalHeader.eq_def]
  rw [optional_magic hsize hend]
  refine ite_congr rfl (fun _ => rfl) fun _ => ?_
  rw [File.seek_of_le (f := f) (by omega)]
  simp only
  rw [sectionTable_eq f _ _ _ _ ht]
  split_ifs
  · rfl
  · rfl

theorem peSections_ok_iff (expected : ℕ) (f : File) (p : Bytes × List Bytes) :
    peSections expected f = .ok p ↔ IsPe (diskMachine expected) f.bytes ∧ p = (optionalHeader f, records f) := by
  have hp (i : ℕ) : ¬ (sectionAt f.bytes (tableOffset f.bytes + 40 * i)).misplaced (tableEnd f.bytes) f.size ↔
      ((sectionAt f.bytes (tableOffset f.bytes + 40 * i)).rawSize ≠ 0 →
        tableEnd f.bytes ≤ (sectionAt f.bytes (tableOffset f.bytes + 40 * i)).rawOffset ∧
        (sectionAt f.bytes (tableOffset f.bytes + 40 * i)).rawOffset +
          (sectionAt f.bytes (tableOffset f.bytes + 40 * i)).rawSize ≤ f.size) := by
    simp only [Section.misplaced, misplaced]
    omega
  rw [peSections_eq]
  simp only
  constructor
  · intro h
    split_ifs at h with h₁ h₂ h₃ h₄ h₅ h₆ h₇
    obtain rfl := Except.ok.inj h
    simp only [not_or, Nat.not_lt, ne_eq, not_not, not_exists, not_and] at h₁ h₂ h₃ h₄ h₅ h₆ h₇
    exact ⟨⟨h₁.1, h₁.2, h₂, h₃.1, h₃.2, h₄, Nat.pos_of_ne_zero h₅.1, h₅.2.1, h₅.2.2, h₆,
      fun i hi => (hp i).mp (h₇ i hi)⟩, rfl⟩
  · rintro ⟨h, rfl⟩
    have h₇ : ¬ ∃ i < (coffHeader f.bytes).sectionCount,
        (sectionAt f.bytes (tableOffset f.bytes + 40 * i)).misplaced (tableEnd f.bytes) f.size := by
      rintro ⟨i, hi, hm⟩
      exact (hp i).mpr (h.payloads i hi) hm
    have h₅ : ¬ ((coffHeader f.bytes).sectionCount = 0 ∨ (coffHeader f.bytes).optionalHeaderSize < 2 ∨
        f.size < tableEnd f.bytes) := by
      have := h.sections
      have := h.optionalSize
      have : tableEnd f.bytes ≤ f.size := h.tableInside
      omega
    rw [if_neg (not_not.mpr ⟨h.dosHeader, h.dosMagic⟩), if_neg (Nat.not_lt.mpr h.offset),
      if_neg (not_not.mpr ⟨h.header, h.signature⟩), if_neg (not_not.mpr h.machine), if_neg h₅,
      if_neg (not_not.mpr h.optionalMagic), if_neg h₇]

lemma readSection_ok {r : Bytes} (h : r.length = 40) : readSection r = .ok (sectionAt r 0) := by
  rw [readSection, unpackFrom_of_le (by omega), u32, unpackFrom_of_le (by omega)]
  simp only [Except.bind, Except.map, id, field_window, sectionAt, Nat.reduceAdd, Nat.reduceLeDiff, Nat.zero_add]

def Backed (image : Bytes) (sections : List Bytes) : Prop :=
  ∀ r ∈ sections, r.length = 40 ∧
    ((sectionAt r 0).rawSize ≠ 0 → (sectionAt r 0).rawOffset + (sectionAt r 0).rawSize ≤ image.length)

def parsed (sections : List Bytes) : List Section := sections.map (sectionAt · 0)

lemma mapM_readSection {sections : List Bytes} (h : ∀ r ∈ sections, r.length = 40) :
    sections.mapM readSection = .ok (parsed sections) := by
  induction sections with
  | nil => rfl
  | cons r rs ih =>
    rw [List.mapM_cons, readSection_ok (h r List.mem_cons_self), ih fun s hs => h s (List.mem_cons_of_mem _ hs)]
    rfl

section

variable {image optional : Bytes} {sections : List Bytes} {P : Fault → Prop}

def Section.Holds (s : Section) (rva size : ℕ) (executable : Bool) : Prop :=
  0 < size ∧ s.start ≤ rva ∧ rva - s.start + size ≤ min s.virtualSize s.rawSize ∧
    (executable = true → s.executable = true)

lemma mapped_ok (hs : ∀ r ∈ sections, r.length = 40) {rva size : ℕ} {executable : Bool} {o : ℕ}
    (h : mapped sections rva size executable = .ok o) :
    ∃ s ∈ parsed sections, s.Holds rva size executable ∧ o = s.rawOffset + (rva - s.start) := by
  rw [mapped, mapM_readSection hs] at h
  simp only [Except.bind] at h
  split at h
  · rename_i o' hf
    obtain rfl := Except.ok.inj h
    have hm : o' ∈ List.map (fun s : Section => s.rawOffset + (rva - s.start)) _ := hf ▸ List.mem_singleton_self o'
    obtain ⟨s, hs, rfl⟩ := List.mem_map.mp hm
    obtain ⟨hmem, hp⟩ := List.mem_filter.mp hs
    simp only [Bool.and_eq_true, decide_eq_true_eq, Bool.or_eq_true, Bool.not_eq_true'] at hp
    refine ⟨s, hmem, ⟨hp.1.1, hp.1.2.1, hp.1.2.2, fun he => ?_⟩, rfl⟩
    exact hp.2.resolve_left (by simp [he])
  · cases h

lemma mapped_inside (hb : Backed image sections) {rva size : ℕ} {executable : Bool} {o : ℕ}
    (h : mapped sections rva size executable = .ok o) : o + size ≤ image.length := by
  obtain ⟨s, hs, ⟨hpos, hle, hsz, -⟩, rfl⟩ := mapped_ok (fun r hr => (hb r hr).1) h
  obtain ⟨r, hr, rfl⟩ := List.mem_map.mp hs
  have := (hb r hr).2 (by omega)
  omega

lemma mapped_raises (hs : ∀ r ∈ sections, r.length = 40) (rva size : ℕ) (executable : Bool) (hP : P .rva) :
    Raises P (mapped sections rva size executable) := by
  rw [mapped, mapM_readSection hs]
  simp only [Except.bind]
  split
  · exact .ok _
  · exact .error hP

lemma u32_raises {bs : Bytes} {offset : ℕ} (h : offset + 4 ≤ bs.length) : Raises P (u32 bs offset) := .unpack h

lemma locateCodeMap_ok (hb : Backed image sections) {m : CodeMap}
    (h : locateCodeMap image optional sections = .ok m) :
    m.table + m.count * 8 ≤ image.length ∧ m.alignment.isPowerOfTwo ∧ u32 optional 32 = .ok m.alignment := by
  obtain ⟨lacking, -, h⟩ := of_bind_eq_ok h
  split_ifs at h
  obtain ⟨alignment, hal, h⟩ := of_bind_eq_ok h
  obtain ⟨imageSize, -, h⟩ := of_bind_eq_ok h
  split_ifs at h with ha
  obtain ⟨⟨configRva, configSize⟩, -, h⟩ := of_bind_eq_ok h
  simp only at h
  split_ifs at h
  obtain ⟨config, -, h⟩ := of_bind_eq_ok h
  obtain ⟨declaredSize, -, h⟩ := of_bind_eq_ok h
  split_ifs at h
  obtain ⟨imageBase, -, h⟩ := of_bind_eq_ok h
  obtain ⟨metadataVa, -, h⟩ := of_bind_eq_ok h
  split_ifs at h
  obtain ⟨metadata, -, h⟩ := of_bind_eq_ok h
  obtain ⟨⟨version, codeMap, count⟩, -, h⟩ := of_bind_eq_ok h
  simp only at h
  split_ifs at h
  all_goals
    obtain ⟨-, -, h⟩ := of_bind_eq_ok h
    obtain ⟨table, ht, rfl⟩ := of_map_eq_ok h
    refine ⟨mapped_inside hb ht, Nat.ne_zero_and_sub_one_eq_zero_iff_isPowerOfTwo.mp ?_, hal⟩
    simp only [not_or, ne_eq, not_not] at ha
    exact ⟨ha.1, ha.2.1⟩

lemma locateCodeMap_raises (hb : Backed image sections) :
    Raises (· ≠ .truncatedTable) (locateCodeMap image optional sections) := by
  have h40 : ∀ r ∈ sections, r.length = 40 := fun r hr => (hb r hr).1
  by_cases hl : optional.length < 200
  · rw [locateCodeMap, decide_eq_true hl, either_true]
    exact .error (by decide)
  rw [locateCodeMap, decide_eq_false hl, either_false]
  apply Raises.bind ((u32_raises (by omega)).map _)
  intro lacking _
  apply Raises.ite (fun _ => .error (by decide))
  intro _
  apply Raises.bind (u32_raises (by omega))
  intro alignment _
  apply Raises.bind (u32_raises (by omega))
  intro imageSize _
  apply Raises.ite (fun _ => .error (by decide))
  intro _
  apply Raises.bind (.unpack (by omega))
  rintro ⟨configRva, configSize⟩ _
  apply Raises.ite (fun _ => .error (by decide))
  intro hsize
  apply Raises.bind (mapped_raises h40 _ _ _ (by decide))
  intro config hc
  have hconfig := mapped_inside hb hc
  apply Raises.bind (u32_raises (by omega))
  intro declaredSize _
  apply Raises.ite (fun _ => .error (by decide))
  intro _
  apply Raises.bind (.unpack (by omega))
  intro imageBase _
  apply Raises.bind (.unpack (by omega))
  intro metadataVa _
  apply Raises.ite (fun _ => .error (by decide))
  intro _
  apply Raises.bind (mapped_raises h40 _ _ _ (by decide))
  intro metadata hm
  have hmetadata := mapped_inside hb hm
  apply Raises.bind (.unpack (by omega))
  rintro ⟨version, codeMap, count⟩ _
  apply Raises.ite (fun _ => .error (by decide))
  intro _
  refine Raises.bind ?_ fun _ _ => (mapped_raises h40 _ _ _ (by decide)).map _
  exact .ite (fun _ => (mapped_raises h40 _ _ _ (by decide)).map _) fun _ => .ok ()

lemma checkRange_raises (h40 : ∀ r ∈ sections, r.length = 40) (m : CodeMap) (spans : List (ℕ × ℕ))
    (start length : ℕ) : Raises (· ≠ .truncatedTable) (checkRange sections m spans start length) := by
  apply Raises.ite (fun _ => .error (by decide))
  intro _
  apply Raises.ite (fun _ => .error (by decide))
  intro _
  apply Raises.bind (mapped_raises h40 _ _ _ (by decide))
  intro _ _
  apply Raises.bind (mapped_raises h40 _ _ _ (by decide))
  intro _ _
  exact .ite (fun _ => .error (by decide)) fun _ => .ok _

lemma checkRanges_raises (h40 : ∀ r ∈ sections, r.length = 40) (m : CodeMap) (spans : List (ℕ × ℕ))
    (n index : ℕ) (arm64ec : Bool) (h : m.table + (index + n) * 8 ≤ image.length) :
    Raises (· ≠ .truncatedTable) (checkRanges image sections m spans n index arm64ec) := by
  induction n generalizing index arm64ec with
  | zero => exact .ok _
  | succ n ih =>
    apply Raises.bind (.unpack (by omega))
    intro _ _
    apply Raises.bind (checkRange_raises h40 m spans _ _)
    intro _ _
    exact ih _ _ (by omega)

lemma validateArm64ecMetadata_raises (hb : Backed image sections) :
    Raises (· ≠ .truncatedTable) (validateArm64ecMetadata image optional sections) := by
  have h40 : ∀ r ∈ sections, r.length = 40 := fun r hr => (hb r hr).1
  apply Raises.bind (locateCodeMap_raises hb)
  intro m hm
  obtain ⟨ht, -⟩ := locateCodeMap_ok hb hm
  rw [mapM_readSection h40]
  apply Raises.bind (checkRanges_raises h40 m _ _ _ _ (by omega))
  intro arm64ec _
  exact .ite (fun _ => .ok ()) fun _ => .error (by decide)

end

lemma peSections_raises (expected : ℕ) (f : File) : Raises (· ≠ .truncatedTable) (peSections expected f) := by
  rw [peSections_eq]
  simp only
  split_ifs
  all_goals first
    | exact .ok _
    | exact .error (by simp)

lemma sectionAt_read {f : File} {pos : ℕ} : sectionAt (f.read pos 40) 0 = sectionAt f.bytes pos := by
  simp only [sectionAt, field_read, Nat.reduceAdd, Nat.reduceLeDiff, Nat.zero_add]

lemma backed_records {machine : ℕ} {f : File} (h : IsPe machine f.bytes) : Backed f.bytes (records f) := by
  intro r hr
  obtain ⟨i, hi, rfl⟩ := List.mem_map.mp hr
  have hi := List.mem_range.mp hi
  have ht : tableEnd f.bytes ≤ f.size := h.tableInside
  unfold tableEnd at ht
  refine ⟨File.read_length_of_le (by omega), fun hraw => ?_⟩
  rw [sectionAt_read] at hraw ⊢
  exact (h.payloads i hi hraw).2

theorem validatePeMachine_raises (expected : ℕ) (f : File) :
    Raises (· ≠ .truncatedTable) (validatePeMachine expected f) := by
  apply Raises.bind (peSections_raises expected f)
  rintro p hp
  obtain ⟨hpe, rfl⟩ := (peSections_ok_iff expected f p).mp hp
  exact .ite (fun _ => validateArm64ecMetadata_raises (backed_records hpe)) fun _ => .ok ()

theorem validatePeMachine_ok_iff {expected : ℕ} (h : expected ≠ 0xA641) (f : File) :
    validatePeMachine expected f = .ok () ↔ IsPe expected f.bytes := by
  constructor
  · intro hv
    obtain ⟨p, hp, -⟩ := of_bind_eq_ok hv
    have hpe := ((peSections_ok_iff expected f p).mp hp).1
    rwa [diskMachine, if_neg h] at hpe
  · intro hpe
    have hp : peSections expected f = .ok (optionalHeader f, records f) := by
      rw [peSections_ok_iff, diskMachine, if_neg h]
      exact ⟨hpe, rfl⟩
    rw [validatePeMachine, hp]
    exact if_neg h

/-! The code map of a file that has been accepted. -/

def Section.virtualRange (s : Section) : ℕ × ℕ := (s.start, s.start + s.virtualSize)

def Section.span (alignment : ℕ) (s : Section) : ℕ × ℕ := (s.start, s.spanEnd alignment)

def sections (f : File) : List Section := parsed (records f)

def sectionAlignment (f : File) : ℕ := field (optionalHeader f) 32 4

def codeRange (image : Bytes) (offset : ℕ) : ℕ × ℕ :=
  (andNot (field image offset 4) 3, andNot (field image offset 4) 3 + field image (offset + 4) 4)

def codeRanges (f : File) : List (ℕ × ℕ) :=
  match locateCodeMap f.bytes (optionalHeader f) (records f) with
  | .ok m => (List.range m.count).map fun i => codeRange f.bytes (m.table + i * 8)
  | .error _ => []

lemma checkRanges_ok {image : Bytes} {sections : List Bytes} {m : CodeMap} {spans : List (ℕ × ℕ)} {n index : ℕ}
    {arm64ec result : Bool} (hi : m.table + (index + n) * 8 ≤ image.length)
    (h : checkRanges image sections m spans n index arm64ec = .ok result) :
    ∀ i < n, (codeRange image (m.table + (index + i) * 8)).2 ≤
      cursorAfter spans (codeRange image (m.table + (index + i) * 8)).1 := by
  induction n generalizing index arm64ec with
  | zero => exact fun i hi => absurd hi (Nat.not_lt_zero i)
  | succ n ih =>
    obtain ⟨⟨start, length⟩, hr, h⟩ := of_bind_eq_ok h
    obtain ⟨hit, hc, h⟩ := of_bind_eq_ok h
    intro i hn
    cases i with
    | zero =>
      rw [u32Pair, unpackFrom_of_le (by omega), field_window (by decide), field_window (by decide)] at hr
      obtain ⟨rfl, rfl⟩ := Prod.mk.inj (Except.ok.inj hr)
      simp only [checkRange] at hc
      split_ifs at hc with _ _ hcur
      · obtain ⟨-, -, hc⟩ := of_bind_eq_ok hc
        obtain ⟨-, -, hc⟩ := of_bind_eq_ok hc
        cases hc
      · exact Nat.not_lt.mp hcur
    | succ i =>
      have := ih (by omega) h i (by omega)
      rwa [Nat.add_assoc index 1 i, Nat.add_comm 1 i] at this

lemma codeRange_covered {f : File} (h : validatePeMachine 0xA641 f = .ok ()) {r : ℕ × ℕ} (hr : r ∈ codeRanges f)
    {a : ℕ} (ha : Covers r a) :
    ∃ e ∈ sections f, e.executable = true ∧ Covers (e.span (sectionAlignment f)) a := by
  obtain ⟨p, hp, h⟩ := of_bind_eq_ok h
  obtain ⟨hpe, rfl⟩ := (peSections_ok_iff 0xA641 f p).mp hp
  simp only [if_true] at h
  have hb := backed_records hpe
  obtain ⟨m, hm, h⟩ := of_bind_eq_ok h
  obtain ⟨ht, -, hal⟩ := locateCodeMap_ok hb hm
  obtain ⟨ss, hss, h⟩ := of_bind_eq_ok h
  rw [mapM_readSection fun r hr => (hb r hr).1] at hss
  obtain rfl := Except.ok.inj hss
  obtain ⟨arm64ec, hc, -⟩ := of_bind_eq_ok h
  rw [codeRanges, hm] at hr
  obtain ⟨i, hi, rfl⟩ := List.mem_map.mp hr
  have hcov := checkRanges_ok (by omega) hc i (List.mem_range.mp hi)
  rw [Nat.zero_add] at hcov
  obtain ⟨s, hs, hsa⟩ := (le_cursorAfter_iff _ _ _).mp hcov a ha.1 ha.2
  obtain ⟨e, he, rfl⟩ := List.mem_map.mp hs
  obtain ⟨he, hx⟩ := List.mem_filter.mp he
  refine ⟨e, he, hx, ?_⟩
  have hal : m.alignment = sectionAlignment f := by
    rw [u32, unpackFrom] at hal
    split_ifs at hal
    obtain hal := Except.ok.inj hal
    rw [field_window (by decide)] at hal
    exact hal.symm
  rwa [hal] at hsa

/-- No code range of an accepted file meets a section without the execute flag, exactly when none
meets one inside the span of an executable section. -/
theorem codeRanges_executable_iff (f : File) (h : validatePeMachine 0xA641 f = .ok ()) :
    (∀ r ∈ codeRanges f, ∀ s ∈ sections f, s.executable = false → ∀ a, Covers r a → ¬ Covers s.virtualRange a) ↔
      ∀ s ∈ sections f, s.executable = false → ∀ e ∈ sections f, e.executable = true →
        ∀ r ∈ codeRanges f, Apart (e.span (sectionAlignment f)) s.virtualRange r := by
  simp only [apart_iff]
  constructor
  · intro hn s hs hx e _ _ r hr a _ hsa hra
    exact hn r hr s hs hx a hra hsa
  · intro hn r hr s hs hx a hra hsa
    obtain ⟨e, he, hex, hea⟩ := codeRange_covered h hr hra
    exact hn s hs hx e he hex r hr a hea hsa hra

def sectionRecord (start virtualSize rawSize rawOffset flags : ℕ) : Bytes :=
  List.replicate 8 0 ++ encode 4 virtualSize ++ encode 4 start ++ encode 4 rawSize ++ encode 4 rawOffset ++
    List.replicate 12 0 ++ encode 4 flags

/-- An image whose one code range runs through `.text` and `.hexpthk`; the raw size of `.text` is
larger than its virtual size, and `.data` stands at some address. -/
def sampleImage (dataStart : ℕ) : Bytes :=
  [0x4d, 0x5a] ++ List.replicate 58 0 ++ encode 4 64 ++
  [0x50, 0x45, 0, 0] ++ encode 2 0x8664 ++ encode 2 4 ++ List.replicate 12 0 ++ encode 2 200 ++ encode 2 0 ++
  [0x0b, 0x02] ++ List.replicate 22 0 ++ encode 8 0x180000000 ++ encode 4 16 ++ List.replicate 20 0 ++
  encode 4 0x4000 ++ List.replicate 48 0 ++ encode 4 16 ++ List.replicate 80 0 ++ encode 4 0x2000 ++
  encode 4 208 ++
  sectionRecord 0x1000 0x10 0x30 448 0x60000020 ++ sectionRecord dataStart 0x10 0 0 0xc0000040 ++
  sectionRecord 0x1020 0x10 0x10 496 0x60000020 ++ sectionRecord 0x2000 296 296 512 0x40000040 ++
  List.replicate 64 0 ++
  encode 4 208 ++ List.replicate 196 0 ++ encode 8 0x1800020d0 ++
  encode 4 1 ++ encode 4 0x2120 ++ encode 4 1 ++ List.replicate 68 0 ++
  encode 4 0x1001 ++ encode 4 0x30

lemma sampleImage_length (dataStart : ℕ) : (sampleImage dataStart).length = 808 := by
  unfold sampleImage sectionRecord
  simp only [List.length_append, List.length_replicate, encode_length, List.length_cons, List.length_nil,
    Nat.reduceAdd]

def sampleFile (dataStart : ℕ) : File :=
  ⟨sampleImage dataStart, Nat.lt_of_le_of_lt (Nat.le_of_eq (sampleImage_length dataStart)) (by decide)⟩

theorem codeRanges_executable_iff_sample :
    (∀ r ∈ codeRanges (sampleFile 0x3000), ∀ s ∈ sections (sampleFile 0x3000), s.executable = false →
      ∀ a, Covers r a → ¬ Covers s.virtualRange a) ↔
      ∀ s ∈ sections (sampleFile 0x3000), s.executable = false → ∀ e ∈ sections (sampleFile 0x3000),
        e.executable = true → ∀ r ∈ codeRanges (sampleFile 0x3000),
          Apart (e.span (sectionAlignment (sampleFile 0x3000))) s.virtualRange r :=
  codeRanges_executable_iff (sampleFile 0x3000) (by decide +kernel)

/-- With `.data` in the 16 bytes between `.text` and `.hexpthk`, which the raw size of `.text`
reaches over, the code range runs through it. -/
theorem codeRange_through_data :
    validatePeMachine 0xA641 (sampleFile 0x1010) = .ok () ∧
      ∃ r ∈ codeRanges (sampleFile 0x1010), ∃ s ∈ sections (sampleFile 0x1010), s.executable = false ∧
        Covers r 0x1010 ∧ Covers s.virtualRange 0x1010 := by
  unfold Covers
  decide +kernel

end Graft64.Runtime.Pe
