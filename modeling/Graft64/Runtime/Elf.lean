import Graft64.Library.Unpack

/-! `validate_elf64_aarch64`: which files it accepts. -/

namespace Graft64.Runtime.Elf

open Graft64.Library LittleEndian Unpack

inductive Fault
  | notElf
  | header
  | truncatedTable
  | segment
  | noLoadSegment
deriving DecidableEq

structure Header where
  elfType : ℕ
  machine : ℕ
  version : ℕ
  programOffset : ℕ
  headerSize : ℕ
  programEntrySize : ℕ
  programCount : ℕ

/-- The format `<HHIQQQIHHHHHH`, less the fields that are not looked at. -/
def Header.fields (bs : Bytes) : Header where
  elfType := field bs 0 2
  machine := field bs 2 2
  version := field bs 4 4
  programOffset := field bs 16 8
  headerSize := field bs 36 2
  programEntrySize := field bs 38 2
  programCount := field bs 40 2

structure ProgramHeader where
  segmentType : ℕ
  fileOffset : ℕ
  fileBytes : ℕ
  memoryBytes : ℕ

/-- The format `<IIQQQQQQ`, less the fields that are not looked at. -/
def ProgramHeader.fields (bs : Bytes) : ProgramHeader where
  segmentType := field bs 0 4
  fileOffset := field bs 8 8
  fileBytes := field bs 32 8
  memoryBytes := field bs 40 8

def magic : Bytes := [0x7f, 0x45, 0x4c, 0x46]

def notElf (header : Bytes) : Except (Raised Fault) Bool :=
  either (.ok (header.length < 64)) <|
  either ((slice header 0 4).map (· != magic)) <|
  either ((byteAt header 4).map (· != 2)) <|
  either ((byteAt header 5).map (· != 1)) <|
  (byteAt header 6).map (· != 1)

def Header.invalid (h : Header) (fileSize : ℕ) : Prop :=
  (h.elfType ≠ 2 ∧ h.elfType ≠ 3) ∨ h.machine ≠ 183 ∨ h.version ≠ 1 ∨ h.headerSize ≠ 64 ∨
    h.programEntrySize ≠ 56 ∨ h.programCount = 0 ∨ h.programOffset < 64 ∨
    fileSize < h.programOffset + h.programEntrySize * h.programCount

instance (h : Header) (fileSize : ℕ) : Decidable (h.invalid fileSize) := by
  unfold Header.invalid
  infer_instance

def ProgramHeader.invalid (p : ProgramHeader) (fileSize : ℕ) : Prop :=
  fileSize < p.fileOffset + p.fileBytes ∨ p.memoryBytes < p.fileBytes

instance (p : ProgramHeader) (fileSize : ℕ) : Decidable (p.invalid fileSize) := by
  unfold ProgramHeader.invalid
  infer_instance

/-- The loop over `range(program_count)`: the stream stands at `pos`, and `load` is
`has_load_segment`. -/
def programHeaders (f : File) (entrySize : ℕ) : ℕ → ℕ → Bool → Except (Raised Fault) Bool
  | 0, _, load => .ok load
  | n + 1, pos, load =>
    let record := f.read pos entrySize
    if record.length ≠ entrySize then .error (.value .truncatedTable)
    else (unpackFrom ProgramHeader.fields 56 record 0).bind fun p =>
      if p.invalid f.size then .error (.value .segment)
      else programHeaders f entrySize n (pos + record.length) (load || p.segmentType == 1)

def validateElf64Aarch64 (f : File) : Except (Raised Fault) Unit :=
  let header := f.read 0 64
  (notElf header).bind fun refused =>
    if refused then .error (.value .notElf)
    else (unpackFrom Header.fields 48 header 16).bind fun h =>
      if h.invalid f.size then .error (.value .header)
      else (File.seek h.programOffset).bind fun pos =>
        (programHeaders f h.programEntrySize h.programCount pos false).bind fun load =>
          if load then .ok () else .error (.value .noLoadSegment)

lemma Header.not_invalid {h : Header} {fileSize : ℕ} : ¬ h.invalid fileSize ↔
    (h.elfType = 2 ∨ h.elfType = 3) ∧ h.machine = 183 ∧ h.version = 1 ∧ h.headerSize = 64 ∧
      h.programEntrySize = 56 ∧ 0 < h.programCount ∧ 64 ≤ h.programOffset ∧
      h.programOffset + h.programEntrySize * h.programCount ≤ fileSize := by
  simp only [Header.invalid]
  omega

lemma ProgramHeader.not_invalid {p : ProgramHeader} {fileSize : ℕ} : ¬ p.invalid fileSize ↔
    p.fileOffset + p.fileBytes ≤ fileSize ∧ p.fileBytes ≤ p.memoryBytes := by
  simp only [ProgramHeader.invalid]
  omega

def headerOf (b : Bytes) : Header where
  elfType := field b 16 2
  machine := field b 18 2
  version := field b 20 4
  programOffset := field b 32 8
  headerSize := field b 52 2
  programEntrySize := field b 54 2
  programCount := field b 56 2

def programHeaderAt (b : Bytes) (offset : ℕ) : ProgramHeader where
  segmentType := field b offset 4
  fileOffset := field b (offset + 8) 8
  fileBytes := field b (offset + 32) 8
  memoryBytes := field b (offset + 40) 8

structure Identified (b : Bytes) : Prop where
  length : 64 ≤ b.length
  magic : b.take 4 = magic
  elf64 : byte b 4 = 2
  littleEndian : byte b 5 = 1
  version : byte b 6 = 1

structure IsElf64Aarch64 (b : Bytes) : Prop extends Identified b where
  elfType : (headerOf b).elfType = 2 ∨ (headerOf b).elfType = 3
  machine : (headerOf b).machine = 183
  elfVersion : (headerOf b).version = 1
  headerSize : (headerOf b).headerSize = 64
  entrySize : (headerOf b).programEntrySize = 56
  entries : 0 < (headerOf b).programCount
  tableAfterHeader : 64 ≤ (headerOf b).programOffset
  tableInside : (headerOf b).programOffset + 56 * (headerOf b).programCount ≤ b.length
  segments : ∀ i < (headerOf b).programCount,
    let p := programHeaderAt b ((headerOf b).programOffset + 56 * i)
    p.fileOffset + p.fileBytes ≤ b.length ∧ p.fileBytes ≤ p.memoryBytes
  loadSegment : ∃ i < (headerOf b).programCount,
    (programHeaderAt b ((headerOf b).programOffset + 56 * i)).segmentType = 1

lemma fields_header (f : File) : Header.fields (((f.read 0 64).drop 16).take 48) = headerOf f.bytes := by
  rw [File.read, List.drop_zero]
  simp only [Header.fields, headerOf, List.drop_take, List.take_take]
  have hw (a w : ℕ) (h : a + w ≤ 48) : field ((f.bytes.drop 16).take 48) a w = field f.bytes (16 + a) w :=
    field_window h
  simp [hw]

lemma fields_programHeader (f : File) (pos : ℕ) :
    ProgramHeader.fields (((f.read pos 56).drop 0).take 56) = programHeaderAt f.bytes pos := by
  rw [File.read, List.drop_zero, List.take_take, Nat.min_self]
  have hw (a w : ℕ) (h : a + w ≤ 56) : field ((f.bytes.drop pos).take 56) a w = field f.bytes (pos + a) w :=
    field_window h
  simp [ProgramHeader.fields, programHeaderAt, hw]

lemma notElf_eq (f : File) : ∃ refused, notElf (f.read 0 64) = .ok refused ∧
    (refused = false ↔ Identified f.bytes) := by
  have hl := f.read_length 0 64
  by_cases h : 64 ≤ f.size
  · have h64 : (f.read 0 64).length = 64 := by omega
    refine ⟨((f.read 0 64).length < 64 : Bool) || (((f.read 0 64).drop 0).take (4 - 0) != magic ||
      (byte (f.read 0 64) 4 != 2 || (byte (f.read 0 64) 5 != 1 || byte (f.read 0 64) 6 != 1))), ?_, ?_⟩
    · rw [notElf, slice_of_le (by omega), byteAt_of_lt (by omega), byteAt_of_lt (by omega),
        byteAt_of_lt (by omega)]
      simp only [Except.map, either_ok]
    · have hb (i : ℕ) (hi : i < 64) : byte (f.read 0 64) i = byte f.bytes i := by
        rw [byte, field_read (by omega), Nat.zero_add, byte]
      have ht : ((f.read 0 64).drop 0).take 4 = f.bytes.take 4 := by
        rw [File.read, List.drop_zero, List.drop_zero, List.take_take, Nat.min_eq_left (by decide)]
      have hd : ¬ (f.read 0 64).length < 64 := by omega
      simp only [Nat.sub_zero, ht, hb 4 (by omega), hb 5 (by omega), hb 6 (by omega), hd, decide_false,
        Bool.false_or, Bool.or_eq_false_iff, bne_eq_false_iff_eq]
      constructor
      · rintro ⟨hm, h4, h5, h6⟩
        exact ⟨h, hm, h4, h5, h6⟩
      · intro hi
        exact ⟨hi.magic, hi.elf64, hi.littleEndian, hi.version⟩
  · refine ⟨true, ?_, ?_⟩
    · have hd : (f.read 0 64).length < 64 := by omega
      rw [notElf, decide_eq_true hd]
      rfl
    · simp only [Bool.true_eq_false, false_iff]
      exact fun hi => h hi.length

lemma programHeaders_eq (f : File) (n pos : ℕ) (load : Bool) (h : pos + 56 * n ≤ f.size) :
    programHeaders f 56 n pos load =
      if ∃ i < n, (programHeaderAt f.bytes (pos + 56 * i)).invalid f.size then .error (.value .segment)
      else .ok (load || decide (∃ i < n, (programHeaderAt f.bytes (pos + 56 * i)).segmentType = 1)) := by
  induction n generalizing pos load with
  | zero => simp [programHeaders]
  | succ n ih =>
    have hl : (f.read pos 56).length = 56 := File.read_length_of_le (by omega)
    have hsucc (p : ℕ → Prop) : (∃ i < n + 1, p i) ↔ p 0 ∨ ∃ i < n, p (i + 1) := by
      constructor
      · rintro ⟨i, hi, hp⟩
        cases i with
        | zero => exact .inl hp
        | succ i => exact .inr ⟨i, by omega, hp⟩
      · rintro (hp | ⟨i, hi, hp⟩)
        · exact ⟨0, by omega, hp⟩
        · exact ⟨i + 1, by omega, hp⟩
    have hpos (i : ℕ) : pos + 56 * (i + 1) = pos + 56 + 56 * i := by omega
    simp only [programHeaders, hl, ne_eq, not_true_eq_false, if_false]
    rw [unpackFrom_of_le (by omega), fields_programHeader]
    simp only [Except.bind]
    by_cases hp : (programHeaderAt f.bytes pos).invalid f.size
    · rw [if_pos hp, if_pos ((hsucc _).mpr (.inl hp))]
    · rw [if_neg hp, ih (pos + 56) _ (by omega)]
      simp only [hsucc, hpos, Nat.mul_zero, Nat.add_zero, hp, false_or]
      congr 2
      rw [Bool.or_assoc, Bool.decide_or, beq_eq_decide]

theorem validate_eq (f : File) : validateElf64Aarch64 f =
    let h := headerOf f.bytes
    let p i := programHeaderAt f.bytes (h.programOffset + 56 * i)
    open Classical in
    if ¬ Identified f.bytes then .error (.value .notElf)
    else if h.invalid f.size then .error (.value .header)
    else if ∃ i < h.programCount, (p i).invalid f.size then .error (.value .segment)
    else if ∃ i < h.programCount, (p i).segmentType = 1 then .ok ()
    else .error (.value .noLoadSegment) := by
  obtain ⟨refused, hr, hi⟩ := notElf_eq f
  simp only [validateElf64Aarch64, hr, Except.bind]
  cases refused with
  | true =>
    have hn : ¬ Identified f.bytes := fun h => by simpa using hi.mpr h
    simp [hn]
  | false =>
    have hid := hi.mp rfl
    have hl : (f.read 0 64).length = 64 := File.read_length_of_le (by simpa [File.size] using hid.length)
    simp only [Bool.false_eq_true, if_false, hid, not_true_eq_false]
    rw [unpackFrom_of_le (by omega), fields_header]
    simp only
    by_cases hh : (headerOf f.bytes).invalid f.size
    · rw [if_pos hh, if_pos hh]
    · rw [if_neg hh, if_neg hh]
      obtain ⟨-, -, -, -, he, -, -, hs⟩ := Header.not_invalid.mp hh
      rw [he] at hs ⊢
      rw [File.seek_of_le (f := f) (by omega)]
      simp only
      rw [programHeaders_eq f _ _ _ hs]
      split_ifs with _ hl
      · rfl
      · simp [hl]
      · simp [hl]

lemma validate_raises (f : File) : Raises (· ≠ .truncatedTable) (validateElf64Aarch64 f) := by
  rw [validate_eq]
  simp only
  split_ifs
  all_goals first
    | exact .ok _
    | exact .error (by decide)

theorem validate_ok_iff (f : File) : validateElf64Aarch64 f = .ok () ↔ IsElf64Aarch64 f.bytes := by
  have ht : validateElf64Aarch64 f = .ok () ↔ Identified f.bytes ∧ ¬ (headerOf f.bytes).invalid f.size ∧
      (¬ ∃ i < (headerOf f.bytes).programCount,
        (programHeaderAt f.bytes ((headerOf f.bytes).programOffset + 56 * i)).invalid f.size) ∧
      ∃ i < (headerOf f.bytes).programCount,
        (programHeaderAt f.bytes ((headerOf f.bytes).programOffset + 56 * i)).segmentType = 1 := by
    rw [validate_eq]
    by_cases h₁ : Identified f.bytes
    · simp only [h₁, not_true_eq_false, if_false, true_and]
      split_ifs <;> simp_all
    · simp [h₁]
  rw [ht, Header.not_invalid]
  constructor
  · rintro ⟨hid, ⟨h₁, h₂, h₃, h₄, h₅, h₆, h₇, h₈⟩, hs, hl⟩
    refine ⟨hid, h₁, h₂, h₃, h₄, h₅, h₆, h₇, h₅ ▸ h₈, fun i hi => ?_, hl⟩
    exact ProgramHeader.not_invalid.mp fun hb => hs ⟨i, hi, hb⟩
  · intro h
    refine ⟨h.toIdentified, ⟨h.elfType, h.machine, h.elfVersion, h.headerSize, h.entrySize, h.entries,
      h.tableAfterHeader, ?_⟩, ?_, h.loadSegment⟩
    · rw [h.entrySize]
      exact h.tableInside
    · rintro ⟨i, hi, hb⟩
      exact ProgramHeader.not_invalid.mpr (h.segments i hi) hb

end Graft64.Runtime.Elf
