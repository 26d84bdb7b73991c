import Graft64.Library.Records
import Graft64.Library.Unpack
import Graft64.Platform.Probes

/-! `binary_uuid`: the walk over the load commands of the image. -/

namespace Graft64.Platform.BinaryUuid

open Graft64.Library LittleEndian Unpack Records Probes

def MH_MAGIC_64 : UInt32 := 0xfeedfacf
def LC_UUID : ℕ := 0x1b

/-- `sizeof(struct load_command)` and `sizeof(struct uuid_command)`. -/
def loadCommandSize : ℕ := 8
def uuidCommandSize : ℕ := 24

structure MachHeader where
  magic : UInt32
  ncmds : UInt32
  sizeofcmds : UInt32
  area : Bytes
  length_eq : area.length = sizeofcmds.toNat

/-- A 32-bit field at this distance from the header; a read that leaves the area is an error. -/
def word (area : Bytes) (offset : ℕ) : Except (Raised Empty) ℕ := unpackFrom value 4 area offset

def uuidAt (area : Bytes) (offset : ℕ) : Except (Raised Empty) Uuid :=
  if h : offset + 16 ≤ area.length then
    .ok ⟨(area.drop offset).take 16, by rw [List.length_take, List.length_drop]; omega⟩
  else .error .struct

def bytesLeft (area : Bytes) (cursor : ℕ) : ℕ := (((area.length : ℤ) - cursor) % 2 ^ 64).toNat

def findUuid (area : Bytes) : ℕ → ℕ → Except (Raised Empty) (Option Uuid)
  | 0, _ => .ok none
  | n + 1, cursor =>
    if bytesLeft area cursor < loadCommandSize then .ok none
    else (word area (cursor + 4)).bind fun cmdsize =>
      if cmdsize < loadCommandSize ∨ cmdsize > bytesLeft area cursor then .ok none
      else (word area cursor).bind fun cmd =>
        if cmd = LC_UUID ∧ cmdsize ≥ uuidCommandSize then (uuidAt area (cursor + loadCommandSize)).map some
        else findUuid area n (cursor + cmdsize)

/-- The string in `output`; `header` is what `_dyld_get_image_header(0)` returns. -/
def readBinaryUuid (t : Target) (header : Option MachHeader) : Except (Raised Empty) CString :=
  if t.apple then
    match header with
    | none => .ok (cstr "unavailable")
    | some h =>
      if h.magic ≠ MH_MAGIC_64 then .ok (cstr "unavailable")
      else (findUuid h.area h.ncmds.toNat 0).map fun uuid => setText 37 (binaryUuid t uuid)
  else .ok (cstr "unavailable")

def cmd (area : Bytes) (o : ℕ) : ℕ := field area o 4

def cmdsize (area : Bytes) (o : ℕ) : ℕ := field area (o + 4) 4

def Fits (area : Bytes) (o : ℕ) : Prop :=
  o + loadCommandSize ≤ area.length ∧ loadCommandSize ≤ cmdsize area o ∧ o + cmdsize area o ≤ area.length

def next (area : Bytes) (o : ℕ) : ℕ := o + cmdsize area o

def isUuid (area : Bytes) (o : ℕ) : Bool := cmd area o == LC_UUID && decide (uuidCommandSize ≤ cmdsize area o)

def MachHeader.Commands (h : MachHeader) (os : List ℕ) : Prop :=
  Longest (Fits h.area) (next h.area) h.ncmds.toNat 0 os

lemma word_eq {area : Bytes} {offset : ℕ} (h : offset + 4 ≤ area.length) :
    word area offset = .ok (field area offset 4) :=
  unpackFrom_of_le h

lemma uuidAt_eq {area : Bytes} {offset : ℕ} (h : offset + 16 ≤ area.length) :
    ∃ u, uuidAt area offset = .ok u ∧ u.bytes = (area.drop offset).take 16 := by
  rw [uuidAt, dif_pos h]
  exact ⟨_, rfl, rfl⟩

lemma bytesLeft_eq {area : Bytes} {cursor : ℕ} (h : cursor ≤ area.length) (hlt : area.length < 2 ^ 64) :
    bytesLeft area cursor = area.length - cursor := by
  rw [bytesLeft, Int.emod_eq_of_lt (by omega) (by omega)]
  omega

lemma findUuid_eq {area : Bytes} (hlt : area.length < 2 ^ 64) (n cursor : ℕ) (hc : cursor ≤ area.length) :
    ∃ os uuid, Longest (Fits area) (next area) n cursor os ∧ findUuid area n cursor = .ok uuid ∧
      uuid.map Uuid.bytes = (os.find? (isUuid area)).map fun o => (area.drop (o + loadCommandSize)).take 16 := by
  induction n generalizing cursor with
  | zero => exact ⟨[], none, .zero cursor, rfl, rfl⟩
  | succ n ih =>
    rw [findUuid, bytesLeft_eq hc hlt]
    by_cases hhead : area.length - cursor < loadCommandSize
    · have hfits : ¬ Fits area cursor := fun h => by have := h.1; omega
      rw [if_pos hhead]
      exact ⟨[], none, .of_not_fits hfits, rfl, rfl⟩
    · have hroom : cursor + 8 ≤ area.length := by
        rw [loadCommandSize] at hhead
        omega
      rw [if_neg hhead, word_eq (show cursor + 4 + 4 ≤ area.length by omega), Except.bind, ← cmdsize]
      by_cases hsize : cmdsize area cursor < loadCommandSize ∨ cmdsize area cursor > area.length - cursor
      · have hfits : ¬ Fits area cursor := fun h => by have := h.2; omega
        rw [if_pos hsize]
        exact ⟨[], none, .of_not_fits hfits, rfl, rfl⟩
      · have hfits : Fits area cursor := ⟨hroom, by omega, by omega⟩
        rw [if_neg hsize, word_eq (show cursor + 4 ≤ area.length by omega), Except.bind, ← cmd]
        by_cases huuid : cmd area cursor = LC_UUID ∧ cmdsize area cursor ≥ uuidCommandSize
        · have hend : cursor + loadCommandSize + 16 ≤ area.length := by
            have := hfits.2.2
            simp only [uuidCommandSize, loadCommandSize] at huuid ⊢
            omega
          obtain ⟨u, hu, hbytes⟩ := uuidAt_eq hend
          obtain ⟨os, -, hos, -⟩ := ih (next area cursor) hfits.2.2
          have hfind : isUuid area cursor = true := by simpa [isUuid] using huuid
          refine ⟨cursor :: os, some u, hos.cons hfits, ?_, ?_⟩
          · rw [if_pos huuid, hu]
            rfl
          · rw [List.find?_cons_of_pos hfind, Option.map_some, Option.map_some, hbytes]
        · obtain ⟨os, uuid, hos, hrun, hbytes⟩ := ih (next area cursor) hfits.2.2
          have hfind : ¬ isUuid area cursor = true := by simpa [isUuid] using huuid
          refine ⟨cursor :: os, uuid, hos.cons hfits, ?_, ?_⟩
          · rw [if_neg huuid]
            exact hrun
          · rw [List.find?_cons_of_neg hfind, hbytes]

lemma hexBytes_length (bs : List UInt8) : (hexBytes bs).length = 2 * bs.length := by
  induction bs with
  | nil => rfl
  | cons b bs ih =>
    rw [hexBytes, List.flatMap_cons, List.length_append, ← hexBytes, ih, List.length_cons, hexByte]
    simp only [List.length_cons, List.length_nil]
    omega

lemma binaryUuid_length_lt (t : Target) (uuid : Option Uuid) : (binaryUuid t uuid).length < 37 := by
  have hdash : (cstr "-").length = 1 := rfl
  have hnone : (cstr "unavailable").length < 37 := by decide
  cases uuid with
  | none => cases t <;> exact hnone
  | some u =>
    have hu := u.length_eq
    cases t with
    | linux => exact hnone
    | macos | ios =>
      simp only [binaryUuid, Target.apple, List.length_append, hexBytes_length, List.length_take,
        List.length_drop, hdash]
      omega

/-- The walk stays within the area, and finds the first `LC_UUID` command of sufficient size. -/
theorem binary_uuid_first {t : Target} {h : MachHeader} (ht : t.apple = true) (hm : h.magic = MH_MAGIC_64) :
    (∃ os, h.Commands os) ∧ ∃ uuid, readBinaryUuid t (some h) = .ok (binaryUuid t uuid) ∧
      (∀ os, h.Commands os → uuid.map Uuid.bytes =
        (os.find? (isUuid h.area)).map fun o => (h.area.drop (o + loadCommandSize)).take 16) ∧
      (binaryUuid t uuid).length + 1 ≤ 37 := by
  have hlt : h.area.length < 2 ^ 64 := by
    have := h.sizeofcmds.toNat_lt
    rw [h.length_eq]
    omega
  obtain ⟨os, uuid, hos, hrun, hbytes⟩ := findUuid_eq hlt h.ncmds.toNat 0 (Nat.zero_le _)
  refine ⟨⟨os, hos⟩, uuid, ?_, ?_, binaryUuid_length_lt t uuid⟩
  · simp only [readBinaryUuid, ht, if_true, hm, ne_eq, not_true_eq_false, if_false, hrun, Except.map,
      setText_of_lt (binaryUuid_length_lt t uuid)]
  · intro os' hos'
    obtain rfl := hos.unique hos'
    exact hbytes

def sampleHeader : MachHeader where
  magic := MH_MAGIC_64
  ncmds := 3
  sizeofcmds := 32
  area := LittleEndian.encode 4 0x19 ++ LittleEndian.encode 4 8 ++ LittleEndian.encode 4 LC_UUID ++
    LittleEndian.encode 4 24 ++ List.replicate 16 0xab
  length_eq := rfl

theorem binary_uuid_first_sample :
    (∃ os, sampleHeader.Commands os) ∧ ∃ uuid, readBinaryUuid .macos (some sampleHeader) =
      .ok (binaryUuid .macos uuid) ∧
      (∀ os, sampleHeader.Commands os → uuid.map Uuid.bytes =
        (os.find? (isUuid sampleHeader.area)).map fun o =>
          (sampleHeader.area.drop (o + loadCommandSize)).take 16) ∧
      (binaryUuid .macos uuid).length + 1 ≤ 37 :=
  binary_uuid_first rfl rfl

example : readBinaryUuid .macos (some sampleHeader) = .ok (cstr "ABABABAB-ABAB-ABAB-ABAB-ABABABABABAB") := by
  decide

end Graft64.Platform.BinaryUuid
