import Graft64.Library.Utf8

/-! UTF-8: the decoder that puts a replacement character for each ill-formed sequence. -/

namespace Graft64.Library.Utf8

def isSecond (a b : UInt8) : Bool :=
  isTail b && if a.toNat = 0xE0 then decide (0xA0 ≤ b.toNat) else if a.toNat = 0xED then decide (b.toNat < 0xA0)
    else if a.toNat = 0xF0 then decide (0x90 ≤ b.toNat) else if a.toNat = 0xF4
      then decide (b.toNat < 0x90) else true

/-- The length of the longest beginning of a well-formed sequence at the front of bytes that are ill-formed
there. -/
def badLength : Bytes → ℕ
  | a :: b :: bs =>
    if 0xE0 ≤ a.toNat ∧ a.toNat < 0xF5 ∧ isSecond a b = true then
      if 0xF0 ≤ a.toNat ∧ bs.head?.any isTail = true then 3 else 2
    else 1
  | _ => 1

def replacement : ℕ := 0xFFFD

def repairWithin : ℕ → Bytes → Str
  | _, [] => []
  | 0, _ :: _ => []
  | n + 1, b :: bs =>
    match decodeHead (b :: bs) with
    | some (c, rest) => c :: repairWithin n rest
    | none => replacement :: repairWithin n ((b :: bs).drop (badLength (b :: bs)))

def repair (bs : Bytes) : Str := repairWithin bs.length bs

lemma repairWithin_of_decodeWithin {n : ℕ} {bs : Bytes} {s : Str} (h : decodeWithin n bs = some s) :
    repairWithin n bs = s := by
  induction n generalizing bs s with
  | zero =>
    cases bs with
    | nil => exact Option.some.inj h
    | cons b bs => cases h
  | succ n ih =>
    cases bs with
    | nil => exact Option.some.inj h
    | cons b bs =>
      simp only [decodeWithin, Option.bind_eq_some_iff, Prod.exists, Option.map_eq_some_iff] at h
      obtain ⟨c, rest, hd, t, ht, rfl⟩ := h
      simp only [repairWithin, hd, ih ht]

theorem repair_of_decode {bs : Bytes} {s : Str} (h : decode bs = some s) : repair bs = s :=
  repairWithin_of_decodeWithin h

lemma repair_eq_nil_iff {bs : Bytes} : repair bs = [] ↔ bs = [] := by
  cases bs with
  | nil => exact iff_of_true rfl rfl
  | cons b bs =>
    refine iff_of_false ?_ (List.cons_ne_nil b bs)
    rw [repair, List.length_cons, repairWithin]
    split <;> exact List.cons_ne_nil _ _

lemma mem_of_mem_repairWithin {c : ℕ} (hc : c < 0x80) {n : ℕ} {bs : Bytes} (h : c ∈ repairWithin n bs) :
    UInt8.ofNat c ∈ bs := by
  induction n generalizing bs with
  | zero => cases bs <;> cases h
  | succ n ih =>
    cases bs with
    | nil => cases h
    | cons b bs =>
      rw [repairWithin] at h
      split at h
      · rename_i d rest hd
        obtain ⟨front, hf, he⟩ := encodeChar_decodeHead hd
        rw [he]
        rcases List.mem_cons.mp h with rfl | h
        · rw [encodeChar, if_pos hc] at hf
          obtain rfl := Option.some.inj hf
          exact List.mem_cons_self
        · exact List.mem_append_right _ (ih h)
      · rcases List.mem_cons.mp h with rfl | h
        · exact absurd hc (by decide)
        · exact List.mem_of_mem_drop (ih h)

lemma mem_of_mem_repair {c : ℕ} (hc : c < 0x80) {bs : Bytes} (h : c ∈ repair bs) : UInt8.ofNat c ∈ bs :=
  mem_of_mem_repairWithin hc h

end Graft64.Library.Utf8
