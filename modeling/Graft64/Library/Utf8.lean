import Graft64.Library.Decimal
import Mathlib.Tactic.Common

/-! UTF-8: the strict codec, and the one that escapes undecodable bytes as lone surrogates. -/

namespace Graft64.Library.Utf8

abbrev Bytes := List UInt8

def bytes (s : String) : Bytes := (lit s).map UInt8.ofNat

def isSurrogate (c : ℕ) : Bool := decide (0xD800 ≤ c ∧ c < 0xE000)

def isTail (b : UInt8) : Bool := decide (0x80 ≤ b.toNat ∧ b.toNat < 0xC0)

def encodeChar (c : ℕ) : Option Bytes :=
  if c < 0x80 then some [UInt8.ofNat c]
  else if c < 0x800 then some [UInt8.ofNat (0xC0 + c / 64), UInt8.ofNat (0x80 + c % 64)]
  else if c < 0x10000 then
    if isSurrogate c then none
    else some [UInt8.ofNat (0xE0 + c / 4096), UInt8.ofNat (0x80 + c / 64 % 64), UInt8.ofNat (0x80 + c % 64)]
  else if c < 0x110000 then
    some [UInt8.ofNat (0xF0 + c / 262144), UInt8.ofNat (0x80 + c / 4096 % 64),
      UInt8.ofNat (0x80 + c / 64 % 64), UInt8.ofNat (0x80 + c % 64)]
  else none

def two (a b : UInt8) : ℕ := (a.toNat - 0xC0) * 64 + (b.toNat - 0x80)

def three (a b c : UInt8) : ℕ := (a.toNat - 0xE0) * 4096 + (b.toNat - 0x80) * 64 + (c.toNat - 0x80)

def four (a b c d : UInt8) : ℕ :=
  (a.toNat - 0xF0) * 262144 + (b.toNat - 0x80) * 4096 + (c.toNat - 0x80) * 64 + (d.toNat - 0x80)

def decodeHead : Bytes → Option (ℕ × Bytes)
  | [] => none
  | a :: as =>
    if a.toNat < 0x80 then some (a.toNat, as)
    else if a.toNat < 0xC2 then none
    else if a.toNat < 0xE0 then
      match as with
      | b :: as => if isTail b then some (two a b, as) else none
      | _ => none
    else if a.toNat < 0xF0 then
      match as with
      | b :: c :: as =>
        if isTail b ∧ isTail c ∧ 0x800 ≤ three a b c ∧ isSurrogate (three a b c) = false then
          some (three a b c, as)
        else none
      | _ => none
    else if a.toNat < 0xF5 then
      match as with
      | b :: c :: d :: as =>
        if isTail b ∧ isTail c ∧ isTail d ∧ 0x10000 ≤ four a b c d ∧ four a b c d < 0x110000 then
          some (four a b c d, as)
        else none
      | _ => none
    else none

lemma toNat_ofNat {n : ℕ} (h : n < 256) : (UInt8.ofNat n).toNat = n := by
  simp only [UInt8.toNat_ofNat']
  omega

lemma isTail_ofNat {n : ℕ} (h : n < 64) : isTail (UInt8.ofNat (0x80 + n)) = true := by
  simp only [isTail, toNat_ofNat (show 0x80 + n < 256 by omega), decide_eq_true_eq]
  omega

lemma isTail_iff {b : UInt8} : isTail b = true ↔ 0x80 ≤ b.toNat ∧ b.toNat < 0xC0 := by
  simp [isTail]

lemma exists_byte {n : ℕ} (h : n < 256) : ∃ b : UInt8, UInt8.ofNat n = b ∧ b.toNat = n :=
  ⟨_, rfl, toNat_ofNat h⟩

lemma decodeHead_ascii {c : ℕ} (h : c < 0x80) (rest : Bytes) :
    decodeHead (UInt8.ofNat c :: rest) = some (c, rest) := by
  simp only [decodeHead, toNat_ofNat (show c < 256 by omega), if_pos h]

lemma decodeHead_two {a b : UInt8} {n : ℕ} (h₁ : 0xC2 ≤ a.toNat) (h₂ : a.toNat < 0xE0) (hb : isTail b = true)
    (hn : two a b = n) (rest : Bytes) : decodeHead (a :: b :: rest) = some (n, rest) := by
  rw [decodeHead, if_neg (by omega), if_neg (by omega), if_pos h₂]
  simp only [hb, hn, if_true]

lemma decodeHead_three {a b c : UInt8} {n : ℕ} (h₁ : 0xE0 ≤ a.toNat) (h₂ : a.toNat < 0xF0)
    (hb : isTail b = true) (hc : isTail c = true) (hn : three a b c = n) (h : 0x800 ≤ n)
    (hs : isSurrogate n = false) (rest : Bytes) : decodeHead (a :: b :: c :: rest) = some (n, rest) := by
  rw [decodeHead, if_neg (by omega), if_neg (by omega), if_neg (by omega), if_pos h₂]
  simp only [hb, hc, hn, h, hs, true_and, if_true]

lemma decodeHead_four {a b c d : UInt8} {n : ℕ} (h₁ : 0xF0 ≤ a.toNat) (h₂ : a.toNat < 0xF5)
    (hb : isTail b = true) (hc : isTail c = true) (hd : isTail d = true) (hn : four a b c d = n)
    (h : 0x10000 ≤ n) (h' : n < 0x110000) (rest : Bytes) :
    decodeHead (a :: b :: c :: d :: rest) = some (n, rest) := by
  rw [decodeHead, if_neg (by omega), if_neg (by omega), if_neg (by omega), if_neg (by omega), if_pos h₂]
  simp only [hb, hc, hd, hn, h, h', true_and, if_true]

lemma decodeHead_encodeChar {c : ℕ} {bs : Bytes} (h : encodeChar c = some bs) (rest : Bytes) :
    decodeHead (bs ++ rest) = some (c, rest) := by
  unfold encodeChar at h
  split_ifs at h with h₁ h₂ h₃ h₄ h₅ <;> obtain rfl := Option.some.inj h <;> clear h
  · exact decodeHead_ascii h₁ rest
  · have hb := isTail_ofNat (show c % 64 < 64 by omega)
    obtain ⟨a, ea, ha⟩ := exists_byte (show 0xC0 + c / 64 < 256 by omega)
    obtain ⟨b, eb, hb'⟩ := exists_byte (show 0x80 + c % 64 < 256 by omega)
    rw [eb] at hb
    rw [ea, eb]
    clear ea eb
    exact decodeHead_two (by omega) (by omega) hb (by unfold two; omega) rest
  · have hb := isTail_ofNat (show c / 64 % 64 < 64 by omega)
    have hc := isTail_ofNat (show c % 64 < 64 by omega)
    obtain ⟨a, ea, ha⟩ := exists_byte (show 0xE0 + c / 4096 < 256 by omega)
    obtain ⟨b, eb, hb'⟩ := exists_byte (show 0x80 + c / 64 % 64 < 256 by omega)
    obtain ⟨d, ed, hc'⟩ := exists_byte (show 0x80 + c % 64 < 256 by omega)
    rw [eb] at hb
    rw [ed] at hc
    rw [ea, eb, ed]
    clear ea eb ed
    exact decodeHead_three (by omega) (by omega) hb hc (by unfold three; omega)
      (by omega) (by simpa using h₄) rest
  · have hb := isTail_ofNat (show c / 4096 % 64 < 64 by omega)
    have hc := isTail_ofNat (show c / 64 % 64 < 64 by omega)
    have hd := isTail_ofNat (show c % 64 < 64 by omega)
    obtain ⟨a, ea, ha⟩ := exists_byte (show 0xF0 + c / 262144 < 256 by omega)
    obtain ⟨b, eb, hb'⟩ := exists_byte (show 0x80 + c / 4096 % 64 < 256 by omega)
    obtain ⟨d, ed, hc'⟩ := exists_byte (show 0x80 + c / 64 % 64 < 256 by omega)
    obtain ⟨e, ee, hd'⟩ := exists_byte (show 0x80 + c % 64 < 256 by omega)
    rw [eb] at hb
    rw [ed] at hc
    rw [ee] at hd
    rw [ea, eb, ed, ee]
    clear ea eb ed ee
    exact decodeHead_four (by omega) (by omega) hb hc hd
      (by unfold four; omega) (by omega) h₅ rest

lemma encodeChar_decodeHead {bs rest : Bytes} {c : ℕ} (h : decodeHead bs = some (c, rest)) :
    ∃ front, encodeChar c = some front ∧ bs = front ++ rest := by
  cases bs with
  | nil => cases h
  | cons a as =>
    have hlt := a.toNat_lt
    simp only [decodeHead] at h
    split_ifs at h with h₁ h₂ h₃ h₄ h₅
    · obtain ⟨rfl, rfl⟩ := Prod.mk.inj (Option.some.inj h)
      exact ⟨[a], by simp [encodeChar, h₁], rfl⟩
    · rcases as with _ | ⟨b, as⟩
      · cases h
      · simp only at h
        split_ifs at h with hb
        obtain ⟨rfl, rfl⟩ := Prod.mk.inj (Option.some.inj h)
        rw [isTail_iff] at hb
        have ha : 0xC0 + two a b / 64 = a.toNat := by unfold two; omega
        have hb' : 0x80 + two a b % 64 = b.toNat := by unfold two; omega
        refine ⟨[a, b], ?_, rfl⟩
        rw [encodeChar, if_neg (by unfold two; omega), if_pos (by unfold two; omega), ha, hb']
        simp
    · rcases as with _ | ⟨b, _ | ⟨c, as⟩⟩
      · cases h
      · cases h
      · simp only at h
        split_ifs at h with hb
        obtain ⟨rfl, rfl⟩ := Prod.mk.inj (Option.some.inj h)
        obtain ⟨hb, hc, hlo, hs⟩ := hb
        rw [isTail_iff] at hb hc
        have ha : 0xE0 + three a b c / 4096 = a.toNat := by unfold three; omega
        have hb' : 0x80 + three a b c / 64 % 64 = b.toNat := by unfold three; omega
        have hc' : 0x80 + three a b c % 64 = c.toNat := by unfold three; omega
        refine ⟨[a, b, c], ?_, rfl⟩
        rw [encodeChar, if_neg (by omega), if_neg (by omega), if_pos (by unfold three; omega), hs, ha, hb',
          hc']
        simp
    · rcases as with _ | ⟨b, _ | ⟨c, _ | ⟨d, as⟩⟩⟩
      · cases h
      · cases h
      · cases h
      · simp only at h
        split_ifs at h with hb
        obtain ⟨rfl, rfl⟩ := Prod.mk.inj (Option.some.inj h)
        obtain ⟨hb, hc, hd, hlo, hhi⟩ := hb
        rw [isTail_iff] at hb hc hd
        have ha : 0xF0 + four a b c d / 262144 = a.toNat := by unfold four; omega
        have hb' : 0x80 + four a b c d / 4096 % 64 = b.toNat := by unfold four; omega
        have hc' : 0x80 + four a b c d / 64 % 64 = c.toNat := by unfold four; omega
        have hd' : 0x80 + four a b c d % 64 = d.toNat := by unfold four; omega
        refine ⟨[a, b, c, d], ?_, rfl⟩
        rw [encodeChar, if_neg (by omega), if_neg (by omega), if_neg (by omega), if_pos hhi, ha, hb', hc', hd']
        simp

lemma encodeChar_shape {c : ℕ} {front : Bytes} (h : encodeChar c = some front) :
    ∃ a as, front = a :: as ∧ ∀ b ∈ as, isTail b = true := by
  have ht (n : ℕ) : isTail (UInt8.ofNat (0x80 + n % 64)) = true := isTail_ofNat (Nat.mod_lt n (by decide))
  unfold encodeChar at h
  split_ifs at h with h₁ h₂ h₃ h₄ h₅ <;> obtain rfl := Option.some.inj h <;> refine ⟨_, _, rfl, ?_⟩ <;>
    simp only [List.forall_mem_cons, List.not_mem_nil, false_imp_iff, implies_true, ht, and_self]

lemma decodeHead_length {bs rest : Bytes} {c : ℕ} (h : decodeHead bs = some (c, rest)) :
    rest.length < bs.length := by
  obtain ⟨front, hf, rfl⟩ := encodeChar_decodeHead h
  obtain ⟨a, as, rfl, -⟩ := encodeChar_shape hf
  simp

lemma decodeHead_cut {bs tail rest : Bytes} {a : UInt8} {c : ℕ} (ha : isTail a = false) (hne : bs ≠ [])
    (h : decodeHead (bs ++ a :: tail) = some (c, rest)) :
    ∃ rest', rest = rest' ++ a :: tail ∧ decodeHead bs = some (c, rest') := by
  obtain ⟨front, hf, he⟩ := encodeChar_decodeHead h
  rcases List.append_eq_append_iff.mp he with ⟨m, rfl, hm⟩ | ⟨m, rfl, rfl⟩
  · cases m with
    | nil =>
      refine ⟨[], by simpa using hm.symm, ?_⟩
      simpa using decodeHead_encodeChar hf []
    | cons b m =>
      obtain ⟨rfl, -⟩ := List.cons.inj hm
      obtain ⟨x, as, hx, has⟩ := encodeChar_shape hf
      obtain ⟨y, bs, rfl⟩ := List.exists_cons_of_ne_nil hne
      obtain ⟨-, rfl⟩ := List.cons.inj hx
      rw [has a (by simp)] at ha
      cases ha
  · exact ⟨m, rfl, decodeHead_encodeChar hf m⟩

/-- The strict encoder; lone surrogates have no encoding. -/
def encode : Str → Option Bytes
  | [] => some []
  | c :: cs => (encodeChar c).bind fun front => (encode cs).map (front ++ ·)

def decodeWithin : ℕ → Bytes → Option Str
  | _, [] => some []
  | 0, _ :: _ => none
  | n + 1, bs => (decodeHead bs).bind fun (c, rest) => (decodeWithin n rest).map (c :: ·)

def decode (bs : Bytes) : Option Str := decodeWithin bs.length bs

lemma decodeWithin_encode {s : Str} {bs : Bytes} (h : encode s = some bs) {n : ℕ} (hn : bs.length ≤ n) :
    decodeWithin n bs = some s := by
  induction s generalizing bs n with
  | nil =>
    obtain rfl := Option.some.inj h
    cases n <;> rfl
  | cons c cs ih =>
    simp only [encode, Option.bind_eq_some_iff, Option.map_eq_some_iff] at h
    obtain ⟨front, hf, tail, ht, rfl⟩ := h
    have hd := decodeHead_encodeChar hf tail
    have hl := decodeHead_length hd
    cases n with
    | zero => omega
    | succ n =>
      obtain ⟨a, as, rfl, -⟩ := encodeChar_shape hf
      rw [List.cons_append] at hd ⊢
      have hr := ih ht (n := n) (by simp at hl hn; omega)
      simp [decodeWithin, hd, hr]

theorem decode_encode {s : Str} {bs : Bytes} (h : encode s = some bs) : decode bs = some s :=
  decodeWithin_encode h le_rfl

lemma encode_decodeWithin {n : ℕ} {bs : Bytes} {s : Str} (h : decodeWithin n bs = some s) :
    encode s = some bs := by
  induction n generalizing bs s with
  | zero =>
    cases bs with
    | nil =>
      obtain rfl := Option.some.inj h
      rfl
    | cons b bs => cases h
  | succ n ih =>
    cases bs with
    | nil =>
      obtain rfl := Option.some.inj h
      rfl
    | cons b bs =>
      simp only [decodeWithin, Option.bind_eq_some_iff, Prod.exists, Option.map_eq_some_iff] at h
      obtain ⟨c, rest, hd, t, ht, rfl⟩ := h
      obtain ⟨front, hf, he⟩ := encodeChar_decodeHead hd
      simp [encode, hf, ih ht, he]

theorem encode_decode {s : Str} {bs : Bytes} (h : decode bs = some s) : encode s = some bs :=
  encode_decodeWithin h

def fsdecodeWithin : ℕ → Bytes → Str
  | _, [] => []
  | 0, _ :: _ => []
  | n + 1, b :: bs =>
    match decodeHead (b :: bs) with
    | some (c, rest) => c :: fsdecodeWithin n rest
    | none => (0xDC00 + b.toNat) :: fsdecodeWithin n bs

/-- Decoding that turns each byte of an ill-formed sequence into a lone surrogate. -/
def fsdecode (bs : Bytes) : Str := fsdecodeWithin bs.length bs

def fsencodeChar (c : ℕ) : Option Bytes :=
  if 0xDC80 ≤ c ∧ c < 0xDD00 then some [UInt8.ofNat (c - 0xDC00)] else encodeChar c

def fsencode : Str → Option Bytes
  | [] => some []
  | c :: cs => (fsencodeChar c).bind fun front => (fsencode cs).map (front ++ ·)

lemma fsdecodeWithin_mono {n : ℕ} {bs : Bytes} (h : bs.length ≤ n) : fsdecodeWithin n bs = fsdecode bs := by
  induction n using Nat.strong_induction_on generalizing bs with
  | _ n ih =>
    cases bs with
    | nil => cases n <;> rfl
    | cons b bs =>
      cases n with
      | zero => simp at h
      | succ n =>
        simp only [List.length_cons, Nat.add_le_add_iff_right] at h
        simp only [fsdecode, List.length_cons, fsdecodeWithin]
        cases hd : decodeHead (b :: bs) with
        | none =>
          simp only [ih n (by omega) h]
          rfl
        | some p =>
          have hl : p.2.length < (b :: bs).length := decodeHead_length hd
          simp only [List.length_cons] at hl
          simp only
          rw [ih n (by omega) (by omega : p.2.length ≤ n),
            ih bs.length (by omega) (by omega : p.2.length ≤ bs.length)]

lemma fsdecode_some {b : UInt8} {bs rest : Bytes} {c : ℕ} (h : decodeHead (b :: bs) = some (c, rest)) :
    fsdecode (b :: bs) = c :: fsdecode rest := by
  have hl := decodeHead_length h
  simp only [List.length_cons] at hl
  simp only [fsdecode, List.length_cons, fsdecodeWithin, h]
  rw [fsdecodeWithin_mono (by omega : rest.length ≤ bs.length)]
  rfl

lemma fsdecode_none {b : UInt8} {bs : Bytes} (h : decodeHead (b :: bs) = none) :
    fsdecode (b :: bs) = (0xDC00 + b.toNat) :: fsdecode bs := by
  simp only [fsdecode, List.length_cons, fsdecodeWithin, h]

lemma bytes_induction {P : Bytes → Prop} (nil : P [])
    (some : ∀ b bs c rest, decodeHead (b :: bs) = some (c, rest) → P rest → P (b :: bs))
    (none : ∀ b bs, decodeHead (b :: bs) = none → P bs → P (b :: bs)) (bs : Bytes) : P bs := by
  induction hn : bs.length using Nat.strong_induction_on generalizing bs with
  | _ n ih =>
    cases bs with
    | nil => exact nil
    | cons b bs =>
      cases hd : decodeHead (b :: bs) with
      | none => exact none b bs hd (ih bs.length (by simp [← hn]) bs rfl)
      | some p => exact some b bs p.1 p.2 hd (ih p.2.length (hn ▸ decodeHead_length hd) p.2 rfl)

lemma not_surrogate_of_encodeChar {c : ℕ} {front : Bytes} (h : encodeChar c = some front) :
    ¬ (0xDC80 ≤ c ∧ c < 0xDD00) := by
  rintro ⟨h₁, h₂⟩
  have hs : isSurrogate c = true := by
    simp only [isSurrogate, decide_eq_true_eq]
    omega
  rw [encodeChar, if_neg (by omega), if_neg (by omega), if_pos (by omega), if_pos hs] at h
  cases h

lemma decodeHead_none {b : UInt8} {bs : Bytes} (h : decodeHead (b :: bs) = none) : 0x80 ≤ b.toNat := by
  by_contra hlt
  simp only [decodeHead, if_pos (not_le.mp hlt)] at h
  cases h

theorem fsencode_fsdecode (bs : Bytes) : fsencode (fsdecode bs) = some bs := by
  induction bs using bytes_induction with
  | nil => rfl
  | some b bs c rest h ih =>
    obtain ⟨front, hf, he⟩ := encodeChar_decodeHead h
    rw [fsdecode_some h, fsencode, fsencodeChar, if_neg (not_surrogate_of_encodeChar hf), hf, ih, he]
    rfl
  | none b bs h ih =>
    have hlo := decodeHead_none h
    have hhi := b.toNat_lt
    rw [fsdecode_none h, fsencode, fsencodeChar, if_pos (by omega), ih, Nat.add_sub_cancel_left,
      UInt8.ofNat_toNat]
    rfl

theorem fsdecode_injective : Function.Injective fsdecode := by
  intro a b h
  have hh := fsencode_fsdecode a
  rw [h, fsencode_fsdecode b] at hh
  exact (Option.some.inj hh).symm

lemma fsdecode_cut {a : UInt8} (ha : isTail a = false) (bs tail : Bytes) :
    fsdecode (bs ++ a :: tail) = fsdecode bs ++ fsdecode (a :: tail) := by
  induction bs using bytes_induction with
  | nil => rfl
  | some b bs c rest h ih =>
    have hc : decodeHead (b :: (bs ++ a :: tail)) = some (c, rest ++ a :: tail) := by
      obtain ⟨front, hf, he⟩ := encodeChar_decodeHead h
      rw [← List.cons_append, he, List.append_assoc]
      exact decodeHead_encodeChar hf _
    rw [List.cons_append, fsdecode_some hc, fsdecode_some h, ih]
    rfl
  | none b bs h ih =>
    have hc : decodeHead (b :: (bs ++ a :: tail)) = none := by
      cases hd : decodeHead (b :: (bs ++ a :: tail)) with
      | none => rfl
      | some p =>
        obtain ⟨rest', -, hh⟩ : ∃ rest', p.2 = rest' ++ a :: tail ∧ decodeHead (b :: bs) = some (p.1, rest') :=
          decodeHead_cut ha (List.cons_ne_nil b bs) hd
        rw [h] at hh
        cases hh
    rw [List.cons_append, fsdecode_none hc, fsdecode_none h, ih]
    rfl

lemma fsencode_split {s t : Str} {bs : Bytes} (h : fsencode (s ++ t) = some bs) :
    ∃ as bs', fsencode s = some as ∧ fsencode t = some bs' ∧ bs = as ++ bs' := by
  induction s generalizing bs with
  | nil => exact ⟨[], bs, rfl, h, rfl⟩
  | cons c s ih =>
    simp only [List.cons_append, fsencode, Option.bind_eq_some_iff, Option.map_eq_some_iff] at h
    obtain ⟨front, hf, back, hb, rfl⟩ := h
    obtain ⟨as, bs', ha, hb', rfl⟩ := ih hb
    exact ⟨front ++ as, bs', by simp [fsencode, hf, ha], hb', by simp⟩

lemma not_surrogate {c : ℕ} {front : Bytes} (h : encodeChar c = some front) : isSurrogate c = false := by
  by_contra hs
  rw [Bool.not_eq_false] at hs
  have hr := hs
  simp only [isSurrogate, decide_eq_true_eq] at hr
  rw [encodeChar, if_neg (by omega), if_neg (by omega), if_pos (by omega), if_pos hs] at h
  cases h

lemma fsdecode_encode_append {s : Str} {bs : Bytes} (h : encode s = some bs) (tail : Bytes) :
    fsdecode (bs ++ tail) = s ++ fsdecode tail := by
  induction s generalizing bs with
  | nil =>
    obtain rfl := Option.some.inj h
    rfl
  | cons c s ih =>
    simp only [encode, Option.bind_eq_some_iff, Option.map_eq_some_iff] at h
    obtain ⟨front, hf, back, hb, rfl⟩ := h
    have hd := decodeHead_encodeChar hf (back ++ tail)
    obtain ⟨a, as, rfl, -⟩ := encodeChar_shape hf
    rw [List.append_assoc]
    rw [List.cons_append] at hd ⊢
    rw [fsdecode_some hd, ih hb]
    rfl

lemma decode_eq_some_iff {bs : Bytes} : decode bs = some (fsdecode bs) ↔
    ∀ c ∈ fsdecode bs, isSurrogate c = false := by
  constructor
  · intro h
    have he := encode_decode h
    generalize fsdecode bs = s at he
    clear h
    induction s generalizing bs with
    | nil => simp
    | cons c s ih =>
      simp only [encode, Option.bind_eq_some_iff, Option.map_eq_some_iff] at he
      obtain ⟨front, hf, back, hb, rfl⟩ := he
      exact List.forall_mem_cons.mpr ⟨not_surrogate hf, ih hb⟩
  · intro h
    refine decode_encode ?_
    induction bs using bytes_induction with
    | nil => rfl
    | some b bs c rest hd ih =>
      obtain ⟨front, hf, he⟩ := encodeChar_decodeHead hd
      rw [fsdecode_some hd] at h ⊢
      rw [encode, hf, ih (List.forall_mem_cons.mp h).2, he]
      rfl
    | none b bs hd ih =>
      rw [fsdecode_none hd] at h
      have hs := (List.forall_mem_cons.mp h).1
      have hlt := b.toNat_lt
      simp only [isSurrogate, decide_eq_false_iff_not] at hs
      omega

lemma decode_unique {bs : Bytes} {s : Str} (h : decode bs = some s) : s = fsdecode bs := by
  have := fsdecode_encode_append (encode_decode h) []
  simpa [fsdecode, fsdecodeWithin] using this.symm

lemma encodeChar_high {c : ℕ} {front : Bytes} (h : encodeChar c = some front) (hc : 0x80 ≤ c) :
    ∀ b ∈ front, 0x80 ≤ b.toNat := by
  have hb (n : ℕ) (hn : 0x80 ≤ n) (hk : n < 256) : 0x80 ≤ (UInt8.ofNat n).toNat := by
    rw [toNat_ofNat hk]
    exact hn
  unfold encodeChar at h
  split_ifs at h with h₁ h₂ h₃ h₄ h₅
  · omega
  all_goals
    obtain rfl := Option.some.inj h
    simp only [List.forall_mem_cons, List.not_mem_nil, false_imp_iff, implies_true, and_true]
  · exact ⟨hb _ (by omega) (by omega), hb _ (by omega) (by omega)⟩
  · exact ⟨hb _ (by omega) (by omega), hb _ (by omega) (by omega), hb _ (by omega) (by omega)⟩
  · exact ⟨hb _ (by omega) (by omega), hb _ (by omega) (by omega), hb _ (by omega) (by omega),
      hb _ (by omega) (by omega)⟩

lemma mem_fsdecode {c : ℕ} (hc : c < 0x80) {bs : Bytes} : c ∈ fsdecode bs ↔ UInt8.ofNat c ∈ bs := by
  have hn := toNat_ofNat (show c < 256 by omega)
  induction bs using bytes_induction with
  | nil => simp [fsdecode, fsdecodeWithin]
  | some b bs d rest h ih =>
    obtain ⟨front, hf, he⟩ := encodeChar_decodeHead h
    rw [fsdecode_some h, he, List.mem_cons, List.mem_append]
    refine or_congr ?_ ih
    by_cases hd : d < 0x80
    · rw [encodeChar, if_pos hd] at hf
      obtain rfl := Option.some.inj hf
      rw [List.mem_singleton]
      constructor
      · rintro rfl
        rfl
      · intro h'
        rw [← hn, h', toNat_ofNat (by omega)]
    · refine iff_of_false (by omega) fun hm => ?_
      have := encodeChar_high hf (by omega) _ hm
      omega
  | none b bs h ih =>
    have hlo := decodeHead_none h
    rw [fsdecode_none h, List.mem_cons, List.mem_cons]
    refine or_congr (iff_of_false (by omega) ?_) ih
    rintro rfl
    omega

lemma fsdecode_ascii {bs : Bytes} (h : ∀ b ∈ bs, b.toNat < 0x80) (tail : Bytes) :
    fsdecode (bs ++ tail) = bs.map UInt8.toNat ++ fsdecode tail := by
  induction bs with
  | nil => rfl
  | cons b bs ih =>
    obtain ⟨hb, hbs⟩ := List.forall_mem_cons.mp h
    have hd : decodeHead (b :: (bs ++ tail)) = some (b.toNat, bs ++ tail) := by
      simp only [decodeHead, if_pos hb]
    rw [List.cons_append, fsdecode_some hd, ih hbs]
    rfl

lemma encode_ne_none_iff {s : Str} : encode s ≠ none ↔ ∀ c ∈ s, encodeChar c ≠ none := by
  induction s with
  | nil => simp [encode]
  | cons c s ih =>
    rw [List.forall_mem_cons, ← ih]
    cases hc : encodeChar c <;> cases hs : encode s <;> simp [encode, hc, hs]

lemma encode_ascii {s : Str} (h : ∀ c ∈ s, c < 0x80) : encode s = some (s.map UInt8.ofNat) := by
  induction s with
  | nil => rfl
  | cons c s ih =>
    obtain ⟨hc, hs⟩ := List.forall_mem_cons.mp h
    simp [encode, encodeChar, hc, ih hs]

end Graft64.Library.Utf8
