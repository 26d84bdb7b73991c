import Graft64.Library.LittleEndian
import Graft64.Library.Results

/-! Reading fields out of byte strings whose contents nothing is known about. -/

namespace Graft64.Library.Unpack

open LittleEndian

abbrev Bytes := List UInt8

/-- What ends a reader: an error it raises itself, or a read it should not have made. `slice` is no
exception of the language, which clips a slice at the end of its bytes without a word. -/
inductive Raised (ε : Type)
  | value (e : ε)
  | struct
  | index
  | slice
  | overflow
deriving DecidableEq

variable {ε α : Type}

/-- `struct.unpack_from`: the fields of a record of `size` bytes at an offset. -/
def unpackFrom (fields : Bytes → α) (size : ℕ) (bs : Bytes) (offset : ℕ) : Except (Raised ε) α :=
  if offset + size ≤ bs.length then .ok (fields ((bs.drop offset).take size)) else .error .struct

def byteAt (bs : Bytes) (i : ℕ) : Except (Raised ε) ℕ :=
  match bs[i]? with
  | some b => .ok b.toNat
  | none => .error .index

def slice (bs : Bytes) (start stop : ℕ) : Except (Raised ε) Bytes :=
  if stop ≤ bs.length then .ok ((bs.drop start).take (stop - start)) else .error .slice

/-- `or`, which does not evaluate its second operand when the first is true. -/
def either (a b : Except (Raised ε) Bool) : Except (Raised ε) Bool :=
  a.bind fun t => if t then .ok true else b

/-- The content of a file, whose size is a signed 64-bit offset. -/
structure File where
  bytes : Bytes
  size_lt : bytes.length < 2 ^ 63

namespace File

def size (f : File) : ℕ := f.bytes.length

/-- `stream.seek`, which takes what a signed 64-bit offset can be. -/
def seek (offset : ℕ) : Except (Raised ε) ℕ := if offset < 2 ^ 63 then .ok offset else .error .overflow

/-- `stream.read` at a position: fewer bytes at the end of the file. -/
def read (f : File) (pos n : ℕ) : Bytes := (f.bytes.drop pos).take n

lemma read_length (f : File) (pos n : ℕ) : (f.read pos n).length = min n (f.size - pos) := by
  rw [read, List.length_take, List.length_drop, size]

lemma read_length_of_le {f : File} {pos n : ℕ} (h : pos + n ≤ f.size) : (f.read pos n).length = n := by
  rw [read_length]
  omega

lemma seek_of_lt {offset : ℕ} (h : offset < 2 ^ 63) : (seek offset : Except (Raised ε) ℕ) = .ok offset := if_pos h

lemma seek_of_le {f : File} {offset : ℕ} (h : offset ≤ f.size) :
    (seek offset : Except (Raised ε) ℕ) = .ok offset :=
  if_pos (Nat.lt_of_le_of_lt h f.size_lt)

end File

lemma unpackFrom_of_le {fields : Bytes → α} {size offset : ℕ} {bs : Bytes} (h : offset + size ≤ bs.length) :
    (unpackFrom fields size bs offset : Except (Raised ε) α) = .ok (fields ((bs.drop offset).take size)) :=
  if_pos h

lemma slice_of_le {start stop : ℕ} {bs : Bytes} (h : stop ≤ bs.length) :
    (slice bs start stop : Except (Raised ε) Bytes) = .ok ((bs.drop start).take (stop - start)) :=
  if_pos h

@[simp] lemma either_ok (a b : Bool) :
    either (.ok a : Except (Raised ε) Bool) (.ok b) = .ok (a || b) := by
  cases a <;> rfl

lemma either_true (b : Except (Raised ε) Bool) : either (.ok true) b = .ok true := rfl

lemma either_false (b : Except (Raised ε) Bool) : either (.ok false) b = b := rfl

def byte (bs : Bytes) (i : ℕ) : ℕ := field bs i 1

lemma byteAt_of_lt {i : ℕ} {bs : Bytes} (h : i < bs.length) :
    (byteAt bs i : Except (Raised ε) ℕ) = .ok (byte bs i) := by
  rw [byteAt, List.getElem?_eq_getElem h, byte, field, List.drop_eq_getElem_cons h]
  rfl

lemma field_lt (bs : Bytes) (offset w : ℕ) : field bs offset w < 256 ^ w :=
  Nat.lt_of_lt_of_le (value_lt _) (Nat.pow_le_pow_right (by decide) (List.length_take_le _ _))

lemma field_window {bs : Bytes} {offset n a w : ℕ} (h : a + w ≤ n) :
    field ((bs.drop offset).take n) a w = field bs (offset + a) w := by
  rw [field, field, List.drop_take, List.drop_drop, List.take_take, Nat.min_eq_left (by omega)]

lemma field_read {f : File} {pos n a w : ℕ} (h : a + w ≤ n) :
    field (f.read pos n) a w = field f.bytes (pos + a) w :=
  field_window h

def Raises (P : ε → Prop) (r : Except (Raised ε) α) : Prop := ∀ e, r = .error e → ∃ v, e = .value v ∧ P v

namespace Raises

variable {β : Type} {P : ε → Prop}

lemma ok (a : α) : Raises P (.ok a) := by
  intro e h
  cases h

lemma error {v : ε} (h : P v) : Raises P (.error (.value v) : Except (Raised ε) α) := by
  intro e he
  obtain rfl := Except.error.inj he
  exact ⟨v, rfl, h⟩

lemma bind {r : Except (Raised ε) α} {g : α → Except (Raised ε) β} (hr : Raises P r)
    (hg : ∀ a, r = .ok a → Raises P (g a)) : Raises P (r.bind g) := by
  cases r with
  | error e =>
    intro e' h
    obtain rfl := Except.error.inj h
    exact hr e rfl
  | ok a => exact hg a rfl

lemma map {r : Except (Raised ε) α} (g : α → β) (hr : Raises P r) : Raises P (r.map g) := by
  cases r with
  | error e =>
    intro e' h
    obtain rfl := Except.error.inj h
    exact hr e rfl
  | ok a => exact ok _

lemma ite {p : Prop} [Decidable p] {a b : Except (Raised ε) α} (ha : p → Raises P a) (hb : ¬ p → Raises P b) :
    Raises P (if p then a else b) := by
  split_ifs with h
  · exact ha h
  · exact hb h

lemma unpack {fields : Bytes → α} {size offset : ℕ} {bs : Bytes} (h : offset + size ≤ bs.length) :
    Raises P (unpackFrom fields size bs offset) := by
  rw [unpackFrom_of_le h]
  exact ok _

lemma eq_or {r : Except (Raised ε) Unit} (h : Raises P r) :
    r = .ok () ∨ ∃ v, r = .error (.value v) ∧ P v := by
  cases r with
  | error e =>
    obtain ⟨v, rfl, hv⟩ := h e rfl
    exact .inr ⟨v, rfl, hv⟩
  | ok a => exact .inl rfl

end Raises

end Graft64.Library.Unpack
