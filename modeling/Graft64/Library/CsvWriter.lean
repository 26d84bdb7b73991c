import Graft64.Library.Csv
import Graft64.Library.Utf8

/-! Records as a writer leaves them that quotes where it has to, and how their bytes look to a program that
knows no encoding. -/

namespace Graft64.Library

namespace Csv

/-- What makes the writer quote a field; not every version of it minds a carriage return. -/
def special (d : ℕ) (cr : Bool) (c : ℕ) : Bool := c == d || c == 34 || c == 10 || (cr && c == 13)

def doubled (c : ℕ) : Str := if c = 34 then [34, 34] else [c]

def writeField (d : ℕ) (cr : Bool) (field : Str) : Str :=
  if field.any (special d cr) then 34 :: (field.flatMap doubled ++ [34]) else field

def writeRow (d : ℕ) (cr : Bool) (row : List Str) : Str := line d (row.map (writeField d cr))

section

variable {d : ℕ} {cr : Bool} {field : Str}

lemma writeField_plain (h : ∀ c ∈ field, special d cr c = false) : writeField d cr field = field := by
  rw [writeField, if_neg]
  rw [List.any_eq_true]
  rintro ⟨c, hc, hs⟩
  rw [h c hc] at hs
  cases hs

lemma writeField_special {c : ℕ} (hc : c ∈ field) (hs : special d cr c = true) :
    writeField d cr field = 34 :: (field.flatMap doubled ++ [34]) := if_pos (List.any_eq_true.mpr ⟨c, hc, hs⟩)

lemma plain_or_quoted (d : ℕ) (cr : Bool) (field : Str) :
    (∀ c ∈ field, special d cr c = false) ∨ ∃ body, writeField d cr field = 34 :: body := by
  by_cases h : ∀ c ∈ field, special d cr c = false
  · exact .inl h
  · push Not at h
    obtain ⟨c, hc, hs⟩ := h
    exact .inr ⟨_, writeField_special hc (Bool.not_eq_false _ ▸ hs)⟩

lemma mem_doubled {c a : ℕ} : c ∈ doubled a ↔ c = a := by
  rw [doubled]
  split_ifs with h
  · simp [h]
  · simp

lemma mem_flatMap_doubled {c : ℕ} : c ∈ field.flatMap doubled ↔ c ∈ field := by
  simp [mem_doubled]

lemma mem_writeField {c : ℕ} (hc : c ≠ 34) : c ∈ writeField d cr field ↔ c ∈ field := by
  rw [writeField]
  split_ifs
  · simp [mem_doubled, hc]
  · rfl

end

end Csv

namespace Utf8

def view (bs : Bytes) : Str := bs.map UInt8.toNat

def Seen (s v : Str) : Prop := (encode s).map view = some v

lemma seen_cons {c : ℕ} {front : Bytes} (h : encodeChar c = some front) {s v : Str} (hs : Seen s v) :
    Seen (c :: s) (view front ++ v) := by
  obtain ⟨bs, hb, rfl⟩ := Option.map_eq_some_iff.mp hs
  rw [Seen, encode, h, Option.bind_some, hb, Option.map_some, Option.map_some, view, List.map_append]
  rfl

lemma seen_nil : Seen [] [] := rfl

lemma seen_append {s v t w : Str} (hs : Seen s v) (ht : Seen t w) : Seen (s ++ t) (v ++ w) := by
  induction s generalizing v with
  | nil =>
    obtain rfl : v = [] := (Option.some.inj hs).symm
    exact ht
  | cons c s ih =>
    rw [Seen, encode] at hs
    obtain ⟨front, hf⟩ : ∃ front, encodeChar c = some front := by
      cases hc : encodeChar c with
      | none => simp [hc] at hs
      | some front => exact ⟨front, rfl⟩
    cases hb : encode s with
    | none => simp [hf, hb] at hs
    | some bs =>
      obtain rfl : view (front ++ bs) = v := by simpa [hf, hb] using hs
      have hbs : Seen s (view bs) := by rw [Seen, hb]; rfl
      rw [view, List.map_append, List.append_assoc]
      exact seen_cons hf (ih hbs)

lemma seen_ascii {s : Str} (h : ∀ c ∈ s, c < 0x80) : Seen s s := by
  rw [Seen, encode_ascii h, Option.map_some, view, List.map_map]
  congr 1
  conv_rhs => rw [← List.map_id s]
  refine List.map_congr_left fun c hc => toNat_ofNat ?_
  have := h c hc
  omega

lemma seen_unique {s v w : Str} (hv : Seen s v) (hw : Seen s w) : v = w := Option.some.inj (hv.symm.trans hw)

lemma Seen.injective {s t v : Str} (hs : Seen s v) (ht : Seen t v) : s = t := by
  obtain ⟨bs, hb, hv⟩ := Option.map_eq_some_iff.mp hs
  obtain ⟨bs', hb', hv'⟩ := Option.map_eq_some_iff.mp ht
  obtain rfl : bs = bs' := List.map_injective_iff.mpr (fun _ _ => UInt8.toNat_inj.mp) (hv.trans hv'.symm)
  exact Option.some.inj ((decode_encode hb).symm.trans (decode_encode hb'))

lemma seen_fsdecode {p : Bytes} (h : encode (fsdecode p) ≠ none) : Seen (fsdecode p) (view p) := by
  obtain ⟨q, hq⟩ := Option.ne_none_iff_exists'.mp h
  obtain rfl : p = q := fsdecode_injective (decode_unique (decode_encode hq))
  rw [Seen, hq]
  rfl

lemma Seen.flatMap {f : ℕ → Str} (hf : ∀ c, 0x80 ≤ c → f c = [c])
    (ha : ∀ c < 0x80, ∀ a ∈ f c, a < 0x80) {s v : Str}
    (h : Seen s v) : Seen (s.flatMap f) (v.flatMap f) := by
  induction s generalizing v with
  | nil =>
    obtain rfl : v = [] := (Option.some.inj h).symm
    exact seen_nil
  | cons c s ih =>
    obtain ⟨bs, hb, rfl⟩ := Option.map_eq_some_iff.mp h
    rw [encode] at hb
    obtain ⟨front, hc, tail, ht, rfl⟩ : ∃ front, encodeChar c = some front ∧ ∃ tail, encode s = some tail ∧
        front ++ tail = bs := by
      obtain ⟨front, hc, hb⟩ := Option.bind_eq_some_iff.mp hb
      obtain ⟨tail, ht, he⟩ := Option.map_eq_some_iff.mp hb
      exact ⟨front, hc, tail, ht, he⟩
    have hs : Seen s (view tail) := by rw [Seen, ht]; rfl
    rw [List.flatMap_cons, view, List.map_append, List.flatMap_append]
    refine seen_append ?_ (ih hs)
    by_cases hlow : c < 0x80
    · rw [encodeChar, if_pos hlow] at hc
      obtain rfl := Option.some.inj hc
      have hn : (UInt8.ofNat c).toNat = c := toNat_ofNat (by omega)
      rw [List.map_singleton, hn, List.flatMap_singleton]
      exact seen_ascii (ha c hlow)
    · have hhigh := encodeChar_high hc (by omega)
      have hfront : (front.map UInt8.toNat).flatMap f = view front := by
        rw [view, List.flatMap_map]
        conv_rhs => rw [← List.flatMap_singleton' front, List.map_flatMap]
        refine List.flatMap_congr fun b hb => ?_
        rw [hf _ (hhigh b hb)]
        rfl
      have := seen_cons hc seen_nil
      rw [List.append_nil] at this
      rw [hf c (by omega), hfront]
      exact this

lemma Seen.any {p : ℕ → Bool} (hp : ∀ c, 0x80 ≤ c → p c = false) {s v : Str} (h : Seen s v) :
    v.any p = s.any p := by
  induction s generalizing v with
  | nil =>
    obtain rfl : v = [] := (Option.some.inj h).symm
    rfl
  | cons c s ih =>
    obtain ⟨bs, hb, rfl⟩ := Option.map_eq_some_iff.mp h
    rw [encode] at hb
    obtain ⟨front, hc, hb⟩ := Option.bind_eq_some_iff.mp hb
    obtain ⟨tail, ht, rfl⟩ := Option.map_eq_some_iff.mp hb
    have hs : Seen s (view tail) := by rw [Seen, ht]; rfl
    rw [view, List.map_append, List.any_append, List.any_cons]
    refine congr_arg₂ _ ?_ (ih hs)
    by_cases hlow : c < 0x80
    · rw [encodeChar, if_pos hlow] at hc
      obtain rfl := Option.some.inj hc
      have hn : (UInt8.ofNat c).toNat = c := toNat_ofNat (by omega)
      simp [hn]
    · rw [hp c (by omega), List.any_eq_false]
      intro a ha
      obtain ⟨b, hb, rfl⟩ := List.mem_map.mp ha
      rw [hp _ (encodeChar_high hc (by omega) b hb)]
      exact Bool.false_ne_true

end Utf8

open Utf8 in
lemma Csv.seen_writeField {d : ℕ} (hd : d < 0x80) (cr : Bool) {s v : Str} (h : Seen s v) :
    Seen (writeField d cr s) (writeField d cr v) := by
  have hspecial : ∀ c, 0x80 ≤ c → special d cr c = false := by
    intro c hc
    simp only [special, Bool.or_eq_false_iff, beq_eq_false_iff_ne, Bool.and_eq_false_iff]
    omega
  rw [writeField, writeField, h.any hspecial]
  split_ifs
  · have hquote : Seen [34] [34] := seen_ascii (by simp)
    refine seen_append hquote (seen_append (h.flatMap (fun c hc => ?_) fun c hc a ha => ?_) hquote)
    · rw [doubled, if_neg (by omega)]
    · rw [mem_doubled.mp ha]
      exact hc
  · exact h

end Graft64.Library
