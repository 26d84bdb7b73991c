import Graft64.Library.JsonCompact
import Graft64.Library.Utf8
import Graft64.Platform.ProbeReturn

/-! The details text of a probe, and the JSON value it is the text of. -/

namespace Graft64.Platform

open Graft64.Library Utf8 Json

def readDetails (details : CString) : Option Json := (decode details).bind (parse false)

def Printable (s : CString) : Prop :=
  (decode s).isSome = true ∧ ∀ b ∈ s, 32 ≤ b.toNat ∧ b.toNat ≠ 34 ∧ b.toNat ≠ 92

structure Clean (s : Str) : Prop where
  plain : Plain s
  proper : ∀ c ∈ s, isSurrogate c = false

lemma decode_isSome_iff {s : CString} : (decode s).isSome = true ↔ ∀ c ∈ fsdecode s, isSurrogate c = false := by
  rw [← decode_eq_some_iff, Option.isSome_iff_exists]
  constructor
  · rintro ⟨t, ht⟩
    rw [ht, decode_unique ht]
  · intro h
    exact ⟨_, h⟩

lemma plain_fsdecode {s : CString} : Plain (fsdecode s) ↔ ∀ b ∈ s, 32 ≤ b.toNat ∧ b.toNat ≠ 34 ∧ b.toNat ≠ 92 := by
  have hb (b : UInt8) (hlt : b.toNat < 0x80) : b.toNat ∈ fsdecode s ↔ b ∈ s := by
    rw [mem_fsdecode hlt, UInt8.ofNat_toNat]
  constructor
  · intro h b hm
    by_cases hlt : b.toNat < 0x80
    · exact h _ ((hb b hlt).mpr hm)
    · omega
  · intro h c hm
    by_cases hlt : c < 0x80
    · have := h _ ((mem_fsdecode hlt).mp hm)
      rwa [toNat_ofNat (by omega)] at this
    · omega

lemma printable_iff {s : CString} : Printable s ↔ Clean (fsdecode s) := by
  rw [Printable, decode_isSome_iff, ← plain_fsdecode]
  exact ⟨fun h => ⟨h.2, h.1⟩, fun h => ⟨h.2, h.1⟩⟩

theorem readDetails_setText {text : CString} {j : Json} (ht : fsdecode text = render compact 0 j)
    (hj : Strings (fun _ => True) j) :
    readDetails (setText detailsSize text) = some j ↔ text.length < detailsSize ∧ Strings Clean j := by
  have hs := forall_mem_render (Q := fun c => isSurrogate c = false)
    (fun c hc => by simp only [isSurrogate, decide_eq_false_iff_not]; omega) 0 j hj
  constructor
  · intro h
    obtain ⟨t, hd, hp⟩ := Option.bind_eq_some_iff.mp h
    obtain ⟨hle, hplain⟩ := parse_length hp
    -- the bytes that were cut off decode to nothing, so nothing was cut off
    have hf := fsdecode_encode_append (encode_decode hd) (text.drop (detailsSize - 1))
    rw [setText, List.take_append_drop, ht] at hf
    have hn : fsdecode (text.drop (detailsSize - 1)) = [] := by
      have := congrArg List.length hf
      rw [List.length_append] at this
      exact List.eq_nil_of_length_eq_zero (by omega)
    have hdrop : text.drop (detailsSize - 1) = [] := fsdecode_injective hn
    have hlen : text.length < detailsSize := by
      have := List.drop_eq_nil_iff.mp hdrop
      simp only [detailsSize] at this ⊢
      omega
    rw [hn, List.append_nil] at hf
    rw [setText_of_lt hlen] at hd
    refine ⟨hlen, Strings.imp (fun _ h => ⟨h.1, h.2⟩) j (Strings.and j (hplain (by rw [hf])) (hs.mp ?_))⟩
    rw [← ht]
    exact decode_isSome_iff.mp (by rw [hd]; rfl)
  · rintro ⟨hlen, hc⟩
    have hplain : Strings Plain j := Strings.imp (fun _ h => h.plain) j hc
    have hsur := hs.mpr (Strings.imp (fun _ h => h.proper) j hc)
    rw [← ht] at hsur
    have hp : Json.parse false (render compact 0 j ++ []) = some j :=
      parse_render compact_lawful false hplain (by simp)
    rw [List.append_nil] at hp
    rw [readDetails, setText_of_lt hlen, decode_eq_some_iff.mpr hsur, Option.bind_some, ht, hp]

structure Prints (text : CString) (s : Str) (n : ℕ) : Prop where
  reads : fsdecode text = s
  length_le : text.length ≤ n

lemma cstr_ofList (cs : List Char) : cstr (String.ofList cs) = cs.map fun c => UInt8.ofNat c.toNat := by
  rw [cstr, String.toList_ofList]

lemma cstr_length (cs : List Char) : (cstr (String.ofList cs)).length = cs.length := by
  rw [cstr_ofList, List.length_map]

def isAscii (c : Char) : Bool := decide (c.toNat < 0x80)

lemma map_cstr {cs : List Char} (h : cs.all isAscii = true) :
    (cstr (String.ofList cs)).map UInt8.toNat = cs.map Char.toNat ∧
      ∀ b ∈ cstr (String.ofList cs), b.toNat < 0x80 := by
  rw [cstr_ofList]
  simp only [List.all_eq_true, isAscii, decide_eq_true_eq] at h
  constructor
  · rw [List.map_map]
    refine List.map_congr_left fun c hc => ?_
    exact toNat_ofNat (Nat.lt_trans (h c hc) (by decide))
  · intro b hb
    obtain ⟨c, hc, rfl⟩ := List.mem_map.mp hb
    rw [toNat_ofNat (Nat.lt_trans (h c hc) (by decide))]
    exact h c hc

lemma fsdecode_cstr {cs : List Char} (h : cs.all isAscii = true) :
    fsdecode (cstr (String.ofList cs)) = cs.map Char.toNat := by
  have hn : fsdecode [] = [] := rfl
  rw [← List.append_nil (cstr _), fsdecode_ascii (map_cstr h).2, (map_cstr h).1, hn, List.append_nil]

def Fits64 (z : ℤ) : Prop := -2 ^ 63 ≤ z ∧ z < 2 ^ 64

lemma Fits64.natCast {n : ℕ} (h : n < 2 ^ 64) : Fits64 n := by
  unfold Fits64
  omega

lemma Fits64.uint64 (n : UInt64) : Fits64 n.toNat := Fits64.natCast n.toNat_lt

lemma Fits64.int32 (z : Int32) : Fits64 z.toInt := by
  have h₁ := z.le_toInt
  have h₂ := z.toInt_lt
  unfold Fits64
  omega

lemma Fits64.int64 (z : Int64) : Fits64 z.toInt := by
  have h₁ := z.le_toInt
  have h₂ := z.toInt_lt
  unfold Fits64
  omega

lemma SysError.fits (e : SysError) : Fits64 e.errno := Fits64.natCast (Nat.lt_trans e.errno_lt (by decide))

lemma fmtInt_length {z : ℤ} (h : Fits64 z) : (fmtInt z).length ≤ 20 := by
  rw [fmtInt, List.length_map]
  unfold Fits64 at h
  cases z with
  | ofNat n =>
    refine (Decimal.ofNat_length_le_iff (by decide)).mpr ?_
    have : (n : ℤ) < 2 ^ 64 := h.2
    omega
  | negSucc n =>
    have : (Decimal.ofNat (n + 1)).length ≤ 19 := (Decimal.ofNat_length_le_iff (by decide)).mpr (by omega)
    rw [Decimal.ofInt, List.length_cons]
    omega

lemma fmtInt_ascii (z : ℤ) : (fmtInt z).map UInt8.toNat = Decimal.ofInt z ∧ ∀ b ∈ fmtInt z, b.toNat < 0x80 := by
  constructor
  · rw [fmtInt, List.map_map]
    refine (List.map_congr_left fun c hc => ?_).trans (List.map_id _)
    have := Decimal.ofInt_lt hc
    exact toNat_ofNat (by omega)
  · intro b hb
    obtain ⟨c, hc, rfl⟩ := List.mem_map.mp hb
    have := Decimal.ofInt_lt hc
    rw [toNat_ofNat (by omega)]
    exact this

namespace Prints

variable {tail : CString} {s : Str} {n : ℕ}

lemma cast {text : CString} {s' : Str} (h : Prints text s n) (hs : s = s') : Prints text s' n := hs ▸ h

lemma mono {text : CString} {n' : ℕ} (h : Prints text s n) (hn : n ≤ n') : Prints text s n' :=
  ⟨h.reads, h.length_le.trans hn⟩

lemma text (cs : List Char) (h : cs.all isAscii = true) (ht : Prints tail s n) :
    Prints (cstr (String.ofList cs) ++ tail) (cs.map Char.toNat ++ s) (cs.length + n) where
  reads := by rw [fsdecode_ascii (map_cstr h).2, (map_cstr h).1, ht.reads]
  length_le := by
    rw [List.length_append, cstr_length]
    exact Nat.add_le_add_left ht.length_le _

lemma last (cs : List Char) (h : cs.all isAscii = true) :
    Prints (cstr (String.ofList cs)) (cs.map Char.toNat) cs.length :=
  ⟨fsdecode_cstr h, (cstr_length cs).le⟩

lemma int (z : ℤ) (hz : Fits64 z) (ht : Prints tail s n) :
    Prints (fmtInt z ++ tail) (Decimal.ofInt z ++ s) (20 + n) where
  reads := by rw [fsdecode_ascii (fmtInt_ascii z).2, (fmtInt_ascii z).1, ht.reads]
  length_le := by
    rw [List.length_append]
    exact Nat.add_le_add (fmtInt_length hz) ht.length_le

lemma bool (b : Bool) (ht : Prints tail s n) :
    Prints (fmtBool b ++ tail) ((if b then lit "true" else lit "false") ++ s) (5 + n) := by
  cases b with
  | true =>
    have h : Prints (cstr "true" ++ tail) _ _ := text _ rfl ht
    refine ⟨h.reads, h.length_le.trans ?_⟩
    simp
  | false => exact text _ rfl ht

lemma str (p : CString) {c : Char} {cs : List Char} {more : CString} (h : isAscii c = true)
    (ht : Prints (cstr (String.ofList (c :: cs)) ++ more) s n) :
    Prints (p ++ (cstr (String.ofList (c :: cs)) ++ more)) (fsdecode p ++ s) (p.length + n) where
  reads := by
    rw [← ht.reads, cstr_ofList]
    refine fsdecode_cut ?_ p _
    rw [← Bool.not_eq_true, isTail_iff, toNat_ofNat (Nat.lt_trans (of_decide_eq_true h) (by decide))]
    have := of_decide_eq_true h
    omega
  length_le := by
    rw [List.length_append]
    exact Nat.add_le_add_left ht.length_le _

lemma strLast (p : CString) {c : Char} {cs : List Char} (h : isAscii c = true)
    (ht : Prints (cstr (String.ofList (c :: cs))) s n) :
    Prints (p ++ cstr (String.ofList (c :: cs))) (fsdecode p ++ s) (p.length + n) := by
  rw [← List.append_nil (cstr _)] at ht ⊢
  exact str p h ht

end Prints

lemma clean_lit (cs : List Char)
    (h : cs.all (fun c => decide (32 ≤ c.toNat ∧ c.toNat ≠ 34 ∧ c.toNat ≠ 92 ∧ c.toNat < 0x80)) = true) :
    Clean (lit (String.ofList cs)) := by
  simp only [List.all_eq_true, decide_eq_true_eq] at h
  rw [lit_ofList]
  refine ⟨fun n hn => ?_, fun n hn => ?_⟩ <;> obtain ⟨c, hc, rfl⟩ := List.mem_map.mp hn
  · exact ⟨(h c hc).1, (h c hc).2.1, (h c hc).2.2.1⟩
  · have := (h c hc).2.2.2
    simp only [isSurrogate, decide_eq_false_iff_not]
    omega

def Faithful (details : CString) (j : Option Json) : Prop := ∃ o, j = some o ∧ readDetails details = some o

lemma not_faithful_none (details : CString) : ¬ Faithful details none := by
  rintro ⟨o, ho, -⟩
  cases ho

lemma faithful_iff {text : CString} {j : Json} {n : ℕ} (h : Prints text (render compact 0 j) n)
    (hj : Strings (fun _ => True) j) :
    Faithful (setText detailsSize text) (some j) ↔ text.length < detailsSize ∧ Strings Clean j := by
  rw [← readDetails_setText h.reads hj]
  constructor
  · rintro ⟨o, ho, hr⟩
    obtain rfl := Option.some.inj ho
    exact hr
  · exact fun hr => ⟨j, rfl, hr⟩

lemma faithful_of {text : CString} {j : Json} {n : ℕ} (h : Prints text (render compact 0 j) n)
    (hn : n < detailsSize) (hc : Strings Clean j) : Faithful (setText detailsSize text) (some j) :=
  (faithful_iff h (Strings.imp (fun _ _ => trivial) j hc)).mpr ⟨Nat.lt_of_le_of_lt h.length_le hn, hc⟩

end Graft64.Platform
