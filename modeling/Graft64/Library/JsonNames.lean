import Graft64.Library.JsonReadBack
import Graft64.Library.JsonTexts
import Graft64.Library.Utf8

/-! Which decoded bytes can be strings of JSON texts. -/

namespace Graft64.Library.Json

open Utf8

lemma scalar_of_encodeChar {c : ℕ} {front : Bytes} (h : encodeChar c = some front) : Scalar c := by
  have hs := Utf8.not_surrogate h
  simp only [isSurrogate, decide_eq_false_iff_not] at hs
  have hlt : c < 0x110000 := by
    by_contra hge
    rw [encodeChar, if_neg (by omega), if_neg (by omega), if_neg (by omega), if_neg hge] at h
    cases h
  simp only [Scalar, isHigh, isLow, decide_eq_false_iff_not]
  omega

lemma scalar_of_decode {bs : Bytes} {s : Str} (h : decode bs = some s) : ∀ c ∈ s, Scalar c := by
  intro c hc
  obtain ⟨front, hf⟩ := Option.ne_none_iff_exists'.mp (encode_ne_none_iff.mp (by simp [encode_decode h]) c hc)
  exact scalar_of_encodeChar hf

lemma Lowly.of_scalar {s : Str} (h : ∀ c ∈ s, Scalar c) : Lowly s := fun c hc => ⟨(h c hc).1, (h c hc).2.1⟩

lemma Lowly.of_ascii {s : Str} (h : Ascii s) : Lowly s := by
  intro c hc
  have hlt := h c hc
  refine ⟨by omega, ?_⟩
  simp only [isHigh, decide_eq_false_iff_not]
  omega

lemma Lowly.append {s t : Str} (hs : Lowly s) (ht : Lowly t) : Lowly (s ++ t) :=
  List.forall_mem_append.mpr ⟨hs, ht⟩

lemma lowly_fsdecode (bs : Bytes) : Lowly (fsdecode bs) := by
  induction bs using bytes_induction with
  | nil => simp [Lowly, fsdecode, fsdecodeWithin]
  | some b bs c rest h ih =>
    obtain ⟨front, hf, -⟩ := encodeChar_decodeHead h
    rw [fsdecode_some h]
    exact List.forall_mem_cons.mpr ⟨⟨(scalar_of_encodeChar hf).1, (scalar_of_encodeChar hf).2.1⟩, ih⟩
  | none b bs h ih =>
    have hlt := b.toNat_lt
    rw [fsdecode_none h]
    refine List.forall_mem_cons.mpr ⟨⟨by omega, ?_⟩, ih⟩
    simp only [isHigh, decide_eq_false_iff_not]
    omega

end Graft64.Library.Json
