import Graft64.Library.LittleEndian

/-! Codes whose words can be told apart where they stand one after the other. -/

namespace Graft64.Library

variable {σ α β : Type}

/-- What is encoded can be read off the front of every longer word. -/
def PrefixFree (enc : α → Option (List σ)) : Prop :=
  ∀ ⦃a b x y s t⦄, enc a = some x → enc b = some y → x ++ s = y ++ t → a = b ∧ s = t

namespace PrefixFree

variable {enc : α → Option (List σ)}

def both (enc : α → Option (List σ)) (enc' : β → Option (List σ)) (p : α × β) : Option (List σ) := do
  let x ← enc p.1
  let y ← enc' p.2
  return x ++ y

lemma of_both_eq_some {enc' : β → Option (List σ)} {p : α × β} {w : List σ} (h : both enc enc' p = some w) :
    ∃ x y, enc p.1 = some x ∧ enc' p.2 = some y ∧ x ++ y = w := by
  obtain ⟨x, hx, h⟩ := Option.bind_eq_some_iff.mp h
  obtain ⟨y, hy, h⟩ := Option.bind_eq_some_iff.mp h
  exact ⟨x, y, hx, hy, Option.some.inj h⟩

lemma both_prefixFree (h : PrefixFree enc) {enc' : β → Option (List σ)} (h' : PrefixFree enc') :
    PrefixFree (both enc enc') := by
  rintro ⟨a, a'⟩ ⟨b, b'⟩ v w s t hv hw he
  obtain ⟨x, x', hx, hx', rfl⟩ := of_both_eq_some hv
  obtain ⟨y, y', hy, hy', rfl⟩ := of_both_eq_some hw
  rw [List.append_assoc, List.append_assoc] at he
  obtain ⟨hab, he⟩ := h hx hy he
  obtain ⟨hab', he⟩ := h' hx' hy' he
  exact ⟨Prod.ext hab hab', he⟩

lemma bind_prefixFree (h : PrefixFree enc) {g : β → Option α}
    (hg : ∀ ⦃b c a⦄, g b = some a → g c = some a → b = c) : PrefixFree fun b => (g b).bind enc := by
  intro b c x y s t hx hy he
  obtain ⟨a, ha, hx⟩ := Option.bind_eq_some_iff.mp hx
  obtain ⟨a', ha', hy⟩ := Option.bind_eq_some_iff.mp hy
  obtain ⟨rfl, he⟩ := h hx hy he
  exact ⟨hg ha ha', he⟩

def sequence (enc : α → Option (List σ)) : List α → Option (List σ)
  | [] => some []
  | a :: as => do
    let x ← enc a
    let y ← sequence enc as
    return x ++ y

lemma of_sequence_cons {a : α} {as : List α} {w : List σ} (h : sequence enc (a :: as) = some w) :
    ∃ x y, enc a = some x ∧ sequence enc as = some y ∧ x ++ y = w := by
  obtain ⟨x, hx, h⟩ := Option.bind_eq_some_iff.mp h
  obtain ⟨y, hy, h⟩ := Option.bind_eq_some_iff.mp h
  exact ⟨x, y, hx, hy, Option.some.inj h⟩

theorem sequence_injective (h : PrefixFree enc) (hne : ∀ a, enc a ≠ some []) {as bs : List α} {w : List σ}
    (ha : sequence enc as = some w) (hb : sequence enc bs = some w) : as = bs := by
  have hnil {a : α} {as : List α} {v : List σ} (hv : sequence enc (a :: as) = some v) : v ≠ [] := by
    obtain ⟨x, y, hx, -, rfl⟩ := of_sequence_cons hv
    intro he
    obtain ⟨rfl, -⟩ := List.append_eq_nil_iff.mp he
    exact hne a hx
  induction as generalizing bs w with
  | nil =>
    obtain rfl := Option.some.inj ha
    cases bs with
    | nil => rfl
    | cons b bs => exact absurd rfl (hnil hb)
  | cons a as ih =>
    cases bs with
    | nil =>
      obtain rfl := Option.some.inj hb
      exact absurd rfl (hnil ha)
    | cons b bs =>
      obtain ⟨x, v, hx, hv, rfl⟩ := of_sequence_cons ha
      obtain ⟨y, u, hy, hu, he⟩ := of_sequence_cons hb
      obtain ⟨rfl, rfl⟩ := h hx hy he.symm
      rw [ih hv hu]

end PrefixFree

/-- A number in as many bytes, the highest first; `none` when it does not fit. -/
def bigEndian (w n : ℕ) : Option (List UInt8) :=
  if n < 256 ^ w then some (LittleEndian.encode w n).reverse else none

lemma of_bigEndian_eq_some {w n : ℕ} {bs : List UInt8} (h : bigEndian w n = some bs) :
    bs.length = w ∧ LittleEndian.value bs.reverse = n := by
  obtain ⟨hn, h⟩ := Option.ite_none_right_eq_some.mp h
  obtain rfl := Option.some.inj h
  simp [LittleEndian.value_encode hn]

def frame (w : ℕ) (bs : List UInt8) : Option (List UInt8) := do
  let n ← bigEndian w bs.length
  return n ++ bs

lemma of_frame_eq_some {w : ℕ} {bs v : List UInt8} (h : frame w bs = some v) :
    ∃ n, bigEndian w bs.length = some n ∧ v = n ++ bs := by
  obtain ⟨n, hn, h⟩ := Option.bind_eq_some_iff.mp h
  exact ⟨n, hn, (Option.some.inj h).symm⟩

lemma frame_prefixFree (w : ℕ) : PrefixFree (frame w) := by
  intro as bs x y s t hx hy he
  obtain ⟨n, hn, rfl⟩ := of_frame_eq_some hx
  obtain ⟨m, hm, rfl⟩ := of_frame_eq_some hy
  obtain ⟨hnl, hnv⟩ := of_bigEndian_eq_some hn
  obtain ⟨hml, hmv⟩ := of_bigEndian_eq_some hm
  rw [List.append_assoc, List.append_assoc] at he
  -- the two lengths stand in fields of one width, so they are equal
  obtain ⟨rfl, hr⟩ := List.append_inj he (hnl.trans hml.symm)
  exact List.append_inj hr (hnv.symm.trans hmv)

lemma frame_ne_nil {w : ℕ} (hw : 0 < w) (bs : List UInt8) : frame w bs ≠ some [] := by
  intro h
  obtain ⟨n, hn, h⟩ := of_frame_eq_some h
  have hl := (of_bigEndian_eq_some hn).1
  obtain ⟨rfl, -⟩ := List.append_eq_nil_iff.mp h.symm
  exact absurd hl.symm (Nat.pos_iff_ne_zero.mp hw)

end Graft64.Library
