import Mathlib.Data.List.Basic
import Mathlib.Data.List.Nodup

/-! Lists that keep the latest value of each key, in the order in which the keys first came. -/

namespace Graft64.Library.Latest

variable {α κ : Type} [DecidableEq κ] (key : α → κ)

def upsert (l : List α) (x : α) : List α :=
  match l.findIdx? fun y => key y == key x with
  | some i => l.set i x
  | none => l ++ [x]

/-- `l` holds the latest of the values `xs` of each key, in the order of the first one. -/
structure Digest (xs l : List α) : Prop where
  nodup : (l.map key).Nodup
  latest : ∀ y ∈ l, xs.reverse.find? (fun x => key x == key y) = some y
  complete : ∀ x ∈ xs, key x ∈ l.map key
  order : (l.map key).Pairwise fun a b => (xs.map key).idxOf a < (xs.map key).idxOf b

variable {key}

@[simp] lemma upsert_nil (x : α) : upsert key [] x = [x] := rfl

lemma upsert_cons (y : α) (l : List α) (x : α) :
    upsert key (y :: l) x = if key y = key x then x :: l else y :: upsert key l x := by
  rw [upsert, List.findIdx?_cons]
  by_cases h : key y = key x
  · simp [h]
  · simp only [beq_eq_false_iff_ne.mpr h, Bool.false_eq_true, if_false, if_neg h, upsert]
    cases l.findIdx? fun y => key y == key x <;> rfl

lemma upsert_of_not_mem {l : List α} {x : α} (h : key x ∉ l.map key) : upsert key l x = l ++ [x] := by
  induction l with
  | nil => rfl
  | cons y l ih =>
    rw [List.map_cons, List.mem_cons, not_or] at h
    rw [upsert_cons, if_neg (Ne.symm h.1), ih h.2, List.cons_append]

lemma map_upsert (l : List α) (x : α) :
    (upsert key l x).map key = if key x ∈ l.map key then l.map key else l.map key ++ [key x] := by
  induction l with
  | nil => rfl
  | cons y l ih =>
    rw [upsert_cons]
    by_cases h : key y = key x
    · simp [h]
    · rw [if_neg h, List.map_cons, ih, List.map_cons]
      by_cases hm : key x ∈ l.map key
      · rw [if_pos hm, if_pos (List.mem_cons_of_mem _ hm)]
      · rw [if_neg hm, if_neg (by simpa [Ne.symm h] using hm), List.cons_append]

lemma eq_or_mem_of_mem_upsert {l : List α} {x y : α} (hn : (l.map key).Nodup) (h : y ∈ upsert key l x) :
    y = x ∨ (y ∈ l ∧ key y ≠ key x) := by
  induction l with
  | nil => exact .inl (List.mem_singleton.mp h)
  | cons z l ih =>
    obtain ⟨hz, hl⟩ := List.nodup_cons.mp hn
    rw [upsert_cons] at h
    split_ifs at h with he
    · obtain rfl | hy := List.mem_cons.mp h
      · exact .inl rfl
      · refine .inr ⟨List.mem_cons_of_mem z hy, ?_⟩
        intro hyx
        exact hz (List.mem_map.mpr ⟨y, hy, hyx.trans he.symm⟩)
    · obtain rfl | hy := List.mem_cons.mp h
      · exact .inr ⟨List.mem_cons_self, he⟩
      · obtain rfl | ⟨hy, hyx⟩ := ih hl hy
        · exact .inl rfl
        · exact .inr ⟨List.mem_cons_of_mem z hy, hyx⟩

namespace Digest

variable {xs l : List α}

lemma nil : Digest key ([] : List α) [] := ⟨by simp, by simp, by simp, by simp⟩

lemma mem_map (h : Digest key xs l) {k : κ} : k ∈ l.map key ↔ k ∈ xs.map key := by
  constructor
  · intro hk
    obtain ⟨y, hy, rfl⟩ := List.mem_map.mp hk
    have hfind := List.mem_of_find?_eq_some (h.latest y hy)
    exact List.mem_map_of_mem (List.mem_reverse.mp hfind)
  · intro hk
    obtain ⟨x, hx, rfl⟩ := List.mem_map.mp hk
    exact h.complete x hx

lemma upsert (h : Digest key xs l) (x : α) : Digest key (xs ++ [x]) (upsert key l x) := by
  have hidx {k : κ} (hk : k ∈ xs.map key) : ((xs ++ [x]).map key).idxOf k = (xs.map key).idxOf k := by
    rw [List.map_append, List.idxOf_append_of_mem hk]
  have horder : (l.map key).Pairwise fun a b => ((xs ++ [x]).map key).idxOf a < ((xs ++ [x]).map key).idxOf b := by
    refine h.order.imp_of_mem ?_
    intro a b ha hb hab
    rwa [hidx (h.mem_map.mp ha), hidx (h.mem_map.mp hb)]
  constructor
  · rw [map_upsert]
    split_ifs with hx
    · exact h.nodup
    · refine List.nodup_append.mpr ⟨h.nodup, by simp, ?_⟩
      rintro a ha b hb rfl
      exact hx (List.mem_singleton.mp hb ▸ ha)
  · intro y hy
    rw [List.reverse_append, List.reverse_singleton, List.singleton_append]
    obtain rfl | ⟨hy, hyx⟩ := eq_or_mem_of_mem_upsert h.nodup hy
    · exact List.find?_cons_of_pos (beq_self_eq_true _)
    · rw [List.find?_cons_of_neg (by simpa using Ne.symm hyx), h.latest y hy]
  · intro z hz
    rw [map_upsert]
    obtain hz | hz := List.mem_append.mp hz
    · split_ifs
      · exact h.complete z hz
      · exact List.mem_append_left _ (h.complete z hz)
    · obtain rfl := List.mem_singleton.mp hz
      split_ifs with hx
      · exact hx
      · simp
  · rw [map_upsert]
    split_ifs with hx
    · exact horder
    · refine List.pairwise_append.mpr ⟨horder, by simp, ?_⟩
      rintro a ha b hb
      obtain rfl := List.mem_singleton.mp hb
      have hnew : key x ∉ xs.map key := mt h.mem_map.mpr hx
      have hlast : ((xs ++ [x]).map key).idxOf (key x) = xs.length := by
        rw [List.map_append, List.idxOf_append_of_notMem hnew]
        simp
      rw [hidx (h.mem_map.mp ha), hlast, ← List.length_map key]
      exact List.idxOf_lt_length_of_mem (h.mem_map.mp ha)

lemma foldl (h : Digest key xs l) (ys : List α) : Digest key (xs ++ ys) (ys.foldl (Latest.upsert key) l) := by
  induction ys generalizing xs l with
  | nil => simpa using h
  | cons y ys ih => simpa using ih (h.upsert y)

end Digest

lemma foldl_upsert_of_nodup {l xs : List α} (h : ((l ++ xs).map key).Nodup) :
    xs.foldl (upsert key) l = l ++ xs := by
  induction xs generalizing l with
  | nil => simp
  | cons x xs ih =>
    have hx : key x ∉ l.map key := by
      rw [List.map_append, List.map_cons] at h
      exact fun hm => (List.disjoint_of_nodup_append h) hm List.mem_cons_self
    rw [List.foldl_cons, upsert_of_not_mem hx, ih (by simpa using h), List.append_assoc, List.singleton_append]

end Graft64.Library.Latest
