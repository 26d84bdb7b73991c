import Mathlib.Data.List.Basic

/-! Computations that may end with an error. -/

namespace Graft64.Library.Results

variable {ε α β : Type}

def orError (e : ε) : Option α → Except ε α
  | some a => .ok a
  | none => .error e

lemma of_orError_eq_ok {e : ε} {o : Option α} {a : α} (h : orError e o = .ok a) : o = some a := by
  cases o with
  | none => cases h
  | some b => exact congrArg some (Except.ok.inj h)

lemma of_bind_eq_ok {r : Except ε α} {g : α → Except ε β} {b : β} (h : r.bind g = .ok b) :
    ∃ a, r = .ok a ∧ g a = .ok b := by
  cases r with
  | error e => cases h
  | ok a => exact ⟨a, rfl, h⟩

lemma of_map_eq_ok {r : Except ε α} {g : α → β} {b : β} (h : r.map g = .ok b) : ∃ a, r = .ok a ∧ g a = b := by
  cases r with
  | error e => cases h
  | ok a => exact ⟨a, rfl, Except.ok.inj h⟩

lemma exists_of_forall₂ {R : α → β → Prop} {as : List α} {bs : List β} (h : List.Forall₂ R as bs) {a : α}
    (ha : a ∈ as) : ∃ b ∈ bs, R a b := by
  induction h with
  | nil => cases ha
  | @cons c b _ _ hr _ ih =>
    rcases List.mem_cons.mp ha with rfl | ha
    · exact ⟨b, List.mem_cons_self, hr⟩
    · obtain ⟨b', hb', hr'⟩ := ih ha
      exact ⟨b', List.mem_cons_of_mem _ hb', hr'⟩

lemma of_mapM_eq_ok {f : α → Except ε β} {as : List α} {bs : List β} (h : as.mapM f = .ok bs) :
    List.Forall₂ (fun a b => f a = .ok b) as bs := by
  induction as generalizing bs with
  | nil =>
    obtain rfl : [] = bs := Except.ok.inj h
    exact .nil
  | cons a as ih =>
    rw [List.mapM_cons] at h
    obtain ⟨b, hb, h⟩ := of_bind_eq_ok h
    obtain ⟨cs, hcs, h⟩ := of_bind_eq_ok h
    obtain rfl := Except.ok.inj h
    exact .cons hb (ih hcs)

lemma mem_of_mapM_eq_ok {f : α → Except ε β} {as : List α} {bs : List β} (h : as.mapM f = .ok bs) {b : β} :
    b ∈ bs ↔ ∃ a ∈ as, f a = .ok b := by
  have hf := of_mapM_eq_ok h
  clear h
  induction hf with
  | nil => simp
  | cons hc _ ih => simp [ih, hc, eq_comm]

lemma mapM_ok_imp {f g : α → Except ε β} {as : List α} {bs : List β} (h : as.mapM f = .ok bs)
    (hg : ∀ a ∈ as, ∀ b, f a = .ok b → g a = .ok b) : as.mapM g = .ok bs := by
  induction as generalizing bs with
  | nil => exact h
  | cons a as ih =>
    obtain ⟨ha, has⟩ := List.forall_mem_cons.mp hg
    rw [List.mapM_cons] at h ⊢
    obtain ⟨b, hb, h⟩ := of_bind_eq_ok h
    obtain ⟨bs', hbs, h⟩ := of_bind_eq_ok h
    rw [ha b hb]
    simp only [bind, Except.bind, ih hbs has]
    exact h

lemma eq_getD_of_isOk {r : Except ε α} (h : r.isOk = true) (a : α) : r = .ok (r.toOption.getD a) := by
  cases r with
  | error e => cases h
  | ok b => rfl

lemma eq_ok_of_isOk {r : Except ε Unit} (h : r.isOk = true) : r = .ok () := eq_getD_of_isOk h ()

lemma eq_mk_of_isOk {r : β × Except ε α} (h : r.2.isOk = true) (a : α) :
    r = (r.1, .ok (r.2.toOption.getD a)) := by
  obtain ⟨b, r⟩ := r
  exact congrArg (Prod.mk b) (eq_getD_of_isOk h a)

end Graft64.Library.Results
