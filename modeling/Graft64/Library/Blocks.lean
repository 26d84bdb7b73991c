import Graft64.Library.Regex

/-! Expressions for blocks of text that have the same header and differ in where a block ends. -/

namespace Graft64.Library.Regex

section

variable {R : Match → Match → Prop}

def Related (R : Match → Match → Prop) (k k' : Cont) : Prop := ∀ c caps, Option.Rel R (k c caps) (k' c caps)

lemma rel_orElse {a b : Option Match} {f g : Unit → Option Match} (hab : Option.Rel R a b)
    (hfg : Option.Rel R (f ()) (g ())) : Option.Rel R (a.orElse f) (b.orElse g) := by
  cases hab with
  | some h => exact .some h
  | none => exact hfg

lemma Related.greedy {k k' : Cursor → Option Match} (hk : ∀ c, Option.Rel R (k c) (k' c))
    (p : ℕ → Bool) (bol : Bool)
    (text : Str) : Option.Rel R (Regex.greedy p k bol text) (Regex.greedy p k' bol text) := by
  induction text generalizing bol with
  | nil => exact hk _
  | cons c text ih =>
    rw [Regex.greedy, Regex.greedy]
    split_ifs
    · exact rel_orElse (ih _) (hk _)
    · exact hk _

lemma Related.shortest {k k' : Cursor → Option Match} (hk : ∀ c, Option.Rel R (k c) (k' c)) (p : ℕ → Bool)
    (bol : Bool) (text : Str) : Option.Rel R (Regex.shortest p k bol text) (Regex.shortest p k' bol text) := by
  induction text generalizing bol with
  | nil => exact hk _
  | cons c text ih =>
    rw [Regex.shortest, Regex.shortest]
    apply rel_orElse (hk _)
    split_ifs
    · exact ih _
    · exact .none

lemma Related.rounds {step : Cont → Cont} (hstep : ∀ {k k'}, Related R k k' → Related R (step k) (step k'))
    {k k' : Cont} (hk : Related R k k') (n : ℕ) : Related R (Regex.rounds step k n) (Regex.rounds step k' n) := by
  induction n with
  | zero => exact fun _ _ => .none
  | succ n ih => exact hstep fun c caps => rel_orElse (ih c caps) (hk c caps)

theorem Related.run {k k' : Cont} (hk : Related R k k') (r : Regex) : Related R (r.run k) (r.run k') := by
  induction r generalizing k k' with
  | empty => exact hk
  | char p =>
    rintro ⟨bol, rest⟩ caps
    cases rest with
    | nil => exact .none
    | cons x rest =>
      rw [Regex.run, Regex.run]
      dsimp only
      split_ifs
      · exact hk _ _
      · exact .none
  | startOfLine | endOfLine | endOfText =>
    intro c caps
    rw [Regex.run, Regex.run]
    split_ifs
    · exact hk _ _
    · exact .none
  | many p =>
    intro c caps
    exact Related.greedy (fun c => hk c caps) p _ _
  | manyLazy p =>
    intro c caps
    exact Related.shortest (fun c => hk c caps) p _ _
  | repeated r ih =>
    intro c caps
    exact Related.rounds ih hk _ c caps
  | seq r s ihr ihs => exact ihr (ihs hk)
  | alt r s ihr ihs =>
    intro c caps
    exact rel_orElse (ihr hk c caps) (ihs hk c caps)
  | group r ih =>
    intro c caps
    exact ih (fun _ _ => hk _ _) c caps
  | ahead r | notAhead r =>
    intro c caps
    rw [Regex.run, Regex.run]
    split_ifs
    · exact hk _ _
    · exact .none

end

/-- What stands before the first place with `p`, and that place; the end of the text is such a place. -/
def upTo (p : Cursor → Bool) : Bool → Str → Str × Cursor
  | bol, [] => ([], ⟨bol, []⟩)
  | bol, c :: rest =>
    if p ⟨bol, c :: rest⟩ then ([], ⟨bol, c :: rest⟩)
    else (c :: (upTo p (c == 10) rest).1, (upTo p (c == 10) rest).2)

/-- `(.*?)(?=…)`, where the dot stands for every character. -/
def blockUpTo (stop : Regex) : Regex := .seq (.group (.manyLazy fun _ => true)) (.ahead stop)

def stopsAt (stop : Regex) (c : Cursor) : Bool := (stop.matchAt c).isSome

section

variable {p q : Cursor → Bool} {r stop stop' : Regex}

lemma upTo_append (bol : Bool) (text : Str) : (upTo p bol text).1 ++ (upTo p bol text).2.rest = text := by
  induction text generalizing bol with
  | nil => rfl
  | cons c text ih =>
    rw [upTo]
    split_ifs
    · rfl
    · rw [List.cons_append, ih]

lemma upTo_upTo (h : ∀ c, p c = true → q c = true) (bol : Bool) (text : Str) :
    upTo p bol text = ((upTo q bol text).1 ++ (upTo p (upTo q bol text).2.bol (upTo q bol text).2.rest).1,
      (upTo p (upTo q bol text).2.bol (upTo q bol text).2.rest).2) := by
  induction text generalizing bol with
  | nil => rfl
  | cons c text ih =>
    by_cases hq : q ⟨bol, c :: text⟩ = true
    · rw [upTo.eq_2 q, if_pos hq, List.nil_append]
    · have hp : ¬ p ⟨bol, c :: text⟩ = true := fun hp => hq (h _ hp)
      rw [upTo, if_neg hp, upTo.eq_2 q, if_neg hq, ih, List.cons_append]

lemma searchFrom_upTo (h : ∀ c, p c = false → r.matchAt c = none) (bol : Bool) (text : Str) :
    searchFrom r bol text = searchFrom r (upTo p bol text).2.bol (upTo p bol text).2.rest := by
  induction text generalizing bol with
  | nil => rfl
  | cons c text ih =>
    by_cases hp : p ⟨bol, c :: text⟩ = true
    · rw [upTo, if_pos hp]
    · rw [upTo, if_neg hp, searchFrom, h _ (Bool.not_eq_true _ ▸ hp)]
      exact ih _

lemma shortest_upTo (hend : ∀ b, p ⟨b, []⟩ = true) (f : Cursor → Match) (bol : Bool) (text : Str) :
    shortest (fun _ => true) (fun c => if p c then some (f c) else none) bol text =
      some (f (upTo p bol text).2) := by
  induction text generalizing bol with
  | nil => rw [shortest, if_pos (hend bol), upTo]
  | cons c text ih =>
    rw [shortest, upTo]
    by_cases hp : p ⟨bol, c :: text⟩ = true
    · rw [if_pos hp, if_pos hp]
      rfl
    · rw [if_neg hp, if_neg hp]
      exact ih _

lemma shortest_exact {P : ℕ → Bool} {k : Cursor → Option Match} {m : Match} {w t : Str} (hw : ∀ c ∈ w, P c = true)
    (hk : ∀ back, back <:+ w → back ≠ [] → ∀ b, k ⟨b, back ++ t⟩ = none) {bol : Bool}
    (hm : k ⟨bolAfter bol w, t⟩ = some m) : shortest P k bol (w ++ t) = some m := by
  induction w generalizing bol with
  | nil =>
    have hm' : k ⟨bol, t⟩ = some m := hm
    rw [List.nil_append]
    cases t with
    | nil => exact hm'
    | cons c t =>
      rw [shortest, hm']
      rfl
  | cons c w ih =>
    obtain ⟨hc, hw⟩ := List.forall_mem_cons.mp hw
    have hnone : k ⟨bol, c :: (w ++ t)⟩ = none := hk (c :: w) List.suffix_rfl (List.cons_ne_nil c w) bol
    rw [List.cons_append, shortest, hnone, if_pos hc]
    exact ih hw (fun back hs => hk back (hs.trans (List.suffix_cons c w))) hm

lemma run_isSome (r : Regex) (c : Cursor) (caps : List Str) :
    (r.run (fun c caps => some (c, caps)) c caps).isSome = (r.matchAt c).isSome := by
  rw [Bool.eq_iff_iff, matchAt_isSome, (run_exact r).isSome_iff]

lemma blockUpTo_run (hend : ∀ b, stopsAt stop ⟨b, []⟩ = true) (c : Cursor) (caps : List Str) :
    (blockUpTo stop).run (fun c caps => some (c, caps)) c caps =
      some ((upTo (stopsAt stop) c.bol c.rest).2, caps ++ [(upTo (stopsAt stop) c.bol c.rest).1]) := by
  have hgroup : c.rest.take (c.rest.length - (upTo (stopsAt stop) c.bol c.rest).2.rest.length) =
      (upTo (stopsAt stop) c.bol c.rest).1 := by
    have h := take_group (upTo (stopsAt stop) c.bol c.rest).1 (upTo (stopsAt stop) c.bol c.rest).2.rest
    rwa [upTo_append] at h
  have hrun : (blockUpTo stop).run (fun c caps => some (c, caps)) c caps =
      shortest (fun _ => true) (fun d => if stopsAt stop d then
        some (d, caps ++ [c.rest.take (c.rest.length - d.rest.length)]) else none) c.bol c.rest := by
    simp only [blockUpTo, run, run_isSome]
    rfl
  rw [hrun, shortest_upTo hend, hgroup]

def Longer (caps caps' : List Str) : Prop := ∃ front w w', caps = front ++ [w] ∧ caps' = front ++ [w'] ∧ w <+: w'

variable (hend : ∀ b, stopsAt stop ⟨b, []⟩ = true) (hsub : ∀ c, stopsAt stop c = true → stopsAt stop' c = true)

include hend hsub

lemma blockUpTo_related : Related (fun m m' => Longer m.2 m'.2 ∧ m'.1 = (upTo (stopsAt stop) m.1.bol m.1.rest).2)
    ((blockUpTo stop').run fun c caps => some (c, caps)) ((blockUpTo stop).run fun c caps => some (c, caps)) := by
  intro c caps
  rw [blockUpTo_run hend, blockUpTo_run fun b => hsub _ (hend b), upTo_upTo hsub]
  exact .some ⟨⟨caps, _, _, rfl, rfl, List.prefix_append _ _⟩, rfl⟩

lemma matchAt_related (header : Regex) (c : Cursor) :
    Option.Rel (fun m m' => Longer m.2 m'.2 ∧ m'.1 = (upTo (stopsAt stop) m.1.bol m.1.rest).2)
      ((Regex.seq header (blockUpTo stop')).matchAt c) ((Regex.seq header (blockUpTo stop)).matchAt c) :=
  (blockUpTo_related hend hsub).run header c []

lemma searchFrom_related (header : Regex) (bol : Bool) (text : Str) :
    Option.Rel (fun m m' => Longer m.2 m'.2 ∧ m'.1 = (upTo (stopsAt stop) m.1.bol m.1.rest).2)
      (searchFrom (.seq header (blockUpTo stop')) bol text)
        (searchFrom (.seq header (blockUpTo stop)) bol text) := by
  induction text generalizing bol with
  | nil => exact matchAt_related hend hsub header _
  | cons c text ih => exact rel_orElse (matchAt_related hend hsub header _) (ih _)

theorem findAll_longer {header : Regex}
    (hstart : ∀ c, stopsAt stop c = false → (Regex.seq header (blockUpTo stop')).matchAt c = none) (text : Str) :
    List.Forall₂ Longer (findAll (.seq header (blockUpTo stop')) text)
      (findAll (.seq header (blockUpTo stop)) text) := by
  have hfrom (n : ℕ) (c c' : Cursor) (h : searchFrom (.seq header (blockUpTo stop')) c.bol c.rest =
      searchFrom (.seq header (blockUpTo stop')) c'.bol c'.rest) :
      List.Forall₂ Longer (findAllFrom (.seq header (blockUpTo stop')) n c)
        (findAllFrom (.seq header (blockUpTo stop)) n c') := by
    induction n generalizing c c' with
    | zero => exact .nil
    | succ n ih =>
      have hrel := searchFrom_related hend hsub header c'.bol c'.rest
      rw [findAllFrom, findAllFrom, h]
      generalize searchFrom (.seq header (blockUpTo stop')) c'.bol c'.rest = m at hrel ⊢
      generalize searchFrom (.seq header (blockUpTo stop)) c'.bol c'.rest = m' at hrel ⊢
      cases hrel with
      | none => exact .nil
      | some hm =>
        refine .cons hm.1 (ih _ _ ?_)
        rw [hm.2]
        exact searchFrom_upTo hstart _ _
  exact hfrom _ _ _ rfl

end

end Graft64.Library.Regex
