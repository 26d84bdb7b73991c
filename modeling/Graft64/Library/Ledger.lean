import Graft64.Library.Runs

/-! Traces of acquisitions and releases, and the resources held along them. -/

namespace Graft64.Library.Ledger

inductive Entry (R : Type)
  | acquire (r : R)
  | release (r : R)
  deriving DecidableEq, Repr

variable {R : Type} [DecidableEq R]

def step (held : List R) : Entry R → Option (List R)
  | .acquire r => if r ∈ held then none else some (r :: held)
  | .release r => if r ∈ held then some (held.erase r) else none

def Balanced (es : List (Entry R)) : Prop := Runs.run step [] es = some []

instance (es : List (Entry R)) : Decidable (Balanced es) := inferInstanceAs (Decidable (_ = _))

variable {held held' : List R} {es es' : List (Entry R)}

lemma run_acquire {r : R} (h : r ∉ held) :
    Runs.run step held (.acquire r :: es) = Runs.run step (r :: held) es := by
  rw [Runs.run_cons, step, if_neg h, Option.bind_some]

lemma run_release {r : R} : Runs.run step (r :: held) (.release r :: es) = Runs.run step held es := by
  rw [Runs.run_cons, step, if_pos List.mem_cons_self, List.erase_cons_head, Option.bind_some]

lemma run_append (h : Runs.run step held es = some held') :
    Runs.run step held (es ++ es') = Runs.run step held' es' := by
  rw [Runs.run_append, h, Option.bind_some]

lemma run_bracket {r : R} (h : r ∉ held) (hes : Runs.run step (r :: held) es = some (r :: held)) :
    Runs.run step held (.acquire r :: es ++ [.release r]) = some held := by
  rw [List.cons_append, run_acquire h, run_append hes, run_release, Runs.run_nil]

end Graft64.Library.Ledger
