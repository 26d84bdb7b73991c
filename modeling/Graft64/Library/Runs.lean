import Mathlib.Data.List.Induction
import Mathlib.Tactic.Common

/-! Runs of a system that takes one action after another, and invariants along them. -/

namespace Graft64.Library.Runs

variable {σ α : Type}

/-- The state after a list of actions; `none` when some action is not enabled. -/
def run (step : σ → α → Option σ) (s : σ) : List α → Option σ
  | [] => some s
  | a :: as => (step s a).bind fun t => run step t as

@[simp] lemma run_nil (step : σ → α → Option σ) (s : σ) : run step s [] = some s := rfl

@[simp] lemma run_cons (step : σ → α → Option σ) (s : σ) (a : α) (as : List α) :
    run step s (a :: as) = (step s a).bind fun t => run step t as := rfl

lemma run_append (step : σ → α → Option σ) (s : σ) (as bs : List α) :
    run step s (as ++ bs) = (run step s as).bind fun t => run step t bs := by
  induction as generalizing s with
  | nil => rfl
  | cons a as ih =>
    simp only [List.cons_append, run_cons, Option.bind_assoc]
    congr 1
    funext t
    exact ih t

lemma run_snoc (step : σ → α → Option σ) (s : σ) (as : List α) (a : α) :
    run step s (as ++ [a]) = (run step s as).bind fun t => step t a := by
  rw [run_append]
  congr 1
  funext t
  simp

/-- An invariant of the actions taken and the state reached holds after every run. -/
theorem run_invariant {step : σ → α → Option σ} {s : σ} (I : List α → σ → Prop) (h₀ : I [] s)
    (hs : ∀ as t a u, run step s as = some t → I as t → step t a = some u → I (as ++ [a]) u)
    (as : List α) (t : σ) (h : run step s as = some t) : I as t := by
  induction as using List.reverseRecOn generalizing t with
  | nil =>
    obtain rfl := Option.some.inj h
    exact h₀
  | append_singleton as a ih =>
    rw [run_snoc] at h
    obtain ⟨u, hu, ht⟩ := Option.bind_eq_some_iff.mp h
    exact hs as u a t hu (ih u hu) ht

theorem foldl_invariant {step : σ → α → σ} {s : σ} (I : List α → σ → Prop) (h₀ : I [] s)
    (hs : ∀ as a, I as (as.foldl step s) → I (as ++ [a]) (step (as.foldl step s) a))
    (as : List α) : I as (as.foldl step s) := by
  induction as using List.reverseRecOn with
  | nil => exact h₀
  | append_singleton as a ih =>
    rw [List.foldl_append]
    exact hs as a ih

end Graft64.Library.Runs
