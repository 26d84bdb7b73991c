import Graft64.Library.Runs
import Mathlib.Data.Nat.Notation
import Mathlib.Logic.Function.Basic

/-! Runs of the runtime build script on one output directory. Every generated file carries the
inputs of the runs that produced it. -/

namespace Graft64.Runtime.BuildOutput

open Graft64.Library Runs

inductive Area
  | build
  | root
  | winePrefix
  deriving DecidableEq, Repr

structure OutFile where
  area : Area
  path : String
  deriving DecidableEq, Repr

variable {I D : Type}

/-- One invocation: its build inputs, `GRAFT_RUNTIME_CLEAN` and `GRAFT_RUNTIME_PREFLIGHT`. -/
structure Run (I : Type) where
  inputs : I
  clean : Bool
  preflight : Bool

inductive Phase (I : Type)
  | idle
  | checking (r : Run I)
  | cleaning (r : Run I)
  | building (r : Run I)
  | verified (r : Run I)
  | recorded (r : Run I)

structure State (I D : Type) where
  phase : Phase I
  /-- `build-input.sha256`. -/
  fingerprint : Option D
  tree : OutFile → Option (List I)

def State.initial : State I D := ⟨.idle, none, fun _ => none⟩

inductive Action (I : Type)
  | start (r : Run I)
  | preflightExit
  | decide
  | remove (f : OutFile)
  | cleaned
  | write (f : OutFile) (sources : List OutFile)
  | delete (f : OutFile)
  | verify
  | record
  | finish
  | stop

/-- The inputs a file written by `r` comes from: those of `r` and of the files it was made of. -/
def provenance (tree : OutFile → Option (List I)) (r : Run I) (sources : List OutFile) : List I :=
  r.inputs :: sources.flatMap fun f => (tree f).getD []

/-- One command of the script. `fp` is the fingerprint step. -/
def step [DecidableEq D] (fp : I → D) (s : State I D) : Action I → Option (State I D)
  | .start r => match s.phase with
    | .idle => some { s with phase := .checking r }
    | _ => none
  | .preflightExit => match s.phase with
    | .checking r => if r.preflight then some { s with phase := .idle } else none
    | _ => none
  | .decide => match s.phase with
    | .checking r =>
      if r.preflight then none
      else if r.clean ∨ s.fingerprint ≠ some (fp r.inputs) then some { s with phase := .cleaning r }
      else some { s with phase := .building r }
    | _ => none
  | .remove f => match s.phase with
    | .cleaning _ => some { s with tree := Function.update s.tree f none }
    | _ => none
  | .cleaned => match s.phase with
    | .cleaning r => some { s with phase := .building r, tree := fun _ => none }
    | _ => none
  -- every command from apply-patches.sh to make install is some sequence of these two
  | .write f sources => match s.phase with
    | .building r => some { s with tree := Function.update s.tree f (some (provenance s.tree r sources)) }
    | _ => none
  | .delete f => match s.phase with
    | .building _ => some { s with tree := Function.update s.tree f none }
    | _ => none
  | .verify => match s.phase with
    | .building r => some { s with phase := .verified r }
    | _ => none
  | .record => match s.phase with
    | .verified r => some { s with phase := .recorded r, fingerprint := some (fp r.inputs) }
    | _ => none
  | .finish => match s.phase with
    | .recorded _ => some { s with phase := .idle }
    | _ => none
  | .stop => match s.phase with
    | .idle => none
    | _ => some { s with phase := .idle }

def Only (fp : I → D) (d : D) (tree : OutFile → Option (List I)) : Prop :=
  ∀ f is, tree f = some is → ∀ i ∈ is, fp i = d

/-- A run that decides to keep the three directories finds only files of its own fingerprint. -/
def KeepSound (fp : I → D) (s : State I D) : Prop :=
  ∀ r, s.phase = .checking r → r.preflight = false → r.clean = false →
    s.fingerprint = some (fp r.inputs) → Only fp (fp r.inputs) s.tree

/-- A build that exits with status 0 leaves in `root/` only files made from its own inputs. -/
def ExitSound (fp : I → D) (s : State I D) : Prop :=
  ∀ r, s.phase = .recorded r → ∀ f is, f.area = .root → s.tree f = some is → ∀ i ∈ is,
    fp i = fp r.inputs ∧ (Function.Injective fp → i = r.inputs)

def Recorded (fp : I → D) (s : State I D) : Prop :=
  ∀ d, s.fingerprint = some d → Only fp d s.tree

def Invariant (fp : I → D) (s : State I D) : Prop :=
  match s.phase with
  | .idle | .checking _ | .cleaning _ => Recorded fp s
  | .building r | .verified r => Only fp (fp r.inputs) s.tree
  | .recorded r => s.fingerprint = some (fp r.inputs) ∧ Only fp (fp r.inputs) s.tree

variable {fp : I → D}

lemma Only.remove {d : D} {tree : OutFile → Option (List I)} (h : Only fp d tree) (f : OutFile) :
    Only fp d (Function.update tree f none) := by
  intro g is hg
  by_cases hgf : g = f
  · subst hgf
    simp at hg
  · exact h g is (by rwa [Function.update_of_ne hgf] at hg)

lemma only_empty (d : D) : Only fp d (fun _ => none) := by
  intro f is h
  cases h

lemma Only.write {tree : OutFile → Option (List I)} {r : Run I} (h : Only fp (fp r.inputs) tree)
    (f : OutFile) (sources : List OutFile) :
    Only fp (fp r.inputs) (Function.update tree f (some (provenance tree r sources))) := by
  intro g is hg i hi
  by_cases hgf : g = f
  · subst hgf
    rw [Function.update_self] at hg
    obtain rfl := Option.some.inj hg
    rcases List.mem_cons.mp hi with rfl | hi
    · rfl
    · obtain ⟨k, -, hk⟩ := List.mem_flatMap.mp hi
      cases ht : tree k with
      | none => simp [ht] at hk
      | some js => exact h k js ht i (by simpa [ht] using hk)
  · exact h g is (by rwa [Function.update_of_ne hgf] at hg) i hi

lemma Recorded.remove {s : State I D} (h : Recorded fp s) (f : OutFile) :
    Recorded fp { s with tree := Function.update s.tree f none } :=
  fun d hd => (h d hd).remove f

variable [DecidableEq D]

/-- No run stops while the three directories hold a file made from other inputs than the recorded
ones. -/
def StopsRecorded (fp : I → D) (as : List (Action I)) : Prop :=
  ∀ p q s, as = p ++ .stop :: q → run (step fp) .initial p = some s → Recorded fp s

lemma invariant_step {s t : State I D} {a : Action I} (h : Invariant fp s) (ha : step fp s a = some t)
    (hstop : a = .stop → Recorded fp s) : Invariant fp t := by
  rcases s with ⟨phase, fingerprint, tree⟩
  cases a with
  | start r | finish | record | verify =>
    cases phase <;> simp only [step, Option.some.injEq, reduceCtorEq] at ha
    subst ha
    simp_all [Invariant, Recorded]
  | preflightExit =>
    cases phase <;> simp only [step, Option.ite_none_right_eq_some, Option.some.injEq, reduceCtorEq] at ha
    obtain ⟨-, rfl⟩ := ha
    exact h
  | decide =>
    cases phase <;> simp only [step, reduceCtorEq] at ha
    split_ifs at ha with hp hc
    · obtain rfl := Option.some.inj ha
      exact h
    · obtain rfl := Option.some.inj ha
      simp only [not_or, not_not] at hc
      exact h _ hc.2
  | remove f =>
    cases phase <;> simp only [step, Option.some.injEq, reduceCtorEq] at ha
    subst ha
    exact Recorded.remove (s := ⟨_, fingerprint, tree⟩) h f
  | cleaned =>
    cases phase <;> simp only [step, Option.some.injEq, reduceCtorEq] at ha
    subst ha
    exact only_empty _
  | write f sources =>
    cases phase <;> simp only [step, Option.some.injEq, reduceCtorEq] at ha
    subst ha
    exact Only.write h f sources
  | delete f =>
    cases phase <;> simp only [step, Option.some.injEq, reduceCtorEq] at ha
    subst ha
    exact Only.remove h f
  | stop =>
    have hr := hstop rfl
    cases phase <;> simp only [step, Option.some.injEq, reduceCtorEq] at ha <;> subst ha <;> exact hr

lemma invariant_run {as : List (Action I)} {s : State I D} (hc : StopsRecorded fp as)
    (h : run (step fp) .initial as = some s) : Invariant fp s := by
  refine run_invariant (fun as s => StopsRecorded fp as → Invariant fp s) ?_ ?_ as s h hc
  · intro _ d hd
    cases hd
  · intro as t a u ht ih ha hs
    refine invariant_step (ih fun p q s hp => hs p (q ++ [a]) s (by simp [hp])) ha ?_
    rintro rfl
    exact hs as [] t rfl ht

/-- Along every sequence of runs that meets the condition, a kept directory and the result of a
build hold only files of the fingerprint at hand. -/
theorem kept_output_sound (fp : I → D) (as : List (Action I)) (hc : StopsRecorded fp as)
    (p q : List (Action I)) (hp : as = p ++ q) (s : State I D) (h : run (step fp) .initial p = some s) :
    KeepSound fp s ∧ ExitSound fp s := by
  have hi : Invariant fp s := invariant_run (fun p' q' t hp' => hc p' (q' ++ q) t (by simp [hp, hp'])) h
  constructor
  · intro r hr _ _ hf
    rw [Invariant, hr] at hi
    exact hi _ hf
  · intro r hr f is _ hf i hm
    rw [Invariant, hr] at hi
    have hh := hi.2 f is hf i hm
    exact ⟨hh, fun hinj => hinj hh⟩

/-- The condition is sharp: after a stop that breaks it, a plain run with the recorded inputs keeps
the file made from other inputs. -/
theorem stale_stop_kept {s : State I D} {i₀ : I} (hs : s.phase = .idle)
    (hf : s.fingerprint = some (fp i₀)) (hr : ¬ Recorded fp s) :
    ∃ t, run (step fp) s [.start ⟨i₀, false, false⟩] = some t ∧ ¬ KeepSound fp t := by
  refine ⟨{ s with phase := .checking ⟨i₀, false, false⟩ }, by simp [step, hs], fun hk => hr ?_⟩
  intro d hd
  obtain rfl := Option.some.inj (hf.symm.trans hd)
  exact hk _ rfl rfl rfl hf

def wine : OutFile := ⟨.root, "bin/wine"⟩

def final (as : List (Action ℕ)) (h : (run (step id) .initial as).isSome = true) : State ℕ ℕ :=
  (run (step id) .initial as).get h

def interrupted : List (Action ℕ) :=
  [.start ⟨0, false, false⟩, .decide, .cleaned, .write wine [], .verify, .record, .finish,
    .start ⟨1, false, false⟩, .decide, .cleaned, .write wine [], .stop, .start ⟨0, false, false⟩]

/-- The next build of inputs `0` keeps the file made from inputs `1` and exits with status 0. -/
theorem keeps_foreign_file :
    ¬ KeepSound id (final interrupted rfl) ∧
      ¬ ExitSound id (final (interrupted ++ [.decide, .verify, .record]) rfl) := by
  constructor
  · intro h
    exact absurd (h ⟨0, false, false⟩ rfl rfl rfl rfl wine [1] rfl 1 (by simp)) (by decide)
  · intro h
    exact absurd (h ⟨0, false, false⟩ rfl wine [1] rfl rfl 1 (by simp)).1 (by decide)

def retried : List (Action ℕ) :=
  [.start ⟨0, false, false⟩, .decide, .cleaned, .write wine [], .stop,
    .start ⟨0, false, false⟩, .decide, .cleaned, .write wine [], .verify, .record]

lemma retried_stops : StopsRecorded id retried := by
  rintro (_ | ⟨a, _ | ⟨a, _ | ⟨a, _ | ⟨a, _ | ⟨a, p⟩⟩⟩⟩⟩) q s he hs d hd
  case cons.cons.cons.cons.nil =>
    simp only [retried, List.cons_append, List.nil_append, List.cons.injEq] at he
    obtain ⟨rfl, rfl, rfl, rfl, -⟩ := he
    obtain rfl := Option.some.inj hs
    cases hd
  case cons.cons.cons.cons.cons =>
    have hm : Action.stop ∈ p ++ .stop :: q := by simp
    simp only [retried, List.cons_append, List.cons.injEq] at he
    rw [← he.2.2.2.2.2] at hm
    simp at hm
  all_goals simp [retried] at he

theorem kept_output_sound_retry : KeepSound id (final retried rfl) ∧ ExitSound id (final retried rfl) :=
  kept_output_sound id retried retried_stops retried [] (List.append_nil _).symm _
    (Option.some_get _).symm

end Graft64.Runtime.BuildOutput
