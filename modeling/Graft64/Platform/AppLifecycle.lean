import Graft64.Platform.Evidence

/-! The lifecycle calls that the app makes, and the probe that it runs by itself when it comes back. -/

namespace Graft64.Platform.ProbeStore

open Graft64.Library Probes

def notifies (s : Store) : Event → List Lifecycle.Event
  | .noteBackground o => [.background o]
  | .noteForeground _ => if s.backgroundObserved && !s.isRunning then [.foreground] else []
  | .runAll _ | .run _ _ => []

def notesBackground : Event → Bool
  | .noteBackground _ => true
  | .runAll _ | .run _ _ | .noteForeground _ => false

variable (b : Build) (page : Jit.Size)

def notifications (es : List Event) : List Lifecycle.Event :=
  (es.foldl (fun p e => (step b page p.1 e, p.2 ++ notifies p.1 e)) (Store.initial, [])).2

variable {b page}

lemma step_lifecycle (s : Store) (e : Event) :
    (step b page s e).lifecycle = (notifies s e).foldl (Lifecycle.step b page) s.lifecycle := by
  cases e with
  | runAll r =>
    simp only [step, Store.runAll, notifies, List.foldl_nil, foldl_append]
    split_ifs <;> rfl
  | run r name =>
    simp only [step, Store.run, notifies, List.foldl_nil, foldl_append]
    split_ifs <;> rfl
  | noteBackground o => rfl
  | noteForeground r =>
    simp only [step, Store.noteForeground, notifies, foldl_append]
    split_ifs with hs
    · rw [List.foldl_cons, List.foldl_nil, Lifecycle.step]
      rcases Lifecycle.graftLifecycleNoteForeground s.lifecycle with ⟨_ | _, l⟩ <;> rfl
    · rfl

lemma step_observed (s : Store) (e : Event) :
    (step b page s e).backgroundObserved = (s.backgroundObserved || notesBackground e) := by
  cases e with
  | runAll r =>
    simp only [step, Store.runAll, foldl_append, notesBackground, Bool.or_false]
    split_ifs <;> rfl
  | run r name =>
    simp only [step, Store.run, foldl_append, notesBackground, Bool.or_false]
    split_ifs <;> rfl
  | noteBackground o => exact (Bool.or_true _).symm
  | noteForeground r =>
    simp only [step, Store.noteForeground, foldl_append, notesBackground, Bool.or_false]
    split_ifs
    · rcases Lifecycle.graftLifecycleNoteForeground s.lifecycle with ⟨_ | _, l⟩ <;> rfl
    · rfl

variable (b page) in
lemma foldl_notifications (es : List Event) (s : Store) (cs : List Lifecycle.Event)
    (h : s.lifecycle = Lifecycle.after b page cs) :
    let p := es.foldl (fun p e => (step b page p.1 e, p.2 ++ notifies p.1 e)) (s, cs)
    p.1 = es.foldl (step b page) s ∧ p.1.lifecycle = Lifecycle.after b page p.2 := by
  induction es generalizing s cs with
  | nil => exact ⟨rfl, h⟩
  | cons e es ih =>
    refine ih (step b page s e) (cs ++ notifies s e) ?_
    rw [step_lifecycle, h, Lifecycle.after, Lifecycle.after, List.foldl_append]

lemma lifecycle_after (es : List Event) :
    (after b page es).lifecycle = Lifecycle.after b page (notifications b page es) := by
  obtain ⟨hs, hl⟩ := foldl_notifications b page es .initial [] rfl
  rw [after, ← hs, hl]
  rfl

lemma notifications_snoc (es : List Event) (e : Event) :
    notifications b page (es ++ [e]) = notifications b page es ++ notifies (after b page es) e := by
  obtain ⟨hs, -⟩ := foldl_notifications b page es .initial [] rfl
  rw [notifications, List.foldl_append, List.foldl_cons, List.foldl_nil, hs]
  rfl

lemma noteForeground_background {s : Lifecycle.State} :
    (Lifecycle.graftLifecycleNoteForeground s).2.backgroundSeen = s.backgroundSeen := by
  rw [Lifecycle.graftLifecycleNoteForeground]
  split <;> rfl

lemma foreground_ready {s : Lifecycle.State} :
    (Lifecycle.graftLifecycleNoteForeground s).2.codeCacheReady = s.codeCacheReady := by
  rw [Lifecycle.graftLifecycleNoteForeground]
  split <;> rfl

lemma observed_eq_seen (es : List Event) :
    (after b page es).backgroundObserved = (after b page es).lifecycle.backgroundSeen := by
  refine @Runs.foldl_invariant _ _ (step b page) Store.initial
    (fun _ t => t.backgroundObserved = t.lifecycle.backgroundSeen) rfl (fun es e ih => ?_) es
  rw [step_observed, step_lifecycle, ih]
  cases e with
  | runAll r => exact Bool.or_false _
  | run r name => exact Bool.or_false _
  | noteBackground o =>
    rw [notesBackground, Bool.or_true]
    exact (Lifecycle.noteBackground_cases page b.target o _).2.1.symm
  | noteForeground r =>
    rw [notesBackground, Bool.or_false, notifies]
    split_ifs
    · exact noteForeground_background.symm
    · rfl

lemma foreground_isOk (es : List Event) (h : (after b page es).backgroundObserved = true) :
    (Lifecycle.graftLifecycleNoteForeground (after b page es).lifecycle).1 = .ok () := by
  rw [observed_eq_seen] at h
  rw [Lifecycle.graftLifecycleNoteForeground, if_pos h]

lemma exists_readyAt (cs : List Lifecycle.Event) (h : (Lifecycle.after b page cs).codeCacheReady = true) :
    ∃ p, Lifecycle.ReadyAt b page cs p := by
  induction cs using List.reverseRecOn with
  | nil => cases h
  | append_singleton cs e ih =>
    by_cases hr : (Lifecycle.after b page cs).codeCacheReady = true
    · obtain ⟨p, hp⟩ := ih hr
      exact ⟨p, hp.snoc e⟩
    · rw [Bool.not_eq_true] at hr
      cases e with
      | background o => exact ⟨cs, o, [], rfl, hr, h⟩
      | foreground =>
        rw [Lifecycle.after_snoc, Lifecycle.step, foreground_ready, hr] at h
        cases h
      | jit call =>
        rw [Lifecycle.after_snoc, Lifecycle.step, hr] at h
        cases h

/-- Coming back after a background, the app always runs the probe, and a pass is one after a resume of the code
cache that was executed. -/
theorem automatic_lifecycle (es : List Event) (r : Run) (hb : (after b page es).backgroundObserved = true)
    (hs : r.calls.lifecycle = (after b page (es ++ [.noteForeground r])).lifecycle) :
    delivered b (after b page es) (.noteForeground r) = [entry b (r, .lifecycleJit)] ∧
      ((entry b (r, .lifecycleJit)).status = .pass →
        Lifecycle.ResumedSinceReady b page (notifications b page (es ++ [.noteForeground r]))) := by
  have hok := foreground_isOk es hb
  have hidle : (after b page es).isRunning = false := by
    have h := (consistent_foldl b page es).idle
    rwa [foldl_record_fst] at h
  have hnotifies : notifies (after b page es) (.noteForeground r) = [.foreground] := by
    rw [notifies, hb, hidle]
    rfl
  constructor
  · rw [delivered_eq, ran, hb, hok]
    rfl
  · intro hpass
    have hrc := probeStatus_eq_pass.mp hpass
    obtain ⟨-, -, -, hready⟩ := Lifecycle.lifecycleJit_pass hrc
    rw [hs, lifecycle_after, notifications_snoc, hnotifies, Lifecycle.after_snoc, Lifecycle.step,
      foreground_ready] at hready
    obtain ⟨p, hp⟩ := exists_readyAt _ hready
    rw [lifecycle_after] at hok
    rw [notifications_snoc, hnotifies]
    exact ⟨p, _, [], hp, rfl, hok⟩

def resumed : Lifecycle.State :=
  (Lifecycle.graftLifecycleNoteForeground
    (Lifecycle.graftLifecycleNoteBackground .macos 4096 (Lifecycle.alloc (.ok 4096)) .initial).2).2

def resumedRun : Run :=
  ⟨.initial, { sampleCalls none (.ok ()) with lifecycle := resumed, prepareError_lt := by decide }, fun _ => 0⟩

theorem automatic_lifecycle_once :
    Lifecycle.ResumedSinceReady ⟨.macos, true⟩ 4096 (notifications ⟨.macos, true⟩ 4096
      ([.noteBackground (Lifecycle.alloc (.ok 4096))] ++ [.noteForeground resumedRun])) := by
  refine (automatic_lifecycle (b := ⟨.macos, true⟩) [.noteBackground (Lifecycle.alloc (.ok 4096))]
    resumedRun rfl ?_).2 ?_
  · rw [List.singleton_append, lifecycle_after]
    rfl
  · decide

end Graft64.Platform.ProbeStore
