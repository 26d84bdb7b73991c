import Graft64.Library.Runs
import Graft64.Platform.Jit
import Graft64.Platform.ProbeReturn

/-! The lifecycle notifications and the probe that executes the code cache after a resume. -/

namespace Graft64.Platform.Lifecycle

open Graft64.Library Jit

structure State where
  backgroundSeen : Bool
  foregroundSeen : Bool
  codeCacheReady : Bool
  prepareError : Errno
  world : World

def State.initial : State := ⟨false, false, false, 0, .empty⟩

/-- `mov w0,#42; ret`. -/
def code : List UInt8 := [0x40, 0x05, 0x80, 0x52, 0xC0, 0x03, 0x5F, 0xD6]

structure PrepareOutcome where
  alloc : AllocOutcome
  write : WriteOutcome
  commit : Option Errno

def fill (t : Target) (o : PrepareOutcome) (w : World) : Except Errno Unit × World :=
  match graftJitWrite t o.write 0 code 8 w with
  | (.error e, w) => (.error e, w)
  | (.ok (), w) =>
    match graftJitInvalidate 0 8 w with
    | .error e => (.error e, w)
    | .ok () => graftJitCommit t o.commit w

def graftLifecycleNoteBackground (t : Target) (page : Size) (o : PrepareOutcome) (s : State) :
    Except Errno Unit × State :=
  if s.codeCacheReady then (.ok (), { s with prepareError := 0, backgroundSeen := true })
  else
    match graftJitAlloc t page o.alloc 4096 s.world with
    | (.error e, w) => (.error e, { s with world := w, prepareError := e, backgroundSeen := true })
    | (.ok (), w) =>
      match fill t o w with
      | (.error e, w) =>
        (.error e, { s with world := graftJitFree w, prepareError := e, backgroundSeen := true })
      | (.ok (), w) =>
        (.ok (), { s with world := w, codeCacheReady := true, prepareError := 0, backgroundSeen := true })

def graftLifecycleNoteForeground (s : State) : Except Errno Unit × State :=
  if s.backgroundSeen then (.ok (), { s with foregroundSeen := true }) else (.error EINVAL, s)

/-- `call` is what the code at the base of the region returns when it is executed. -/
def lifecycleJit (b : Build) (call : ℤ) (s : State) : ProbeReturn :=
  if ¬ s.backgroundSeen ∨ ¬ s.foregroundSeen then
    report PROBE_INTERNAL_SKIP 0 "Waiting for background/foreground transition"
      (cstr "\x7b\"status\":\"manual\",\"instructions\":\"Send the app to background and return to foreground; lifecycle_jit will run automatically\"\x7d")
  else if s.prepareError ≠ 0 then
    report (if s.prepareError = EACCES ∨ s.prepareError = EPERM then PROBE_INTERNAL_BLOCKED else s.prepareError)
      s.prepareError "JIT code cache preparation failed before suspend"
      (cstr "\x7b\"status\":\"fail\",\"stage\":\"prepare_before_suspend\",\"cache_reused\":false,\"os_error\":" ++
        fmtInt s.prepareError ++ cstr "\x7d")
  else if ¬ s.codeCacheReady then
    report EINVAL 0 "JIT code cache was not prepared before suspend"
      (cstr "\x7b\"status\":\"fail\",\"cache_reused\":false\x7d")
  else
    let value := if b.arm64 then call else -1
    if value = 42 then
      report 0 0 "JIT resumed after background/foreground transition"
        (cstr "\x7b\"status\":\"pass\",\"background_seen\":true,\"foreground_seen\":true,\"jit_return_value\":42,\"cache_reused\":true\x7d")
    else
      report EIO 0 "Original JIT code cache failed after resume"
        (cstr "\x7b\"status\":\"fail\",\"cache_reused\":true,\"jit_return_value\":" ++ fmtInt value ++ cstr "\x7d")

inductive Event
  | background (o : PrepareOutcome)
  | foreground
  | jit (call : ℤ)

variable (b : Build) (page : Size)

def step (s : State) : Event → State
  | .background o => (graftLifecycleNoteBackground b.target page o s).2
  | .foreground => (graftLifecycleNoteForeground s).2
  | .jit _ => s

def after (es : List Event) : State := es.foldl (step b page) .initial

@[simp] lemma after_snoc (es : List Event) (e : Event) :
    after b page (es ++ [e]) = step b page (after b page es) e := by
  simp [after]

lemma noteBackground_cases (t : Target) (o : PrepareOutcome) (s : State) :
    let r := graftLifecycleNoteBackground t page o s
    r.2.foregroundSeen = s.foregroundSeen ∧ r.2.backgroundSeen = true ∧
      ((r.2.codeCacheReady = true ∧ r.2.prepareError = 0 ∧ r.1 = .ok ()) ∨
        (s.codeCacheReady = false ∧ r.2.codeCacheReady = false ∧ ∃ e, r.2.prepareError = e ∧ r.1 = .error e)) := by
  unfold graftLifecycleNoteBackground
  cases hr : s.codeCacheReady with
  | true => simp
  | false =>
    rcases graftJitAlloc t page o.alloc 4096 s.world with ⟨_ | _, w⟩
    · simp
    · rcases hf : fill t o w with ⟨_ | _, w⟩ <;> simp [hf]

lemma noteBackground_keeps {t : Target} {o : PrepareOutcome} {s : State} (h : s.codeCacheReady = true) :
    (graftLifecycleNoteBackground t page o s).2.codeCacheReady = true := by
  rcases noteBackground_cases page t o s with ⟨_, _, hr | hr⟩
  · exact hr.1
  · rw [h] at hr
    cases hr.1

def ReadyAt (es p : List Event) : Prop :=
  ∃ o q, es = p ++ .background o :: q ∧ (after b page p).codeCacheReady = false ∧
    (after b page (p ++ [.background o])).codeCacheReady = true

def ResumedSinceReady (es : List Event) : Prop :=
  ∃ p q r, ReadyAt b page q p ∧ es = q ++ .foreground :: r ∧
    (graftLifecycleNoteForeground (after b page q)).1 = .ok ()

variable {b page}

lemma ReadyAt.snoc {es p : List Event} (h : ReadyAt b page es p) (e : Event) :
    ReadyAt b page (es ++ [e]) p := by
  obtain ⟨o, q, rfl, hp, hr⟩ := h
  exact ⟨o, q ++ [e], by simp, hp, hr⟩

lemma ResumedSinceReady.snoc {es : List Event} (h : ResumedSinceReady b page es) (e : Event) :
    ResumedSinceReady b page (es ++ [e]) := by
  obtain ⟨p, q, r, hp, rfl, hr⟩ := h
  exact ⟨p, q, r ++ [e], hp, by simp, hr⟩

lemma lifecycleJit_pass {call : ℤ} {s : State} (h : (lifecycleJit b call s).rc = 0) :
    s.backgroundSeen = true ∧ s.foregroundSeen = true ∧ s.prepareError = 0 ∧ s.codeCacheReady = true := by
  rcases s with ⟨bg, fg, ready, e, w⟩
  unfold lifecycleJit at h
  split at h
  · cases h
  · next hseen =>
    split at h
    · next he =>
      simp only [report_rc, ne_eq] at h he
      split_ifs at h
      · cases h
      · exact absurd (Int.natCast_eq_zero.mp h) he
    · next he =>
      split at h
      · cases h
      · next hr => simp_all

def NoStaleForeground (b : Build) (page : Size) (es : List Event) : Prop :=
  ∀ p o q, es = p ++ .background o :: q → (after b page p).foregroundSeen = true →
    (after b page p).codeCacheReady = false → (after b page (p ++ [.background o])).codeCacheReady = false

lemma NoStaleForeground.of_append {es fs : List Event} (h : NoStaleForeground b page (es ++ fs)) :
    NoStaleForeground b page es :=
  fun p o q hp => h p o (q ++ fs) (by simp [hp])

def Fresh (b : Build) (page : Size) (es : List Event) (s : State) : Prop :=
  NoStaleForeground b page es → s.codeCacheReady = true →
    (∃ p, ReadyAt b page es p) ∧ (s.foregroundSeen = true → ResumedSinceReady b page es)

lemma fresh_background (es : List Event) (o : PrepareOutcome) (ih : Fresh b page es (after b page es)) :
    Fresh b page (es ++ [.background o]) (after b page (es ++ [.background o])) := by
  intro hc hr
  have hn : NoStaleForeground b page es := hc.of_append
  obtain ⟨hf, -, -⟩ := noteBackground_cases page b.target o (after b page es)
  rw [after_snoc, step, hf]
  cases hes : (after b page es).codeCacheReady with
  | true =>
    obtain ⟨⟨p, hp⟩, hfg⟩ := ih hn hes
    exact ⟨⟨p, hp.snoc _⟩, fun h => (hfg h).snoc _⟩
  | false =>
    refine ⟨⟨es, o, [], by simp, hes, hr⟩, fun h => ?_⟩
    have := hc es o [] rfl h hes
    rw [this] at hr
    cases hr

lemma fresh_foreground (es : List Event) (ih : Fresh b page es (after b page es)) :
    Fresh b page (es ++ [.foreground]) (after b page (es ++ [.foreground])) := by
  intro hc hr
  have hn : NoStaleForeground b page es := hc.of_append
  rw [after_snoc, step, graftLifecycleNoteForeground] at hr ⊢
  cases hb : (after b page es).backgroundSeen with
  | true =>
    simp only [hb, if_true] at hr ⊢
    obtain ⟨⟨p, hp⟩, -⟩ := ih hn hr
    exact ⟨⟨p, hp.snoc _⟩, fun _ => ⟨p, es, [], hp, rfl, by simp [graftLifecycleNoteForeground, hb]⟩⟩
  | false =>
    simp only [hb, Bool.false_eq_true, if_false] at hr ⊢
    obtain ⟨⟨p, hp⟩, hf⟩ := ih hn hr
    exact ⟨⟨p, hp.snoc _⟩, fun h => (hf h).snoc _⟩

lemma fresh_after (es : List Event) : Fresh b page es (after b page es) := by
  refine Runs.foldl_invariant (Fresh b page) ?_ ?_ es
  · intro _ hr
    cases hr
  · intro es e ih
    have hs := after_snoc b page es e
    cases e with
    | background o => exact hs ▸ fresh_background es o ih
    | foreground => exact hs ▸ fresh_foreground es ih
    | jit call =>
      intro hc hr
      obtain ⟨⟨p, hp⟩, hf⟩ := ih hc.of_append hr
      exact ⟨⟨p, hp.snoc _⟩, fun h => (hf h).snoc _⟩

lemma ready_step {s : State} (e : Event) (h : s.codeCacheReady = true) :
    (step b page s e).codeCacheReady = true := by
  cases e with
  | background o => exact noteBackground_keeps page h
  | foreground =>
    simp only [step, graftLifecycleNoteForeground]
    split <;> exact h
  | jit call => exact h

lemma ready_append {es : List Event} (fs : List Event) (h : (after b page es).codeCacheReady = true) :
    (after b page (es ++ fs)).codeCacheReady = true := by
  induction fs using List.reverseRecOn with
  | nil => simpa using h
  | append_singleton fs e ih =>
    rw [← List.append_assoc, after_snoc]
    exact ready_step e ih

/-- The condition is sharp: right after a step that breaks it the probe passes on `42`, and no
foreground call has succeeded since the cache became ready. -/
theorem stale_foreground_passes (es : List Event) (o : PrepareOutcome) (harm : b.arm64 = true)
    (hf : (after b page es).foregroundSeen = true) (hr : (after b page es).codeCacheReady = false)
    (hr' : (after b page (es ++ [.background o])).codeCacheReady = true) :
    (lifecycleJit b 42 (after b page (es ++ [.background o]))).rc = 0 ∧
      ¬ ResumedSinceReady b page (es ++ [.background o]) := by
  constructor
  · rw [after_snoc, step] at hr' ⊢
    obtain ⟨hf', hb, ⟨_, he, _⟩ | ⟨_, hn, _⟩⟩ := noteBackground_cases page b.target o (after b page es)
    · simp [lifecycleJit, hf', hb, hf, he, hr', harm]
    · rw [hn] at hr'
      cases hr'
  · rintro ⟨p, q, r, ⟨o', q', rfl, -, hp⟩, he, -⟩
    -- the foreground call is not the last event, so the cache was ready before the last one
    obtain ⟨r', rfl⟩ : ∃ r', es = (p ++ .background o' :: q') ++ .foreground :: r' := by
      induction r using List.reverseRecOn with
      | nil =>
        have := (List.append_inj' he rfl).2
        cases this
      | append_singleton r e _ =>
        rw [← List.cons_append, ← List.append_assoc] at he
        exact ⟨r, (List.append_inj' he rfl).1⟩
    have hh := ready_append (q' ++ .foreground :: r') hp
    simp only [List.append_assoc, List.cons_append, List.nil_append] at hh hr
    rw [hr] at hh
    cases hh

/-- Along every run that prepares the cache with no foreground call recorded yet, the probe passes
only after a resume of the cache it executes. -/
theorem lifecycle_pass_resumed (b : Build) (page : Size) (es : List Event) (h : NoStaleForeground b page es)
    (p q : List Event) (hp : es = p ++ q) (call : ℤ) (hpass : (lifecycleJit b call (after b page p)).rc = 0) :
    ResumedSinceReady b page p := by
  obtain ⟨-, hf, -, hr⟩ := lifecycleJit_pass hpass
  exact (fresh_after p (NoStaleForeground.of_append (hp ▸ h)) hr).2 hf

def alloc (r : Except Errno ℕ) : PrepareOutcome := ⟨⟨r, .error ENOENT⟩, ⟨none, 0⟩, none⟩

/-- The first preparation fails, the foreground call after it is recorded, and a later background
call prepares the cache: the probe passes with no resume in between. -/
theorem lifecycle_pass_unresumed :
    let es := [.background (alloc (.error EACCES)), .foreground, .background (alloc (.ok 4096))]
    (lifecycleJit ⟨.macos, true⟩ 42 (after ⟨.macos, true⟩ 4096 es)).rc = 0 ∧
      ¬ ResumedSinceReady ⟨.macos, true⟩ 4096 es :=
  stale_foreground_passes [.background (alloc (.error EACCES)), .foreground] (alloc (.ok 4096))
    rfl (by decide) (by decide) (by decide)

theorem lifecycle_pass_resumed_once :
    ResumedSinceReady ⟨.macos, true⟩ 4096 [.background (alloc (.ok 4096)), .foreground] := by
  refine lifecycle_pass_resumed ⟨.macos, true⟩ 4096 [.background (alloc (.ok 4096)), .foreground]
    ?_ _ [] (by simp) 42 (by decide)
  rintro (_ | ⟨e, _ | ⟨e', p⟩⟩) o q he hf
  · exact absurd hf (by decide)
  · cases he
  · simp at he

end Graft64.Platform.Lifecycle
