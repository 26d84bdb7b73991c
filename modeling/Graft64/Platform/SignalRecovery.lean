import Graft64.Library.Ledger
import Graft64.Platform.Probes

/-! What the signal probe acquires and replaces on its way, and what it gives back. -/

namespace Graft64.Platform.Probes

open Graft64.Library Ledger

inductive FaultResource
  | stack
  | altStack
  | file
  | fileMapping
  deriving DecidableEq, Repr

inductive OnceCall
  | mmapStack (e : Option SysError)
  | sigaltstack (e : Option SysError)
  | mkstemp (e : Option SysError)
  | mmapFile (e : Option SysError)
  | close
  | munmapFile
  | restoreStack
  | munmapStack

def acquired {R : Type} (r : R) (e : Option SysError) : List (Entry R) := if e.isNone then [.acquire r] else []

def OnceCall.entries : OnceCall → List (Entry FaultResource)
  | .mmapStack e => acquired .stack e
  | .sigaltstack e => acquired .altStack e
  | .mkstemp e => acquired .file e
  | .mmapFile e => acquired .fileMapping e
  | .close => [.release .file]
  | .munmapFile => [.release .fileMapping]
  | .restoreStack => [.release .altStack]
  | .munmapStack => [.release .stack]

/-- The calls around the provoked access: a fault in it goes on at the label after `munmap`. -/
def accessCalls (t : Target) (g : Configuration) (expected : Int32) (c : FaultCalls) : List OnceCall :=
  if expected ≠ SIGBUS t ∨ PATH_MAX t ≤ (signalPath g c.cacheWritable).length then []
  else match c.mkstemp with
  | some e => [.mkstemp (some e)]
  | none =>
    [.mkstemp none, .mmapFile c.mmap, .close] ++
      match c.mmap, c.fault with
      | none, none => [.munmapFile]
      | _, _ => []

def onceCalls (t : Target) (g : Configuration) (expected : Int32) (c : FaultCalls) : List OnceCall :=
  match c.stack, c.sigaltstack with
  | some e, _ => [.mmapStack (some e)]
  | none, some e => [.mmapStack none, .sigaltstack (some e), .munmapStack]
  | none, none =>
    [.mmapStack none, .sigaltstack none] ++ accessCalls t g expected c ++ [.restoreStack, .munmapStack]

def onceEntries (t : Target) (g : Configuration) (expected : Int32) (c : FaultCalls) :
    List (Entry FaultResource) :=
  (onceCalls t g expected c).flatMap OnceCall.entries

def FaultsInFile (t : Target) (g : Configuration) (expected : Int32) (c : FaultCalls) : Prop :=
  c.stack = none ∧ c.sigaltstack = none ∧ expected = SIGBUS t ∧
    (signalPath g c.cacheWritable).length < PATH_MAX t ∧ c.mkstemp = none ∧ c.mmap = none ∧ c.fault.isSome = true

section

variable {t : Target} {g : Configuration} {expected : Int32} {c : FaultCalls}

lemma access_balanced (h : expected = SIGBUS t → (signalPath g c.cacheWritable).length < PATH_MAX t →
    c.mkstemp = none → c.mmap = none → c.fault = none) :
    Runs.run step [.altStack, .stack] ((accessCalls t g expected c).flatMap OnceCall.entries) =
      some [.altStack, .stack] := by
  rw [accessCalls]
  by_cases hp : expected ≠ SIGBUS t ∨ PATH_MAX t ≤ (signalPath g c.cacheWritable).length
  · rw [if_pos hp]
    rfl
  · rw [if_neg hp]
    simp only [not_or, not_not, Nat.not_le] at hp
    cases hm : c.mkstemp with
    | some e => rfl
    | none =>
      cases hf : c.mmap with
      | some e => rfl
      | none =>
        rw [h hp.1 hp.2 hm hf]
        rfl

lemma once_bracket (hs : c.stack = none) (ha : c.sigaltstack = none) :
    onceEntries t g expected c = .acquire .stack :: (.acquire .altStack ::
      (accessCalls t g expected c).flatMap OnceCall.entries ++ [.release .altStack]) ++ [.release .stack] := by
  rw [onceEntries, onceCalls, hs, ha]
  simp [OnceCall.entries, acquired]

lemma faultsInFile_entries (h : FaultsInFile t g expected c) :
    onceEntries t g expected c = [.acquire .stack, .acquire .altStack, .acquire .file, .acquire .fileMapping,
      .release .file, .release .altStack, .release .stack] := by
  obtain ⟨hs, ha, he, hp, hm, hf, hx⟩ := h
  obtain ⟨f, hx⟩ := Option.isSome_iff_exists.mp hx
  rw [once_bracket hs ha, accessCalls, if_neg (by simp [he, hp]), hm, hf, hx]
  rfl

end

/-- Everything `signal_resume_once` acquires is given back once, unless the access to the mapped file
faults: the handler resumes after the `munmap`. -/
theorem once_balanced_iff (t : Target) (g : Configuration) (expected : Int32) (c : FaultCalls) :
    Balanced (onceEntries t g expected c) ↔ ¬ FaultsInFile t g expected c := by
  constructor
  · intro hb hf
    rw [faultsInFile_entries hf] at hb
    exact absurd hb (by decide)
  · intro hf
    cases hs : c.stack with
    | some e =>
      rw [onceEntries, onceCalls, hs]
      rfl
    | none =>
      cases ha : c.sigaltstack with
      | some e =>
        rw [onceEntries, onceCalls, hs, ha]
        rfl
      | none =>
        rw [once_bracket hs ha]
        apply run_bracket (by simp)
        apply run_bracket (by simp)
        apply access_balanced
        intro he hp hm hmap
        by_contra hx
        exact hf ⟨hs, ha, he, hp, hm, hmap, Option.isSome_iff_ne_none.mpr hx⟩

def faulting (signal : Int32) : FaultCalls :=
  ⟨none, none, none, none, none, none, some (signal, 0x10000, 0x400), 0x408, none⟩

/-- The run that recovers from SIGBUS, as it should, leaves the file mapped. -/
theorem recovered_run_leaks :
    (signalResumeOnce .linux .initial (SIGBUS .linux) (faulting (SIGBUS .linux)) .none).1 = 0 ∧
      ¬ Balanced (onceEntries .linux .initial (SIGBUS .linux) (faulting (SIGBUS .linux))) := by
  decide

inductive Signal
  | segv
  | bus
  deriving DecidableEq, Repr

inductive SigactionCall
  | replace (s : Signal) (e : Option SysError)
  | restore (s : Signal) (e : Option SysError)

def sigactionCalls (b : Build) (c : SignalCalls) : List SigactionCall :=
  if b.arm64 = false then []
  else match c.sigactionSegv, c.sigactionBus with
  | some e, _ => [.replace .segv (some e)]
  | none, some e => [.replace .segv none, .replace .bus (some e), .restore .segv c.restoreSegv]
  | none, none =>
    [.replace .segv none, .replace .bus none, .restore .segv c.restoreSegv, .restore .bus c.restoreBus]

/-- An attempt to restore settles the replacement, whatever comes of it. -/
def SigactionCall.entries : SigactionCall → List (Entry Signal)
  | .replace s e => acquired s e
  | .restore s _ => [.release s]

structure Dispositions (D : Type) where
  current : Signal → D
  saved : Signal → D

def SigactionCall.run {D : Type} (handler : D) (d : Dispositions D) : SigactionCall → Dispositions D
  | .replace s none => ⟨Function.update d.current s handler, Function.update d.saved s (d.current s)⟩
  | .restore s none => { d with current := Function.update d.current s (d.saved s) }
  | .replace _ (some _) | .restore _ (some _) => d

def PutBack (b : Build) (c : SignalCalls) : Prop :=
  ∀ (D : Type) (handler : D) (d : Dispositions D),
    ((sigactionCalls b c).foldl (SigactionCall.run handler) d).current = d.current

def Recovered (t : Target) (g : Configuration) (expected : Int32) (c : FaultCalls) : Prop :=
  c.stack = none ∧ c.sigaltstack = none ∧
    (expected = SIGBUS t →
      (signalPath g c.cacheWritable).length < PATH_MAX t ∧ c.mkstemp = none ∧ c.mmap = none) ∧
    ∃ address pc, c.fault = some (expected, address, pc)

def BothRecovered (t : Target) (g : Configuration) (c : FaultCalls × FaultCalls) : Prop :=
  Recovered t g SIGSEGV c.1 ∧ Recovered t g (SIGBUS t) c.2

def AllRecovered (b : Build) (g : Configuration) (c : SignalCalls) : Prop :=
  b.arm64 = true ∧ c.sigactionSegv = none ∧ c.sigactionBus = none ∧ BothRecovered b.target g c.main ∧
    c.create = none ∧ BothRecovered b.target g c.worker

def recoveredSummary : CString :=
  setText summarySize (cstr "SIGSEGV/SIGBUS recovered through TLS ucontext (main and worker)")

structure Verdict (b : Build) (g : Configuration) (c : SignalCalls) : Prop where
  verdict : (signalResume b g c).rc = 0 ↔ AllRecovered b g c ∧ PutBack b c
  summary : (signalResume b g c).rc = 0 ↔ (signalResume b g c).summary = recoveredSummary
  attempted : Balanced ((sigactionCalls b c).flatMap SigactionCall.entries)

section

variable {t : Target} {b : Build} {g : Configuration} {expected : Int32} {f : Fault}

lemma fault_eq_zero {c : FaultCalls} {armed : Fault} :
    (match c.fault with
      | none => (EFAULT, armed)
      | some (signal, address, pc) =>
          (if signal = expected then 0 else EFAULT, ⟨signal, address, pc, c.recovered⟩)).1 =
        0 ↔ ∃ address pc, c.fault = some (expected, address, pc) := by
  have hne : EFAULT ≠ 0 := by decide
  cases c.fault with
  | none => simp [hne]
  | some p =>
    obtain ⟨signal, address, pc⟩ := p
    by_cases h : signal = expected
    · simp [h]
    · simp [h, hne]

lemma signalResumeOnce_eq_zero {c : FaultCalls} :
    (signalResumeOnce t g expected c f).1 = 0 ↔ Recovered t g expected c := by
  rw [signalResumeOnce, Recovered]
  cases c.stack with
  | some e => simp [e.errno_ne]
  | none =>
    cases c.sigaltstack with
    | some e => simp [e.errno_ne]
    | none =>
      simp only [true_and]
      by_cases he : expected = SIGBUS t
      · simp only [he, true_and, forall_const]
        by_cases hp : PATH_MAX t ≤ (signalPath g c.cacheWritable).length
        · have hn : ENAMETOOLONG t ≠ 0 := by cases t <;> decide
          simp [hp, hn]
        · rw [if_neg hp]
          cases hm : c.mkstemp with
          | some e => simp [recorded, e.errno_ne]
          | none =>
            cases hf : c.mmap with
            | some e => simp [recorded, lastError_eq_zero, e.errno_ne]
            | none =>
              simp only [Option.isSome_none, Bool.false_eq_true, if_false, Nat.not_le.mp hp, true_and]
              exact fault_eq_zero
      · simp only [he, false_and, if_false, false_imp_iff, true_and]
        exact fault_eq_zero

lemma Recovered.signal {c : FaultCalls} (h : Recovered t g expected c) :
    (signalResumeOnce t g expected c f).2.signal = expected := by
  obtain ⟨hs, ha, hb, address, pc, hf⟩ := h
  rw [signalResumeOnce, hs, ha]
  by_cases he : expected = SIGBUS t
  · obtain ⟨hp, hm, hmap⟩ := hb he
    simp [hm, hmap, hf, Nat.not_le.mpr hp]
  · simp [he, hf]

lemma signalWorker_eq_zero {c : FaultCalls × FaultCalls} :
    (signalWorker t g f c).result = 0 ↔ BothRecovered t g c := by
  rw [BothRecovered, ← signalResumeOnce_eq_zero (f := f),
    ← signalResumeOnce_eq_zero (f := (signalResumeOnce t g SIGSEGV c.1 f).2)]
  simp only [signalWorker]
  split_ifs with h
  · simp [h]
  · simp [h]

lemma BothRecovered.signals {c : FaultCalls × FaultCalls} (h : BothRecovered t g c) :
    (signalWorker t g f c).segv = true ∧ (signalWorker t g f c).bus = true := by
  simp only [signalWorker, beq_iff_eq]
  exact ⟨h.1.signal, h.2.signal⟩

lemma workerResult_eq_zero {c : SignalCalls} :
    (workerResult t g c).result = 0 ↔ c.create = none ∧ BothRecovered t g c.worker := by
  rw [workerResult]
  cases c.create with
  | some e => simp [e.errno_ne]
  | none => simp [signalWorker_eq_zero]

lemma current_segv {c : SignalCalls} (hb : b.arm64 = true) (hs : c.sigactionSegv = none)
    (hu : c.sigactionBus = none)
    {D : Type} (handler : D) (d : Dispositions D) :
    let d' := (sigactionCalls b c).foldl (SigactionCall.run handler) d
    d'.current .segv = (if c.restoreSegv.isNone then d.current .segv else handler) ∧
      d'.current .bus = if c.restoreBus.isNone then d.current .bus else handler := by
  rw [sigactionCalls, if_neg (by simp [hb]), hs, hu]
  cases c.restoreSegv with
  | none => cases c.restoreBus <;> exact ⟨rfl, rfl⟩
  | some e => cases c.restoreBus <;> exact ⟨rfl, rfl⟩

lemma putBack_iff {c : SignalCalls} (hb : b.arm64 = true) (hs : c.sigactionSegv = none)
    (hu : c.sigactionBus = none) :
    PutBack b c ↔ c.restoreSegv = none ∧ c.restoreBus = none := by
  constructor
  · intro h
    have hd := h Bool true ⟨fun _ => false, fun _ => false⟩
    obtain ⟨h₁, h₂⟩ := current_segv hb hs hu true ⟨fun _ => false, fun _ => false⟩
    rw [hd] at h₁ h₂
    exact ⟨by simpa using h₁, by simpa using h₂⟩
  · rintro ⟨hr, hr'⟩ D handler d
    obtain ⟨h₁, h₂⟩ := current_segv hb hs hu handler d
    rw [hr] at h₁
    rw [hr'] at h₂
    funext s
    cases s with
    | segv => exact h₁
    | bus => exact h₂

lemma signalResume_installed {c : SignalCalls} (hb : b.arm64 = true) (hs : c.sigactionSegv = none)
    (hu : c.sigactionBus = none) :
    let done := BothRecovered b.target g c.main ∧ c.create = none ∧ BothRecovered b.target g c.worker
    ((signalResume b g c).rc = 0 ↔ done) ∧
      ((signalResume b g c).summary = recoveredSummary ↔ done ∧ c.restoreSegv = none ∧ c.restoreBus = none) := by
  intro done
  have hdone : done ↔ (signalWorker b.target g c.left c.main).result = 0 ∧
      (workerResult b.target g c).result = 0 := by
    rw [signalWorker_eq_zero, workerResult_eq_zero]
  have hsignals (h : done) : (signalWorker b.target g c.left c.main).segv = true ∧
      (signalWorker b.target g c.left c.main).bus = true ∧ (workerResult b.target g c).segv = true ∧
      (workerResult b.target g c).bus = true := by
    obtain ⟨hm, hc, hw⟩ := h
    rw [workerResult, hc]
    exact ⟨hm.signals.1, hm.signals.2, hw.signals.1, hw.signals.2⟩
  rw [signalResume, if_neg (by simp [hb]), hs, hu]
  generalize signalWorker b.target g c.left c.main = main at hdone hsignals
  generalize workerResult b.target g c = worker at hdone hsignals
  have hok : (decide (main.result = 0) && decide (worker.result = 0) && c.restoreSegv.isNone &&
      c.restoreBus.isNone &&
      main.segv && main.bus && worker.segv && worker.bus) = true ↔
        done ∧ c.restoreSegv = none ∧ c.restoreBus = none := by
    simp only [Bool.and_eq_true, decide_eq_true_eq, Option.isNone_iff_eq_none]
    constructor
    · intro h
      exact ⟨hdone.mpr h.1.1.1.1.1.1, h.1.1.1.1.1.2, h.1.1.1.1.2⟩
    · rintro ⟨hd, hr, hr'⟩
      obtain ⟨h₁, h₂, h₃, h₄⟩ := hsignals hd
      exact ⟨⟨⟨⟨⟨⟨hdone.mp hd, hr⟩, hr'⟩, h₁⟩, h₂⟩, h₃⟩, h₄⟩
  by_cases h : done ∧ c.restoreSegv = none ∧ c.restoreBus = none
  · simp only [hok.mpr h, if_true]
    exact ⟨iff_of_true rfl h.1, iff_of_true rfl h⟩
  · simp only [Bool.eq_false_iff.mpr (mt hok.mp h), Bool.false_eq_true, if_false]
    refine ⟨?_, iff_of_false ?_ h⟩
    · rw [hdone, report_rc]
      split_ifs with hm
      · simp [hm]
      · simp [not_not.mp hm]
    · simp only [report, recoveredSummary]
      decide

end

lemma verdict_of_failed {b : Build} {g : Configuration} {c : SignalCalls} (ha : ¬ AllRecovered b g c)
    (hrc : (signalResume b g c).rc ≠ 0) (hs : (signalResume b g c).summary ≠ recoveredSummary)
    (hb : Balanced ((sigactionCalls b c).flatMap SigactionCall.entries)) : Verdict b g c where
  verdict := iff_of_false hrc fun h => ha h.1
  summary := iff_of_false hrc hs
  attempted := hb

lemma verdict_installed_iff {b : Build} {g : Configuration} {c : SignalCalls} (hb : b.arm64 = true)
    (hs : c.sigactionSegv = none) (hu : c.sigactionBus = none) :
    Verdict b g c ↔ ¬ (AllRecovered b g c ∧ ¬ PutBack b c) := by
  obtain ⟨hrc, hsum⟩ := signalResume_installed (g := g) hb hs hu
  have hall : AllRecovered b g c ↔
      BothRecovered b.target g c.main ∧ c.create = none ∧ BothRecovered b.target g c.worker := by
    simp [AllRecovered, hb, hs, hu]
  rw [← hall] at hrc hsum
  rw [← putBack_iff hb hs hu] at hsum
  constructor
  · rintro ⟨hv, -, -⟩ ⟨ha, hp⟩
    exact hp (hv.mp (hrc.mpr ha)).2
  · intro h
    have hput (ha : AllRecovered b g c) : PutBack b c := by
      by_contra hp
      exact h ⟨ha, hp⟩
    refine ⟨hrc.trans ⟨fun ha => ⟨ha, hput ha⟩, And.left⟩,
      hrc.trans (hsum.trans ⟨And.left, fun ha => ⟨ha, hput ha⟩⟩).symm, ?_⟩
    rw [sigactionCalls, if_neg (by simp [hb]), hs, hu]
    rfl

/-- The probe tells the truth unless every signal was recovered and a disposition was not put back: the
value it then chooses is one of two results that are both 0. -/
theorem verdict_iff (b : Build) (g : Configuration) (c : SignalCalls) :
    Verdict b g c ↔ ¬ (AllRecovered b g c ∧ ¬ PutBack b c) := by
  cases hb : b.arm64 with
  | false =>
    have hno : ¬ AllRecovered b g c := by
      rintro ⟨ha, -⟩
      rw [hb] at ha
      cases ha
    refine iff_of_true (verdict_of_failed hno ?_ ?_ ?_) fun h => hno h.1
    · rw [signalResume, if_pos hb]
      decide
    · rw [signalResume, if_pos hb]
      simp only [report, recoveredSummary]
      decide
    · rw [sigactionCalls, if_pos hb]
      rfl
  | true =>
    cases hs : c.sigactionSegv with
    | some e =>
      have hno : ¬ AllRecovered b g c := by
        rintro ⟨-, h, -⟩
        rw [hs] at h
        cases h
      refine iff_of_true (verdict_of_failed hno ?_ ?_ ?_) fun h => hno h.1
      · rw [signalResume, if_neg (by simp [hb]), hs]
        simpa [returnErrno] using e.errno_ne
      · rw [signalResume, if_neg (by simp [hb]), hs]
        simp only [returnErrno, recoveredSummary]
        decide
      · rw [sigactionCalls, if_neg (by simp [hb]), hs]
        rfl
    | none =>
      cases hu : c.sigactionBus with
      | some e =>
        have hno : ¬ AllRecovered b g c := by
          rintro ⟨-, -, h, -⟩
          rw [hu] at h
          cases h
        refine iff_of_true (verdict_of_failed hno ?_ ?_ ?_) fun h => hno h.1
        · rw [signalResume, if_neg (by simp [hb]), hs, hu]
          simpa [returnErrno] using e.errno_ne
        · rw [signalResume, if_neg (by simp [hb]), hs, hu]
          simp only [returnErrno, recoveredSummary]
          decide
        · rw [sigactionCalls, if_neg (by simp [hb]), hs, hu]
          rfl
      | none => exact verdict_installed_iff hb hs hu

def unrestored : SignalCalls :=
  ⟨none, none, (faulting SIGSEGV, faulting (SIGBUS .linux)), (faulting SIGSEGV, faulting (SIGBUS .linux)), none,
    some .einval, none, .none⟩

theorem passes_unrestored : ¬ Verdict ⟨.linux, true⟩ .initial unrestored := by
  rintro ⟨-, hs, -⟩
  have hrc : (signalResume ⟨.linux, true⟩ .initial unrestored).rc = 0 ∧
      (signalResume ⟨.linux, true⟩ .initial unrestored).summary ≠ recoveredSummary := by decide
  exact hrc.2 (hs.mp hrc.1)

end Graft64.Platform.Probes
