import Graft64.Platform.Reports
import Graft64.Platform.SignalRecovery

/-! What the fields of a probe result say about each other, whatever the system calls do. -/

namespace Graft64.Platform.Probes

open Jit

structure Consistent (r : ProbeResult) : Prop where
  reason : r.status = .pass ↔ r.reasonCode = .none
  graftError : r.status = .pass ↔ r.graftError = .none
  pass : r.status = .pass → r.osError = 0
  blocked : r.status = .blocked → r.osError = EACCES ∨ r.osError = EPERM
  fail : r.status = .fail → r.osError ≠ 0

def Filled (t : Target) (alloc : AllocCalls) (write : WriteCalls) (data : List UInt8) (w : World) : Prop :=
  ∃ w₀, graftJitAlloc t alloc.page alloc.outcome 4096 .empty = (.ok (), w₀) ∧
    graftJitWrite t write.outcome 0 data 8 w₀ = (.ok (), w)

def BasicDone (b : Build) (c : BasicCalls) : Prop :=
  b.arm64 = true ∧ ∃ w, Filled b.target c.alloc c.write Lifecycle.code w ∧ graftJitInvalidate 0 8 w = .ok () ∧
    (graftJitCommit b.target (c.commit.map SysError.errno) w).1 = .ok () ∧ c.call = 42

def ProtectDone (b : Build) (c : ProtectCalls) : Prop :=
  b.arm64 = true ∧ ∃ w w₁ w₂, Filled b.target c.alloc c.write returnOne w ∧
    graftJitCommit b.target (c.commit.map SysError.errno) w = (.ok (), w₁) ∧ c.call = 1 ∧
    graftJitWrite b.target c.rewrite.outcome 0 returnTen 8 w₁ = (.ok (), w₂) ∧
    (graftJitCommit b.target (c.recommit.map SysError.errno) w₂).1 = .ok () ∧ c.called = 10

def ThreadsDone (b : Build) (c : ThreadsCalls) : Prop :=
  BasicDone b c.basic ∧ ∃ w, Filled b.target c.alloc c.write Lifecycle.code w ∧
    (graftJitCommit b.target (c.commit.map SysError.errno) w).1 = .ok () ∧ c.writerCreate = none ∧
    c.writerJoin = none ∧ threadErrors c = 0 ∧ threadFailures c = 0 ∧ c.writerFails = false

def Done (b : Build) (g : Configuration) (c : Calls) : Probe → Prop
  | .runtimePaths => pathContextMissing g = false ∧ observationMissing g = false
  | .pageModel => ¬ (c.page.getpagesize ≤ 0 ∨ c.page.sysconf ≤ 0) ∧ c.page.mmap = none
  | .jitBasic => BasicDone b c.basic
  | .jitWriteProtect => ProtectDone b c.protect
  | .jitMultithread => ThreadsDone b c.threads
  | .signalResume => AllRecovered b g c.signals
  | .dlopenBundle =>
    b.target.apple = true ∧ g.dylibPath ≠ [] ∧ c.dylib.dlopen = .ok () ∧ c.dylib.error = false ∧
      c.dylib.value = some 64
  | .unixSocket =>
    c.socket.socketpair = none ∧ c.socket.requestRead = some socketRequest ∧
      c.socket.responseRead = some socketResponse ∧ c.socket.closeObserved = true
  | .sharedMapping => HelperDone .shared
  | .helperSpawn => HelperDone .spawn
  | .helperIpc => HelperDone .ipc
  | .lifecycleJit =>
    c.lifecycle.backgroundSeen = true ∧ c.lifecycle.foregroundSeen = true ∧ c.lifecycle.prepareError = 0 ∧
      c.lifecycle.codeCacheReady = true ∧ b.arm64 = true ∧ c.lifecycleCall = 42
where
  HelperDone (mode : Ipc.Mode) : Prop :=
    ∃ pid, HelperProbe.Started b.target g (c.helper mode) pid ∧ HelperProbe.resultOk (c.helper mode) pid = true

def unnoticed (b : Build) (g : Configuration) (c : Calls) : Probe → List (Option SysError)
  | .runtimePaths | .lifecycleJit => []
  | .pageModel => [c.page.second, c.page.munmap]
  | .jitBasic => [c.basic.alloc.hidden b.target, c.basic.munmap]
  | .jitWriteProtect => [c.protect.alloc.hidden b.target, c.protect.munmap]
  | .jitMultithread =>
    [c.threads.basic.alloc.hidden b.target, c.threads.basic.munmap, c.threads.alloc.hidden b.target,
      c.threads.munmap]
  | .signalResume =>
    [c.signals.main.1.ignored, HelperProbe.accessError g c.signals.main.2.access, c.signals.main.2.close,
      c.signals.main.2.ignored, c.signals.restoreSegv, c.signals.restoreBus]
  | .dlopenBundle => [c.dylib.dlclose]
  | .unixSocket => [c.socket.ignored]
  | .sharedMapping => helper .shared
  | .helperSpawn => helper .spawn
  | .helperIpc => helper .ipc
where
  helper (mode : Ipc.Mode) : List (Option SysError) :=
    [HelperProbe.accessError g (c.helper mode).access, (c.helper mode).ignored]

def resultOf (t : Target) (p : Probe) (r : ProbeReturn) : ProbeResult :=
  let osError : ℤ := if 0 < r.rc then r.rc else r.errno
  { name := p.name
    status := probeStatus r.rc
    reasonCode := reasonForResult t p (probeStatus r.rc) osError
    graftError := graftErrorForResult (probeStatus r.rc) osError
    osError := osError
    summary := r.summary
    detailsJson := r.details }

lemma graftRunProbe_name (b : Build) (g : Configuration) (c : Calls) (p : Probe) :
    graftRunProbe b g c p.name = some (resultOf b.target p (probeFn b g c p)) := by
  rw [graftRunProbe, findProbe_name]
  rfl

structure Returns (r : ProbeReturn) (done : Prop) (unnoticed : List (Option SysError)) : Prop where
  code : r.rc = PROBE_INTERNAL_SKIP ∨ (r.rc = PROBE_INTERNAL_BLOCKED ∧ (r.errno = EACCES ∨ r.errno = EPERM)) ∨
    0 < r.rc ∨ r.rc = 0
  pass : r.rc = 0 ↔ done
  errno : done → r.errno = lastError 0 unnoticed

section

variable {r : ProbeReturn} {done : Prop} {os : List (Option SysError)}

lemma Returns.skip (h : r.rc = PROBE_INTERNAL_SKIP) (hd : ¬ done) : Returns r done os where
  code := .inl h
  pass := iff_of_false (by rw [h]; decide) hd
  errno hd' := absurd hd' hd

lemma Returns.failed (h : 0 < r.rc) (hd : ¬ done) : Returns r done os where
  code := .inr (.inr (.inl h))
  pass := iff_of_false (by omega) hd
  errno hd' := absurd hd' hd

lemma Returns.blocked (h : r.rc = PROBE_INTERNAL_BLOCKED) (he : r.errno = EACCES ∨ r.errno = EPERM) (hd : ¬ done) :
    Returns r done os where
  code := .inr (.inl ⟨h, he⟩)
  pass := iff_of_false (by rw [h]; decide) hd
  errno hd' := absurd hd' hd

lemma Returns.passed (h : r.rc = 0) (hd : done) (he : r.errno = lastError 0 os) : Returns r done os where
  code := .inr (.inr (.inr h))
  pass := iff_of_true h hd
  errno _ := he

lemma errno_pos {e : Errno} (h : e ≠ 0) : (0 : ℤ) < e := by
  exact_mod_cast Nat.pos_of_ne_zero h

lemma Returns.blockedOr {e : Errno} (he : e ≠ 0) (h : r.rc = Probes.blockedOr e) (hr : r.errno = e) (hd : ¬ done) :
    Returns r done os := by
  rw [Probes.blockedOr] at h
  split_ifs at h with hp
  · exact .blocked h (hr ▸ hp) hd
  · exact .failed (h ▸ errno_pos he) hd

lemma reasonForResult_ne {t : Target} {p : Probe} {status : ProbeStatus} (h : status ≠ .pass) (e : ℤ) :
    reasonForResult t p status e ≠ .none := by
  cases status with
  | pass => exact absurd rfl h
  | skip =>
    rw [reasonForResult]
    split_ifs <;> simp
  | blocked => simp [reasonForResult]
  | fail =>
    rw [reasonForResult]
    split_ifs <;> simp

lemma graftErrorForResult_ne {status : ProbeStatus} (h : status ≠ .pass) (e : ℤ) :
    graftErrorForResult status e ≠ .none := by
  rw [graftErrorForResult, if_neg h]
  split_ifs <;> simp

lemma consistent_of_ne {t : Target} {p : Probe} (hs : probeStatus r.rc ≠ .pass)
    (hb : probeStatus r.rc = .blocked → (resultOf t p r).osError = EACCES ∨ (resultOf t p r).osError = EPERM)
    (hf : probeStatus r.rc = .fail → (resultOf t p r).osError ≠ 0) : Consistent (resultOf t p r) where
  reason := iff_of_false hs (reasonForResult_ne hs _)
  graftError := iff_of_false hs (graftErrorForResult_ne hs _)
  pass h := absurd h hs
  blocked := hb
  fail := hf

lemma probeStatus_pos {rc : ℤ} (h : 0 < rc) : probeStatus rc = .fail := by
  rw [probeStatus, if_neg (by omega), if_neg (by simp [PROBE_INTERNAL_SKIP]; omega),
    if_neg (by simp [PROBE_INTERNAL_BLOCKED]; omega)]

lemma Returns.consistent_iff (h : Returns r done os) (t : Target) (p : Probe) :
    Consistent (resultOf t p r) ↔ (done → ∀ o ∈ os, o = none) := by
  rcases h.code with hc | ⟨hc, he⟩ | hc | hc
  · have hd : ¬ done := fun hd => absurd (h.pass.mpr hd) (by rw [hc]; decide)
    have hs : probeStatus r.rc = .skip := by rw [hc]; rfl
    refine iff_of_true (consistent_of_ne ?_ ?_ ?_) fun hd' => absurd hd' hd
    all_goals simp [hs]
  · have hd : ¬ done := fun hd => absurd (h.pass.mpr hd) (by rw [hc]; decide)
    have hs : probeStatus r.rc = .blocked := by rw [hc]; rfl
    have ho : (resultOf t p r).osError = r.errno := if_neg (by rw [hc]; decide)
    refine iff_of_true (consistent_of_ne ?_ ?_ ?_) fun hd' => absurd hd' hd
    · simp [hs]
    · intro _
      rw [ho]
      exact_mod_cast he
    · simp [hs]
  · have hd : ¬ done := fun hd => absurd (h.pass.mpr hd) (by omega)
    have hs := probeStatus_pos hc
    have ho : (resultOf t p r).osError = r.rc := if_pos hc
    refine iff_of_true (consistent_of_ne ?_ ?_ ?_) fun hd' => absurd hd' hd
    · simp [hs]
    · simp [hs]
    · intro _
      rw [ho]
      omega
  · have hd := h.pass.mp hc
    have hs : probeStatus r.rc = .pass := if_pos hc
    have ho : (resultOf t p r).osError = r.errno := if_neg (by omega)
    have hos : r.errno = 0 ↔ ∀ o ∈ os, o = none := by
      rw [h.errno hd, lastError_eq_zero]
      exact and_iff_right rfl
    constructor
    · intro hr _
      exact hos.mp (by exact_mod_cast ho.symm.trans (hr.pass hs))
    · intro hn
      have h0 : (resultOf t p r).osError = 0 := ho.trans (by exact_mod_cast hos.mpr (hn hd))
      refine ⟨iff_of_true hs ?_, iff_of_true hs ?_, fun _ => h0, ?_, ?_⟩
      · simp only [resultOf, hs, reasonForResult]
      · simp only [resultOf, hs, graftErrorForResult, if_true]
      · intro hb
        exact absurd (hs.symm.trans hb) (by decide)
      · intro hf
        exact absurd (hs.symm.trans hf) (by decide)

end

section

variable (b : Build) (g : Configuration) (c : Calls)

lemma runtimePaths_returns :
    Returns (runtimePaths b.target g c.paths) (Done b g c .runtimePaths) (unnoticed b g c .runtimePaths) := by
  rw [runtimePaths]
  split_ifs with hp ho
  · refine .skip rfl ?_
    rintro ⟨h, -⟩
    rw [h] at hp
    cases hp
  · refine .skip rfl ?_
    rintro ⟨-, h⟩
    rw [h] at ho
    cases ho
  · exact .passed rfl ⟨by simpa using hp, by simpa using ho⟩ rfl

lemma pageModel_returns :
    Returns (pageModel b.target c.page) (Done b g c .pageModel) (unnoticed b g c .pageModel) := by
  rw [pageModel]
  by_cases hp : c.page.getpagesize ≤ 0 ∨ c.page.sysconf ≤ 0
  · rw [if_pos hp]
    refine .failed ?_ fun h => h.1 hp
    cases c.page.errno with
    | none => decide
    | some e => simpa using Nat.pos_of_ne_zero e.errno_ne
  · rw [if_neg hp]
    cases hm : c.page.mmap with
    | some e =>
      refine .failed (by simpa using Nat.pos_of_ne_zero e.errno_ne) ?_
      rintro ⟨-, h⟩
      rw [hm] at h
      cases h
    | none =>
      have hl := (prints_page c.page).length_le
      have hf : (pagePieces c.page).foldl appendText (some []) = some ([] ++ (pagePieces c.page).flatten) :=
        foldl_appendText (by simp only [List.length_nil, detailsSize]; omega)
      simp only [hf]
      exact .passed rfl ⟨hp, hm⟩ rfl

lemma dlopenBundle_returns :
    Returns (dlopenBundle b.target g c.dylib) (Done b g c .dlopenBundle) (unnoticed b g c .dlopenBundle) := by
  rw [dlopenBundle]
  by_cases ha : b.target.apple = false
  · rw [if_pos ha]
    exact .skip rfl fun h => Bool.false_ne_true (ha.symm.trans h.1)
  rw [if_neg ha]
  by_cases hp : g.dylibPath = []
  · rw [if_pos hp]
    exact .skip rfl fun h => h.2.1 hp
  rw [if_neg hp]
  cases hd : c.dylib.dlopen with
  | error e =>
    refine .failed (errno_pos (e := EFAULT) (by decide)) ?_
    rintro ⟨-, -, h, -⟩
    rw [hd] at h
    cases h
  | ok u =>
    simp only
    split_ifs with he
    · refine .failed (errno_pos (e := EFAULT) (by decide)) ?_
      rintro ⟨-, -, -, h, hv⟩
      rcases he with he | he
      · exact Bool.false_ne_true (h.symm.trans he)
      · rw [hv] at he
        exact he rfl
    · simp only [not_or, not_not, Bool.not_eq_true] at he
      refine .passed rfl ⟨by simpa using ha, hp, hd, he.1, ?_⟩ rfl
      cases hv : c.dylib.value with
      | none =>
        rw [hv] at he
        cases he.2
      | some v =>
        rw [hv] at he
        exact congrArg some (Int32.toInt_inj.mp he.2)

lemma unixSocketProbe_returns :
    Returns (unixSocketProbe c.socket) (Done b g c .unixSocket) (unnoticed b g c .unixSocket) := by
  rw [unixSocketProbe]
  cases hs : c.socket.socketpair with
  | some e =>
    refine .failed (by simpa [returnErrno] using Nat.pos_of_ne_zero e.errno_ne) ?_
    rintro ⟨h, -⟩
    rw [hs] at h
    cases h
  | none =>
    simp only
    have hok : ((c.socket.requestRead == some socketRequest) &&
        ((c.socket.requestRead == some socketRequest) && (c.socket.responseRead == some socketResponse)) &&
        ((c.socket.requestRead == some socketRequest) && (c.socket.responseRead == some socketResponse) &&
          c.socket.closeObserved)) = true ↔ c.socket.requestRead = some socketRequest ∧
        c.socket.responseRead = some socketResponse ∧ c.socket.closeObserved = true := by
      simp only [Bool.and_eq_true, beq_iff_eq]
      tauto
    split_ifs with h
    · exact .passed rfl ⟨hs, hok.mp h⟩ rfl
    · exact .failed (errno_pos (e := EIO) (by decide)) fun hd => h (hok.mpr hd.2)

lemma helperRoundtrip_returns (mode : Ipc.Mode) :
    Returns (HelperProbe.helperRoundtrip b.target g mode (c.helper mode)) (Done.HelperDone b g c mode)
      (unnoticed.helper g c mode) := by
  have hrc := HelperProbe.helperRoundtrip_rc (t := b.target) (g := g) (c := c.helper mode)
  refine ⟨?_, hrc, ?_⟩
  · rw [HelperProbe.helperRoundtrip]
    split_ifs with hp
    · exact .inl rfl
    refine .inr (.inr ?_)
    cases (c.helper mode).socketpair with
    | some e => exact .inl (errno_pos e.errno_ne)
    | none =>
      simp only
      split_ifs with hl
      · exact .inl (errno_pos (by cases b.target <;> decide))
      · cases (c.helper mode).mkstemp with
        | some e => exact .inl (errno_pos e.errno_ne)
        | none =>
          cases (c.helper mode).ftruncate with
          | some e => exact .inl (errno_pos e.errno_ne)
          | none =>
            cases (c.helper mode).mmap with
            | some e => exact .inl (errno_pos e.errno_ne)
            | none =>
              cases (c.helper mode).spawn with
              | error e => exact .inl (errno_pos e.errno_ne)
              | ok pid =>
                simp only [report_rc]
                split_ifs
                · exact .inr rfl
                · exact .inl (errno_pos (e := EIO) (by decide))
  · rintro ⟨pid, ⟨hp, hs, hl, hm, hf, hmap, hspawn⟩, -⟩
    rw [HelperProbe.helperRoundtrip, if_neg hp, hs, hm, hf, hmap, hspawn]
    simp only [if_neg (Nat.not_le.mpr hl)]
    rfl

lemma lifecycleJit_returns :
    Returns (Lifecycle.lifecycleJit b c.lifecycleCall.toInt c.lifecycle) (Done b g c .lifecycleJit)
      (unnoticed b g c .lifecycleJit) := by
  rw [Lifecycle.lifecycleJit]
  by_cases hseen : ¬ c.lifecycle.backgroundSeen ∨ ¬ c.lifecycle.foregroundSeen
  · rw [if_pos hseen]
    refine .skip rfl ?_
    rintro ⟨hb, hf, -⟩
    rcases hseen with h | h
    · exact h hb
    · exact h hf
  rw [if_neg hseen]
  by_cases he : c.lifecycle.prepareError ≠ 0
  · rw [if_pos he]
    exact .blockedOr he rfl rfl fun h => he h.2.2.1
  rw [if_neg he]
  by_cases hr : ¬ c.lifecycle.codeCacheReady
  · rw [if_pos hr]
    exact .failed (errno_pos (e := EINVAL) (by decide)) fun h => hr h.2.2.2.1
  rw [if_neg hr]
  simp only [not_or, not_not] at hseen he hr
  have hcall : c.lifecycleCall = 42 ↔ c.lifecycleCall.toInt = 42 := Int32.toInt_inj.symm
  cases ha : b.arm64 with
  | false =>
    exact .failed (errno_pos (e := EIO) (by decide)) fun h => Bool.false_ne_true (ha.symm.trans h.2.2.2.2.1)
  | true =>
    simp only [if_true]
    split_ifs with hv
    · exact .passed rfl ⟨hseen.1, hseen.2, he, hr, ha, hcall.mpr hv⟩ rfl
    · exact .failed (errno_pos (e := EIO) (by decide)) fun h => hv (hcall.mp h.2.2.2.2.2)

lemma onceErrno_segv {t : Target} {c : FaultCalls} (h : Recovered t g SIGSEGV c) (e : Errno) :
    onceErrno t g SIGSEGV c e = lastError e [c.ignored] := by
  have hne : SIGSEGV ≠ SIGBUS t := by cases t <;> decide
  rw [onceErrno, h.1, h.2.1]
  exact if_neg hne

lemma onceErrno_bus {t : Target} {c : FaultCalls} (h : Recovered t g (SIGBUS t) c) (e : Errno) :
    onceErrno t g (SIGBUS t) c e = lastError e [HelperProbe.accessError g c.access, c.close, c.ignored] := by
  obtain ⟨hs, ha, hb, -⟩ := h
  obtain ⟨hp, hm, hmap⟩ := hb rfl
  rw [onceErrno, hs, ha]
  simp only [if_true, if_neg (Nat.not_le.mpr hp), hm, hmap]
  rfl

lemma signalResume_returns (c : SignalCalls) :
    Returns (signalResume b g c) (AllRecovered b g c)
      [c.main.1.ignored, HelperProbe.accessError g c.main.2.access, c.main.2.close, c.main.2.ignored,
        c.restoreSegv,
        c.restoreBus] := by
  by_cases ha : b.arm64 = false
  · rw [signalResume, if_pos ha]
    exact .skip rfl fun h => Bool.false_ne_true (ha.symm.trans h.1)
  have ha' : b.arm64 = true := by simpa using ha
  cases hs : c.sigactionSegv with
  | some e =>
    rw [signalResume, if_neg ha, hs]
    refine .failed (errno_pos e.errno_ne) fun h => ?_
    rw [h.2.1] at hs
    cases hs
  | none =>
    cases hu : c.sigactionBus with
    | some e =>
      rw [signalResume, if_neg ha, hs, hu]
      refine .failed (errno_pos e.errno_ne) fun h => ?_
      rw [h.2.2.1] at hu
      cases hu
    | none =>
      have hrc := (signalResume_installed (g := g) ha' hs hu).1
      have hall : AllRecovered b g c ↔
          BothRecovered b.target g c.main ∧ c.create = none ∧ BothRecovered b.target g c.worker := by
        simp [AllRecovered, ha', hs, hu]
      refine ⟨?_, hrc.trans hall.symm, ?_⟩
      · rw [signalResume, if_neg ha, hs, hu]
        simp only [report_rc]
        refine .inr (.inr (Int.lt_or_eq_of_le ?_ |>.imp_right Eq.symm))
        split_ifs <;> omega
      · rintro ⟨-, -, -, ⟨hm, hm'⟩, -⟩
        rw [signalResume, if_neg ha, hs, hu]
        simp only [report, onceErrno_segv g hm, onceErrno_bus g hm']
        rfl

lemma status_eq_zero {r : Except Errno Unit} : status r = 0 ↔ r = .ok () := by
  cases r with
  | ok u => exact iff_of_true rfl rfl
  | error e => exact iff_of_false (by simp [status]) fun h => (by cases h)

lemma filled_iff {t : Target} {alloc : AllocCalls} {write : WriteCalls} {data : List UInt8} {w w₀ : World}
    (h : graftJitAlloc t alloc.page alloc.outcome 4096 .empty = (.ok (), w₀)) :
    Filled t alloc write data w ↔ graftJitWrite t write.outcome 0 data 8 w₀ = (.ok (), w) := by
  constructor
  · rintro ⟨w₁, h₁, hw⟩
    rw [h] at h₁
    obtain ⟨-, rfl⟩ := Prod.mk.inj h₁
    exact hw
  · exact fun hw => ⟨w₀, h, hw⟩

lemma not_filled {t : Target} {alloc : AllocCalls} {write : WriteCalls} {data : List UInt8}
    {w w₀ : World} {e : Errno}
    (h : graftJitAlloc t alloc.page alloc.outcome 4096 .empty = (.error e, w₀)) :
    ¬ Filled t alloc write data w := by
  rintro ⟨w₁, h₁, -⟩
  rw [h] at h₁
  cases h₁

lemma recorded_hidden (o o' : Option SysError) : lastError (recorded o) [o'] = lastError 0 [o, o'] := by
  cases o <;> rfl

lemma jitBasic_returns (c : BasicCalls) :
    Returns (jitBasic b c) (BasicDone b c) [c.alloc.hidden b.target, c.munmap] := by
  rw [jitBasic]
  by_cases ha : b.arm64 = false
  · rw [if_pos ha]
    exact .skip rfl fun h => Bool.false_ne_true (ha.symm.trans h.1)
  rw [if_neg ha]
  rcases halloc : graftJitAlloc b.target c.alloc.page c.alloc.outcome 4096 .empty with ⟨e | ⟨⟩, w₀⟩
  · refine .blockedOr (alloc_errno halloc).1 rfl rfl ?_
    rintro ⟨_, _, h, _⟩
    exact not_filled halloc h
  simp only
  rcases hwrite : graftJitWrite b.target c.write.outcome 0 Lifecycle.code 8 w₀ with ⟨e | ⟨⟩, w⟩
  · refine .failed (errno_pos fun h => (write_errno hwrite).1 (lastError_eq_zero.mp h).1) ?_
    rintro ⟨-, w, h, -⟩
    rw [filled_iff halloc, hwrite] at h
    cases h
  simp only
  have hdone : BasicDone b c ↔ graftJitInvalidate 0 8 w = .ok () ∧
      (graftJitCommit b.target (c.commit.map SysError.errno) w).1 = .ok () ∧ c.call = 42 := by
    constructor
    · rintro ⟨-, w', h, hr⟩
      rw [filled_iff halloc, hwrite] at h
      obtain ⟨-, rfl⟩ := Prod.mk.inj h
      exact hr
    · exact fun hr => ⟨by simpa using ha, w, (filled_iff halloc).mpr hwrite, hr⟩
  generalize graftJitCommit b.target (c.commit.map SysError.errno) w = committed at hdone
  obtain ⟨r, w₁⟩ := committed
  have hcall : c.call = 42 ↔ c.call.toInt = 42 := Int32.toInt_inj.symm
  rw [hcall, ← status_eq_zero, ← status_eq_zero] at hdone
  simp only at hdone ⊢
  generalize hv : (if status r = 0 then c.call.toInt else -1) = value
  have hok : BasicDone b c ↔ ¬ (status (graftJitInvalidate 0 8 w) ≠ 0 ∨ status r ≠ 0 ∨ value ≠ 42) := by
    simp only [hdone, not_or, not_not]
    refine and_congr_right fun _ => and_congr_right fun hr => ?_
    rw [← hv, if_pos hr]
  by_cases hf : status (graftJitInvalidate 0 8 w) ≠ 0 ∨ status r ≠ 0 ∨ value ≠ 42
  · rw [if_pos hf]
    have hd : ¬ BasicDone b c := fun hd => hok.mp hd hf
    split_ifs with hp
    · exact .blocked rfl hp.2 hd
    · exact .failed (errno_pos (e := EACCES) (by decide)) hd
  · rw [if_neg hf]
    have hr : r = .ok () := status_eq_zero.mp (not_not.mp (not_or.mp (not_or.mp hf).2).1)
    refine .passed rfl (hok.mpr hf) ?_
    rw [hr]
    exact recorded_hidden _ _

lemma called_iff {r : Except Errno Unit} {call n : Int32} (hn : n.toInt ≠ -1) :
    (if status r = 0 then call.toInt else -1) = n.toInt ↔ r = .ok () ∧ call = n := by
  rw [← status_eq_zero]
  split_ifs with h
  · rw [Int32.toInt_inj]
    exact (and_iff_right h).symm
  · exact iff_of_false (fun h' => hn h'.symm) fun h' => h h'.1

lemma jitWriteProtect_returns (c : ProtectCalls) :
    Returns (jitWriteProtect b c) (ProtectDone b c) [c.alloc.hidden b.target, c.munmap] := by
  rw [jitWriteProtect]
  by_cases ha : b.arm64 = false
  · rw [if_pos ha]
    exact .skip rfl fun h => Bool.false_ne_true (ha.symm.trans h.1)
  rw [if_neg ha]
  rcases halloc : graftJitAlloc b.target c.alloc.page c.alloc.outcome 4096 .empty with ⟨e | ⟨⟩, w₀⟩
  · refine .blockedOr (alloc_errno halloc).1 rfl rfl ?_
    rintro ⟨_, _, _, _, h, _⟩
    exact not_filled halloc h
  simp only
  rcases hwrite : graftJitWrite b.target c.write.outcome 0 returnOne 8 w₀ with ⟨e | ⟨⟩, w⟩
  · refine .failed (errno_pos fun h => (write_errno hwrite).1 (lastError_eq_zero.mp h).1) ?_
    rintro ⟨-, w, w₁, w₂, h, -⟩
    rw [filled_iff halloc, hwrite] at h
    cases h
  simp only
  rcases hcommit : graftJitCommit b.target (c.commit.map SysError.errno) w with ⟨r₁, w₁⟩
  rcases hrewrite : graftJitWrite b.target c.rewrite.outcome 0 returnTen 8 w₁ with ⟨r₂, w₂⟩
  rcases hrecommit : graftJitCommit b.target (c.recommit.map SysError.errno) w₂ with ⟨r₃, w₃⟩
  have hdone : ProtectDone b c ↔ r₁ = .ok () ∧ c.call = 1 ∧ r₂ = .ok () ∧ r₃ = .ok () ∧ c.called = 10 := by
    constructor
    · rintro ⟨-, w', w₁', w₂', h, h₁, h1, h₂, h₃, h10⟩
      rw [filled_iff halloc, hwrite] at h
      obtain ⟨-, rfl⟩ := Prod.mk.inj h
      rw [hcommit] at h₁
      obtain ⟨rfl, rfl⟩ := Prod.mk.inj h₁
      rw [hrewrite] at h₂
      obtain ⟨rfl, rfl⟩ := Prod.mk.inj h₂
      rw [hrecommit] at h₃
      exact ⟨rfl, h1, rfl, h₃, h10⟩
    · rintro ⟨rfl, h1, rfl, rfl, h10⟩
      exact ⟨by simpa using ha, w, w₁, w₂, (filled_iff halloc).mpr hwrite, hcommit, h1, hrewrite,
        by rw [hrecommit], h10⟩
  have h1 : (if status r₁ = 0 then c.call.toInt else -1) = 1 ↔ r₁ = .ok () ∧ c.call = 1 :=
    called_iff (n := 1) (by decide)
  have h10 : (if status r₃ = 0 then c.called.toInt else -1) = 10 ↔ r₃ = .ok () ∧ c.called = 10 :=
    called_iff (n := 10) (by decide)
  simp only
  generalize (if status r₁ = 0 then c.call.toInt else -1) = first at h1
  generalize (if status r₃ = 0 then c.called.toInt else -1) = second at h10
  split_ifs with hf
  · obtain ⟨hr₁, hc₁⟩ := h1.mp hf.1
    obtain ⟨hr₃, hc₃⟩ := h10.mp hf.2.1
    have hr₂ := status_eq_zero.mp hf.2.2
    refine .passed rfl (hdone.mpr ⟨hr₁, hc₁, hr₂, hr₃, hc₃⟩) ?_
    rw [hr₁, hr₂, hr₃]
    exact recorded_hidden _ _
  · refine .failed (errno_pos (e := EACCES) (by decide)) fun hd => hf ?_
    obtain ⟨hr₁, hc₁, hr₂, hr₃, hc₃⟩ := hdone.mp hd
    exact ⟨h1.mpr ⟨hr₁, hc₁⟩, h10.mpr ⟨hr₃, hc₃⟩, status_eq_zero.mpr hr₂⟩

variable {b} in
lemma threadsDone_iff {c : ThreadsCalls} {w₀ w : World} (hbasic : BasicDone b c.basic)
    (halloc : graftJitAlloc b.target c.alloc.page c.alloc.outcome 4096 .empty = (.ok (), w₀))
    (hwrite : graftJitWrite b.target c.write.outcome 0 Lifecycle.code 8 w₀ = (.ok (), w)) :
    ThreadsDone b c ↔ (graftJitCommit b.target (c.commit.map SysError.errno) w).1 = .ok () ∧
      c.writerCreate = none ∧ c.writerJoin = none ∧ threadErrors c = 0 ∧ threadFailures c = 0 ∧
        c.writerFails = false := by
  constructor
  · rintro ⟨-, w', h, hr⟩
    rw [filled_iff halloc, hwrite] at h
    obtain ⟨-, rfl⟩ := Prod.mk.inj h
    exact hr
  · exact fun hr => ⟨hbasic, w, (filled_iff halloc).mpr hwrite, hr⟩

lemma no_failures_iff (c : ThreadsCalls) :
    threadFailures c + c.writerFails.toNat + (decide (threadErrors c ≠ 0)).toNat = 0 ↔
      threadErrors c = 0 ∧ threadFailures c = 0 ∧ c.writerFails = false := by
  cases c.writerFails <;> by_cases he : threadErrors c = 0 <;> simp [he]

lemma jitMultithread_returns (c : ThreadsCalls) :
    Returns (jitMultithread b c) (ThreadsDone b c)
      [c.basic.alloc.hidden b.target, c.basic.munmap, c.alloc.hidden b.target, c.munmap] := by
  have hb := jitBasic_returns b c.basic
  rw [jitMultithread]
  simp only
  by_cases ha : b.arm64 = false
  · rw [if_pos ha]
    exact .skip rfl fun h => Bool.false_ne_true (ha.symm.trans h.1.1)
  rw [if_neg ha]
  by_cases hrc : (jitBasic b c.basic).rc ≠ 0
  · rw [if_pos hrc]
    exact ⟨hb.code, iff_of_false hrc fun h => hrc (hb.pass.mpr h.1), fun h => absurd (hb.pass.mpr h.1) hrc⟩
  rw [if_neg hrc]
  have hbasic := hb.pass.mp (not_not.mp hrc)
  rcases halloc : graftJitAlloc b.target c.alloc.page c.alloc.outcome 4096 .empty with ⟨e | ⟨⟩, w₀⟩
  · refine .blockedOr (alloc_errno halloc).1 rfl rfl ?_
    rintro ⟨_, _, h, _⟩
    exact not_filled halloc h
  simp only
  rcases hwrite : graftJitWrite b.target c.write.outcome 0 Lifecycle.code 8 w₀ with ⟨e | ⟨⟩, w⟩
  · refine .failed (errno_pos fun h => (write_errno hwrite).1 (lastError_eq_zero.mp h).1) ?_
    rintro ⟨-, w, h, -⟩
    rw [filled_iff halloc, hwrite] at h
    cases h
  simp only
  have hdone := threadsDone_iff hbasic halloc hwrite
  rcases hcommit : graftJitCommit b.target (c.commit.map SysError.errno) w with ⟨e | ⟨⟩, w₁⟩
  · refine .failed (errno_pos (e := EACCES) (by decide)) fun hd => ?_
    have h := (hdone.mp hd).1
    rw [hcommit] at h
    cases h
  rw [hcommit] at hdone
  simp only
  cases hcreate : c.writerCreate with
  | some e =>
    refine .failed (errno_pos e.errno_ne) fun hd => ?_
    have h := (hdone.mp hd).2.1
    rw [hcreate] at h
    cases h
  | none =>
    cases hjoin : c.writerJoin with
    | some e =>
      refine .failed (errno_pos e.errno_ne) fun hd => ?_
      have h := (hdone.mp hd).2.2.1
      rw [hjoin] at h
      cases h
    | none =>
      simp only
      have hzero := no_failures_iff c
      generalize threadFailures c + c.writerFails.toNat + (decide (threadErrors c ≠ 0)).toNat = n at hzero
      by_cases hf : n = 0
      · refine .passed ?_ (hdone.mpr ⟨rfl, hcreate, hjoin, hzero.mp hf⟩) ?_
        · rw [report_rc, if_pos hf]
        · rw [report, hb.errno hbasic]
          rfl
      · refine .failed ?_ fun hd => hf (hzero.mpr (hdone.mp hd).2.2.2)
        rw [report_rc, if_neg hf]
        exact errno_pos (e := EIO) (by decide)

lemma probeFn_returns (p : Probe) : Returns (probeFn b g c p) (Done b g c p) (unnoticed b g c p) := by
  cases p with
  | runtimePaths => exact runtimePaths_returns b g c
  | pageModel => exact pageModel_returns b g c
  | jitBasic => exact jitBasic_returns b c.basic
  | jitWriteProtect => exact jitWriteProtect_returns b c.protect
  | jitMultithread => exact jitMultithread_returns b c.threads
  | signalResume => exact signalResume_returns b g c.signals
  | dlopenBundle => exact dlopenBundle_returns b g c
  | unixSocket => exact unixSocketProbe_returns b g c
  | sharedMapping => exact helperRoundtrip_returns b g c .shared
  | helperSpawn => exact helperRoundtrip_returns b g c .spawn
  | helperIpc => exact helperRoundtrip_returns b g c .ipc
  | lifecycleJit => exact lifecycleJit_returns b g c

end

/-- The result of a probe is consistent unless all it looks at succeeded and a call it takes no notice of
failed: the probe then passes, with the error number of that call. -/
theorem graftRunProbe_consistent_iff (b : Build) (g : Configuration) (c : Calls) (p : Probe) :
    ∃ r, graftRunProbe b g c p.name = some r ∧
      (Consistent r ↔ (Done b g c p → ∀ o ∈ unnoticed b g c p, o = none)) :=
  ⟨_, graftRunProbe_name b g c p, (probeFn_returns b g c p).consistent_iff b.target p⟩

def unaligned : PageCalls :=
  ⟨16384, 16384, none, none, fun _ => none, none, some .einval, none⟩

/-- `page_model` measures what it should there, and passes with an error number. -/
theorem page_model_inconsistent :
    let c := { sampleCalls none (.ok ()) with page := unaligned }
    ∃ r, graftRunProbe ⟨.ios, true⟩ .initial c "page_model" = some r ∧ ¬ Consistent r := by
  intro c
  have h : (graftRunProbe ⟨.ios, true⟩ .initial c "page_model").map (fun r => (r.status, r.osError)) =
      some (.pass, (EINVAL : ℤ)) := by decide +kernel
  obtain ⟨r, hr, hv⟩ := Option.map_eq_some_iff.mp h
  obtain ⟨hs, ho⟩ := Prod.mk.inj hv
  refine ⟨r, hr, fun hc => ?_⟩
  exact absurd (ho.symm.trans (hc.pass hs)) (by decide)

end Graft64.Platform.Probes
