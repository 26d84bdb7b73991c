import Graft64.Platform.Reports.Page

/-! What the JIT probes report, and when their details say it. -/

namespace Graft64.Platform.Probes

open Graft64.Library Utf8 Json Jit

set_option maxRecDepth 4000

def IsErrno (e : ℕ) : Prop := e ≠ 0 ∧ e < 2 ^ 31

lemma IsErrno.fits {e : Errno} (h : IsErrno e) : Fits64 e := Fits64.natCast (Nat.lt_trans h.2 (by decide))

lemma SysError.isErrno (e : SysError) : IsErrno e.errno := ⟨e.errno_ne, e.errno_lt⟩

lemma mapError_errno {α : Type} {r : Except SysError α} {e : Errno} (h : r.mapError SysError.errno = .error e) :
    IsErrno e := by
  cases r with
  | ok a => cases h
  | error s =>
    obtain rfl := Except.error.inj h
    exact SysError.isErrno s

lemma map_errno {o : Option SysError} {e : Errno} (h : o.map SysError.errno = some e) : IsErrno e := by
  obtain ⟨s, -, rfl⟩ := Option.map_eq_some_iff.mp h
  exact SysError.isErrno s

lemma alloc_errno {t : Target} {c : AllocCalls} {w w' : World} {e : Errno}
    (h : graftJitAlloc t c.page c.outcome 4096 w = (.error e, w')) : IsErrno e := by
  unfold graftJitAlloc at h
  rw [if_neg (by decide)] at h
  cases hm : c.outcome.mmap with
  | ok base => simp [hm] at h
  | error e' =>
    simp only [hm] at h
    split_ifs at h with ht
    · cases hf : c.outcome.fallback with
      | ok base => simp [hf] at h
      | error e'' =>
        simp only [hf, Prod.mk.injEq, Except.error.injEq] at h
        exact h.1 ▸ mapError_errno hf
    · simp only [Prod.mk.injEq, Except.error.injEq] at h
      exact h.1 ▸ mapError_errno hm

lemma isErrno_consts (t : Target) : IsErrno EINVAL ∧ IsErrno EIO ∧ IsErrno (ENOTSUP t) := by
  unfold IsErrno
  cases t <;> decide

lemma beginWrite_errno {t : Target} {c : WriteCalls} {w w' : World} {e : Errno}
    (h : graftJitBeginWrite t c.outcome.mprotect w = (.error e, w')) : IsErrno e := by
  obtain ⟨hinv, -, hnot⟩ := isErrno_consts t
  unfold graftJitBeginWrite at h
  split_ifs at h
  · simp only [Prod.mk.injEq, Except.error.injEq] at h
    exact h.1 ▸ hinv
  · simp only [Prod.mk.injEq, Except.error.injEq] at h
    exact h.1 ▸ hnot
  · cases hm : c.outcome.mprotect with
    | none => simp [hm] at h
    | some e =>
      simp only [hm, Prod.mk.injEq, Except.error.injEq] at h
      exact h.1 ▸ map_errno hm

lemma write_errno {t : Target} {c : WriteCalls} {data : List UInt8} {w w' : World} {e : Errno}
    (h : graftJitWrite t c.outcome 0 data 8 w = (.error e, w')) : IsErrno e := by
  obtain ⟨hinv, hio, -⟩ := isErrno_consts t
  unfold graftJitWrite at h
  split_ifs at h
  · simp only [Prod.mk.injEq, Except.error.injEq] at h
    exact h.1 ▸ hinv
  · simp only [Prod.mk.injEq, reduceCtorEq, false_and] at h
  · simp only [Prod.mk.injEq, Except.error.injEq] at h
    have hlt := c.callback.toInt_lt
    have hc : c.outcome.callback = c.callback.toInt := rfl
    rw [← h.1, hc]
    exact ⟨by omega, by omega⟩
  · simp only [Prod.mk.injEq, Except.error.injEq] at h
    exact h.1 ▸ hio
  · cases hb : graftJitBeginWrite t c.outcome.mprotect w with
    | mk r w'' =>
      cases r with
      | ok u => simp [hb] at h
      | error e' =>
        simp only [hb, Prod.mk.injEq, Except.error.injEq] at h
        exact h.1 ▸ beginWrite_errno hb

lemma commit_errno {t : Target} {o : Option SysError} {w w' : World} {e : Errno}
    (h : graftJitCommit t (o.map SysError.errno) w = (.error e, w')) : IsErrno e := by
  obtain ⟨hinv, -, -⟩ := isErrno_consts t
  unfold graftJitCommit at h
  split_ifs at h
  · simp only [Prod.mk.injEq, Except.error.injEq] at h
    exact h.1 ▸ hinv
  · simp only [Prod.mk.injEq, reduceCtorEq, false_and] at h
  · cases hm : o.map SysError.errno with
    | none => simp [hm] at h
    | some e =>
      simp only [hm, Prod.mk.injEq, Except.error.injEq] at h
      exact h.1 ▸ map_errno hm

def notArm64Report : Json := .obj [(lit "reason", .str (lit "host architecture is not arm64"))]

lemma notArm64_faithful :
    Faithful notArm64.details (some notArm64Report) := by
  refine faithful_of (.cast (.last _ rfl) ?_) (by decide) ?_
  · unfold notArm64Report
    simp only [render, renderMembers, compact, id, List.nil_append]
    repeat rw [lit_ofList]
    rfl
  · exact ⟨clean_lit _ rfl, clean_lit _ rfl, trivial⟩

lemma status_fits (r : Except Errno Unit) : Fits64 (status r) := by
  unfold status Fits64
  split <;> omega

lemma errnoOf_fits {t : Target} {o : Option SysError} {w w' : World} {r : Except Errno Unit}
    (h : graftJitCommit t (o.map SysError.errno) w = (r, w')) (errno : Option SysError) :
    Fits64 (errnoOf r errno) := by
  cases r with
  | ok u => exact recorded_fits errno
  | error e => exact (commit_errno h).fits

lemma call_fits {p : Prop} [Decidable p] (call : Int32) : Fits64 (if p then call.toInt else -1) := by
  split_ifs
  · exact Fits64.int32 call
  · unfold Fits64
    omega

lemma clean_backendName (w : World) : Clean (lit (backendName w)) := by
  unfold backendName
  split_ifs
  · exact clean_lit _ rfl
  · exact clean_lit _ rfl

lemma prints_backendName (w : World) {tail : CString} {s : Str} {n : ℕ} (ht : Prints tail s n) :
    Prints (cstr (backendName w) ++ tail) (lit (backendName w) ++ s) (15 + n) := by
  unfold backendName
  split_ifs
  · exact .cast (.text _ rfl ht) rfl
  · exact .mono (.cast (.text _ rfl ht) (by rw [lit_ofList])) (by simp)

def basicReport (b : Build) (c : BasicCalls) : Option Json :=
  if b.arm64 = false then some notArm64Report
  else match graftJitAlloc b.target c.alloc.page c.alloc.outcome 4096 .empty with
  | (.error e, _) => some (.obj [(lit "errno", .int e), (lit "jit_enabled", .bool false)])
  | (.ok (), w) => match graftJitWrite b.target c.write.outcome 0 Lifecycle.code 8 w with
    | (.error _, _) => none
    | (.ok (), w) =>
      let invalidate := status (graftJitInvalidate 0 8 w)
      let committed := graftJitCommit b.target (c.commit.map SysError.errno) w
      let protect := status committed.1
      let value := if protect = 0 then c.call.toInt else -1
      if invalidate ≠ 0 ∨ protect ≠ 0 ∨ value ≠ 42 then
        some (.obj [(lit "invalidate", .int invalidate), (lit "protect", .int protect), (lit "value", .int value),
          (lit "errno", .int (errnoOf committed.1 (c.alloc.hidden b.target))),
          (lit "backend", .str (lit (backendName w)))])
      else some (.obj [(lit "return_value", .int 42), (lit "backend", .str (lit (backendName w)))])

def WriteClear (b : Build) (alloc : AllocCalls) (write : WriteCalls) (data : List UInt8) : Prop :=
  b.arm64 = true → ∀ w, graftJitAlloc b.target alloc.page alloc.outcome 4096 .empty = (.ok (), w) →
    (graftJitWrite b.target write.outcome 0 data 8 w).1 = .ok ()

theorem jitBasic_faithful_iff (b : Build) (c : BasicCalls) :
    Faithful (jitBasic b c).details (basicReport b c) ↔ WriteClear b c.alloc c.write Lifecycle.code := by
  unfold jitBasic basicReport WriteClear
  cases hb : b.arm64 with
  | false => exact iff_of_true notArm64_faithful (by simp)
  | true =>
    simp only [Bool.true_eq_false, if_false, forall_const]
    rcases ha : graftJitAlloc b.target c.alloc.page c.alloc.outcome 4096 .empty with ⟨e | ⟨⟩, w⟩
    · refine iff_of_true ?_ (by simp)
      simp only [report_details, List.append_assoc]
      refine faithful_of (.cast (.text _ rfl (.int _ (alloc_errno ha).fits (.last _ rfl))) ?_) (by decide) ?_
      · simp only [render, renderMembers, compact, id, List.nil_append, List.cons_append, List.append_assoc]
        repeat rw [lit_ofList]
        rfl
      · exact ⟨clean_lit _ rfl, trivial, clean_lit _ rfl, trivial, trivial⟩
    · simp only [Prod.mk.injEq, true_and, forall_eq']
      rcases hw : graftJitWrite b.target c.write.outcome 0 Lifecycle.code 8 w with ⟨e | ⟨⟩, w'⟩
      · exact iff_of_false (not_faithful_none _) (by simp)
      · refine iff_of_true ?_ rfl
        simp only
        rcases hc : graftJitCommit b.target (c.commit.map SysError.errno) w' with ⟨r, w''⟩
        have hv := call_fits (p := status r = 0) c.call
        simp only
        generalize (if status r = 0 then c.call.toInt else -1) = value at hv ⊢
        by_cases hbad : status (graftJitInvalidate 0 8 w') ≠ 0 ∨ status r ≠ 0 ∨ value ≠ 42
        · rw [if_pos hbad, if_pos hbad]
          simp only [report_details, List.append_assoc]
          refine faithful_of (.cast (.text _ rfl (.int _ (status_fits _) (.text _ rfl (.int _ (status_fits _)
            (.text _ rfl (.int _ hv (.text _ rfl (.int _ (errnoOf_fits hc _)
            (.text _ rfl (prints_backendName _ (.last _ rfl))))))))))) ?_) (by decide) ?_
          · simp only [render, renderMembers, compact, id, List.nil_append, List.cons_append, List.append_assoc]
            repeat rw [lit_ofList]
            rfl
          · exact ⟨clean_lit _ rfl, trivial, clean_lit _ rfl, trivial, clean_lit _ rfl, trivial, clean_lit _ rfl,
              trivial, clean_lit _ rfl, clean_backendName _, trivial⟩
        · rw [if_neg hbad, if_neg hbad]
          simp only [report_details, List.append_assoc]
          refine faithful_of (.cast (.text _ rfl (prints_backendName _ (.last _ rfl))) ?_) (by decide) ?_
          · simp only [render, renderMembers, compact, id, List.nil_append, List.cons_append, List.append_assoc]
            repeat rw [lit_ofList]
            rfl
          · exact ⟨clean_lit _ rfl, trivial, clean_lit _ rfl, clean_backendName _, trivial⟩

def protectReport (b : Build) (c : ProtectCalls) : Option Json :=
  if b.arm64 = false then some notArm64Report
  else match graftJitAlloc b.target c.alloc.page c.alloc.outcome 4096 .empty with
  | (.error e, _) => some (stageReport "alloc" e)
  | (.ok (), w) => match graftJitWrite b.target c.write.outcome 0 returnOne 8 w with
    | (.error _, _) => none
    | (.ok (), w) =>
      let (rx1, w) := graftJitCommit b.target (c.commit.map SysError.errno) w
      let first := if status rx1 = 0 then c.call.toInt else -1
      let (rw, w) := graftJitWrite b.target c.rewrite.outcome 0 returnTen 8 w
      let (rx2, _) := graftJitCommit b.target (c.recommit.map SysError.errno) w
      let second := if status rx2 = 0 then c.called.toInt else -1
      some (.obj [(lit "first", .int first), (lit "second", .int second), (lit "begin_write", .int (status rw))])

theorem jitWriteProtect_faithful_iff (b : Build) (c : ProtectCalls) :
    Faithful (jitWriteProtect b c).details (protectReport b c) ↔ WriteClear b c.alloc c.write returnOne := by
  unfold jitWriteProtect protectReport WriteClear
  cases hb : b.arm64 with
  | false => exact iff_of_true notArm64_faithful (by simp)
  | true =>
    simp only [Bool.true_eq_false, if_false, forall_const]
    rcases ha : graftJitAlloc b.target c.alloc.page c.alloc.outcome 4096 .empty with ⟨e | ⟨⟩, w⟩
    · refine iff_of_true ?_ (by simp)
      simp only [report_details, List.append_assoc]
      refine faithful_of (.cast (.text _ rfl (.int _ (alloc_errno ha).fits (.last _ rfl))) ?_) (by decide) ?_
      · unfold stageReport
        simp only [render, renderMembers, compact, id, List.nil_append, List.cons_append, List.append_assoc]
        repeat rw [lit_ofList]
        rfl
      · exact ⟨clean_lit _ rfl, clean_lit _ rfl, clean_lit _ rfl, trivial, trivial⟩
    · simp only [Prod.mk.injEq, true_and, forall_eq']
      rcases hw : graftJitWrite b.target c.write.outcome 0 returnOne 8 w with ⟨e | ⟨⟩, w'⟩
      · exact iff_of_false (not_faithful_none _) (by simp)
      · refine iff_of_true ?_ rfl
        simp only [report_details, List.append_assoc]
        refine faithful_of (.cast (.text _ rfl (.int _ (call_fits _) (.text _ rfl (.int _ (call_fits _)
          (.text _ rfl (.int _ (status_fits _) (.last _ rfl))))))) ?_) (by decide) ?_
        · simp only [render, renderMembers, compact, id, List.nil_append, List.cons_append, List.append_assoc]
          repeat rw [lit_ofList]
          rfl
        · exact ⟨clean_lit _ rfl, trivial, clean_lit _ rfl, trivial, clean_lit _ rfl, trivial, trivial⟩

/-- What `jit_multithread` reports: after an early return, what `jit_basic` left. -/
def multithreadReport (b : Build) (c : ThreadsCalls) : Option Json :=
  if b.arm64 = false then some notArm64Report
  else if (jitBasic b c.basic).rc ≠ 0 then basicReport b c.basic
  else match graftJitAlloc b.target c.alloc.page c.alloc.outcome 4096 .empty with
  | (.error e, _) => some (stageReport "alloc" e)
  | (.ok (), w) => match graftJitWrite b.target c.write.outcome 0 Lifecycle.code 8 w with
    | (.error _, _) => basicReport b c.basic
    | (.ok (), w) => match graftJitCommit b.target (c.commit.map SysError.errno) w with
      | (.error _, _) => basicReport b c.basic
      | (.ok (), w) => match c.writerCreate, c.writerJoin with
        | some e, _ => some (stageReport "writer_create" e.errno)
        | none, some e => some (stageReport "writer_join" e.errno)
        | none, none =>
          let errors := threadErrors c
          let failures := threadFailures c + c.writerFails.toNat + (decide (errors ≠ 0)).toNat
          some (.obj [(lit "threads", .int 4), (lit "iterations_per_thread", .int 1000),
            (lit "failures", .int failures), (lit "backend", .int w.region.backend),
            (lit "writer_thread_transition", .bool (!(c.writerFails || decide (errors ≠ 0)))),
            (lit "stage", .str (lit (if errors = 0 then "complete" else "thread_join"))),
            (lit "os_error", .int errors)])

lemma foldl_lt {α : Type} {f : ℕ → α → ℕ} {k : ℕ} (hf : ∀ n a, n < k → f n a < k) (as : List α) {n : ℕ}
    (hn : n < k) :
    as.foldl f n < k := by
  induction as generalizing n with
  | nil => exact hn
  | cons a as ih => exact ih (hf n a hn)

lemma threadErrors_lt (c : ThreadsCalls) : threadErrors c < 2 ^ 31 := by
  unfold threadErrors
  refine foldl_lt (fun n i hn => ?_) _ (foldl_lt (fun n i hn => ?_) _ (by decide))
  all_goals
    split_ifs
    · exact recorded_lt _
    · exact hn

lemma threadFailures_le (c : ThreadsCalls) : threadFailures c ≤ 4000 := by
  have h : ∀ x ∈ (List.finRange 4).map fun i =>
      if (c.threads i).create.isSome then 1 else (c.threads i).failures.val,
      x ≤ 1000 := by
    intro x hx
    obtain ⟨i, -, rfl⟩ := List.mem_map.mp hx
    split_ifs
    · decide
    · have := (c.threads i).failures.isLt
      omega
  have hs : ∀ xs : List ℕ, (∀ x ∈ xs, x ≤ 1000) → xs.sum ≤ xs.length * 1000 := by
    intro xs hx
    induction xs with
    | nil => simp
    | cons x xs ih =>
      obtain ⟨h₁, h₂⟩ := List.forall_mem_cons.mp hx
      have := ih h₂
      rw [List.sum_cons, List.length_cons]
      omega
  have := hs _ h
  rwa [List.length_map, List.length_finRange] at this

lemma alloc_backend {t : Target} {c : AllocCalls} {w : World}
    (h : graftJitAlloc t c.page c.outcome 4096 .empty = (.ok (), w)) : w.region.backend ≤ 2 := by
  unfold graftJitAlloc at h
  rw [if_neg (by decide)] at h
  cases hm : c.outcome.mmap with
  | ok base =>
    simp only [hm, Prod.mk.injEq, true_and] at h
    subst h
    exact Nat.le_succ 1
  | error e =>
    simp only [hm] at h
    split_ifs at h
    · cases hf : c.outcome.fallback with
      | ok base =>
        simp only [hf, Prod.mk.injEq, true_and] at h
        subst h
        exact Nat.le_refl 2
      | error e' => simp [hf] at h
    · simp at h

lemma beginWrite_region {t : Target} {o : Option Errno} {w w' : World}
    (h : graftJitBeginWrite t o w = (.ok (), w')) : w'.region = w.region := by
  unfold graftJitBeginWrite at h
  split_ifs at h
  · simp at h
  · simp at h
  · cases o with
    | some e => simp at h
    | none =>
      simp only [Prod.mk.injEq, true_and] at h
      subst h
      rfl

lemma write_region {t : Target} {o : WriteOutcome} {data : List UInt8} {w w' : World}
    (h : graftJitWrite t o 0 data 8 w = (.ok (), w')) : w'.region = w.region := by
  unfold graftJitWrite at h
  split_ifs at h
  · simp at h
  · simp only [Prod.mk.injEq, true_and] at h
    subst h
    rfl
  · simp at h
  · simp at h
  · rcases hb : graftJitBeginWrite t o.mprotect w with ⟨e | ⟨⟩, w''⟩
    · simp [hb] at h
    · simp only [hb, Prod.mk.injEq, true_and] at h
      subst h
      have hr := beginWrite_region hb
      exact hr

lemma commit_region {t : Target} {o : Option Errno} {w w' : World}
    (h : graftJitCommit t o w = (.ok (), w')) : w'.region = w.region := by
  unfold graftJitCommit at h
  split_ifs at h
  · simp at h
  · simp only [Prod.mk.injEq, true_and] at h
    subst h
    rfl
  · cases o with
    | some e => simp at h
    | none =>
      simp only [Prod.mk.injEq, true_and] at h
      subst h
      rfl

lemma basic_rc {b : Build} {c : BasicCalls} (h : (jitBasic b c).rc = 0) :
    WriteClear b c.alloc c.write Lifecycle.code := by
  intro hb w ha
  unfold jitBasic at h
  rw [if_neg (by simp [hb]), ha] at h
  rcases hw : graftJitWrite b.target c.write.outcome 0 Lifecycle.code 8 w with ⟨e | ⟨⟩, w'⟩
  · simp only [hw, returnErrno] at h
    exact absurd (lastError_eq_zero.mp (by exact_mod_cast h)).1 (write_errno hw).1
  · rfl

lemma threads_faithful (c : ThreadsCalls) {w : World} (hw : w.region.backend ≤ 2) :
    let errors := threadErrors c
    let failures := threadFailures c + c.writerFails.toNat + (decide (errors ≠ 0)).toNat
    Faithful (setText detailsSize (cstr "\x7b\"threads\":4,\"iterations_per_thread\":1000,\"failures\":" ++
      fmtInt failures ++ cstr ",\"backend\":" ++ fmtInt w.region.backend ++
        cstr ",\"writer_thread_transition\":" ++
      fmtBool (!(c.writerFails || decide (errors ≠ 0))) ++ cstr ",\"stage\":\"" ++
      cstr (if errors = 0 then "complete" else "thread_join") ++ cstr "\",\"os_error\":" ++ fmtInt errors ++
      cstr "\x7d"))
      (some (.obj [(lit "threads", .int 4), (lit "iterations_per_thread", .int 1000),
        (lit "failures", .int failures), (lit "backend", .int w.region.backend),
        (lit "writer_thread_transition", .bool (!(c.writerFails || decide (errors ≠ 0)))),
        (lit "stage", .str (lit (if errors = 0 then "complete" else "thread_join"))),
        (lit "os_error", .int errors)])) := by
  intro errors failures
  have he : Fits64 errors := Fits64.natCast (Nat.lt_trans (threadErrors_lt c) (by decide))
  have hf : Fits64 failures := by
    have h₁ := threadFailures_le c
    have h₂ := Bool.toNat_le c.writerFails
    have h₃ := Bool.toNat_le (decide (errors ≠ 0))
    exact Fits64.natCast (by omega)
  have hb : Fits64 w.region.backend := Fits64.natCast (by omega)
  generalize failures = failures at *
  generalize errors = errors at *
  simp only [List.append_assoc]
  by_cases h0 : errors = 0
  · simp only [if_pos h0]
    refine faithful_of (.cast (.text _ rfl (.int _ hf (.text _ rfl (.int _ hb (.text _ rfl (.bool _ (.text _ rfl
      (.text _ rfl (.text _ rfl (.int _ he (.last _ rfl))))))))))) ?_) (by decide) ?_
    · simp only [render, renderMembers, compact, id, List.nil_append, List.cons_append, List.append_assoc]
      repeat rw [lit_ofList]
      rfl
    · exact ⟨clean_lit _ rfl, trivial, clean_lit _ rfl, trivial, clean_lit _ rfl, trivial,
        clean_lit _ rfl, trivial, clean_lit _ rfl, trivial, clean_lit _ rfl, clean_lit _ rfl, clean_lit _ rfl,
        trivial, trivial⟩
  · simp only [if_neg h0]
    refine faithful_of (.cast (.text _ rfl (.int _ hf (.text _ rfl (.int _ hb (.text _ rfl (.bool _ (.text _ rfl
      (.text _ rfl (.text _ rfl (.int _ he (.last _ rfl))))))))))) ?_) (by decide) ?_
    · simp only [render, renderMembers, compact, id, List.nil_append, List.cons_append, List.append_assoc]
      repeat rw [lit_ofList]
      rfl
    · exact ⟨clean_lit _ rfl, trivial, clean_lit _ rfl, trivial, clean_lit _ rfl, trivial,
        clean_lit _ rfl, trivial, clean_lit _ rfl, trivial, clean_lit _ rfl, clean_lit _ rfl, clean_lit _ rfl,
        trivial, trivial⟩

theorem jitMultithread_faithful_iff (b : Build) (c : ThreadsCalls) :
    Faithful (jitMultithread b c).details (multithreadReport b c) ↔
      WriteClear b c.basic.alloc c.basic.write Lifecycle.code := by
  unfold jitMultithread multithreadReport
  simp only
  cases hb : b.arm64 with
  | false => exact iff_of_true notArm64_faithful (by simp [WriteClear, hb])
  | true =>
    simp only [Bool.true_eq_false, if_false]
    by_cases hrc : (jitBasic b c.basic).rc ≠ 0
    · rw [if_pos hrc, if_pos hrc]
      exact jitBasic_faithful_iff b c.basic
    · rw [if_neg hrc, if_neg hrc]
      have hclear := basic_rc (not_not.mp hrc)
      have hbasic := (jitBasic_faithful_iff b c.basic).mpr hclear
      refine iff_of_true ?_ hclear
      rcases ha : graftJitAlloc b.target c.alloc.page c.alloc.outcome 4096 .empty with ⟨e | ⟨⟩, w⟩
      · simp only [report_details, List.append_assoc]
        refine faithful_of (.cast (.text _ rfl (.int _ (alloc_errno ha).fits (.last _ rfl))) ?_) (by decide) ?_
        · unfold stageReport
          simp only [render, renderMembers, compact, id, List.nil_append, List.cons_append, List.append_assoc]
          repeat rw [lit_ofList]
          rfl
        · exact ⟨clean_lit _ rfl, clean_lit _ rfl, clean_lit _ rfl, trivial, trivial⟩
      · simp only
        rcases hw : graftJitWrite b.target c.write.outcome 0 Lifecycle.code 8 w with ⟨e | ⟨⟩, w'⟩
        · exact hbasic
        · simp only
          rcases hc : graftJitCommit b.target (c.commit.map SysError.errno) w' with ⟨e | ⟨⟩, w''⟩
          · exact hbasic
          · simp only
            cases c.writerCreate with
            | some e =>
              simp only [report_details, List.append_assoc]
              refine faithful_of (.cast (.text _ rfl (.text _ rfl
                (.text _ rfl (.int _ (SysError.isErrno e).fits (.last _ rfl))))) ?_)
                (by decide) ?_
              · unfold stageReport
                simp only [render, renderMembers, compact, id, List.nil_append, List.cons_append,
                  List.append_assoc]
                repeat rw [lit_ofList]
                rfl
              · exact ⟨clean_lit _ rfl, clean_lit _ rfl, clean_lit _ rfl, trivial, trivial⟩
            | none =>
              cases c.writerJoin with
              | some e =>
                simp only [report_details, List.append_assoc]
                refine faithful_of (.cast (.text _ rfl (.text _ rfl
                  (.text _ rfl (.int _ (SysError.isErrno e).fits (.last _ rfl))))) ?_)
                  (by decide) ?_
                · unfold stageReport
                  simp only [render, renderMembers, compact, id, List.nil_append, List.cons_append,
                    List.append_assoc]
                  repeat rw [lit_ofList]
                  rfl
                · exact ⟨clean_lit _ rfl, clean_lit _ rfl, clean_lit _ rfl, trivial, trivial⟩
              | none =>
                exact threads_faithful c (by rw [commit_region hc, write_region hw]; exact alloc_backend ha)

end Graft64.Platform.Probes
