import Graft64.Platform.Reports.Jit

/-! What the signal, dylib and socket probes report, and when their details say it. -/

namespace Graft64.Platform.Probes

open Graft64.Library Utf8 Json

set_option maxRecDepth 4000

def threadReport (r : WorkerResult) : Json :=
  .obj [(lit "segv", .bool r.segv), (lit "bus", .bool r.bus),
    (lit "fault_address_segv", .int r.fault.1.address.toNat),
    (lit "fault_address_bus", .int r.fault.2.address.toNat),
    (lit "original_pc_segv", .int r.fault.1.faultPc.toNat), (lit "original_pc_bus", .int r.fault.2.faultPc.toNat),
    (lit "recovery_pc_segv", .int r.fault.1.recoveryPc.toNat),
    (lit "recovery_pc_bus", .int r.fault.2.recoveryPc.toNat)]

def signalReport (b : Build) (g : Configuration) (c : SignalCalls) : Option Json :=
  if b.arm64 = false then
    some (.obj [(lit "status", .str (lit "unverified")),
      (lit "next_step", .str (lit "Run on arm64 device and capture ucontext"))])
  else match c.sigactionSegv, c.sigactionBus with
  | some _, _ => none
  | none, some _ => none
  | none, none =>
    some (.obj [(lit "signals", .arr [.str (lit "SIGSEGV"), .str (lit "SIGBUS")]),
      (lit "main", threadReport (signalWorker b.target g c.left c.main)),
      (lit "worker", threadReport (workerResult b.target g c)),
      (lit "main_error", .int (signalWorker b.target g c.left c.main).result),
      (lit "worker_error", .int (workerResult b.target g c).result)])

lemma signalResumeOnce_lt (t : Target) (g : Configuration) (expected : Int32) (c : FaultCalls) (f : Fault) :
    (signalResumeOnce t g expected c f).1 < 2 ^ 31 := by
  unfold signalResumeOnce
  cases c.stack with
  | some e => exact e.errno_lt
  | none =>
    cases c.sigaltstack with
    | some e => exact e.errno_lt
    | none =>
      simp only
      split_ifs
      · have hn : ENAMETOOLONG t < 2 ^ 31 := by cases t <;> decide
        exact hn
      · exact recorded_lt _
      · exact lastError_lt (recorded_lt _) _
      · cases c.fault with
        | none =>
          have he : EFAULT < 2 ^ 31 := by decide
          exact he
        | some p =>
          simp only
          split_ifs <;> decide

lemma signalWorker_fits (t : Target) (g : Configuration) (f : Fault) (c : FaultCalls × FaultCalls) :
    Fits64 (signalWorker t g f c).result := by
  refine Fits64.natCast (Nat.lt_trans ?_ (by decide : 2 ^ 31 < 2 ^ 64))
  simp only [signalWorker]
  split_ifs
  · exact signalResumeOnce_lt t g _ _ _
  · exact signalResumeOnce_lt t g _ _ _

lemma workerResult_fits (t : Target) (g : Configuration) (c : SignalCalls) :
    Fits64 (workerResult t g c).result := by
  unfold workerResult
  cases c.create with
  | some e => exact e.fits
  | none => exact signalWorker_fits t g .none c.worker

lemma prints_thread (r : WorkerResult) (d : ℕ) {tail : CString} {s : Str} {n : ℕ} (ht : Prints tail s n) :
    Prints (threadDetails r ++ tail) (render compact d (threadReport r) ++ s) (400 + n) := by
  unfold threadDetails
  simp only [List.append_assoc]
  refine .mono (.cast (.text _ rfl (.bool _ (.text _ rfl (.bool _ (.text _ rfl (.int _ (Fits64.uint64 _)
    (.text _ rfl (.int _ (Fits64.uint64 _) (.text _ rfl (.int _ (Fits64.uint64 _)
    (.text _ rfl (.int _ (Fits64.uint64 _) (.text _ rfl (.int _ (Fits64.uint64 _)
    (.text _ rfl (.int _ (Fits64.uint64 _) (.text _ rfl (ht)))))))))))))))))) ?_) ?_
  · unfold threadReport
    simp only [render, renderMembers, compact, id, List.nil_append, List.cons_append, List.append_assoc]
    repeat rw [lit_ofList]
    rfl
  · simp only [List.length_cons, List.length_nil, Nat.reduceAdd]
    omega

lemma clean_thread (r : WorkerResult) : Strings Clean (threadReport r) := by
  unfold threadReport
  simp only [Strings, MemberStrings]
  and_intros
  all_goals first | exact trivial | exact clean_lit _ rfl

theorem signalResume_faithful_iff (b : Build) (g : Configuration) (c : SignalCalls) :
    Faithful (signalResume b g c).details (signalReport b g c) ↔
      (b.arm64 = true → c.sigactionSegv = none ∧ c.sigactionBus = none) := by
  unfold signalResume signalReport
  cases hb : b.arm64 with
  | false =>
    refine iff_of_true ?_ (by simp)
    simp only [if_true, report_details]
    refine faithful_of (.cast (.last _ rfl) ?_) (by decide) ?_
    · simp only [render, renderMembers, compact, id, List.nil_append, List.cons_append, List.append_assoc]
      repeat rw [lit_ofList]
      rfl
    · exact ⟨clean_lit _ rfl, clean_lit _ rfl, clean_lit _ rfl, clean_lit _ rfl, trivial⟩
  | true =>
    simp only [Bool.true_eq_false, if_false, forall_const]
    cases c.sigactionSegv with
    | some e => exact iff_of_false (not_faithful_none _) (by simp)
    | none =>
      cases c.sigactionBus with
      | some e => exact iff_of_false (not_faithful_none _) (by simp)
      | none =>
        refine iff_of_true ?_ ⟨rfl, rfl⟩
        simp only [report_details, List.append_assoc]
        refine faithful_of (.cast (.text _ rfl (prints_thread _ 1 (.text _ rfl (prints_thread _ 1
          (.text _ rfl (.int _ (signalWorker_fits _ _ _ _)
          (.text _ rfl (.int _ (workerResult_fits _ _ _) (.last _ rfl))))))))) ?_) (by decide) ?_
        · simp only [render, renderMembers, renderElements, compact, id, List.nil_append, List.cons_append,
            List.append_assoc]
          repeat rw [lit_ofList]
          rfl
        · exact ⟨clean_lit _ rfl, ⟨clean_lit _ rfl, clean_lit _ rfl, trivial⟩, clean_lit _ rfl, clean_thread _,
            clean_lit _ rfl, clean_thread _, clean_lit _ rfl, trivial, clean_lit _ rfl, trivial, trivial⟩

def dylibReport (t : Target) (g : Configuration) (c : DylibCalls) : Json :=
  if t.apple = false then .obj [(lit "status", .str (lit "unverified"))]
  else if g.dylibPath = [] then
    .obj [(lit "status", .str (lit "unverified")),
      (lit "next_step", .str (lit "Configure GraftProbeTest.dylib path from app bundle"))]
  else match c.dlopen with
  | .error error =>
    .obj [(lit "path", .str (fsdecode g.dylibPath)), (lit "error", .str (fsdecode (error.getD (cstr "unknown"))))]
  | .ok () =>
    let result := (c.value.map Int32.toInt).getD (-1)
    .obj [(lit "path", .str (fsdecode g.dylibPath)),
      (lit "return_value", .int (if c.error = true ∨ result ≠ 64 then result else 64))]

def DylibClear (t : Target) (g : Configuration) (c : DylibCalls) : Prop :=
  t.apple = true → g.dylibPath ≠ [] → Printable g.dylibPath ∧
    ∀ error, c.dlopen = .error error → Printable (error.getD (cstr "unknown")) ∧
      g.dylibPath.length + (error.getD (cstr "unknown")).length + 22 < detailsSize

lemma pathText_faithful_iff {p : CString} {z : ℤ} (hz : Fits64 z) (hp : p.length < 1024) :
    Faithful (setText detailsSize (cstr "\x7b\"path\":\"" ++
      (p ++ (cstr "\",\"return_value\":" ++ (fmtInt z ++ cstr "\x7d")))))
      (some (.obj [(lit "path", .str (fsdecode p)), (lit "return_value", .int z)])) ↔ Printable p := by
  have hlen : (cstr "\x7b\"path\":\"" ++
      (p ++ (cstr "\",\"return_value\":" ++ (fmtInt z ++ cstr "\x7d")))).length <
      detailsSize := by
    have := fmtInt_length hz
    simp only [List.length_append]
    repeat rw [cstr_length]
    simp only [List.length_cons, List.length_nil, Nat.reduceAdd, detailsSize]
    omega
  refine (faithful_iff (.cast (.text _ rfl (.str _ rfl (.text _ rfl (.int _ hz (.last _ rfl))))) ?_)
    (by exact ⟨trivial, trivial, trivial, trivial, trivial⟩)).trans ?_
  · simp only [render, renderMembers, compact, id, List.nil_append, List.cons_append, List.append_assoc]
    repeat rw [lit_ofList]
    rfl
  · rw [printable_iff]
    simp only [Strings, MemberStrings, and_true, hlen, true_and]
    exact ⟨fun h => h.2.1, fun h => ⟨clean_lit _ rfl, h, clean_lit _ rfl⟩⟩

lemma pathText64_faithful_iff {p : CString} (hp : p.length < 1024) :
    Faithful (setText detailsSize (cstr "\x7b\"path\":\"" ++ (p ++ cstr "\",\"return_value\":64\x7d")))
      (some (.obj [(lit "path", .str (fsdecode p)), (lit "return_value", .int 64)])) ↔ Printable p := by
  have hlen : (cstr "\x7b\"path\":\"" ++ (p ++ cstr "\",\"return_value\":64\x7d")).length < detailsSize := by
    simp only [List.length_append]
    repeat rw [cstr_length]
    simp only [List.length_cons, List.length_nil, Nat.reduceAdd, detailsSize]
    omega
  refine (faithful_iff (.cast (.text _ rfl (.strLast _ rfl (.last _ rfl))) ?_)
    (by exact ⟨trivial, trivial, trivial, trivial, trivial⟩)).trans ?_
  · simp only [render, renderMembers, compact, id, List.nil_append, List.cons_append, List.append_assoc]
    repeat rw [lit_ofList]
    rfl
  · rw [printable_iff]
    simp only [Strings, MemberStrings, and_true, hlen, true_and]
    exact ⟨fun h => h.2.1, fun h => ⟨clean_lit _ rfl, h, clean_lit _ rfl⟩⟩

lemma pathError_faithful_iff (p e : CString) :
    Faithful (setText detailsSize (cstr "\x7b\"path\":\"" ++
      (p ++ (cstr "\",\"error\":\"" ++ (e ++ cstr "\"\x7d")))))
      (some (.obj [(lit "path", .str (fsdecode p)), (lit "error", .str (fsdecode e))])) ↔
      Printable p ∧ Printable e ∧ p.length + e.length + 22 < detailsSize := by
  have hlen : (cstr "\x7b\"path\":\"" ++ (p ++ (cstr "\",\"error\":\"" ++ (e ++ cstr "\"\x7d")))).length =
      p.length + e.length + 22 := by
    simp only [List.length_append]
    repeat rw [cstr_length]
    simp only [List.length_cons, List.length_nil, Nat.reduceAdd]
    omega
  refine (faithful_iff (.cast (.text _ rfl (.str _ rfl (.text _ rfl (.strLast _ rfl (.last _ rfl))))) ?_)
    (by exact ⟨trivial, trivial, trivial, trivial, trivial⟩)).trans ?_
  · simp only [render, renderMembers, compact, id, List.nil_append, List.cons_append, List.append_assoc]
    repeat rw [lit_ofList]
    rfl
  · rw [hlen, printable_iff, printable_iff]
    simp only [Strings, MemberStrings, and_true]
    constructor
    · rintro ⟨h, -, hp, -, he⟩
      exact ⟨hp, he, h⟩
    · rintro ⟨hp, he, h⟩
      exact ⟨h, clean_lit _ rfl, hp, clean_lit _ rfl, he⟩

theorem dlopenBundle_faithful_iff (t : Target) (g : Configuration) (c : DylibCalls)
    (hg : g.dylibPath.length < PATH_MAX t) :
    Faithful (dlopenBundle t g c).details (some (dylibReport t g c)) ↔ DylibClear t g c := by
  unfold dlopenBundle dylibReport DylibClear
  cases ht : t.apple with
  | false =>
    refine iff_of_true ?_ (by simp)
    simp only [if_true, report_details]
    refine faithful_of (.cast (.last _ rfl) ?_) (by decide) ?_
    · simp only [render, renderMembers, compact, id, List.nil_append, List.cons_append, List.append_assoc]
      repeat rw [lit_ofList]
      rfl
    · exact ⟨clean_lit _ rfl, clean_lit _ rfl, trivial⟩
  | true =>
    rw [PATH_MAX, if_pos ht] at hg
    simp only [Bool.true_eq_false, if_false, forall_const]
    by_cases hp : g.dylibPath = []
    · rw [if_pos hp, if_pos hp]
      refine iff_of_true ?_ (by simp [hp])
      simp only [report_details]
      refine faithful_of (.cast (.last _ rfl) ?_) (by decide) ?_
      · simp only [render, renderMembers, compact, id, List.nil_append, List.cons_append, List.append_assoc]
        repeat rw [lit_ofList]
        rfl
      · exact ⟨clean_lit _ rfl, clean_lit _ rfl, clean_lit _ rfl, clean_lit _ rfl, trivial⟩
    · rw [if_neg hp, if_neg hp]
      simp only [ne_eq, hp, not_false_eq_true, forall_const]
      cases c.dlopen with
      | error error =>
        simp only [report_details, Except.error.injEq, forall_eq', List.append_assoc]
        exact pathError_faithful_iff _ _
      | ok u =>
        have hv : Fits64 ((c.value.map Int32.toInt).getD (-1)) := by
          cases c.value with
          | none => exact ⟨by decide, by decide⟩
          | some v => exact Fits64.int32 v
        simp only [reduceCtorEq, false_imp_iff, implies_true, and_true]
        generalize (c.value.map Int32.toInt).getD (-1) = result at hv ⊢
        by_cases hr : c.error = true ∨ result ≠ 64
        · rw [if_pos hr, if_pos hr]
          simp only [report_details, List.append_assoc]
          exact pathText_faithful_iff hv hg
        · rw [if_neg hr, if_neg hr]
          simp only [report_details, List.append_assoc]
          exact pathText64_faithful_iff hg

def socketReport (c : SocketCalls) : Option Json :=
  match c.socketpair with
  | some _ => none
  | none =>
    let requestOk := c.requestRead == some socketRequest
    let responseOk := requestOk && c.responseRead == some socketResponse
    some (.obj [(lit "bidirectional", .bool (requestOk && responseOk)),
      (lit "request_bytes", .int socketRequest.length), (lit "response_bytes", .int socketResponse.length),
      (lit "deadline_ms", .int 2000), (lit "peer_close_observed", .bool (responseOk && c.closeObserved))])

theorem unixSocketProbe_faithful_iff (c : SocketCalls) :
    Faithful (unixSocketProbe c).details (socketReport c) ↔ c.socketpair = none := by
  unfold unixSocketProbe socketReport
  cases c.socketpair with
  | some e => exact iff_of_false (not_faithful_none _) (by simp)
  | none =>
    have hq : Fits64 socketRequest.length := by
      rw [socketRequest, List.length_append, cstr_length]
      exact Fits64.natCast (by decide)
    have hr : Fits64 socketResponse.length := by
      rw [socketResponse, List.length_append, cstr_length]
      exact Fits64.natCast (by decide)
    refine iff_of_true ?_ rfl
    simp only [report_details, List.append_assoc]
    refine faithful_of (.cast (.text _ rfl (.bool _ (.text _ rfl (.int _ hq (.text _ rfl (.int _ hr
      (.text _ rfl (.bool _ (.last _ rfl))))))))) ?_) (by decide) ?_
    · simp only [render, renderMembers, compact, id, List.nil_append, List.cons_append, List.append_assoc]
      repeat rw [lit_ofList]
      rfl
    · exact ⟨clean_lit _ rfl, trivial, clean_lit _ rfl, trivial, clean_lit _ rfl, trivial,
        clean_lit _ rfl, trivial, clean_lit _ rfl, trivial, trivial⟩

end Graft64.Platform.Probes
