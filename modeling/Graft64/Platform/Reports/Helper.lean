import Graft64.Platform.Reports.Jit

/-! What the helper and lifecycle probes report, and when their details say it. -/

namespace Graft64.Platform.Probes

open Graft64.Library Utf8 Json Ipc HelperProbe

set_option maxRecDepth 4000

lemma stageFailure_faithful (summary : String) (cs : List Char) {e : ℕ} (he : Fits64 e)
    (h : cs.all (fun c => decide (32 ≤ c.toNat ∧ c.toNat ≠ 34 ∧ c.toNat ≠ 92 ∧ c.toNat < 0x80)) = true)
    (hl : cs.length < 100) :
    Faithful (stageFailure summary (String.ofList cs) e).details (some (stageReport (String.ofList cs) e)) := by
  have ha : cs.all isAscii = true := by
    simp only [List.all_eq_true, isAscii, decide_eq_true_eq] at h ⊢
    exact fun c hc => (h c hc).2.2.2
  unfold stageFailure
  simp only [report_details, List.append_assoc]
  refine faithful_of (.cast (.text _ rfl (.text cs ha (.text _ rfl (.int _ he (.last _ rfl))))) ?_) ?_ ?_
  · unfold stageReport
    simp only [render, renderMembers, compact, id, List.nil_append, List.cons_append, List.append_assoc]
    repeat rw [lit_ofList]
    rfl
  · simp only [List.length_cons, List.length_nil, Nat.reduceAdd, detailsSize]
    omega
  · exact ⟨clean_lit _ rfl, clean_lit cs h, clean_lit _ rfl, trivial, trivial⟩

def roundtripReport {mode : Mode} (c : HelperProbe.Calls mode) (dir : CString) (pid : Int32) : Json :=
  let hello := decodeHello c.exchange.final.hello
  .obj [(lit "mode", .str (lit (modeName mode))), (lit "spawned", .bool true),
    (lit "request_count", .int (requests mode).length),
    (lit "persistent_requests", .int ((requests mode).length - 1 : ℕ)),
    (lit "exit_code", .int (exitCode c.wait)), (lit "wait_completed", .bool c.wait.isSome),
    (lit "pid", .int hello.pid.toInt), (lit "page_size", .int hello.pageSize.toNat),
    (lit "nonce_present", .bool (hello.nonce != 0)),
    (lit "shared_round_trip", .bool (sharedOk pid (requests mode).length c.page)),
    (lit "mmap_flags", .str (lit "MAP_SHARED")), (lit "shared_path_root", .str (fsdecode dir)),
    (lit "helper_magic", .int c.page.helperMagic.toNat), (lit "shared_helper_pid", .int c.page.helperPid.toNat),
    (lit "heartbeat", .int c.page.heartbeat.toNat)]

def helperReport (t : Target) (g : Configuration) {mode : Mode} (c : HelperProbe.Calls mode) : Json :=
  if g.helperPath = [] then
    .obj [(lit "status", .str (lit "unverified")),
      (lit "next_step", .str (lit "Configure helper path from app bundle"))]
  else match c.socketpair with
  | some e => stageReport "socketpair" e.errno
  | none =>
    let dir := sharedDir g c.cacheWritable
    if PATH_MAX t ≤ (dir ++ cstr "/.graft64-helper-shm-XXXXXX").length then
      stageReport "shared_path" (ENAMETOOLONG t)
    else match c.mkstemp, c.ftruncate, c.mmap, c.spawn with
    | some e, _, _, _ => stageReport "mkstemp" e.errno
    | none, some e, _, _ => stageReport "ftruncate" e.errno
    | none, none, some e, _ => stageReport "mmap" e.errno
    | none, none, none, .error e => stageReport "host_adapter" e.errno
    | none, none, none, .ok pid => roundtripReport c dir pid

def HelperClear (t : Target) (g : Configuration) {mode : Mode} (c : HelperProbe.Calls mode) : Prop :=
  ∀ pid, Started t g c pid → Printable (sharedDir g c.cacheWritable)

lemma requests_length (mode : Mode) : (requests mode).length ≤ 5 := by cases mode <;> decide

lemma prints_modeName (mode : Mode) {tail : CString} {s : Str} {n : ℕ} (ht : Prints tail s n) :
    Prints (cstr (modeName mode) ++ tail) (lit (modeName mode) ++ s) (14 + n) := by
  cases mode with
  | spawn => exact .mono (.cast (.text _ rfl ht) (by rw [modeName, lit_ofList])) (by simp)
  | shared => exact .cast (.text _ rfl ht) (by rw [modeName, lit_ofList])
  | ipc => exact .mono (.cast (.text _ rfl ht) (by rw [modeName, lit_ofList])) (by simp)

lemma prints_roundtrip {mode : Mode} (c : HelperProbe.Calls mode) (dir : CString) (pid : Int32) :
    Prints (roundtripDetails c dir pid) (render compact 0 (roundtripReport c dir pid)) (600 + dir.length) := by
  have hl := requests_length mode
  have hk : Fits64 (requests mode).length := Fits64.natCast (by omega)
  have hk1 : Fits64 ((requests mode).length - 1 : ℕ) := Fits64.natCast (by omega)
  have hx : Fits64 (exitCode c.wait) := by
    refine Fits64.natCast ?_
    unfold exitCode
    split
    · exact Nat.lt_trans (UInt8.toNat_lt _) (by decide)
    · decide
  unfold roundtripDetails
  simp only [List.append_assoc]
  refine .mono (.cast (.text _ rfl (prints_modeName mode (.text _ rfl (.int _ hk (.text _ rfl (.int _ hk1
    (.text _ rfl (.int _ hx (.text _ rfl (.bool _ (.text _ rfl (.int _ (Fits64.int64 _)
    (.text _ rfl (.int _ (Fits64.uint64 _) (.text _ rfl (.bool _ (.text _ rfl (.bool _ (.text _ rfl (.str _ rfl
    (.text _ rfl (.int _ (Fits64.uint64 _) (.text _ rfl (.int _ (Fits64.uint64 _)
    (.text _ rfl (.int _ (Fits64.uint64 _) (.last _ rfl))))))))))))))))))))))))))) ?_) ?_
  · unfold roundtripReport
    simp only [render, renderMembers, compact, id, List.nil_append, List.cons_append, List.append_assoc,
      if_true]
    generalize lit (modeName mode) = name
    repeat rw [lit_ofList]
    rfl
  · simp only [List.length_cons, List.length_nil, Nat.reduceAdd]
    clear hl hk hk1 hx
    omega

lemma roundtrip_faithful_iff {mode : Mode} (c : HelperProbe.Calls mode) {dir : CString} (pid : Int32)
    (hd : dir.length < 4096) :
    Faithful (setText detailsSize (roundtripDetails c dir pid)) (some (roundtripReport c dir pid)) ↔
      Printable dir := by
  have hp := prints_roundtrip c dir pid
  have hlen : (roundtripDetails c dir pid).length < detailsSize := by
    have := hp.length_le
    simp only [detailsSize]
    omega
  refine (faithful_iff hp ?_).trans ?_
  · simp only [roundtripReport, Strings, MemberStrings, and_self]
  · have hm : Clean (lit (modeName mode)) := by cases mode <;> exact clean_lit _ rfl
    rw [printable_iff]
    simp only [hlen, true_and, roundtripReport, Strings, MemberStrings, and_true]
    constructor
    · rintro ⟨-, -, -, -, -, -, -, -, -, -, -, -, -, -, h, -⟩
      exact h
    · intro h
      and_intros
      all_goals first | exact h | exact hm | exact clean_lit _ rfl

theorem helperRoundtrip_faithful_iff (t : Target) (g : Configuration) {mode : Mode} (c : HelperProbe.Calls mode) :
    Faithful (helperRoundtrip t g mode c).details (some (helperReport t g c)) ↔ HelperClear t g c := by
  unfold helperRoundtrip helperReport HelperClear Started
  by_cases hp : g.helperPath = []
  · rw [if_pos hp, if_pos hp]
    refine iff_of_true ?_ (by simp [hp])
    simp only [report_details]
    refine faithful_of (.cast (.last _ rfl) ?_) (by decide) ?_
    · simp only [render, renderMembers, compact, id, List.nil_append, List.cons_append, List.append_assoc]
      repeat rw [lit_ofList]
      rfl
    · exact ⟨clean_lit _ rfl, clean_lit _ rfl, clean_lit _ rfl, clean_lit _ rfl, trivial⟩
  · rw [if_neg hp, if_neg hp]
    cases c.socketpair with
    | some e => exact iff_of_true (stageFailure_faithful _ _ e.fits rfl (by decide)) (by simp)
    | none =>
      simp only
      by_cases hlen : PATH_MAX t ≤ (sharedDir g c.cacheWritable ++ cstr "/.graft64-helper-shm-XXXXXX").length
      · rw [if_pos hlen, if_pos hlen]
        have he : Fits64 (ENAMETOOLONG t) := Fits64.natCast (by cases t <;> decide)
        refine iff_of_true (stageFailure_faithful _ _ he rfl (by decide)) ?_
        rintro pid ⟨-, -, hlt, -⟩
        exact absurd hlt (Nat.not_lt.mpr hlen)
      · rw [if_neg hlen, if_neg hlen]
        cases c.mkstemp with
        | some e => exact iff_of_true (stageFailure_faithful _ _ e.fits rfl (by decide)) (by simp)
        | none =>
          cases c.ftruncate with
          | some e => exact iff_of_true (stageFailure_faithful _ _ e.fits rfl (by decide)) (by simp)
          | none =>
            cases c.mmap with
            | some e => exact iff_of_true (stageFailure_faithful _ _ e.fits rfl (by decide)) (by simp)
            | none =>
              cases c.spawn with
              | error e => exact iff_of_true (stageFailure_faithful _ _ e.fits rfl (by decide)) (by simp)
              | ok pid =>
                have hd : (sharedDir g c.cacheWritable).length < 4096 := by
                  have hm : PATH_MAX t ≤ 4096 := by cases t <;> decide
                  rw [List.length_append] at hlen
                  omega
                rw [report_details, roundtrip_faithful_iff c pid hd]
                constructor
                · exact fun h _ _ => h
                · exact fun h => h pid ⟨hp, trivial, Nat.lt_of_not_le hlen, rfl, rfl, rfl, rfl⟩

def lifecycleReport (b : Build) (call : ℤ) (s : Lifecycle.State) : Json :=
  if ¬ s.backgroundSeen ∨ ¬ s.foregroundSeen then
    .obj [(lit "status", .str (lit "manual")), (lit "instructions", .str (lit
      "Send the app to background and return to foreground; lifecycle_jit will run automatically"))]
  else if s.prepareError ≠ 0 then
    .obj [(lit "status", .str (lit "fail")), (lit "stage", .str (lit "prepare_before_suspend")),
      (lit "cache_reused", .bool false), (lit "os_error", .int s.prepareError)]
  else if ¬ s.codeCacheReady then .obj [(lit "status", .str (lit "fail")), (lit "cache_reused", .bool false)]
  else if (if b.arm64 then call else -1) = 42 then
    .obj [(lit "status", .str (lit "pass")), (lit "background_seen", .bool true),
      (lit "foreground_seen", .bool true), (lit "jit_return_value", .int 42), (lit "cache_reused", .bool true)]
  else
    .obj [(lit "status", .str (lit "fail")), (lit "cache_reused", .bool true),
      (lit "jit_return_value", .int (if b.arm64 then call else -1))]

theorem lifecycleJit_faithful (b : Build) (call : Int32) {s : Lifecycle.State} (hs : s.prepareError < 2 ^ 31) :
    Faithful (Lifecycle.lifecycleJit b call.toInt s).details (some (lifecycleReport b call.toInt s)) := by
  have hv := call_fits (p := b.arm64 = true) call
  have he : Fits64 s.prepareError := Fits64.natCast (Nat.lt_trans hs (by decide))
  unfold Lifecycle.lifecycleJit lifecycleReport
  simp only
  generalize (if b.arm64 = true then call.toInt else -1) = value at hv ⊢
  by_cases h₁ : ¬ s.backgroundSeen = true ∨ ¬ s.foregroundSeen = true
  · rw [if_pos h₁, if_pos h₁]
    simp only [report_details]
    refine faithful_of (.cast (.last _ rfl) ?_) (by decide) ?_
    · simp only [render, renderMembers, compact, id, List.nil_append, List.cons_append, List.append_assoc]
      repeat rw [lit_ofList]
      rfl
    · exact ⟨clean_lit _ rfl, clean_lit _ rfl, clean_lit _ rfl, clean_lit _ rfl, trivial⟩
  rw [if_neg h₁, if_neg h₁]
  by_cases h₂ : s.prepareError ≠ 0
  · rw [if_pos h₂, if_pos h₂]
    simp only [report_details, List.append_assoc]
    refine faithful_of (.cast (.text _ rfl (.int _ he (.last _ rfl))) ?_) (by decide) ?_
    · simp only [render, renderMembers, compact, id, List.nil_append, List.cons_append, List.append_assoc]
      repeat rw [lit_ofList]
      rfl
    · exact ⟨clean_lit _ rfl, clean_lit _ rfl, clean_lit _ rfl, clean_lit _ rfl, clean_lit _ rfl, trivial,
        clean_lit _ rfl, trivial, trivial⟩
  rw [if_neg h₂, if_neg h₂]
  by_cases h₃ : ¬ s.codeCacheReady
  · rw [if_pos h₃, if_pos h₃]
    simp only [report_details]
    refine faithful_of (.cast (.last _ rfl) ?_) (by decide) ?_
    · simp only [render, renderMembers, compact, id, List.nil_append, List.cons_append, List.append_assoc]
      repeat rw [lit_ofList]
      rfl
    · exact ⟨clean_lit _ rfl, clean_lit _ rfl, clean_lit _ rfl, trivial, trivial⟩
  rw [if_neg h₃, if_neg h₃]
  by_cases h₄ : value = 42
  · rw [if_pos h₄, if_pos h₄]
    simp only [report_details]
    refine faithful_of (.cast (.last _ rfl) ?_) (by decide) ?_
    · simp only [render, renderMembers, compact, id, List.nil_append, List.cons_append, List.append_assoc]
      repeat rw [lit_ofList]
      rfl
    · exact ⟨clean_lit _ rfl, clean_lit _ rfl, clean_lit _ rfl, trivial, clean_lit _ rfl, trivial, clean_lit _ rfl,
        trivial, clean_lit _ rfl, trivial, trivial⟩
  rw [if_neg h₄, if_neg h₄]
  simp only [report_details, List.append_assoc]
  refine faithful_of (.cast (.text _ rfl (.int _ hv (.last _ rfl))) ?_) (by decide) ?_
  · simp only [render, renderMembers, compact, id, List.nil_append, List.cons_append, List.append_assoc]
    repeat rw [lit_ofList]
    rfl
  · exact ⟨clean_lit _ rfl, clean_lit _ rfl, clean_lit _ rfl, trivial, clean_lit _ rfl, trivial, trivial⟩

end Graft64.Platform.Probes
