import Graft64.Platform.DeviceReport

/-! `copySummary`: one line for each entry of the store, from which its status, name and summary can be read
back. -/

namespace Graft64.Platform

open Graft64.Library Utf8 Probes ProbeStore Jit

namespace ProbeStore

def summaryLine (x : ProbeResultModel) : Str :=
  x.status.rawValue ++ lit " " ++ lit x.name ++ lit ": " ++ repair x.summary

def Store.copySummary (s : Store) : Str := [10].intercalate (s.results.map summaryLine)

end ProbeStore

abbrev Outcome := ProbeStatus × Str × Str

def outcome (x : ProbeResultModel) : Outcome := (x.status, lit x.name, repair x.summary)

def statusOf (w : Str) : Option ProbeStatus := [ProbeStatus.pass, .fail, .skip, .blocked].find? fun s =>
    s.rawValue == w

/-- The status is the first word, and the name is what stands before the colon. -/
def readLine (line : Str) : Option Outcome :=
  let rest := (line.dropWhile fun c => c ≠ 32).drop 1
  (statusOf (line.takeWhile fun c => c ≠ 32)).map fun status =>
    (status, rest.takeWhile fun c => c ≠ 58, (rest.dropWhile fun c => c ≠ 58).drop 2)

def readSummary (text : Str) : Option (List Outcome) :=
  if text = [] then some [] else (text.splitOn 10).mapM readLine

def OneLine (r : ProbeReturn) : Prop := 10 ∉ r.summary

lemma report_oneLine {rc : ℤ} {e : Errno} {summary : String} {details : CString} (h : 10 ∉ cstr summary) :
    OneLine (report rc e summary details) := by
  intro hm
  exact h (List.mem_of_mem_take hm)

lemma returnErrno_oneLine (e : Errno) : OneLine (returnErrno e) := List.not_mem_nil

section Summaries

variable (b : Build) (g : Configuration) (c : Calls)

lemma jitBasic_oneLine (c : BasicCalls) : OneLine (jitBasic b c) := by
  unfold jitBasic notArm64
  split
  · exact report_oneLine (by decide)
  · split
    · exact report_oneLine (by decide)
    · split
      · exact returnErrno_oneLine _
      · simp only
        split_ifs <;> exact report_oneLine (by decide)

lemma helperRoundtrip_oneLine {mode : Ipc.Mode} (c : HelperProbe.Calls mode) :
    OneLine (HelperProbe.helperRoundtrip b.target g mode c) := by
  unfold HelperProbe.helperRoundtrip HelperProbe.stageFailure
  split
  · exact report_oneLine (by decide)
  · split
    · exact report_oneLine (by decide)
    · simp only
      split
      · exact report_oneLine (by decide)
      · split
        · exact report_oneLine (by decide)
        · exact report_oneLine (by decide)
        · exact report_oneLine (by decide)
        · exact report_oneLine (by decide)
        · refine report_oneLine ?_
          split_ifs
          · cases mode <;> decide
          · decide

lemma runtimePaths_oneLine (c : PathCalls) : OneLine (runtimePaths b.target g c) := by
  unfold runtimePaths
  split_ifs <;> exact report_oneLine (by decide)

lemma pageModel_oneLine (c : PageCalls) : OneLine (pageModel b.target c) := by
  unfold pageModel
  split
  · exact report_oneLine (by decide)
  · split
    · exact report_oneLine (by decide)
    · split
      · exact report_oneLine (by decide)
      · refine report_oneLine ?_
        split_ifs <;> decide

lemma jitWriteProtect_oneLine (c : ProtectCalls) : OneLine (jitWriteProtect b c) := by
  unfold jitWriteProtect notArm64
  split
  · exact report_oneLine (by decide)
  · split
    · exact report_oneLine (by decide)
    · split
      · exact returnErrno_oneLine _
      · exact report_oneLine (by decide)

lemma jitMultithread_oneLine (c : ThreadsCalls) : OneLine (jitMultithread b c) := by
  have hbasic := jitBasic_oneLine b c.basic
  unfold jitMultithread notArm64
  simp only
  split
  · exact report_oneLine (by decide)
  · split
    · exact hbasic
    · split
      · exact report_oneLine (by decide)
      · split
        · exact hbasic
        · split
          · exact hbasic
          · split <;> exact report_oneLine (by decide)

lemma signalResume_oneLine (c : SignalCalls) : OneLine (signalResume b g c) := by
  unfold signalResume
  split
  · exact report_oneLine (by decide)
  · split
    · exact returnErrno_oneLine _
    · exact returnErrno_oneLine _
    · refine report_oneLine ?_
      split_ifs <;> decide

lemma dlopenBundle_oneLine (c : DylibCalls) : OneLine (dlopenBundle b.target g c) := by
  unfold dlopenBundle
  split
  · exact report_oneLine (by decide)
  · split
    · exact report_oneLine (by decide)
    · split
      · exact report_oneLine (by decide)
      · simp only
        split <;> exact report_oneLine (by decide)

lemma unixSocketProbe_oneLine (c : SocketCalls) : OneLine (unixSocketProbe c) := by
  unfold unixSocketProbe
  split
  · exact returnErrno_oneLine _
  · refine report_oneLine ?_
    split_ifs <;> decide

lemma lifecycleJit_oneLine (call : ℤ) (s : Lifecycle.State) : OneLine (Lifecycle.lifecycleJit b call s) := by
  unfold Lifecycle.lifecycleJit
  split
  · exact report_oneLine (by decide)
  · split
    · exact report_oneLine (by decide)
    · split
      · exact report_oneLine (by decide)
      · simp only
        split_ifs <;> exact report_oneLine (by decide)

lemma probeFn_oneLine (p : Probe) : OneLine (probeFn b g c p) := by
  cases p with
  | runtimePaths => exact runtimePaths_oneLine b g c.paths
  | pageModel => exact pageModel_oneLine b c.page
  | jitBasic => exact jitBasic_oneLine b c.basic
  | jitWriteProtect => exact jitWriteProtect_oneLine b c.protect
  | jitMultithread => exact jitMultithread_oneLine b c.threads
  | signalResume => exact signalResume_oneLine b g c.signals
  | dlopenBundle => exact dlopenBundle_oneLine b g c.dylib
  | unixSocket => exact unixSocketProbe_oneLine c.socket
  | sharedMapping => exact helperRoundtrip_oneLine b g (c.helper .shared)
  | helperSpawn => exact helperRoundtrip_oneLine b g (c.helper .spawn)
  | helperIpc => exact helperRoundtrip_oneLine b g (c.helper .ipc)
  | lifecycleJit => exact lifecycleJit_oneLine b c.lifecycleCall.toInt c.lifecycle

end Summaries

section ReadBack

variable {b : Build} {page : Jit.Size}

lemma statusOf_rawValue (s : ProbeStatus) : statusOf s.rawValue = some s := by
  cases s <;> decide

lemma takeWhile_append {w : Str} {c : ℕ} (rest : Str) (h : c ∉ w) :
    ((w ++ c :: rest).takeWhile fun d => d ≠ c) = w ∧ ((w ++ c :: rest).dropWhile fun d => d ≠ c) = c :: rest := by
  induction w with
  | nil => simp
  | cons d w ih =>
    obtain ⟨hd, hw⟩ := not_or.mp (mt List.mem_cons.mpr h)
    obtain ⟨ht, hr⟩ := ih hw
    rw [List.cons_append, List.takeWhile_cons_of_pos (by simpa using Ne.symm hd),
      List.dropWhile_cons_of_pos (by simpa using Ne.symm hd), ht, hr]
    exact ⟨rfl, rfl⟩

lemma readLine_summaryLine {x : ProbeResultModel} (h : 58 ∉ lit x.name) :
    readLine (summaryLine x) = some (outcome x) := by
  have hstatus : 32 ∉ x.status.rawValue := by
    cases x.status <;> decide
  have hline : summaryLine x = x.status.rawValue ++ 32 :: (lit x.name ++ 58 :: 32 :: repair x.summary) := by
    simp [summaryLine, lit]
  obtain ⟨hw, hrest⟩ := takeWhile_append (lit x.name ++ 58 :: 32 :: repair x.summary) hstatus
  obtain ⟨hname, hsummary⟩ := takeWhile_append (32 :: repair x.summary) h
  simp only [readLine, hline, hw, hrest, statusOf_rawValue, hname, hsummary, List.drop_succ_cons,
    List.drop_zero, Option.map_some, outcome]

lemma mapM_readLine {xs : List ProbeResultModel} (h : ∀ x ∈ xs, 58 ∉ lit x.name) :
    (xs.map summaryLine).mapM readLine = some (xs.map outcome) := by
  induction xs with
  | nil => rfl
  | cons x xs ih =>
    obtain ⟨hx, hxs⟩ := List.forall_mem_cons.mp h
    rw [List.map_cons, List.mapM_cons, readLine_summaryLine hx, ih hxs]
    rfl

lemma summaryLine_ne_nil (x : ProbeResultModel) : summaryLine x ≠ [] := by
  simp [summaryLine, lit]

lemma listed_facts {es : List Event} {x : ProbeResultModel} (hx : x ∈ (after b page es).results) :
    58 ∉ lit x.name ∧ 10 ∉ summaryLine x := by
  obtain ⟨p, r, -, rfl⟩ := (mem_results_iff es x).mp hx
  have hname : 58 ∉ lit p.name ∧ 10 ∉ lit p.name := by
    cases p <;> decide
  have hsummary : 10 ∉ repair (entry b (r, p)).summary := by
    intro h
    exact probeFn_oneLine b r.configuration r.calls p (mem_of_mem_repair (by decide) h)
  have hstatus : 10 ∉ (entry b (r, p)).status.rawValue := by
    cases (entry b (r, p)).status <;> decide
  refine ⟨hname.1, ?_⟩
  have hspace : 10 ∉ lit " " ∧ 10 ∉ lit ": " := by decide
  simp only [summaryLine, List.mem_append, not_or]
  exact ⟨⟨⟨⟨hstatus, hspace.1⟩, hname.2⟩, hspace.2⟩, hsummary⟩

/-- Whatever was run before, the copied text has one line for each entry, and tells its status, name and
summary. -/
theorem readSummary_copySummary (es : List Event) :
    readSummary (after b page es).copySummary = some ((after b page es).results.map outcome) := by
  have hfacts : ∀ x ∈ (after b page es).results, 58 ∉ lit x.name ∧ 10 ∉ summaryLine x :=
    fun x hx => listed_facts hx
  rw [Store.copySummary]
  by_cases hnil : (after b page es).results = []
  · rw [hnil]
    rfl
  · have hlines : ((after b page es).results.map summaryLine) ≠ [] := by
      rwa [ne_eq, List.map_eq_nil_iff]
    have hsplit : ([10].intercalate ((after b page es).results.map summaryLine)).splitOn 10 =
        (after b page es).results.map summaryLine := by
      refine List.splitOn_intercalate 10 ?_ hlines
      intro line hl
      obtain ⟨x, hx, rfl⟩ := List.mem_map.mp hl
      exact (hfacts x hx).2
    have hne : [10].intercalate ((after b page es).results.map summaryLine) ≠ [] := by
      intro he
      rw [he, List.splitOn_nil] at hsplit
      obtain ⟨x, -, hx⟩ := List.mem_map.mp (hsplit ▸ List.mem_singleton_self ([] : Str))
      exact summaryLine_ne_nil x hx
    rw [readSummary, if_neg hne, hsplit]
    exact mapM_readLine fun x hx => (hfacts x hx).1

end ReadBack

end Graft64.Platform
