import Graft64.Library.Json

/-! `run-linux-baseline.sh`: the test report that a run leaves behind. -/

namespace Graft64.Runtime.Baseline

open Graft64.Library

inductive Command
  | checkHost
  | checkWine
  | checkTools
  | checkSha256Tool
  | makeDirectories
  | removeReport
  | generateManifest
  | compileArm64
  | compileAmd64
  | hashSamples
  | makePrefix
  | runSample
  | checkStatus
  | checkMarker
  | printPass
  | checkModule
  | copyModule
  | registerModule
  | writeReport
  | generateManifestWithTests
  | printDone
deriving DecidableEq

/-- `run_sample`; `set +e` keeps a failing sample from ending the script before its status is looked at. -/
def sample : List Command := [.runSample, .checkStatus, .checkMarker, .printPass]

/-- The commands of the script, which runs under `set -e`. -/
def script : List Command :=
  [.checkHost, .checkWine, .checkTools, .checkSha256Tool, .makeDirectories, .removeReport, .generateManifest,
    .compileArm64, .compileAmd64, .hashSamples, .makePrefix] ++ sample ++
  [.checkModule, .copyModule, .registerModule] ++ sample ++
  [.writeReport, .generateManifestWithTests, .printDone]

def entryText (name : Str) : Str :=
  lit "  \x7b\n    \"name\": \"" ++ name ++ lit "\",\n    \"status\": \"PASS\",\n    \"log\": \"logs/" ++ name ++
    lit ".log\"\n  \x7d"

def reportText : Str :=
  lit "[\n" ++ entryText (lit "hello-arm64") ++ lit ",\n" ++ entryText (lit "hello-amd64") ++ lit "\n]\n"

def lookup (key : Str) (ms : List (Str × Json)) : Option Json :=
  (ms.reverse.find? fun m => m.1 == key).map Prod.snd

def isPass : Json → Bool
  | .obj ms => match lookup (lit "status") ms with
    | some (.str s) => s == lit "PASS"
    | _ => false
  | _ => false

def hasPass (content : Str) : Bool :=
  match Json.parse true content with
  | some (.arr entries) => entries.any isPass
  | _ => false

/-- `g1-baseline-tests.json` after a command that succeeds. No other output of the script lies there. -/
def done (report : Option Str) : Command → Option Str
  | .removeReport => none
  | .writeReport => some reportText
  | _ => report

/-- The report after a command that fails; the writer may have opened it and have written some of it. -/
def cut (written : Option ℕ) (report : Option Str) : Command → Option Str
  | .writeReport => match written with
    | some k => some (reportText.take k)
    | none => report
  | _ => report

/-- The report after a run that exits with a non-zero status at the command with index `n`. -/
def stoppedAt (start : Option Str) (n : Fin script.length) (written : Option ℕ) : Option Str :=
  cut written ((script.take n).foldl done start) script[n]

def lastWriter (cs : List Command) : Option Command :=
  cs.reverse.find? fun c => c = .removeReport ∨ c = .writeReport

lemma foldl_done (start : Option Str) (cs : List Command) :
    cs.foldl done start = match lastWriter cs with
      | none => start
      | some c => done start c := by
  induction cs using List.reverseRecOn with
  | nil => rfl
  | append_singleton cs c ih =>
    rw [List.foldl_append, List.foldl_cons, List.foldl_nil, ih]
    simp only [lastWriter, List.reverse_append, List.reverse_cons, List.reverse_nil, List.nil_append,
      List.singleton_append, List.find?_cons]
    cases c <;> rfl

lemma hasPass_reportText : hasPass reportText = true := by
  unfold reportText entryText
  repeat rw [lit_ofList]
  decide +kernel

lemma lastWriter_script : ∀ n : Fin script.length, lastWriter (script.take n) =
    if .writeReport ∈ script.take n then some .writeReport
    else if .removeReport ∈ script.take n then some .removeReport else none := by
  decide

lemma before_writeReport : ∀ n : Fin script.length, script[n] = .writeReport →
    .writeReport ∉ script.take n ∧ .removeReport ∈ script.take n := by
  decide

def NoPass (report : Option Str) : Prop := ∀ content, report = some content → hasPass content = false

lemma noPass_some (content : Str) : NoPass (some content) ↔ hasPass content = false := by
  constructor
  · exact fun h => h content rfl
  · intro h c hc
    obtain rfl := Option.some.inj hc
    exact h

lemma noPass_none : NoPass none := by
  intro c hc
  cases hc

/-- A run that fails leaves no report with `PASS` entries behind exactly when it stops after the old
report is removed, or there was none, and before the new one is written. -/
theorem stoppedAt_noPass_iff (start : Option Str) (n : Fin script.length) (written : Option ℕ) :
    NoPass (stoppedAt start n written) ↔
      (.removeReport ∉ script.take n → NoPass start) ∧ .writeReport ∉ script.take n ∧
        (script[n] = .writeReport → ∀ k, written = some k → hasPass (reportText.take k) = false) := by
  have hcut (r : Option Str) (h : script[n] ≠ .writeReport) : cut written r script[n] = r := by
    unfold cut
    split
    · next hc => exact absurd hc h
    · rfl
  rw [stoppedAt, foldl_done, lastWriter_script n]
  by_cases hw : Command.writeReport ∈ script.take n
  · have hn : script[n] ≠ .writeReport := fun h => (before_writeReport n h).1 hw
    rw [hcut _ hn, if_pos hw]
    simp [done, noPass_some, hasPass_reportText, hw]
  · rw [if_neg hw]
    by_cases hr : Command.removeReport ∈ script.take n
    · rw [if_pos hr]
      by_cases hn : script[n] = .writeReport
      · rw [hn]
        cases written with
        | none => simp [cut, done, noPass_none, hr, hw]
        | some k => simp [cut, noPass_some, hr, hw]
      · have hne : script[(n : ℕ)] ≠ .writeReport := hn
        rw [hcut _ hn]
        simp [done, noPass_none, hr, hw, hne]
    · rw [if_neg hr]
      have hn : script[(n : ℕ)] ≠ .writeReport := fun h => hr (before_writeReport n h).2
      rw [hcut _ hn]
      simp [hr, hw, hn]

/-- A missing tool leaves the old report, and a manifest that cannot be generated leaves the new one. -/
theorem failed_run_leaves_pass :
    ¬ NoPass (stoppedAt (some reportText) ⟨2, by decide⟩ none) ∧
      ¬ NoPass (stoppedAt none ⟨23, by decide⟩ none) ∧ script[23] = .generateManifestWithTests := by
  have h (r : Option Str) (hr : r = some reportText) : ¬ NoPass r := by
    rw [hr, noPass_some, hasPass_reportText]
    decide
  exact ⟨h _ rfl, h _ rfl, rfl⟩

end Graft64.Runtime.Baseline
