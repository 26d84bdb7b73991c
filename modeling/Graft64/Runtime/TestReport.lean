import Graft64.Library.JsonTexts
import Graft64.Library.Overwrites
import Graft64.Runtime.Verified

/-! `load_tests` of `generate-runtime-manifest.py`: the tests of a report, with the digests of their
logs. -/

namespace Graft64.Runtime.Manifest

open Graft64.Library Utf8 Unpack Results DepsLock FileSystem

inductive ReportRefusal
  | unreadable
  | notArray
  | check (r : Refusal)

section

variable (v : Setting) (fs : FileSystem) (runtime : Path)

/-- One round of the loop of `validate_test_report`. -/
def reportTest (seen : List Str) (index : ℕ) (raw : Json) : Except Refusal TestEntry :=
  match raw with
  | .obj ms => do
    ensure (Json.hasKeys ms [lit "name", lit "status", lit "log"]) (.testFields index)
    let name ← orError (.testStrings index) (strField (lit "name") ms)
    let status ← orError (.testStrings index) (strField (lit "status") ms)
    let log ← orError (.testStrings index) (strField (lit "log") ms)
    checkTestName seen index name status
    let relative ← safeRelativePath log (indexed (lit "test") index ++ lit ".log") false
    let located ← locateLog v fs runtime index relative
    return ⟨name, status, relative, (v.sha256 located.content.bytes).hex⟩
  | _ => .error (.testFields index)

def validateTestReport : Json → Except ReportRefusal (List TestEntry)
  | .arr raws => (testsFrom (reportTest v fs runtime) [] 0 raws).mapError .check
  | _ => .error .notArray

def loadTests : Option (List Utf8.Bytes) → Except ReportRefusal (List TestEntry)
  | none => .ok []
  | some report => do
    let raw ← orError .unreadable (readJson v fs report)
    validateTestReport v fs runtime raw

end

def testDict (t : TestEntry) : Dict :=
  [(lit "name", t.name), (lit "status", t.status), (lit "log", t.log), (lit "sha256", t.sha256)]

def testJson (t : TestEntry) : Json := .obj (dictJson (testDict t))

variable {v : Setting} {fs fs' : FileSystem} {runtime : Path}

lemma reportTest_cases {seen : List Str} {index : ℕ} {raw : Json} {t : TestEntry}
    (h : reportTest v fs runtime seen index raw = .ok t) :
    ∃ ms, raw = .obj ms ∧ strField (lit "name") ms = some t.name ∧ strField (lit "status") ms = some t.status ∧
      strField (lit "log") ms = some t.log ∧ checkTestName seen index t.name t.status = .ok () ∧
      safeRelativePath t.log (indexed (lit "test") index ++ lit ".log") false = .ok t.log ∧
      ∃ located, locateLog v fs runtime index t.log = .ok located ∧
        t.sha256 = (v.sha256 located.content.bytes).hex := by
  unfold reportTest at h
  split at h
  · rename_i ms
    obtain ⟨_, -, h⟩ := of_bind_eq_ok h
    obtain ⟨name, hn, h⟩ := of_bind_eq_ok h
    obtain ⟨status, hs, h⟩ := of_bind_eq_ok h
    obtain ⟨log, hl, h⟩ := of_bind_eq_ok h
    obtain ⟨_, hname, h⟩ := of_bind_eq_ok h
    obtain ⟨relative, hrelative, h⟩ := of_bind_eq_ok h
    obtain ⟨located, hlocated, h⟩ := of_bind_eq_ok h
    obtain rfl := Except.ok.inj h
    obtain rfl := safeRelativePath_ok hrelative
    exact ⟨ms, rfl, of_orError_eq_ok hn, of_orError_eq_ok hs, of_orError_eq_ok hl, hname, hrelative, located,
      hlocated, rfl⟩
  · cases h

lemma locateLog_overwritten (hfs : Overwritten fs fs') {index : ℕ} {log : Str} {located : Located}
    (h : locateLog v fs runtime index log = .ok located)
    (hlog : logFile v fs' runtime log = some located.content) :
    ∃ located', locateLog v fs' runtime index log = .ok located' ∧ located'.content = located.content := by
  obtain ⟨p, hp, h⟩ := of_bind_eq_ok h
  obtain ⟨rootAt, hroot, h⟩ := of_bind_eq_ok h
  obtain ⟨resolved, hresolved, h⟩ := of_bind_eq_ok h
  obtain ⟨_, hinside, -⟩ := of_bind_eq_ok h
  have hroot' := hfs.walk (of_orError_eq_ok hroot)
  have hresolved' := hfs.walk (of_orError_eq_ok hresolved)
  have hget : ∃ x, fs'.get resolved = some (.file located.content x) := by
    rw [logFile, of_orError_eq_ok hp, Option.bind_some, FileSystem.resolve, hresolved', Option.bind_some] at hlog
    split at hlog
    · rename_i content x hget
      obtain rfl := Option.some.inj hlog
      exact ⟨x, hget⟩
    · cases hlog
  obtain ⟨x, hget⟩ := hget
  refine ⟨⟨resolved, located.content, x⟩, ?_, rfl⟩
  rw [locateLog, hp]
  simp only [bind, Except.bind, resolveFileInside, FileSystem.resolve, hroot', hresolved', orError, ensure,
    of_ensure hinside, if_true, hget]
  rfl

lemma manifestTest_of_reportTest (hfs : Overwritten fs fs') {seen : List Str} {index : ℕ} {raw raw' : Json}
    {t : TestEntry} (h : reportTest v fs runtime seen index raw = .ok t)
    (hlog : logFile v fs' runtime t.log = logFile v fs runtime t.log) {ms : List (Str × Json)}
    (hraw : raw' = .obj ms)
    (hkeys : Json.hasKeys ms [lit "name", lit "status", lit "log", lit "sha256"] = true)
    (hfields : ∀ f ∈ testDict t, strField f.1 ms = some f.2) :
    manifestTest v fs' runtime seen index raw' = .ok t := by
  obtain ⟨-, -, -, -, -, hname, hsafe, located, hlocated, hdigest⟩ := reportTest_cases h
  rw [locateLog_ok hlocated] at hlog
  obtain ⟨located', hlocated', hcontent⟩ := locateLog_overwritten hfs hlocated hlog
  simp only [testDict, List.forall_mem_cons] at hfields
  obtain ⟨hn, hs, hl, hd, -⟩ := hfields
  have hhex : isHexOf 64 t.sha256 = true := by
    rw [hdigest]
    exact Digest.isHex _
  have hsame : ((v.sha256 located'.content.bytes).hex == t.sha256) = true := by
    rw [hcontent, hdigest]
    exact beq_self_eq_true _
  rw [hraw, manifestTest]
  simp only [hkeys, hn, hs, hl, hd, hname, hsafe, hhex, hlocated', hsame, ensure, orError, bind,
    Except.bind, if_true]
  rfl

end Graft64.Runtime.Manifest
