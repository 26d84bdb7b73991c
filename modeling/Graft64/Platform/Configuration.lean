import Graft64.Platform.Host

/-! The configured strings, and the calls that set them. -/

namespace Graft64.Platform

structure Configuration where
  helperPath : CString
  dylibPath : CString
  guestBundleRoot : CString
  runtimeRoot : CString
  dataRoot : CString
  cacheRoot : CString
  bundleUrl : CString
  bundleExecutableUrl : CString
  argv0 : CString
  currentWorkingDirectory : CString
  homeDirectory : CString
  documentsDirectory : CString
  libraryDirectory : CString
  temporaryDirectory : CString
  appVersion : CString
  livecontainerEvidence : CString
  deriving DecidableEq

def Configuration.initial : Configuration :=
  ⟨[], [], [], [], [], [], [], [], [], [], [], [], [], [], [], []⟩

/-- `sizeof(g_app_version)` and `sizeof(g_livecontainer_evidence)`. -/
def appVersionSize : ℕ := 128
def livecontainerEvidenceSize : ℕ := 256

/-- `graft_path_context`; a field is `none` where the pointer is null. -/
structure PathContext where
  guestBundleRoot : Option CString
  runtimeRoot : Option CString
  dataRoot : Option CString
  cacheRoot : Option CString

structure RuntimeObservation where
  bundleUrl : Option CString
  bundleExecutableUrl : Option CString
  argv0 : Option CString
  currentWorkingDirectory : Option CString
  homeDirectory : Option CString
  documentsDirectory : Option CString
  libraryDirectory : Option CString
  temporaryDirectory : Option CString
  appVersion : Option CString
  livecontainerEvidence : Option CString

def admissible (capacity : ℕ) (value : Option CString) : Option CString :=
  value.filter fun s => !s.isEmpty && decide (s.length < capacity)

/-- `graft_configure_helper`; `none` when the call returns -1. -/
def configureHelper (t : Target) (path : Option CString) (g : Configuration) : Option Configuration :=
  (path.filter fun s => decide (s.length < PATH_MAX t)).map fun s => { g with helperPath := s }

def configureDylib (t : Target) (path : Option CString) (g : Configuration) : Option Configuration :=
  (path.filter fun s => decide (s.length < PATH_MAX t)).map fun s => { g with dylibPath := s }

def configurePathContext (t : Target) (context : Option PathContext) (g : Configuration) :
    Option Configuration := do
  let c ← context
  let guestBundleRoot ← admissible (PATH_MAX t) c.guestBundleRoot
  let runtimeRoot ← admissible (PATH_MAX t) c.runtimeRoot
  let dataRoot ← admissible (PATH_MAX t) c.dataRoot
  let cacheRoot ← admissible (PATH_MAX t) c.cacheRoot
  return { g with
    guestBundleRoot := guestBundleRoot
    runtimeRoot := runtimeRoot
    dataRoot := dataRoot
    cacheRoot := cacheRoot }

def configureRuntimeObservation (t : Target) (observation : Option RuntimeObservation) (g : Configuration) :
    Option Configuration := do
  let o ← observation
  let bundleUrl ← admissible (PATH_MAX t) o.bundleUrl
  let bundleExecutableUrl ← admissible (PATH_MAX t) o.bundleExecutableUrl
  let argv0 ← admissible (PATH_MAX t) o.argv0
  let currentWorkingDirectory ← admissible (PATH_MAX t) o.currentWorkingDirectory
  let homeDirectory ← admissible (PATH_MAX t) o.homeDirectory
  let documentsDirectory ← admissible (PATH_MAX t) o.documentsDirectory
  let libraryDirectory ← admissible (PATH_MAX t) o.libraryDirectory
  let temporaryDirectory ← admissible (PATH_MAX t) o.temporaryDirectory
  let appVersion ← admissible appVersionSize o.appVersion
  let livecontainerEvidence ← admissible livecontainerEvidenceSize o.livecontainerEvidence
  return { g with
    bundleUrl := bundleUrl
    bundleExecutableUrl := bundleExecutableUrl
    argv0 := argv0
    currentWorkingDirectory := currentWorkingDirectory
    homeDirectory := homeDirectory
    documentsDirectory := documentsDirectory
    libraryDirectory := libraryDirectory
    temporaryDirectory := temporaryDirectory
    appVersion := appVersion
    livecontainerEvidence := livecontainerEvidence }

inductive Configured (t : Target) : Configuration → Prop
  | initial : Configured t .initial
  | helper {g g' : Configuration} {path : Option CString} (hg : Configured t g)
      (h : configureHelper t path g = some g') : Configured t g'
  | dylib {g g' : Configuration} {path : Option CString} (hg : Configured t g)
      (h : configureDylib t path g = some g') : Configured t g'
  | pathContext {g g' : Configuration} {context : Option PathContext} (hg : Configured t g)
      (h : configurePathContext t context g = some g') : Configured t g'
  | observation {g g' : Configuration} {o : Option RuntimeObservation} (hg : Configured t g)
      (h : configureRuntimeObservation t o g = some g') : Configured t g'

lemma Configured.dylibPath_lt {t : Target} {g : Configuration} (hg : Configured t g) :
    g.dylibPath.length < PATH_MAX t := by
  induction hg with
  | initial => cases t <;> decide
  | helper hg h ih =>
    obtain ⟨s, -, rfl⟩ := Option.map_eq_some_iff.mp h
    exact ih
  | dylib hg h ih =>
    obtain ⟨s, hs, rfl⟩ := Option.map_eq_some_iff.mp h
    exact of_decide_eq_true (Option.filter_eq_some_iff.mp hs).2
  | pathContext hg h ih =>
    simp only [configurePathContext, Option.bind_eq_bind, Option.bind_eq_some_iff, Option.pure_def,
      Option.some.injEq] at h
    obtain ⟨c, -, _, -, _, -, _, -, _, -, rfl⟩ := h
    exact ih
  | observation hg h ih =>
    simp only [configureRuntimeObservation, Option.bind_eq_bind, Option.bind_eq_some_iff, Option.pure_def,
      Option.some.injEq] at h
    obtain ⟨o, -, _, -, _, -, _, -, _, -, _, -, _, -, _, -, _, -, _, -, _, -, rfl⟩ := h
    exact ih

end Graft64.Platform
