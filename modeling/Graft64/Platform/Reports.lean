import Graft64.Platform.Reports.Helper
import Graft64.Platform.Reports.Paths
import Graft64.Platform.Reports.Signals

/-! The details of every probe, as the callback gets them. -/

namespace Graft64.Platform.Probes

open Graft64.Library Utf8 Json Ipc HelperProbe

def isObject : Json → Bool
  | .obj _ => true
  | _ => false

lemma basicReport_isObject {b : Build} {c : BasicCalls} {j : Json} (h : basicReport b c = some j) :
    isObject j = true := by
  simp only [basicReport] at h
  split at h
  · exact Option.some.inj h ▸ rfl
  · split at h
    · exact Option.some.inj h ▸ rfl
    · split at h
      · cases h
      · split_ifs at h <;> exact Option.some.inj h ▸ rfl

lemma helperReport_isObject (t : Target) (g : Configuration) {mode : Mode} (c : HelperProbe.Calls mode) :
    isObject (helperReport t g c) = true := by
  unfold helperReport
  split
  · rfl
  · split
    · rfl
    · simp only
      split
      · rfl
      · split <;> rfl

def reported (b : Build) (g : Configuration) (c : Calls) : Probe → Option Json
  | .runtimePaths => some (pathsReport b.target g c.paths)
  | .pageModel => some (pageModelReport c.page)
  | .jitBasic => basicReport b c.basic
  | .jitWriteProtect => protectReport b c.protect
  | .jitMultithread => multithreadReport b c.threads
  | .signalResume => signalReport b g c.signals
  | .dlopenBundle => some (dylibReport b.target g c.dylib)
  | .unixSocket => socketReport c.socket
  | .sharedMapping => some (helperReport b.target g (c.helper .shared))
  | .helperSpawn => some (helperReport b.target g (c.helper .spawn))
  | .helperIpc => some (helperReport b.target g (c.helper .ipc))
  | .lifecycleJit => some (lifecycleReport b c.lifecycleCall.toInt c.lifecycle)

def Clear (b : Build) (g : Configuration) (c : Calls) : Probe → Prop
  | .runtimePaths => PathsClear b.target g c.paths
  | .jitBasic => WriteClear b c.basic.alloc c.basic.write Lifecycle.code
  | .jitWriteProtect => WriteClear b c.protect.alloc c.protect.write returnOne
  | .jitMultithread => WriteClear b c.threads.basic.alloc c.threads.basic.write Lifecycle.code
  | .signalResume => b.arm64 = true → c.signals.sigactionSegv = none ∧ c.signals.sigactionBus = none
  | .dlopenBundle => DylibClear b.target g c.dylib
  | .unixSocket => c.socket.socketpair = none
  | .sharedMapping => HelperClear b.target g (c.helper .shared)
  | .helperSpawn => HelperClear b.target g (c.helper .spawn)
  | .helperIpc => HelperClear b.target g (c.helper .ipc)
  | .pageModel | .lifecycleJit => True

theorem probeFn_faithful_iff {b : Build} {g : Configuration} (hg : Configured b.target g) (c : Calls) (p : Probe) :
    Faithful (probeFn b g c p).details (reported b g c p) ↔ Clear b g c p := by
  cases p with
  | runtimePaths => exact runtimePaths_faithful_iff b.target g c.paths
  | pageModel => exact iff_of_true (pageModel_faithful b.target c.page) trivial
  | jitBasic => exact jitBasic_faithful_iff b c.basic
  | jitWriteProtect => exact jitWriteProtect_faithful_iff b c.protect
  | jitMultithread => exact jitMultithread_faithful_iff b c.threads
  | signalResume => exact signalResume_faithful_iff b g c.signals
  | dlopenBundle => exact dlopenBundle_faithful_iff b.target g c.dylib hg.dylibPath_lt
  | unixSocket => exact unixSocketProbe_faithful_iff c.socket
  | sharedMapping => exact helperRoundtrip_faithful_iff b.target g (c.helper .shared)
  | helperSpawn => exact helperRoundtrip_faithful_iff b.target g (c.helper .spawn)
  | helperIpc => exact helperRoundtrip_faithful_iff b.target g (c.helper .ipc)
  | lifecycleJit => exact iff_of_true (lifecycleJit_faithful b c.lifecycleCall c.prepareError_lt) trivial

lemma reported_isObject {b : Build} {g : Configuration} {c : Calls} {p : Probe} {j : Json}
    (h : reported b g c p = some j) : isObject j = true := by
  cases p with
  | runtimePaths =>
    obtain rfl := Option.some.inj h
    unfold pathsReport
    split_ifs <;> rfl
  | pageModel =>
    obtain rfl := Option.some.inj h
    unfold pageModelReport
    split_ifs
    · rfl
    · cases c.page.mmap <;> rfl
  | jitBasic => exact basicReport_isObject h
  | jitWriteProtect =>
    simp only [reported, protectReport] at h
    split at h
    · exact Option.some.inj h ▸ rfl
    · split at h
      · exact Option.some.inj h ▸ rfl
      · split at h
        · cases h
        · exact Option.some.inj h ▸ rfl
  | jitMultithread =>
    simp only [reported, multithreadReport] at h
    split at h
    · exact Option.some.inj h ▸ rfl
    · split at h
      · exact basicReport_isObject h
      · split at h
        · exact Option.some.inj h ▸ rfl
        · split at h
          · exact basicReport_isObject h
          · split at h
            · exact basicReport_isObject h
            · split at h <;> exact Option.some.inj h ▸ rfl
  | signalResume =>
    simp only [reported, signalReport] at h
    split at h
    · exact Option.some.inj h ▸ rfl
    · split at h
      · cases h
      · cases h
      · exact Option.some.inj h ▸ rfl
  | dlopenBundle =>
    obtain rfl := Option.some.inj h
    unfold dylibReport
    split_ifs
    · rfl
    · rfl
    · cases c.dylib.dlopen <;> rfl
  | unixSocket =>
    simp only [reported, socketReport] at h
    split at h
    · cases h
    · exact Option.some.inj h ▸ rfl
  | sharedMapping => exact Option.some.inj h ▸ helperReport_isObject _ _ _
  | helperSpawn => exact Option.some.inj h ▸ helperReport_isObject _ _ _
  | helperIpc => exact Option.some.inj h ▸ helperReport_isObject _ _ _
  | lifecycleJit =>
    obtain rfl := Option.some.inj h
    unfold lifecycleReport
    split_ifs <;> rfl

/-- The callback gets one complete object in which every string reads back as the probe's own, exactly
when the run is clear; for the path probe the strings are the configured ones. -/
theorem details_object_iff {b : Build} {g : Configuration} (hg : Configured b.target g) (c : Calls) (p : Probe) :
    (∃ r ms, graftRunProbe b g c p.name = some r ∧ reported b g c p = some (.obj ms) ∧
      readDetails r.detailsJson = some (.obj ms)) ↔ Clear b g c p := by
  rw [← probeFn_faithful_iff hg]
  simp only [graftRunProbe, findProbe_name, Option.map_some, Option.some.injEq]
  constructor
  · rintro ⟨r, ms, rfl, hr, hd⟩
    exact ⟨_, hr, hd⟩
  · rintro ⟨j, hr, hd⟩
    have ho := reported_isObject hr
    cases j with
    | obj ms => exact ⟨_, ms, rfl, hr, hd⟩
    | _ => cases ho

def noFault : FaultCalls := ⟨none, none, none, none, none, none, none, 0, none⟩

def failedExchange (mode : Mode) : Exchange mode where
  pad _ := 0
  events := [.failed]
  final := (Host.initial mode fun _ => 0).fail
  ok := false
  run := by cases mode <;> rfl
  ended := by cases mode <;> rfl

def sampleCalls (socketpair : Option SysError) (dlopen : Except (Option CString) Unit) : Calls where
  paths := ⟨none, none⟩
  page := ⟨4096, 4096, none, none, fun _ => none, none, none, none⟩
  basic := ⟨⟨4096, .ok 65536, .ok 65536⟩, ⟨none, 0⟩, none, 42, none⟩
  protect := ⟨⟨4096, .ok 65536, .ok 65536⟩, ⟨none, 0⟩, none, 1, ⟨none, 0⟩, none, 10, none⟩
  threads := ⟨⟨⟨4096, .ok 65536, .ok 65536⟩, ⟨none, 0⟩, none, 42, none⟩, ⟨4096, .ok 65536, .ok 65536⟩,
    ⟨none, 0⟩, none, none, none, false, fun _ => ⟨none, 0, none⟩, none⟩
  signals := ⟨none, none, (noFault, noFault), (noFault, noFault), none, none, none, .none⟩
  dylib := ⟨dlopen, some 64, false, none⟩
  socket := ⟨socketpair, some socketRequest, some socketResponse, true, none⟩
  helper mode := ⟨none, none, none, none, none, .ok 77, failedExchange mode, ⟨0, 0, 0, 0⟩, some (.exited 0), none⟩
  lifecycle := .initial
  prepareError_lt := by decide
  lifecycleCall := 42

def bundleConfiguration : Configuration := { Configuration.initial with dylibPath := cstr "/app/Graft.dylib" }

lemma configured_bundle : Configured .macos bundleConfiguration := by
  have h : configureDylib .macos (some (cstr "/app/Graft.dylib")) .initial = some bundleConfiguration := by
    decide
  exact .dylib .initial h

def unloadedCalls : Calls := sampleCalls none (.error (some (cstr "image not found")))

lemma clear_bundle : Clear ⟨.macos, true⟩ bundleConfiguration unloadedCalls .dlopenBundle := by
  rintro - -
  refine ⟨by unfold Printable; decide +kernel, ?_⟩
  intro error h
  obtain rfl := Except.error.inj h
  exact ⟨by unfold Printable; decide +kernel, by decide +kernel⟩

theorem details_object_iff_bundle :
    ∃ r ms, graftRunProbe ⟨.macos, true⟩ bundleConfiguration unloadedCalls Probe.dlopenBundle.name = some r ∧
      reported ⟨.macos, true⟩ bundleConfiguration unloadedCalls .dlopenBundle = some (.obj ms) ∧
      readDetails r.detailsJson = some (.obj ms) :=
  (details_object_iff (b := ⟨.macos, true⟩) configured_bundle unloadedCalls .dlopenBundle).mpr clear_bundle

def emfile : SysError := ⟨EMFILE, by decide, by decide⟩

def quotedPath : CString := cstr "/a\"b"

def quotedConfiguration : Configuration := { Configuration.initial with dylibPath := quotedPath }

/-- Without a socket pair the details are empty, and a quote in an accepted path ends the string early. -/
theorem details_broken :
    (graftRunProbe ⟨.linux, true⟩ .initial (sampleCalls (some emfile) (.ok ())) "unix_socket").map
        (fun r => (readDetails r.detailsJson).isSome) = some false ∧
      configureDylib .macos (some quotedPath) .initial = some quotedConfiguration ∧
      (graftRunProbe ⟨.macos, true⟩ quotedConfiguration (sampleCalls none (.ok ())) "dlopen_bundle").map
        (fun r => (readDetails r.detailsJson).isSome) = some false := by
  refine ⟨by decide, by decide, by decide +kernel⟩

end Graft64.Platform.Probes
