import Graft64.Platform.HelperProbe
import Graft64.Platform.Lifecycle

/-! The other probes, and the call that runs one of them. -/

namespace Graft64.Platform.Probes

open Jit

/-- `return errno` before any text is set. -/
def returnErrno (e : Errno) : ProbeReturn := ⟨e, e, [], []⟩

def blockedOr (e : Errno) : ℤ := if e = EACCES ∨ e = EPERM then PROBE_INTERNAL_BLOCKED else e

def notArm64 : ProbeReturn :=
  report PROBE_INTERNAL_SKIP
    0 "Requires an arm64 device" (cstr "\x7b\"reason\":\"host architecture is not arm64\"\x7d")

/-- The 16 bytes of an `LC_UUID` command. -/
structure Uuid where
  bytes : List UInt8
  length_eq : bytes.length = 16

def hexDigit (n : ℕ) : UInt8 := UInt8.ofNat (if n < 10 then 48 + n else 55 + n)

/-- The conversion `%02X` of a byte. -/
def hexByte (b : UInt8) : CString := [hexDigit (b.toNat / 16), hexDigit (b.toNat % 16)]

def hexBytes (bs : List UInt8) : CString := bs.flatMap hexByte

/-- `uuid` is `none` when no command with a UUID was found in the header of the image. -/
def binaryUuid (t : Target) (uuid : Option Uuid) : CString :=
  match t.apple, uuid with
  | true, some u =>
    hexBytes (u.bytes.take 4) ++ cstr "-" ++ hexBytes ((u.bytes.drop 4).take 2) ++ cstr "-" ++
      hexBytes ((u.bytes.drop 6).take 2) ++ cstr "-" ++ hexBytes ((u.bytes.drop 8).take 2) ++ cstr "-" ++
      hexBytes (u.bytes.drop 10)
  | _, _ => cstr "unavailable"

structure PathCalls where
  /-- `_NSGetExecutablePath`; `none` when the path does not fit its buffer. -/
  executablePath : Option CString
  uuid : Option Uuid

def executablePath (t : Target) (path : Option CString) : CString :=
  if t.apple then path.getD (cstr "path-too-long") else cstr "unavailable"

def pathContextMissing (g : Configuration) : Bool :=
  g.guestBundleRoot.isEmpty || g.runtimeRoot.isEmpty || g.dataRoot.isEmpty || g.cacheRoot.isEmpty

def observationMissing (g : Configuration) : Bool :=
  g.bundleUrl.isEmpty || g.bundleExecutableUrl.isEmpty || g.argv0.isEmpty || g.currentWorkingDirectory.isEmpty ||
    g.homeDirectory.isEmpty || g.documentsDirectory.isEmpty || g.libraryDirectory.isEmpty ||
    g.temporaryDirectory.isEmpty || g.appVersion.isEmpty || g.livecontainerEvidence.isEmpty

def pathsDetails (t : Target) (g : Configuration) (c : PathCalls) : CString :=
  cstr "\x7b\"source\":\"host_context\",\"guest_bundle_root\":\"" ++ g.guestBundleRoot ++
    cstr "\",\"runtime_root\":\"" ++ g.runtimeRoot ++ cstr "\",\"data_root\":\"" ++ g.dataRoot ++
    cstr "\",\"cache_root\":\"" ++ g.cacheRoot ++ cstr "\",\"ns_get_executable_path\":\"" ++
    executablePath t c.executablePath ++ cstr "\",\"bundle_url\":\"" ++ g.bundleUrl ++
    cstr "\",\"bundle_executable_url\":\"" ++ g.bundleExecutableUrl ++ cstr "\",\"argv0\":\"" ++ g.argv0 ++
    cstr "\",\"current_working_directory\":\"" ++ g.currentWorkingDirectory ++ cstr "\",\"home_directory\":\"" ++
    g.homeDirectory ++ cstr "\",\"documents_directory\":\"" ++ g.documentsDirectory ++
    cstr "\",\"library_directory\":\"" ++ g.libraryDirectory ++ cstr "\",\"temporary_directory\":\"" ++
    g.temporaryDirectory ++ cstr "\",\"binary_uuid\":\"" ++ binaryUuid t c.uuid ++ cstr "\",\"app_version\":\"" ++
    g.appVersion ++ cstr "\",\"livecontainer_evidence\":\"" ++ g.livecontainerEvidence ++ cstr "\"\x7d"

def runtimePaths (t : Target) (g : Configuration) (c : PathCalls) : ProbeReturn :=
  if pathContextMissing g then
    report PROBE_INTERNAL_SKIP 0 "Explicit runtime path context is missing"
      (cstr "\x7b\"reason\":\"path_context_missing\",\"required\":[\"guest_bundle_root\",\"runtime_root\",\"data_root\",\"cache_root\"]\x7d")
  else if observationMissing g then
    report PROBE_INTERNAL_SKIP 0 "Runtime observation metadata is missing"
      (cstr "\x7b\"reason\":\"runtime_observation_missing\"\x7d")
  else report 0 0 "Resolved explicit runtime path context" (pathsDetails t g c)

structure PageCalls where
  getpagesize : Int32
  sysconf : Int64
  errno : Option SysError
  mmap : Option SysError
  offsets : Fin 16 → Option SysError
  first : Option SysError
  second : Option SysError
  munmap : Option SysError

def result (o : Option SysError) : ℤ := if o.isSome then -1 else 0

def recorded (o : Option SysError) : ℕ := (o.map SysError.errno).getD 0

def logicalPageSize : ℕ := 4096
def regionSize : ℕ := 64 * 1024

def mappingSize (page : ℕ) : ℕ := (regionSize + page - 1) / page * page

def PageCalls.page (c : PageCalls) : ℕ := c.getpagesize.toInt.toNat

def PageCalls.applicable (c : PageCalls) : Bool := decide (logicalPageSize < c.page)

def PageCalls.separable (c : PageCalls) : Bool := c.applicable && c.first.isNone && c.second.isNone

def PageCalls.distinct (c : PageCalls) : Bool := decide (c.page ≤ logicalPageSize) || c.separable

def PageCalls.successes (c : PageCalls) : ℕ := (List.finRange 16).countP fun i => (c.offsets i).isNone

def pageHead (c : PageCalls) : CString :=
  cstr "\x7b\"getpagesize\":" ++ fmtInt c.page ++ cstr ",\"sysconf_pagesize\":" ++ fmtInt c.sysconf.toInt ++
    cstr ",\"allocation_granularity\":" ++ fmtInt c.page ++ cstr ",\"logical_page_size\":" ++
    fmtInt logicalPageSize ++ cstr ",\"region_size\":" ++ fmtInt regionSize ++ cstr ",\"mapping_size\":" ++
    fmtInt (mappingSize c.page) ++ cstr ",\"mmap_flags\":\"MAP_PRIVATE|MAP_ANON\",\"offsets_tested\":" ++
    fmtInt (16 : ℕ) ++ cstr ",\"offset_successes\":" ++ fmtInt c.successes ++ cstr ",\"offset_results\":["

def pageItem (c : PageCalls) (i : Fin 16) : CString :=
  cstr "\x7b\"offset\":" ++ fmtInt (i.val * logicalPageSize : ℕ) ++ cstr ",\"result\":" ++
    fmtInt (result (c.offsets i)) ++
    cstr ",\"errno\":" ++ fmtInt (recorded (c.offsets i)) ++ cstr "\x7d"

def pageTail (c : PageCalls) : CString :=
  cstr "],\"same_host_page_test\":\x7b\"applicable\":" ++ fmtBool c.applicable ++
    cstr ",\"first_offset\":0,\"first_result\":" ++ fmtInt (result c.first) ++ cstr ",\"first_errno\":" ++
    fmtInt (recorded c.first) ++ cstr ",\"second_offset\":" ++ fmtInt logicalPageSize ++
    cstr ",\"second_result\":" ++ fmtInt (result c.second) ++ cstr ",\"second_errno\":" ++
    fmtInt (recorded c.second) ++ cstr "\x7d,\"same_host_page_logical_permissions_separable\":" ++
    fmtBool c.separable ++ cstr ",\"distinct_4k_permissions_supported\":" ++ fmtBool c.distinct ++ cstr "\x7d"

/-- One more `snprintf` after what is in the buffer; `none` when it does not fit. -/
def appendText (used : Option CString) (text : CString) : Option CString :=
  used.bind fun u => if text.length < detailsSize - u.length then some (u ++ text) else none

def pagePieces (c : PageCalls) : List CString :=
  pageHead c :: (List.finRange 16).map (fun i => (if i = 0 then [] else cstr ",") ++ pageItem c i) ++ [pageTail c]

def pageModel (t : Target) (c : PageCalls) : ProbeReturn :=
  if c.getpagesize ≤ 0 ∨ c.sysconf ≤ 0 then
    let e := (c.errno.map SysError.errno).getD EINVAL
    report e e "Host page size query failed"
      (cstr "\x7b\"stage\":\"page_size\",\"os_error\":" ++ fmtInt e ++ cstr "\x7d")
  else match c.mmap with
  | some e =>
    report e.errno e.errno "64 KiB page-model mapping failed"
      (cstr "\x7b\"stage\":\"mmap\",\"region_size\":" ++ fmtInt regionSize ++ cstr ",\"mapping_size\":" ++
        fmtInt (mappingSize c.page) ++ cstr ",\"os_error\":" ++ fmtInt e.errno ++ cstr "\x7d")
  | none =>
    match (pagePieces c).foldl appendText (some []) with
    | none =>
      report (EOVERFLOW t) (EOVERFLOW t) "Page-model evidence exceeded its JSON buffer"
        (cstr "\x7b\"stage\":\"serialize\",\"os_error\":" ++ fmtInt (EOVERFLOW t) ++ cstr "\x7d")
    | some text =>
      -- `errno` is cleared before the second of the two calls, not after it
      report 0 (lastError 0 [c.second, c.munmap])
        (if c.distinct then "64 KiB page model measured; distinct 4 KiB permissions supported"
        else "64 KiB page model measured; same-host-page 4 KiB permissions are not separable") text

structure AllocCalls where
  page : Size
  mmap : Except SysError ℕ
  fallback : Except SysError ℕ

/-- The failure that the iOS fallback hides. -/
def AllocCalls.hidden (t : Target) (c : AllocCalls) : Option SysError :=
  match t, c.mmap with
  | .ios, .error e => some e
  | _, _ => none

def AllocCalls.outcome (c : AllocCalls) : AllocOutcome :=
  ⟨c.mmap.mapError SysError.errno, c.fallback.mapError SysError.errno⟩

structure WriteCalls where
  mprotect : Option SysError
  callback : Int32

def WriteCalls.outcome (c : WriteCalls) : WriteOutcome := ⟨c.mprotect.map SysError.errno, c.callback.toInt⟩

def status (r : Except Errno Unit) : ℤ :=
  match r with
  | .ok () => 0
  | .error _ => -1

def movRet (imm : List UInt8) : List UInt8 := imm ++ [0xC0, 0x03, 0x5F, 0xD6]

/-- `mov w0,#1` and `mov w0,#10`, each followed by `ret`. -/
def returnOne : List UInt8 := movRet [0x20, 0x00, 0x80, 0x52]
def returnTen : List UInt8 := movRet [0x40, 0x01, 0x80, 0x52]

def errnoAfter (e : Errno) (r : Except Errno Unit) : Errno :=
  match r with
  | .error e' => e'
  | .ok () => e

structure BasicCalls where
  alloc : AllocCalls
  write : WriteCalls
  commit : Option SysError
  call : Int32
  munmap : Option SysError

def backendName (w : World) : String := if w.region.backend = 2 then "anonymous_rw_rx" else "MAP_JIT"

def errnoOf (r : Except Errno Unit) (errno : Option SysError) : Errno :=
  match r with
  | .error e => e
  | .ok () => recorded errno

def jitBasic (b : Build) (c : BasicCalls) : ProbeReturn :=
  if b.arm64 = false then notArm64
  else match graftJitAlloc b.target c.alloc.page c.alloc.outcome 4096 .empty with
  | (.error e, _) =>
    report (blockedOr e) e "JIT allocation failed"
      (cstr "\x7b\"errno\":" ++ fmtInt e ++ cstr ",\"jit_enabled\":false\x7d")
  | (.ok (), w) => match graftJitWrite b.target c.write.outcome 0 Lifecycle.code 8 w with
    | (.error e, _) => returnErrno (lastError e [c.munmap])
    | (.ok (), w) =>
      let invalidate := status (graftJitInvalidate 0 8 w)
      let committed := graftJitCommit b.target (c.commit.map SysError.errno) w
      let protect := status committed.1
      let value := if protect = 0 then c.call.toInt else -1
      let operationError := errnoOf committed.1 (c.alloc.hidden b.target)
      if invalidate ≠ 0 ∨ protect ≠ 0 ∨ value ≠ 42 then
        report
          (if protect = -1 ∧ (operationError = EACCES ∨ operationError = EPERM) then PROBE_INTERNAL_BLOCKED
          else EACCES) operationError "JIT function did not return 42"
          (cstr "\x7b\"invalidate\":" ++ fmtInt invalidate ++ cstr ",\"protect\":" ++ fmtInt protect ++
            cstr ",\"value\":" ++ fmtInt value ++ cstr ",\"errno\":" ++ fmtInt operationError ++
            cstr ",\"backend\":\"" ++ cstr (backendName w) ++ cstr "\"\x7d")
      else
        report 0 (lastError operationError [c.munmap]) "Executed ARM64 JIT function"
          (cstr "\x7b\"return_value\":42,\"backend\":\"" ++ cstr (backendName w) ++ cstr "\"\x7d")

structure ProtectCalls where
  alloc : AllocCalls
  write : WriteCalls
  commit : Option SysError
  call : Int32
  rewrite : WriteCalls
  recommit : Option SysError
  called : Int32
  munmap : Option SysError

def jitWriteProtect (b : Build) (c : ProtectCalls) : ProbeReturn :=
  if b.arm64 = false then notArm64
  else match graftJitAlloc b.target c.alloc.page c.alloc.outcome 4096 .empty with
  | (.error e, _) =>
    report (blockedOr e) e "JIT write-protect allocation failed"
      (cstr "\x7b\"stage\":\"alloc\",\"os_error\":" ++ fmtInt e ++ cstr "\x7d")
  | (.ok (), w) => match graftJitWrite b.target c.write.outcome 0 returnOne 8 w with
    | (.error e, _) => returnErrno (lastError e [c.munmap])
    | (.ok (), w) =>
      let (rx1, w) := graftJitCommit b.target (c.commit.map SysError.errno) w
      let first := if status rx1 = 0 then c.call.toInt else -1
      let (rw, w) := graftJitWrite b.target c.rewrite.outcome 0 returnTen 8 w
      let (rx2, _) := graftJitCommit b.target (c.recommit.map SysError.errno) w
      let second := if status rx2 = 0 then c.called.toInt else -1
      let errno := errnoAfter (errnoAfter (errnoOf rx1 (c.alloc.hidden b.target)) rw) rx2
      report (if first = 1 ∧ second = 10 ∧ status rw = 0 then 0 else EACCES) (lastError errno [c.munmap])
        "JIT write/execute transitions completed"
        (cstr "\x7b\"first\":" ++ fmtInt first ++ cstr ",\"second\":" ++ fmtInt second ++
          cstr ",\"begin_write\":" ++
          fmtInt (status rw) ++ cstr "\x7d")

structure ThreadCalls where
  create : Option SysError
  failures : Fin 1001
  join : Option SysError

structure ThreadsCalls where
  basic : BasicCalls
  alloc : AllocCalls
  write : WriteCalls
  commit : Option SysError
  writerCreate : Option SysError
  writerJoin : Option SysError
  writerFails : Bool
  threads : Fin 4 → ThreadCalls
  munmap : Option SysError

/-- The last thread that could not be started, or else the first that could not be joined. -/
def threadErrors (c : ThreadsCalls) : ℕ :=
  let created := (List.finRange 4).foldl
    (fun n i => if (c.threads i).create.isSome then recorded (c.threads i).create else n) 0
  (List.finRange 4).foldl
    (fun n i => if (c.threads i).create.isNone ∧ n = 0 then recorded (c.threads i).join else n) created

def threadFailures (c : ThreadsCalls) : ℕ :=
  ((List.finRange 4).map fun i => if (c.threads i).create.isSome then 1 else (c.threads i).failures.val).sum

def jitMultithread (b : Build) (c : ThreadsCalls) : ProbeReturn :=
  let basic := jitBasic b c.basic
  if b.arm64 = false then notArm64
  else if basic.rc ≠ 0 then basic
  else match graftJitAlloc b.target c.alloc.page c.alloc.outcome 4096 .empty with
  | (.error e, _) =>
    report (blockedOr e) e "Multithread JIT allocation failed"
      (cstr "\x7b\"stage\":\"alloc\",\"os_error\":" ++ fmtInt e ++ cstr "\x7d")
  | (.ok (), w) => match graftJitWrite b.target c.write.outcome 0 Lifecycle.code 8 w with
    | (.error e, _) => { basic with rc := lastError e [c.munmap], errno := lastError e [c.munmap] }
    | (.ok (), w) => match graftJitCommit b.target (c.commit.map SysError.errno) w with
      | (.error e, _) => { basic with rc := EACCES, errno := lastError e [c.munmap] }
      | (.ok (), w) =>
        let errno := lastError basic.errno [c.alloc.hidden b.target, c.munmap]
        match c.writerCreate, c.writerJoin with
        | some e, _ =>
          report e.errno errno "JIT writer thread failed"
            (cstr "\x7b\"stage\":\"writer_" ++ cstr "create" ++ cstr "\",\"os_error\":" ++
              fmtInt e.errno ++ cstr "\x7d")
        | none, some e =>
          report e.errno errno "JIT writer thread failed"
            (cstr "\x7b\"stage\":\"writer_" ++ cstr "join" ++ cstr "\",\"os_error\":" ++
              fmtInt e.errno ++ cstr "\x7d")
        | none, none =>
          let errors := threadErrors c
          let failures := threadFailures c + c.writerFails.toNat + (decide (errors ≠ 0)).toNat
          report (if failures = 0 then 0 else EIO) errno "Four-thread JIT execution completed"
            (cstr "\x7b\"threads\":4,\"iterations_per_thread\":1000,\"failures\":" ++ fmtInt failures ++
              cstr ",\"backend\":" ++ fmtInt w.region.backend ++ cstr ",\"writer_thread_transition\":" ++
              fmtBool (!(c.writerFails || decide (errors ≠ 0))) ++ cstr ",\"stage\":\"" ++
              cstr (if errors = 0 then "complete" else "thread_join") ++ cstr "\",\"os_error\":" ++
                fmtInt errors ++
              cstr "\x7d")

def SIGSEGV : Int32 := 11
def SIGBUS (t : Target) : Int32 := if t.apple then 10 else 7

/-- What the handler records, and the address it resumes at, of one thread. -/
structure Fault where
  signal : Int32
  address : UInt64
  faultPc : UInt64
  recoveryPc : UInt64
  deriving DecidableEq

def Fault.none : Fault := ⟨0, 0, 0, 0⟩

structure FaultCalls where
  stack : Option SysError
  sigaltstack : Option SysError
  access : Option SysError
  mkstemp : Option SysError
  mmap : Option SysError
  close : Option SysError
  /-- The signal that arrives, if any, with its address and program counter. -/
  fault : Option (Int32 × UInt64 × UInt64)
  recovered : UInt64
  /-- The last of the other calls that failed: nothing looks at their results. -/
  ignored : Option SysError

def FaultCalls.cacheWritable (c : FaultCalls) : Bool := c.access.isNone

def signalPath (g : Configuration) (cacheWritable : Bool) : CString :=
  HelperProbe.sharedDir g cacheWritable ++ cstr "/.graft64-signal-XXXXXX"

/-- The result, and what the thread's variables hold afterwards. -/
def signalResumeOnce (t : Target) (g : Configuration) (expected : Int32) (c : FaultCalls) (f : Fault) :
    ℕ × Fault :=
  match c.stack, c.sigaltstack with
  | some e, _ => (e.errno, f)
  | none, some e => (e.errno, f)
  | none, none =>
    let armed : Fault := ⟨0, 0, 0, c.recovered⟩
    if expected = SIGBUS t ∧ PATH_MAX t ≤ (signalPath g c.cacheWritable).length then (ENAMETOOLONG t, armed)
    else if expected = SIGBUS t ∧ c.mkstemp.isSome then (recorded c.mkstemp, armed)
    else if expected = SIGBUS t ∧ c.mmap.isSome then (lastError (recorded c.mmap) [c.close], armed)
    else match c.fault with
    | none => (EFAULT, armed)
    | some (signal, address, pc) =>
      (if signal = expected then 0 else EFAULT, ⟨signal, address, pc, c.recovered⟩)

def onceErrno (t : Target) (g : Configuration) (expected : Int32) (c : FaultCalls) (e : Errno) : Errno :=
  match c.stack, c.sigaltstack with
  | some e', _ => e'.errno
  | none, some e' => lastError e'.errno [c.ignored]
  | none, none =>
    if expected = SIGBUS t then
      let path := HelperProbe.accessError g c.access
      if PATH_MAX t ≤ (signalPath g c.cacheWritable).length then lastError e [path, c.ignored]
      else match c.mkstemp with
      | some e' => lastError e'.errno [c.ignored]
      | none => lastError e [path, c.mmap, c.close, c.ignored]
    else lastError e [c.ignored]

/-- `signal_worker_result`; the pairs hold what SIGSEGV and SIGBUS left. -/
structure WorkerResult where
  result : ℕ
  segv : Bool
  bus : Bool
  fault : Fault × Fault

/-- The body of `signal_worker`, which the main thread runs too, from what its variables hold. -/
def signalWorker (t : Target) (g : Configuration) (f : Fault) (c : FaultCalls × FaultCalls) : WorkerResult :=
  let (r, f) := signalResumeOnce t g SIGSEGV c.1 f
  let (r', f') := signalResumeOnce t g (SIGBUS t) c.2 f
  ⟨if r = 0 then r' else r, f.signal == SIGSEGV, f'.signal == SIGBUS t, (f, f')⟩

structure SignalCalls where
  sigactionSegv : Option SysError
  sigactionBus : Option SysError
  main : FaultCalls × FaultCalls
  worker : FaultCalls × FaultCalls
  create : Option SysError
  restoreSegv : Option SysError
  restoreBus : Option SysError
  /-- What an earlier run left in the variables of the main thread. -/
  left : Fault

def threadDetails (r : WorkerResult) : CString :=
  cstr "\x7b\"segv\":" ++ fmtBool r.segv ++ cstr ",\"bus\":" ++ fmtBool r.bus ++ cstr ",\"fault_address_segv\":" ++
    fmtInt r.fault.1.address.toNat ++ cstr ",\"fault_address_bus\":" ++ fmtInt r.fault.2.address.toNat ++
    cstr ",\"original_pc_segv\":" ++ fmtInt r.fault.1.faultPc.toNat ++ cstr ",\"original_pc_bus\":" ++
    fmtInt r.fault.2.faultPc.toNat ++ cstr ",\"recovery_pc_segv\":" ++ fmtInt r.fault.1.recoveryPc.toNat ++
    cstr ",\"recovery_pc_bus\":" ++ fmtInt r.fault.2.recoveryPc.toNat ++ cstr "\x7d"

def workerResult (t : Target) (g : Configuration) (c : SignalCalls) : WorkerResult :=
  match c.create with
  | some e => ⟨e.errno, false, false, (.none, .none)⟩
  | none => signalWorker t g .none c.worker

def signalResume (b : Build) (g : Configuration) (c : SignalCalls) : ProbeReturn :=
  if b.arm64 = false then
    report PROBE_INTERNAL_SKIP 0 "Requires an arm64 device"
      (cstr "\x7b\"status\":\"unverified\",\"next_step\":\"Run on arm64 device and capture ucontext\"\x7d")
  else match c.sigactionSegv, c.sigactionBus with
  | some e, _ => returnErrno e.errno
  | none, some e => returnErrno e.errno
  | none, none =>
    let main := signalWorker b.target g c.left c.main
    let errno := onceErrno b.target g (SIGBUS b.target) c.main.2 (onceErrno b.target g SIGSEGV c.main.1 0)
    let worker := workerResult b.target g c
    let ok := decide (main.result = 0) && decide (worker.result = 0) && c.restoreSegv.isNone &&
      c.restoreBus.isNone &&
      main.segv && main.bus && worker.segv && worker.bus
    report (if ok then 0 else if main.result ≠ 0 then main.result else worker.result)
      (lastError errno [c.restoreSegv, c.restoreBus])
      (if ok then "SIGSEGV/SIGBUS recovered through TLS ucontext (main and worker)"
      else "Fault handler did not recover all signals on all threads")
      (cstr "\x7b\"signals\":[\"SIGSEGV\",\"SIGBUS\"],\"main\":" ++ threadDetails main ++ cstr ",\"worker\":" ++
        threadDetails worker ++ cstr ",\"main_error\":" ++ fmtInt main.result ++ cstr ",\"worker_error\":" ++
        fmtInt worker.result ++ cstr "\x7d")

structure DylibCalls where
  /-- `dlopen`, with the text of `dlerror` when it fails. -/
  dlopen : Except (Option CString) Unit
  value : Option Int32
  error : Bool
  dlclose : Option SysError

def dlopenBundle (t : Target) (g : Configuration) (c : DylibCalls) : ProbeReturn :=
  if t.apple = false then
    report PROBE_INTERNAL_SKIP 0 "Bundle dylib probe requires Darwin" (cstr "\x7b\"status\":\"unverified\"\x7d")
  else if g.dylibPath = [] then
    report PROBE_INTERNAL_SKIP 0 "Bundle dylib path is not configured"
      (cstr "\x7b\"status\":\"unverified\",\"next_step\":\"Configure GraftProbeTest.dylib path from app bundle\"\x7d")
  else match c.dlopen with
  | .error error =>
    report EFAULT 0 "dlopen failed"
      (cstr "\x7b\"path\":\"" ++ g.dylibPath ++ cstr "\",\"error\":\"" ++ error.getD (cstr "unknown") ++
        cstr "\"\x7d")
  | .ok () =>
    let result := (c.value.map Int32.toInt).getD (-1)
    if c.error = true ∨ result ≠ 64 then
      report EFAULT 0 "dlsym validation failed"
        (cstr "\x7b\"path\":\"" ++ g.dylibPath ++ cstr "\",\"return_value\":" ++ fmtInt result ++ cstr "\x7d")
    else
      report 0 (lastError 0 [c.dlclose]) "Loaded and called bundled dylib"
        (cstr "\x7b\"path\":\"" ++ g.dylibPath ++ cstr "\",\"return_value\":64\x7d")

/-- The outcomes of the socket probe; a transfer is `none` when it fails or times out. -/
structure SocketCalls where
  socketpair : Option SysError
  requestRead : Option CString
  responseRead : Option CString
  closeObserved : Bool
  /-- The last call that failed without failing the transfer: an interrupted one, or a `close`. -/
  ignored : Option SysError

def socketRequest : CString := cstr "graft64-request" ++ [0]
def socketResponse : CString := cstr "graft64-response" ++ [0]

def unixSocketProbe (c : SocketCalls) : ProbeReturn :=
  match c.socketpair with
  | some e => returnErrno e.errno
  | none =>
    let requestOk := c.requestRead == some socketRequest
    let responseOk := requestOk && c.responseRead == some socketResponse
    let closeOk := responseOk && c.closeObserved
    let ok := requestOk && responseOk && closeOk
    report (if ok then 0 else EIO) (lastError 0 [c.ignored])
      (if ok then "Bidirectional Unix socket and close handling completed" else "Unix socket round trip failed")
      (cstr "\x7b\"bidirectional\":" ++ fmtBool (requestOk && responseOk) ++ cstr ",\"request_bytes\":" ++
        fmtInt socketRequest.length ++ cstr ",\"response_bytes\":" ++ fmtInt socketResponse.length ++
        cstr ",\"deadline_ms\":2000,\"peer_close_observed\":" ++ fmtBool closeOk ++ cstr "\x7d")

/-- The table of probes, in its order. -/
inductive Probe
  | runtimePaths | pageModel | jitBasic | jitWriteProtect | jitMultithread | signalResume | dlopenBundle
  | unixSocket | sharedMapping | helperSpawn | helperIpc | lifecycleJit
  deriving DecidableEq, Repr

def Probe.name : Probe → String
  | .runtimePaths => "runtime_paths"
  | .pageModel => "page_model"
  | .jitBasic => "jit_basic"
  | .jitWriteProtect => "jit_write_protect"
  | .jitMultithread => "jit_multithread"
  | .signalResume => "signal_resume"
  | .dlopenBundle => "dlopen_bundle"
  | .unixSocket => "unix_socket"
  | .sharedMapping => "shared_mapping"
  | .helperSpawn => "helper_spawn"
  | .helperIpc => "helper_ipc"
  | .lifecycleJit => "lifecycle_jit"

def probes : List Probe :=
  [.runtimePaths, .pageModel, .jitBasic, .jitWriteProtect, .jitMultithread, .signalResume, .dlopenBundle,
    .unixSocket, .sharedMapping, .helperSpawn, .helperIpc, .lifecycleJit]

def findProbe (name : String) : Option Probe := probes.find? fun p => p.name == name

structure Calls where
  paths : PathCalls
  page : PageCalls
  basic : BasicCalls
  protect : ProtectCalls
  threads : ThreadsCalls
  signals : SignalCalls
  dylib : DylibCalls
  socket : SocketCalls
  helper : (mode : Ipc.Mode) → HelperProbe.Calls mode
  lifecycle : Lifecycle.State
  prepareError_lt : lifecycle.prepareError < 2 ^ 31
  lifecycleCall : Int32

def probeFn (b : Build) (g : Configuration) (c : Calls) : Probe → ProbeReturn
  | .runtimePaths => runtimePaths b.target g c.paths
  | .pageModel => pageModel b.target c.page
  | .jitBasic => jitBasic b c.basic
  | .jitWriteProtect => jitWriteProtect b c.protect
  | .jitMultithread => jitMultithread b c.threads
  | .signalResume => signalResume b g c.signals
  | .dlopenBundle => dlopenBundle b.target g c.dylib
  | .unixSocket => unixSocketProbe c.socket
  | .sharedMapping => HelperProbe.helperRoundtrip b.target g .shared (c.helper .shared)
  | .helperSpawn => HelperProbe.helperRoundtrip b.target g .spawn (c.helper .spawn)
  | .helperIpc => HelperProbe.helperRoundtrip b.target g .ipc (c.helper .ipc)
  | .lifecycleJit => Lifecycle.lifecycleJit b c.lifecycleCall.toInt c.lifecycle

inductive ProbeStatus
  | pass | fail | skip | blocked
  deriving DecidableEq, Repr

inductive ReasonCode
  | none | invalidArgument | notSupported | jitNotEnabled | io | lifecycleWaiting | childProcess | permission
  | internal
  deriving DecidableEq, Repr

inductive ErrorCode
  | none | argument | unsupported | permission | io | internal
  deriving DecidableEq, Repr

def probeStatus (rc : ℤ) : ProbeStatus :=
  if rc = 0 then .pass else if rc = PROBE_INTERNAL_SKIP then .skip
  else if rc = PROBE_INTERNAL_BLOCKED then .blocked else .fail

def helperNamed (p : Probe) : Bool := "helper".toList.isPrefixOf p.name.toList

def reasonForResult (t : Target) (p : Probe) (status : ProbeStatus) (osError : ℤ) : ReasonCode :=
  match status with
  | .pass => .none
  | .skip => if p = .lifecycleJit then .lifecycleWaiting else .notSupported
  | .blocked => .jitNotEnabled
  | .fail =>
    if helperNamed p = true ∧ (osError = ENOENT ∨ osError = ESRCH) then .childProcess
    else if osError = EACCES ∨ osError = EPERM then .permission
    else if osError = EINVAL then .invalidArgument
    else if osError = EIO ∨ osError = EPIPE ∨ osError = ETIMEDOUT t then .io
    else if helperNamed p then .childProcess
    else .internal

def graftErrorForResult (status : ProbeStatus) (osError : ℤ) : ErrorCode :=
  if status = .pass then .none
  else if status = .skip then .unsupported
  else if status = .blocked ∧ osError ≠ 0 then .permission
  else if osError = EACCES ∨ osError = EPERM then .permission
  else if osError = EINVAL then .argument
  else if osError ≠ 0 then .io
  else .internal

/-- What the callback is given, apart from the duration. -/
structure ProbeResult where
  name : String
  status : ProbeStatus
  reasonCode : ReasonCode
  graftError : ErrorCode
  osError : ℤ
  summary : CString
  detailsJson : CString

/-- `graft_run_probe` with a callback; `none` when there is no probe of that name. -/
def graftRunProbe (b : Build) (g : Configuration) (c : Calls) (name : String) : Option ProbeResult :=
  (findProbe name).map fun p =>
    let r := probeFn b g c p
    let status := probeStatus r.rc
    let osError : ℤ := if 0 < r.rc then r.rc else r.errno
    { name := p.name
      status := status
      reasonCode := reasonForResult b.target p status osError
      graftError := graftErrorForResult status osError
      osError := osError
      summary := r.summary
      detailsJson := r.details }

def graftRunAllProbes (b : Build) (g : Configuration) (c : Calls) : List ProbeResult :=
  probes.filterMap fun p => graftRunProbe b g c p.name

lemma findProbe_name (p : Probe) : findProbe p.name = some p := by cases p <;> decide

end Graft64.Platform.Probes
