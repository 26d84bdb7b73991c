import Graft64.Platform.Configuration
import Graft64.Platform.Ipc.Host
import Graft64.Platform.ProbeReturn

/-! `helper_roundtrip`: the probes that start the helper and talk to it. -/

namespace Graft64.Platform.HelperProbe

open Graft64.Library Ipc

inductive WaitStatus
  | exited (code : UInt8)
  | signaled
  deriving DecidableEq

structure Calls (mode : Mode) where
  socketpair : Option SysError
  /-- `access(g_cache_root, W_OK)`. -/
  access : Option SysError
  mkstemp : Option SysError
  ftruncate : Option SysError
  mmap : Option SysError
  spawn : Except SysError Int32
  exchange : Exchange mode
  page : SharedState
  wait : Option WaitStatus
  /-- The last of the later calls that failed without ending the round trip, such as an interrupted `read`. -/
  ignored : Option SysError

def Calls.cacheWritable {mode : Mode} (c : Calls mode) : Bool := c.access.isNone

def accessError (g : Configuration) (access : Option SysError) : Option SysError :=
  if g.cacheRoot = [] then none else access

def sharedDir (g : Configuration) (cacheWritable : Bool) : CString :=
  if g.cacheRoot ≠ [] ∧ cacheWritable = true then g.cacheRoot else cstr "/tmp"

def sharedOk (pid : Int32) (count : ℕ) (page : SharedState) : Bool :=
  page.parentMagic == PARENT_MAGIC && page.helperMagic == HELPER_MAGIC &&
    page.helperPid == pid.toInt64.toUInt64 && decide (count ≤ page.heartbeat.toNat)

def exitedOk (wait : Option WaitStatus) : Bool := wait == some (.exited 0)

def exitCode : Option WaitStatus → ℕ
  | some (.exited code) => code.toNat
  | _ => 128

def helloOk (hello : HelloPayload) : Bool :=
  decide (0 < hello.pid) && decide (0 < hello.pageSize) && hello.nonce != 0

def modeName : Mode → String
  | .spawn => "spawn"
  | .shared => "shared_mapping"
  | .ipc => "ipc"

def successSummary : Mode → String
  | .spawn => "Bundled helper spawned and exited cleanly"
  | .shared => "Cross-process shared mapping completed"
  | .ipc => "Persistent bidirectional helper IPC completed"

def stageFailure (summary stage : String) (e : Errno) : ProbeReturn :=
  report e e summary (cstr "\x7b\"stage\":\"" ++ cstr stage ++ cstr "\",\"os_error\":" ++ fmtInt e ++ cstr "\x7d")

def resultOk {mode : Mode} (c : Calls mode) (pid : Int32) : Bool :=
  c.exchange.ok && exitedOk c.wait && helloOk (decodeHello c.exchange.final.hello) &&
    (mode == .spawn || sharedOk pid (requests mode).length c.page)

def roundtripDetails {mode : Mode} (c : Calls mode) (dir : CString) (pid : Int32) : CString :=
  let hello := decodeHello c.exchange.final.hello
  cstr "\x7b\"mode\":\"" ++ cstr (modeName mode) ++ cstr "\",\"spawned\":true,\"request_count\":" ++
    fmtInt (requests mode).length ++ cstr ",\"persistent_requests\":" ++ fmtInt ((requests mode).length - 1 : ℕ) ++
    cstr ",\"exit_code\":" ++ fmtInt (exitCode c.wait) ++ cstr ",\"wait_completed\":" ++ fmtBool c.wait.isSome ++
    cstr ",\"pid\":" ++ fmtInt hello.pid.toInt ++ cstr ",\"page_size\":" ++ fmtInt hello.pageSize.toNat ++
    cstr ",\"nonce_present\":" ++ fmtBool (hello.nonce != 0) ++ cstr ",\"shared_round_trip\":" ++
    fmtBool (sharedOk pid (requests mode).length c.page) ++
    cstr ",\"mmap_flags\":\"MAP_SHARED\",\"shared_path_root\":\"" ++ dir ++ cstr "\",\"helper_magic\":" ++
    fmtInt c.page.helperMagic.toNat ++ cstr ",\"shared_helper_pid\":" ++ fmtInt c.page.helperPid.toNat ++
    cstr ",\"heartbeat\":" ++ fmtInt c.page.heartbeat.toNat ++ cstr "\x7d"

def helperRoundtrip (t : Target) (g : Configuration) (mode : Mode) (c : Calls mode) : ProbeReturn :=
  if g.helperPath = [] then
    report PROBE_INTERNAL_SKIP 0 "Bundled helper path is not configured"
      (cstr "\x7b\"status\":\"unverified\",\"next_step\":\"Configure helper path from app bundle\"\x7d")
  else match c.socketpair with
  | some e => stageFailure "Helper socketpair failed" "socketpair" e.errno
  | none =>
    let dir := sharedDir g c.cacheWritable
    if PATH_MAX t ≤ (dir ++ cstr "/.graft64-helper-shm-XXXXXX").length then
      stageFailure "Helper shared-memory path is too long" "shared_path" (ENAMETOOLONG t)
    else match c.mkstemp, c.ftruncate, c.mmap, c.spawn with
    | some e, _, _, _ => stageFailure "Helper shared-memory file creation failed" "mkstemp" e.errno
    | none, some e, _, _ => stageFailure "Helper shared-memory resize failed" "ftruncate" e.errno
    | none, none, some e, _ => stageFailure "Helper shared-memory map failed" "mmap" e.errno
    | none, none, none, .error e => stageFailure "Helper process spawn failed" "host_adapter" e.errno
    | none, none, none, .ok pid =>
      report (if resultOk c pid then 0 else EIO) (lastError 0 [accessError g c.access, c.ignored])
        (if resultOk c pid then successSummary mode else "Helper process validation failed")
        (roundtripDetails c dir pid)

def Started (t : Target) (g : Configuration) {mode : Mode} (c : Calls mode) (pid : Int32) : Prop :=
  g.helperPath ≠ [] ∧ c.socketpair = none ∧
    (sharedDir g c.cacheWritable ++ cstr "/.graft64-helper-shm-XXXXXX").length < PATH_MAX t ∧
    c.mkstemp = none ∧ c.ftruncate = none ∧ c.mmap = none ∧ c.spawn = .ok pid

lemma stageFailure_rc (summary stage : String) (e : SysError) :
    (stageFailure summary stage e.errno).rc ≠ 0 := by
  simpa [stageFailure] using e.errno_ne

lemma helperRoundtrip_rc {t : Target} {g : Configuration} {mode : Mode} {c : Calls mode} :
    (helperRoundtrip t g mode c).rc = 0 ↔ ∃ pid, Started t g c pid ∧ resultOk c pid = true := by
  unfold helperRoundtrip Started
  split_ifs with hpath
  · simp [hpath, PROBE_INTERNAL_SKIP]
  cases hs : c.socketpair with
  | some e => simpa using stageFailure_rc _ _ e
  | none =>
    simp only
    split_ifs with hlen
    · simp only [stageFailure, report_rc, Int.natCast_eq_zero]
      refine iff_of_false (by cases t <;> decide) ?_
      rintro ⟨pid, ⟨-, -, hlt, -⟩, -⟩
      exact absurd hlt (Nat.not_lt.mpr hlen)
    · have hlt := Nat.lt_of_not_le hlen
      cases c.mkstemp with
      | some e => simpa using stageFailure_rc _ _ e
      | none =>
        cases c.ftruncate with
        | some e => simpa using stageFailure_rc _ _ e
        | none =>
          cases c.mmap with
          | some e => simpa using stageFailure_rc _ _ e
          | none =>
            cases c.spawn with
            | error e => simpa using stageFailure_rc _ _ e
            | ok pid => simpa [hpath, EIO] using fun _ => by simpa using hlt

structure ProperReply (r : MsgHeader) (a : Response) : Prop where
  header_length : a.header.length = headerSize
  valid : validateHeader a.head = true
  requestId : a.head.requestId = r.requestId
  type : a.head.type = (reply r).type
  payload_length : a.payload.length = a.head.payloadSize.toNat
  hello : r.type = GRAFT_IPC_HELLO → a.payload.length = helloSize
  empty : r.type ≠ GRAFT_IPC_HELLO → a.payload = []

def ProperExchange {mode : Mode} (c : Calls mode) : Prop :=
  ∃ as, List.Forall₂ ProperReply (requests mode) as ∧ receivedBytes c.exchange.events = responseStream as

/-- What the code tests, of the calls and the bytes of the peer alone: the start, no transfer given up,
the loop's checks on each response, and the final test. -/
structure Accepted (t : Target) (g : Configuration) {mode : Mode} (c : Calls mode) (pid : Int32)
    (as : List Response) : Prop where
  started : Started t g c pid
  transfers : HostEvent.failed ∉ c.exchange.events
  checked : List.Forall₂ Checked (requests mode) as
  received : receivedBytes c.exchange.events = responseStream as
  hello : helloOk (decodeHello (helloAfter as)) = true
  exited : exitedOk c.wait = true
  page : (mode == .spawn || sharedOk pid (requests mode).length c.page) = true

def Matching (r : MsgHeader) (a : Response) : Prop :=
  a.head.type = (reply r).type ∧ (a.payload ≠ [] ↔ r.type = GRAFT_IPC_HELLO)

lemma helperRoundtrip_accepted {t : Target} {g : Configuration} {mode : Mode} {c : Calls mode} :
    (helperRoundtrip t g mode c).rc = 0 ↔ ∃ pid as, Accepted t g c pid as := by
  rw [helperRoundtrip_rc]
  refine exists_congr fun pid => ?_
  simp only [resultOk, Bool.and_eq_true]
  constructor
  · rintro ⟨hs, ⟨⟨hk, he⟩, ho⟩, hp⟩
    obtain ⟨hn, as, hc, hr, hh⟩ := exchange_checked hk
    exact ⟨as, hs, hn, hc, hr, hh ▸ ho, he, hp⟩
  · rintro ⟨as, hs, hn, hc, hr, ho, he, hp⟩
    have hk := (exchange_ok_iff c.exchange).mpr ⟨hn, as, hc, hr⟩
    exact ⟨hs, ⟨⟨hk, he⟩, exchange_hello hk hc hr ▸ ho⟩, hp⟩

lemma ProperReply.checked {r : MsgHeader} {a : Response} (h : ProperReply r a) : Checked r a where
  header_length := h.header_length
  valid := h.valid
  requestId := h.requestId
  payload_length := h.payload_length
  payload_size := by
    by_cases hr : r.type = GRAFT_IPC_HELLO
    · exact .inr (h.payload_length.symm.trans (h.hello hr))
    · refine .inl (UInt32.toNat_inj.mp ?_)
      rw [← h.payload_length, h.empty hr]
      rfl

lemma properReply_iff {r : MsgHeader} {a : Response} (h : Checked r a) : ProperReply r a ↔ Matching r a := by
  constructor
  · intro hp
    refine ⟨hp.type, fun hne => ?_, fun hr h0 => ?_⟩
    · by_contra hr
      exact hne (hp.empty hr)
    · have := hp.hello hr
      rw [h0] at this
      cases this
  · rintro ⟨ht, hm⟩
    refine ⟨h.header_length, h.valid, h.requestId, ht, h.payload_length, fun hr => h.payload_eq (hm.mpr hr), ?_⟩
    intro hr
    by_contra hne
    exact hr (hm.mp hne)

/-- A passing round trip met a proper exchange exactly when every accepted response matches its
request. -/
theorem helper_pass_proper_iff (t : Target) (g : Configuration) (mode : Mode) (c : Calls mode) :
    ((helperRoundtrip t g mode c).rc = 0 → ProperExchange c) ↔
      ∀ pid as, Accepted t g c pid as → List.Forall₂ Matching (requests mode) as := by
  constructor
  · intro h pid as ha
    obtain ⟨as', hp, hr⟩ := h (helperRoundtrip_accepted.mpr ⟨pid, as, ha⟩)
    have hc' : List.Forall₂ Checked (requests mode) as' := hp.imp fun _ _ => ProperReply.checked
    obtain rfl := responses_unique ha.checked hc' (ha.received.symm.trans hr)
    exact hp.imp fun _ _ hq => (properReply_iff hq.checked).mp hq
  · intro h hrc
    obtain ⟨pid, as, ha⟩ := helperRoundtrip_accepted.mp hrc
    refine ⟨as, ?_, ha.received⟩
    have hm := h pid as ha
    have hc := ha.checked
    generalize requests mode = qs at hm hc
    clear ha hrc h
    induction hc with
    | nil => exact .nil
    | cons hr _ ih =>
      cases hm with
      | cons hm hms => exact .cons ((properReply_iff hr).mpr hm) (ih hms)

def answering (as : List Response) : List HostEvent :=
  as.flatMap fun a =>
    [.wrote headerSize, .got a.header] ++ if a.payload = [] then [] else [.got a.payload]

def strayResponses : List Response :=
  ⟨encodeHeader 0 ⟨GRAFT_IPC_MAGIC, GRAFT_IPC_VERSION, 255, 24, 1⟩, encodeHello ⟨77, 4096, 9⟩⟩ ::
    [2, 3, 4, 5].map fun id => ⟨encodeHeader 0 ⟨GRAFT_IPC_MAGIC, GRAFT_IPC_VERSION, 255, 0, id⟩, []⟩

def strayRun : Option Host :=
  Runs.run (Host.step fun _ => 0) (.initial .ipc fun _ => 0) (answering strayResponses)

lemma strayRun_isSome : strayRun.isSome = true := by decide

def strayExchange : Exchange .ipc where
  pad _ := 0
  events := answering strayResponses
  final := strayRun.get strayRun_isSome
  ok := true
  run := (Option.some_get strayRun_isSome).symm
  ended := by decide

def strayCalls : Calls .ipc where
  socketpair := none
  access := none
  mkstemp := none
  ftruncate := none
  mmap := none
  spawn := .ok 77
  exchange := strayExchange
  page := ⟨PARENT_MAGIC, HELPER_MAGIC, 77, 5⟩
  wait := some (.exited 0)
  ignored := none

/-- The probe passes although no response has a type the protocol knows for its request. -/
theorem stray_peer_passes :
    (helperRoundtrip .linux { Configuration.initial with helperPath := cstr "/helper" } .ipc strayCalls).rc = 0 ∧
      ¬ ProperExchange strayCalls := by
  refine ⟨by decide, ?_⟩
  rintro ⟨as, hp, hr⟩
  cases hp with
  | cons h _ =>
    rename_i a as _
    have hh : a.header = (receivedBytes strayCalls.exchange.events).take headerSize := by
      rw [hr, responseStream, List.flatMap_cons, Response.bytes, List.append_assoc,
        List.take_left' h.header_length]
    have ht := h.type
    rw [Response.head, hh] at ht
    exact absurd ht (by decide)

end Graft64.Platform.HelperProbe
