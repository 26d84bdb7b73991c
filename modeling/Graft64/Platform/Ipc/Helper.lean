import Graft64.Platform.Ipc.Protocol
import Mathlib.Data.List.Basic
import Mathlib.Logic.Function.Iterate

/-! The helper program: its main loop as a machine that makes one system call after another. -/

namespace Graft64.Platform.Ipc

/-- What the helper learns from the system, and what its uninitialised padding holds in each
response. -/
structure HelperEnv where
  pid : Int32
  pageSize : UInt64
  random : UInt64
  pad : ℕ → UInt32

def HelperEnv.nonce (e : HelperEnv) : UInt64 := if e.random = 0 then 1 else e.random

def HelperEnv.hello (e : HelperEnv) : HelloPayload := ⟨e.pid.toInt64, e.pageSize, e.nonce⟩

inductive HelperPc
  | readHeader (got : Bytes)
  | readPayload (h : MsgHeader) (got : ℕ)
  | serve (h : MsgHeader)
  | writeHeader (h : MsgHeader) (left : Bytes)
  | writeHello (h : MsgHeader) (left : Bytes)
  | exited (code : ℕ)

structure Helper where
  pc : HelperPc
  served : ℕ
  shared : Option SharedState
  /-- Offset and length of each write into `payload`. -/
  payloadWrites : List (ℕ × ℕ)

def Helper.initial (shared : Option SharedState) : Helper := ⟨.readHeader [], 0, shared, []⟩

inductive Call
  | read (want : ℕ)
  | write (left : Bytes)
  | compute
  | none
  deriving DecidableEq

def HelperPc.call : HelperPc → Call
  | .readHeader got => .read (headerSize - got.length)
  | .readPayload h got => .read (h.payloadSize.toNat - got)
  | .serve _ => .compute
  | .writeHeader _ left | .writeHello _ left => .write left
  | .exited _ => .none

def response (h : MsgHeader) : MsgHeader where
  magic := GRAFT_IPC_MAGIC
  version := GRAFT_IPC_VERSION
  type :=
    if h.type = GRAFT_IPC_SHUTDOWN then GRAFT_IPC_SHUTDOWN
    else if h.type = GRAFT_IPC_HELLO then GRAFT_IPC_HELLO
    else GRAFT_IPC_PONG
  payloadSize := if h.type = GRAFT_IPC_HELLO then UInt32.ofNat helloSize else 0
  requestId := h.requestId

def afterHeader (h : MsgHeader) : HelperPc :=
  if validateHeader h then if h.payloadSize ≠ 0 then .readPayload h 0 else .serve h
  else .exited 65

def afterResponse (h : MsgHeader) : HelperPc :=
  if h.type = GRAFT_IPC_SHUTDOWN then .exited 0 else .readHeader []

def Helper.read (s : Helper) (bs : Bytes) : Helper :=
  match s.pc with
  | .readHeader got =>
    if bs = [] then { s with pc := .exited 65 }
    else if (got ++ bs).length < headerSize then { s with pc := .readHeader (got ++ bs) }
    else { s with pc := afterHeader (decodeHeader (got ++ bs)) }
  | .readPayload h got =>
    if bs = [] then { s with pc := .exited 66 }
    else { s with
      pc := if got + bs.length < h.payloadSize.toNat then .readPayload h (got + bs.length) else .serve h
      payloadWrites := s.payloadWrites ++ [(got, bs.length)] }
  | _ => s

def beat (e : HelperEnv) (p : SharedState) : SharedState :=
  { p with helperMagic := HELPER_MAGIC, helperPid := e.pid.toInt64.toUInt64, heartbeat := p.heartbeat + 1 }

/-- The part of the loop between the last `read` and the first `write`. -/
def Helper.serve (e : HelperEnv) (s : Helper) : Helper :=
  match s.pc with
  | .serve h => { s with
      pc := .writeHeader h (encodeHeader (e.pad s.served) (response h))
      served := s.served + 1
      shared := s.shared.map (beat e) }
  | _ => s

def Helper.wrote (e : HelperEnv) (s : Helper) (n : ℕ) : Helper :=
  match s.pc with
  | .writeHeader h left =>
    if n = 0 then { s with pc := .exited 67 }
    else if n < left.length then { s with pc := .writeHeader h (left.drop n) }
    else if (response h).payloadSize ≠ 0 then { s with pc := .writeHello h (encodeHello e.hello) }
    else { s with pc := afterResponse h }
  | .writeHello h left =>
    if n = 0 then { s with pc := .exited 68 }
    else if n < left.length then { s with pc := .writeHello h (left.drop n) }
    else { s with pc := afterResponse h }
  | _ => s

structure Frame where
  header : Bytes
  payload : Bytes
  header_length : header.length = headerSize
  valid : validateHeader (decodeHeader header) = true
  payload_length : payload.length = (decodeHeader header).payloadSize.toNat

namespace Frame

def request (f : Frame) : MsgHeader := decodeHeader f.header

def bytes (f : Frame) : Bytes := f.header ++ f.payload

def isShutdown (f : Frame) : Prop := f.request.type = GRAFT_IPC_SHUTDOWN

end Frame

def reply (h : MsgHeader) : MsgHeader where
  magic := GRAFT_IPC_MAGIC
  version := GRAFT_IPC_VERSION
  type :=
    if h.type = GRAFT_IPC_HELLO then GRAFT_IPC_HELLO
    else if h.type = GRAFT_IPC_SHUTDOWN then GRAFT_IPC_SHUTDOWN
    else GRAFT_IPC_PONG
  payloadSize := if h.type = GRAFT_IPC_HELLO then UInt32.ofNat helloSize else 0
  requestId := h.requestId

def helloPart (e : HelperEnv) (h : MsgHeader) : Bytes :=
  if h.type = GRAFT_IPC_HELLO then encodeHello e.hello else []

def responseBytes (e : HelperEnv) (k : ℕ) (h : MsgHeader) : Bytes :=
  encodeHeader (e.pad k) (reply h) ++ helloPart e h

def responses (e : HelperEnv) (fs : List Frame) : Bytes :=
  (fs.mapIdx fun k f => responseBytes e k f.request).flatten

def beats (e : HelperEnv) (shared : Option SharedState) (n : ℕ) : Option SharedState :=
  (Option.map (beat e))^[n] shared

variable {e : HelperEnv}

@[simp] lemma responses_nil : responses e [] = [] := rfl

@[simp] lemma responses_snoc (fs : List Frame) (f : Frame) :
    responses e (fs ++ [f]) = responses e fs ++ responseBytes e fs.length f.request := by
  simp [responses]

lemma beats_succ (shared : Option SharedState) (n : ℕ) :
    beats e shared (n + 1) = (beats e shared n).map (beat e) :=
  Function.iterate_succ_apply' _ _ _

lemma beats_heartbeat (shared : Option SharedState) (n : ℕ) :
    (beats e shared n).map SharedState.heartbeat = shared.map fun p => p.heartbeat + UInt64.ofNat n := by
  induction n with
  | zero => cases shared <;> simp [beats]
  | succ n ih =>
    rw [beats_succ, Option.map_map]
    cases hs : beats e shared n with
    | none =>
      rw [hs] at ih
      cases shared <;> simp_all
    | some p =>
      rw [hs] at ih
      cases shared with
      | none => simp at ih
      | some q =>
        simp only [Option.map_some, Option.some.injEq] at ih
        simp [beat, ih, UInt64.add_assoc]

def frameBytes (fs : List Frame) : Bytes := fs.flatMap Frame.bytes

@[simp] lemma frameBytes_nil : frameBytes [] = [] := rfl

@[simp] lemma frameBytes_snoc (fs : List Frame) (f : Frame) :
    frameBytes (fs ++ [f]) = frameBytes fs ++ f.bytes := by
  simp [frameBytes]

structure Truncated (bs : Bytes) : Prop where
  header_length : headerSize ≤ bs.length
  valid : validateHeader (decodeHeader (bs.take headerSize)) = true
  short : bs.length < headerSize + (decodeHeader (bs.take headerSize)).payloadSize.toNat

def Headless (bs : Bytes) : Prop :=
  bs.length < headerSize ∨ validateHeader (decodeHeader (bs.take headerSize)) = false

/-- Where the helper stands after the frames `fs`, in terms of the bytes it has read and written;
`ended` says that the stream has ended. -/
def Position (e : HelperEnv) (ended : Prop) (received sent : Bytes) (served : ℕ) (fs : List Frame) :
    HelperPc → Prop
  | .readHeader got =>
    received = frameBytes fs ++ got ∧ got.length < headerSize ∧ sent = responses e fs ∧ served = fs.length
  | .readPayload h got =>
    ∃ header payload : Bytes, header.length = headerSize ∧ decodeHeader header = h ∧ validateHeader h = true ∧
      payload.length = got ∧ got < h.payloadSize.toNat ∧ received = frameBytes fs ++ (header ++ payload) ∧
      sent = responses e fs ∧ served = fs.length
  | .serve h =>
    ∃ f : Frame, f.request = h ∧ received = frameBytes (fs ++ [f]) ∧ sent = responses e fs ∧
      served = fs.length
  | .writeHeader h left =>
    ∃ f : Frame, f.request = h ∧ received = frameBytes (fs ++ [f]) ∧
      sent ++ left ++ helloPart e h = responses e (fs ++ [f]) ∧ left ≠ [] ∧ served = fs.length + 1
  | .writeHello h left =>
    ∃ f : Frame, f.request = h ∧ received = frameBytes (fs ++ [f]) ∧
      sent ++ left = responses e (fs ++ [f]) ∧ left ≠ [] ∧ served = fs.length + 1
  | .exited code =>
    (code = 0 ∧ ∃ f : Frame, f.isShutdown ∧ received = frameBytes (fs ++ [f]) ∧
        sent = responses e (fs ++ [f]) ∧ served = fs.length + 1) ∨
      (∃ tail, received = frameBytes fs ++ tail ∧ sent = responses e fs ∧ served = fs.length ∧
        ((code = 65 ∧ Headless tail ∧ (ended ∨ headerSize ≤ tail.length)) ∨
          (code = 66 ∧ Truncated tail ∧ ended)))

structure HelperInv (e : HelperEnv) (shared : Option SharedState) (ended : Prop) (received sent : Bytes)
    (s : Helper) : Prop where
  position : ∃ fs : List Frame, (∀ f ∈ fs, ¬ f.isShutdown) ∧ Position e ended received sent s.served fs s.pc
  shared : s.shared = beats e shared s.served
  buffer : ∀ w ∈ s.payloadWrites, w.1 + w.2 ≤ GRAFT_IPC_MAX_PAYLOAD

variable {shared : Option SharedState} {ended : Prop} {received sent : Bytes} {s : Helper}

lemma helperInv_initial (e : HelperEnv) (shared : Option SharedState) :
    HelperInv e shared ended [] [] (.initial shared) where
  position := ⟨[], by simp, by simp [Position, Helper.initial, headerSize]⟩
  shared := rfl
  buffer := by simp [Helper.initial]

lemma HelperInv.mono (hi : HelperInv e shared ended received sent s) {ended' : Prop} (h : ended → ended') :
    HelperInv e shared ended' received sent s := by
  obtain ⟨⟨fs, hn, hp⟩, hs, hb⟩ := hi
  refine ⟨⟨fs, hn, ?_⟩, hs, hb⟩
  cases hpc : s.pc with
  | exited code =>
    rw [hpc] at hp
    rcases hp with hp | ⟨tail, hr, hw, hk, ⟨hc, hh, he⟩ | ⟨hc, ht, he⟩⟩
    · exact .inl hp
    · exact .inr ⟨tail, hr, hw, hk, .inl ⟨hc, hh, he.imp_left h⟩⟩
    · exact .inr ⟨tail, hr, hw, hk, .inr ⟨hc, ht, h he⟩⟩
  | readHeader | readPayload | serve | writeHeader | writeHello => rwa [hpc] at hp

lemma position_afterHeader {fs : List Frame} {header : Bytes} (hl : header.length = headerSize)
    (hr : received = frameBytes fs ++ header) :
    Position e ended received (responses e fs) fs.length fs (afterHeader (decodeHeader header)) := by
  unfold afterHeader
  split_ifs with hv hp
  · refine ⟨header, [], hl, rfl, hv, rfl, ?_, by simp [hr], rfl, rfl⟩
    exact Nat.pos_of_ne_zero fun h0 => hp (UInt32.toNat_inj.mp h0)
  · have hz : (decodeHeader header).payloadSize = 0 := by simpa using hp
    exact ⟨⟨header, [], hl, hv, by simp [hz]⟩, rfl, by simp [hr, Frame.bytes], rfl, rfl⟩
  · refine .inr ⟨header, hr, rfl, rfl, .inl ⟨rfl, .inr ?_, .inr (Nat.le_of_eq hl.symm)⟩⟩
    rw [List.take_of_length_le (Nat.le_of_eq hl)]
    simpa using hv

lemma position_afterResponse {fs : List Frame} {f : Frame} (hn : ∀ f ∈ fs, ¬ f.isShutdown)
    (hr : received = frameBytes (fs ++ [f])) :
    ∃ fs', (∀ f ∈ fs', ¬ f.isShutdown) ∧
      Position e ended received (responses e (fs ++ [f])) (fs.length + 1) fs' (afterResponse f.request) := by
  unfold afterResponse
  split_ifs with hs
  · exact ⟨fs, hn, .inl ⟨rfl, f, hs, hr, rfl, rfl⟩⟩
  · refine ⟨fs ++ [f], ?_, by simp [hr], by simp [headerSize], rfl, by simp⟩
    intro g hg
    rcases List.mem_append.mp hg with hg | hg
    · exact hn g hg
    · rwa [List.mem_singleton.mp hg]

lemma HelperInv.read (hi : HelperInv e shared ended received sent s) {want : ℕ} (hc : s.pc.call = .read want)
    {bs : Bytes} (hne : bs ≠ []) (hl : bs.length ≤ want) :
    HelperInv e shared ended (received ++ bs) sent (s.read bs) := by
  obtain ⟨⟨fs, hn, hp⟩, hs, hb⟩ := hi
  rcases s with ⟨pc, served, page, writes⟩
  cases pc with
  | readHeader got =>
    obtain ⟨hr, hg, rfl, rfl⟩ := hp
    obtain rfl := Call.read.inj hc
    simp only [Helper.read, if_neg hne]
    split_ifs with hlt
    · exact ⟨⟨fs, hn, by simp [hr], hlt, rfl, rfl⟩, hs, hb⟩
    · refine ⟨⟨fs, hn, position_afterHeader ?_ (by simp [hr])⟩, hs, hb⟩
      rw [List.length_append] at hlt ⊢
      omega
  | readPayload h got =>
    obtain ⟨header, payload, hh, hd, hv, rfl, hlt, hr, rfl, rfl⟩ := hp
    obtain rfl := Call.read.inj hc
    have hmax : h.payloadSize.toNat ≤ GRAFT_IPC_MAX_PAYLOAD := by
      simp only [validateHeader, Bool.and_eq_true, decide_eq_true_eq] at hv
      exact hv.2
    simp only [Helper.read, if_neg hne]
    refine ⟨⟨fs, hn, ?_⟩, hs, ?_⟩
    · split_ifs with hlt'
      · exact ⟨header, payload ++ bs, hh, hd, hv, by simp, hlt', by simp [hr], rfl, rfl⟩
      · refine ⟨⟨header, payload ++ bs, hh, by rw [hd, hv], ?_⟩, hd, by simp [hr, Frame.bytes], rfl, rfl⟩
        rw [hd, List.length_append]
        omega
    · intro w hw
      rcases List.mem_append.mp hw with hw | hw
      · exact hb w hw
      · obtain rfl := List.mem_singleton.mp hw
        simp only
        omega
  | serve | writeHeader | writeHello | exited => cases hc

lemma HelperInv.eof (hi : HelperInv e shared ended received sent s) {want : ℕ} (hc : s.pc.call = .read want) :
    HelperInv e shared True received sent (s.read []) := by
  obtain ⟨⟨fs, hn, hp⟩, hs, hb⟩ := hi
  rcases s with ⟨pc, served, page, writes⟩
  cases pc with
  | readHeader got =>
    obtain ⟨hr, hg, rfl, rfl⟩ := hp
    exact ⟨⟨fs, hn, .inr ⟨got, hr, rfl, rfl, .inl ⟨rfl, .inl hg, .inl trivial⟩⟩⟩, hs, hb⟩
  | readPayload h got =>
    obtain ⟨header, payload, hh, hd, hv, rfl, hlt, hr, rfl, rfl⟩ := hp
    have ht : (header ++ payload).take headerSize = header := List.take_left' hh
    refine ⟨⟨fs, hn, .inr ⟨header ++ payload, hr, rfl, rfl, .inr ⟨rfl, ⟨?_, ?_, ?_⟩, trivial⟩⟩⟩, hs, hb⟩
    · simp [hh]
    · rw [ht, hd, hv]
    · rw [ht, hd, List.length_append, hh]
      omega
  | serve | writeHeader | writeHello | exited => cases hc

lemma response_eq_reply (h : MsgHeader) : response h = reply h := by
  simp only [response, reply, MsgHeader.mk.injEq, true_and, and_true]
  split_ifs with hs hh <;> simp_all [GRAFT_IPC_SHUTDOWN, GRAFT_IPC_HELLO]

lemma HelperInv.serve (hi : HelperInv e shared ended received sent s) :
    HelperInv e shared ended received sent (s.serve e) := by
  obtain ⟨⟨fs, hn, hp⟩, hs, hb⟩ := hi
  rcases s with ⟨pc, served, page, writes⟩
  cases pc with
  | serve h =>
    obtain ⟨f, rfl, hr, rfl, rfl⟩ := hp
    simp only at hs
    refine ⟨⟨fs, hn, f, rfl, hr, by simp [responseBytes, response_eq_reply], ?_, rfl⟩,
      by simp only [Helper.serve, hs, beats_succ], hb⟩
    exact List.ne_nil_of_length_pos (by simp [headerSize])
  | readHeader | readPayload | writeHeader | writeHello | exited => exact ⟨⟨fs, hn, hp⟩, hs, hb⟩

lemma response_payload (h : MsgHeader) : (response h).payloadSize ≠ 0 ↔ h.type = GRAFT_IPC_HELLO := by
  simp only [response]
  split_ifs with ht <;> simp [ht, helloSize]

lemma HelperInv.wrote (hi : HelperInv e shared ended received sent s) {left : Bytes} (hc : s.pc.call = .write left)
    {n : ℕ} (h0 : 0 < n) (hl : n ≤ left.length) :
    HelperInv e shared ended received (sent ++ left.take n) (s.wrote e n) := by
  obtain ⟨⟨fs, hn, hp⟩, hs, hb⟩ := hi
  rcases s with ⟨pc, served, page, writes⟩
  cases pc with
  | writeHeader h left =>
    obtain ⟨f, rfl, hr, hw, -, rfl⟩ := hp
    obtain rfl := Call.write.inj hc
    simp only [Helper.wrote, if_neg (Nat.ne_of_gt h0)]
    split_ifs with hlt hpay
    · refine ⟨⟨fs, hn, f, rfl, hr, ?_, by simpa using hlt, rfl⟩, hs, hb⟩
      rw [← hw, List.append_assoc sent, List.take_append_drop]
    · rw [response_payload] at hpay
      rw [helloPart, if_pos hpay] at hw
      refine ⟨⟨fs, hn, f, rfl, hr, ?_, ?_, rfl⟩, hs, hb⟩
      · rw [← hw, List.take_of_length_le (by omega)]
      · exact List.ne_nil_of_length_pos (by simp [helloSize])
    · rw [response_payload] at hpay
      rw [helloPart, if_neg hpay, List.append_nil] at hw
      rw [List.take_of_length_le (by omega), hw]
      exact ⟨position_afterResponse hn hr, hs, hb⟩
  | writeHello h left =>
    obtain ⟨f, rfl, hr, hw, -, rfl⟩ := hp
    obtain rfl := Call.write.inj hc
    simp only [Helper.wrote, if_neg (Nat.ne_of_gt h0)]
    split_ifs with hlt
    · refine ⟨⟨fs, hn, f, rfl, hr, ?_, by simpa using hlt, rfl⟩, hs, hb⟩
      rw [← hw, List.append_assoc sent, List.take_append_drop]
    · rw [List.take_of_length_le (by omega), hw]
      exact ⟨position_afterResponse hn hr, hs, hb⟩
  | readHeader | readPayload | serve | exited => cases hc

def moved (k available : ℕ) : ℕ := min (max k 1) available

structure Feed where
  helper : Helper
  consumed : Bytes
  unread : Bytes
  written : Bytes

def Feed.initial (shared : Option SharedState) (input : Bytes) : Feed := ⟨.initial shared, [], input, []⟩

def Feed.step (e : HelperEnv) (k : ℕ) (s : Feed) : Feed :=
  match s.helper.pc.call with
  | .read want =>
    let n := moved k (min want s.unread.length)
    { s with
      helper := s.helper.read (s.unread.take n)
      consumed := s.consumed ++ s.unread.take n
      unread := s.unread.drop n }
  | .write left =>
    let n := moved k left.length
    { s with helper := s.helper.wrote e n, written := s.written ++ left.take n }
  | .compute => { s with helper := s.helper.serve e }
  | .none => s

def Feed.run (e : HelperEnv) (shared : Option SharedState) (input : Bytes) (sched : ℕ → ℕ) : ℕ → Feed
  | 0 => .initial shared input
  | n + 1 => (Feed.run e shared input sched n).step e (sched n)

structure FeedInv (e : HelperEnv) (shared : Option SharedState) (input : Bytes) (s : Feed) : Prop where
  helper : HelperInv e shared (s.unread = []) s.consumed s.written s.helper
  input : s.consumed ++ s.unread = input

lemma moved_pos {k available : ℕ} (h : 0 < available) : 0 < moved k available := by
  unfold moved
  omega

lemma moved_le (k available : ℕ) : moved k available ≤ available := Nat.min_le_right _ _

lemma call_read_pos (hi : HelperInv e shared ended received sent s) {want : ℕ} (hc : s.pc.call = .read want) :
    0 < want := by
  obtain ⟨⟨fs, hn, hp⟩, hs, hb⟩ := hi
  cases hpc : s.pc with
  | readHeader got =>
    rw [hpc] at hc hp
    obtain rfl := Call.read.inj hc
    exact Nat.sub_pos_of_lt hp.2.1
  | readPayload h got =>
    rw [hpc] at hc hp
    obtain ⟨header, payload, -, -, -, -, hlt, -⟩ := hp
    obtain rfl := Call.read.inj hc
    exact Nat.sub_pos_of_lt hlt
  | serve | writeHeader | writeHello | exited =>
    rw [hpc] at hc
    cases hc

lemma call_write_pos (hi : HelperInv e shared ended received sent s) {left : Bytes}
    (hc : s.pc.call = .write left) : 0 < left.length := by
  obtain ⟨⟨fs, hn, hp⟩, hs, hb⟩ := hi
  cases hpc : s.pc with
  | writeHeader h left' | writeHello h left' =>
    rw [hpc] at hc hp
    obtain ⟨f, -, -, -, hne, -⟩ := hp
    obtain rfl := Call.write.inj hc
    exact List.length_pos_of_ne_nil hne
  | readHeader | readPayload | serve | exited =>
    rw [hpc] at hc
    cases hc

lemma FeedInv.step {input : Bytes} {s : Feed} (hi : FeedInv e shared input s) (k : ℕ) :
    FeedInv e shared input (s.step e k) := by
  obtain ⟨hh, hin⟩ := hi
  cases hc : s.helper.pc.call with
  | read want =>
    simp only [Feed.step, hc]
    refine ⟨?_, by simpa using hin⟩
    cases hu : s.unread with
    | nil =>
      rw [hu] at hh
      simpa [moved] using hh.eof hc
    | cons b bs =>
      rw [hu] at hh
      have hpos := moved_pos (k := k) (Nat.lt_min.mpr ⟨call_read_pos hh hc, (by simp : 0 < (b :: bs).length)⟩)
      have hle := moved_le k (min want (b :: bs).length)
      have hne : (b :: bs).take (moved k (min want (b :: bs).length)) ≠ [] := by
        simpa using Nat.ne_of_gt hpos
      refine (hh.read hc hne ?_).mono (by simp)
      exact Nat.le_trans (List.length_take_le _ _) (Nat.le_trans hle (Nat.min_le_left _ _))
  | write left =>
    simp only [Feed.step, hc]
    exact ⟨hh.wrote hc (moved_pos (call_write_pos hh hc)) (moved_le _ _), hin⟩
  | compute =>
    simp only [Feed.step, hc]
    exact ⟨hh.serve, hin⟩
  | none =>
    simp only [Feed.step, hc]
    exact ⟨hh, hin⟩

lemma feedInv_run (e : HelperEnv) (shared : Option SharedState) (input : Bytes) (sched : ℕ → ℕ) (n : ℕ) :
    FeedInv e shared input (.run e shared input sched n) := by
  induction n with
  | zero => exact ⟨helperInv_initial e shared, rfl⟩
  | succ n ih => exact ih.step (sched n)

def HelperPc.credit : HelperPc → ℕ
  | .readHeader got => 3 * got.length + 1
  | .readPayload _ _ | .serve _ => 3 * headerSize + 1
  | .writeHeader _ left => left.length + helloSize + 2
  | .writeHello _ left => left.length + 1
  | .exited _ => 0

/-- Every unread byte stands for the calls that read it and its share of those that answer it. -/
def Feed.measure (s : Feed) : ℕ := 4 * s.unread.length + s.helper.pc.credit

lemma credit_afterHeader (h : MsgHeader) : (afterHeader h).credit ≤ 3 * headerSize + 1 := by
  unfold afterHeader
  split_ifs <;> simp [HelperPc.credit]

lemma credit_afterResponse (h : MsgHeader) : (afterResponse h).credit ≤ 1 := by
  unfold afterResponse
  split_ifs <;> simp [HelperPc.credit]

lemma credit_read {want : ℕ} (hc : s.pc.call = .read want) (bs : Bytes) :
    (s.read bs).pc.credit < 4 * bs.length + s.pc.credit := by
  rcases s with ⟨pc, served, page, writes⟩
  cases pc with
  | readHeader got =>
    have ha := credit_afterHeader (decodeHeader (got ++ bs))
    simp only [Helper.read, List.length_append]
    split_ifs with hne hlt
    · simp only [HelperPc.credit]
      omega
    · have := List.length_pos_of_ne_nil hne
      simp only [HelperPc.credit, List.length_append]
      omega
    · have := List.length_pos_of_ne_nil hne
      refine Nat.lt_of_le_of_lt ha ?_
      simp only [HelperPc.credit]
      omega
  | readPayload h got =>
    simp only [Helper.read]
    split_ifs with hne hlt
    · simp only [HelperPc.credit]
      omega
    all_goals simpa [HelperPc.credit] using List.length_pos_of_ne_nil hne
  | serve | writeHeader | writeHello | exited => cases hc

lemma credit_wrote {left : Bytes} (hc : s.pc.call = .write left) {n : ℕ} (h0 : 0 < n)
    (hl : n ≤ left.length) : (s.wrote e n).pc.credit < s.pc.credit := by
  rcases s with ⟨pc, served, page, writes⟩
  cases pc with
  | writeHeader h left' =>
    obtain rfl := Call.write.inj hc
    simp only [Helper.wrote, if_neg (Nat.ne_of_gt h0)]
    split_ifs
    · simp only [HelperPc.credit, List.length_drop]
      omega
    · simp only [HelperPc.credit, encodeHello_length]
      omega
    · refine Nat.lt_of_le_of_lt (credit_afterResponse h) ?_
      simp only [HelperPc.credit]
      omega
  | writeHello h left' =>
    obtain rfl := Call.write.inj hc
    simp only [Helper.wrote, if_neg (Nat.ne_of_gt h0)]
    split_ifs
    · simp only [HelperPc.credit, List.length_drop]
      omega
    · refine Nat.lt_of_le_of_lt (credit_afterResponse h) ?_
      simp only [HelperPc.credit]
      omega
  | readHeader | readPayload | serve | exited => cases hc

lemma measure_step {input : Bytes} {s : Feed} (hi : FeedInv e shared input s) (k : ℕ)
    (hx : s.helper.pc.credit ≠ 0) : (s.step e k).measure < s.measure := by
  obtain ⟨hh, -⟩ := hi
  cases hc : s.helper.pc.call with
  | read want =>
    have hr := credit_read hc (s.unread.take (moved k (min want s.unread.length)))
    have hm := moved_le k (min want s.unread.length)
    simp only [Feed.step, hc, Feed.measure, List.length_drop, List.length_take] at hr ⊢
    omega
  | write left =>
    have hw := credit_wrote hc (moved_pos (k := k) (call_write_pos hh hc)) (moved_le _ _) (e := e)
    simp only [Feed.step, hc, Feed.measure]
    omega
  | compute =>
    simp only [Feed.step, hc, Feed.measure, Nat.add_lt_add_iff_left]
    cases hpc : s.helper.pc with
    | serve h => simp [Helper.serve, hpc, HelperPc.credit, headerSize, helloSize]
    | readHeader | readPayload | writeHeader | writeHello | exited =>
      rw [hpc] at hc
      cases hc
  | none =>
    cases hpc : s.helper.pc with
    | exited code => simp [hpc, HelperPc.credit] at hx
    | readHeader | readPayload | writeHeader | writeHello | serve =>
      rw [hpc] at hc
      cases hc

lemma exists_exited (e : HelperEnv) (shared : Option SharedState) (input : Bytes) (sched : ℕ → ℕ) :
    ∃ n code, (Feed.run e shared input sched n).helper.pc = .exited code := by
  by_contra hx
  push Not at hx
  have hne (n : ℕ) : (Feed.run e shared input sched n).helper.pc.credit ≠ 0 := by
    cases hpc : (Feed.run e shared input sched n).helper.pc with
    | exited code => exact absurd hpc (hx n code)
    | readHeader | readPayload | serve | writeHeader | writeHello => simp [HelperPc.credit]
  have hd (n : ℕ) : (Feed.run e shared input sched n).measure + n ≤ (Feed.initial shared input).measure := by
    induction n with
    | zero => exact Nat.le_refl _
    | succ n ih =>
      have hs := measure_step (feedInv_run e shared input sched n) (sched n) (hne n)
      simp only [Feed.run]
      omega
  have := hd ((Feed.initial shared input).measure + 1)
  omega

lemma Headless.append {tail : Bytes} (h : Headless tail) {unread : Bytes}
    (he : unread = [] ∨ headerSize ≤ tail.length) : Headless (tail ++ unread) := by
  rcases he with rfl | hl
  · simpa using h
  · refine .inr ?_
    rw [List.take_append_of_le_length hl]
    exact h.resolve_left (Nat.not_lt.mpr hl)

lemma Headless.not_frame {rest : Bytes} (h : Headless rest) : ¬ ∃ f : Frame, f.bytes <+: rest := by
  rintro ⟨f, back, rfl⟩
  have hl := f.header_length
  rcases h with h | h
  · simp only [Frame.bytes, List.length_append] at h
    omega
  · rw [Frame.bytes, List.append_assoc, List.take_left' hl, f.valid] at h
    cases h

lemma Truncated.not_frame {rest : Bytes} (h : Truncated rest) : ¬ ∃ f : Frame, f.bytes <+: rest := by
  rintro ⟨f, back, rfl⟩
  have hs := h.short
  have hl := f.header_length
  have hp := f.payload_length
  rw [Frame.bytes, List.append_assoc, List.take_left' hl] at hs
  simp only [List.length_append] at hs
  omega

/-- On every stream that ends, and however the transfers are split, the helper exits, and answers the
longest run of well-formed frames up to the first shutdown. -/
theorem helper_answers_stream (e : HelperEnv) (shared : Option SharedState) (input : Bytes) (sched : ℕ → ℕ) :
    ∃ (n : ℕ) (fs : List Frame) (rest : Bytes),
      let s := Feed.run e shared input sched n
      input = frameBytes fs ++ rest ∧ (∀ f ∈ fs.dropLast, ¬ f.isShutdown) ∧
      s.written = responses e fs ∧
      s.helper.shared = beats e shared fs.length ∧
      s.helper.shared.map SharedState.heartbeat = shared.map (fun p => p.heartbeat + UInt64.ofNat fs.length) ∧
      (∀ w ∈ s.helper.payloadWrites, w.1 + w.2 ≤ GRAFT_IPC_MAX_PAYLOAD) ∧
      ((s.helper.pc = .exited 0 ∧ (∃ f, fs.getLast? = some f ∧ f.isShutdown) ∧ s.unread = rest) ∨
        ((∀ f ∈ fs, ¬ f.isShutdown) ∧ (¬ ∃ f : Frame, f.bytes <+: rest) ∧
          ((s.helper.pc = .exited 66 ∧ Truncated rest) ∨ (s.helper.pc = .exited 65 ∧ Headless rest)))) := by
  obtain ⟨n, code, hx⟩ := exists_exited e shared input sched
  obtain ⟨⟨⟨fs, hn, hp⟩, hs, hb⟩, hin⟩ := feedInv_run e shared input sched n
  rw [hx] at hp
  rcases hp with ⟨rfl, f, hf, hr, hw, hk⟩ | ⟨tail, hr, hw, hk, hc⟩
  · refine ⟨n, fs ++ [f], (Feed.run e shared input sched n).unread, ?_, by simpa using hn, hw, ?_, ?_, hb, ?_⟩
    · exact hin.symm.trans (by rw [hr])
    · rw [hs, hk, List.length_append, List.length_singleton]
    · rw [hs, hk, beats_heartbeat, List.length_append, List.length_singleton]
    · exact .inl ⟨hx, ⟨f, by simp, hf⟩, rfl⟩
  · refine ⟨n, fs, tail ++ (Feed.run e shared input sched n).unread, ?_,
      fun f hf => hn f (List.dropLast_subset fs hf), hw, by rw [hs, hk], by rw [hs, hk, beats_heartbeat], hb,
      .inr ⟨hn, ?_⟩⟩
    · exact hin.symm.trans (by rw [hr, List.append_assoc])
    · rcases hc with ⟨rfl, hh, he⟩ | ⟨rfl, ht, he⟩
      · exact ⟨(hh.append he).not_frame, .inr ⟨hx, hh.append he⟩⟩
      · rw [he, List.append_nil]
        exact ⟨ht.not_frame, .inl ⟨hx, ht⟩⟩

end Graft64.Platform.Ipc
