import Graft64.Library.Runs
import Graft64.Platform.Ipc.Helper
import Mathlib.Data.List.Forall2

/-! The host's side of the exchange: the request loop of `helper_roundtrip`. -/

namespace Graft64.Platform.Ipc

open Graft64.Library Runs

inductive Mode
  | spawn
  | shared
  | ipc
  deriving DecidableEq

def request (type : UInt16) (id : UInt64) : MsgHeader := ⟨GRAFT_IPC_MAGIC, GRAFT_IPC_VERSION, type, 0, id⟩

/-- The array `requests` up to `request_count`. -/
def requests (mode : Mode) : List MsgHeader :=
  [request GRAFT_IPC_HELLO 1] ++ (if mode = .ipc then [request GRAFT_IPC_PING 2] else []) ++
    (if mode ≠ .spawn then [request GRAFT_IPC_SHARED_MEMORY 3] else []) ++
    (if mode = .ipc then [request GRAFT_IPC_PING 4] else []) ++ [request GRAFT_IPC_SHUTDOWN 5]

inductive HostPc
  | sendRequest (r : MsgHeader) (rest : List MsgHeader) (left : Bytes)
  | readHeader (r : MsgHeader) (rest : List MsgHeader) (got : Bytes)
  | readHello (r : MsgHeader) (rest : List MsgHeader) (got : ℕ)
  | done (ok : Bool)
  deriving DecidableEq

structure Host where
  pc : HostPc
  i : ℕ
  hello : Bytes

def HostPc.call : HostPc → Call
  | .sendRequest _ _ left => .write left
  | .readHeader _ _ got => .read (headerSize - got.length)
  | .readHello _ _ got => .read (helloSize - got)
  | .done _ => .none

/-- The head of the loop; `pad` is what the padding of each request holds. -/
def nextRequest (pad : UInt64 → UInt32) : List MsgHeader → HostPc
  | [] => .done true
  | r :: rest => .sendRequest r rest (encodeHeader (pad r.requestId) r)

def Host.initial (mode : Mode) (pad : UInt64 → UInt32) : Host :=
  ⟨nextRequest pad (requests mode), 0, List.replicate helloSize 0⟩

def Host.advance (pad : UInt64 → UInt32) (s : Host) (rest : List MsgHeader) : Host :=
  { s with pc := nextRequest pad rest, i := s.i + 1 }

def Host.checkHeader (pad : UInt64 → UInt32) (s : Host) (r : MsgHeader) (rest : List MsgHeader)
    (h : MsgHeader) : Host :=
  if validateHeader h = false ∨ h.requestId ≠ r.requestId then { s with pc := .done false }
  else if h.payloadSize ≠ 0 then
    if h.payloadSize.toNat ≠ helloSize then { s with pc := .done false }
    else { s with pc := .readHello r rest 0 }
  else s.advance pad rest

def overlay (buffer : Bytes) (offset : ℕ) (bs : Bytes) : Bytes :=
  buffer.take offset ++ bs ++ buffer.drop (offset + bs.length)

def Host.read (pad : UInt64 → UInt32) (s : Host) (bs : Bytes) : Host :=
  match s.pc with
  | .readHeader r rest got =>
    if (got ++ bs).length < headerSize then { s with pc := .readHeader r rest (got ++ bs) }
    else s.checkHeader pad r rest (decodeHeader (got ++ bs))
  | .readHello r rest got =>
    let s := { s with hello := overlay s.hello got bs }
    if got + bs.length < helloSize then { s with pc := .readHello r rest (got + bs.length) }
    else s.advance pad rest
  | _ => s

def Host.wrote (s : Host) (n : ℕ) : Host :=
  match s.pc with
  | .sendRequest r rest left =>
    if n < left.length then { s with pc := .sendRequest r rest (left.drop n) }
    else { s with pc := .readHeader r rest [] }
  | _ => s

/-- A full transfer gave up: the deadline passed, the peer closed or a call failed. -/
def Host.fail (s : Host) : Host := { s with pc := .done false }

structure Response where
  header : Bytes
  payload : Bytes

namespace Response

def head (a : Response) : MsgHeader := decodeHeader a.header

def bytes (a : Response) : Bytes := a.header ++ a.payload

end Response

structure Checked (r : MsgHeader) (a : Response) : Prop where
  header_length : a.header.length = headerSize
  valid : validateHeader a.head = true
  requestId : a.head.requestId = r.requestId
  payload_length : a.payload.length = a.head.payloadSize.toNat
  payload_size : a.head.payloadSize = 0 ∨ a.head.payloadSize.toNat = helloSize

def responseStream (as : List Response) : Bytes := as.flatMap Response.bytes

def helloAfter (as : List Response) : Bytes :=
  as.foldl (fun hello a => if a.payload = [] then hello else a.payload) (List.replicate helloSize 0)

def requestBytes (pad : UInt64 → UInt32) (qs : List MsgHeader) : Bytes :=
  qs.flatMap fun r => encodeHeader (pad r.requestId) r

@[simp] lemma responseStream_snoc (as : List Response) (a : Response) :
    responseStream (as ++ [a]) = responseStream as ++ a.bytes := by
  simp [responseStream]

@[simp] lemma requestBytes_snoc (pad : UInt64 → UInt32) (qs : List MsgHeader) (r : MsgHeader) :
    requestBytes pad (qs ++ [r]) = requestBytes pad qs ++ encodeHeader (pad r.requestId) r := by
  simp [requestBytes]

lemma helloAfter_snoc (as : List Response) (a : Response) :
    helloAfter (as ++ [a]) = if a.payload = [] then helloAfter as else a.payload := by
  simp [helloAfter]

def Refused (r : MsgHeader) (header : Bytes) : Prop :=
  header.length = headerSize ∧
    (validateHeader (decodeHeader header) = false ∨ (decodeHeader header).requestId ≠ r.requestId ∨
      ((decodeHeader header).payloadSize ≠ 0 ∧ (decodeHeader header).payloadSize.toNat ≠ helloSize))

/-- Where the host stands after it has answers `as` to the requests `qs`, in terms of the bytes it has
read and written; `failed` says that a transfer has given up. -/
def HostPosition (reqs : List MsgHeader) (pad : UInt64 → UInt32) (failed : Prop) (received sent : Bytes)
    (qs : List MsgHeader) (as : List Response) (hello : Bytes) : HostPc → Prop
  | .sendRequest r rest left =>
    reqs = qs ++ r :: rest ∧ received = responseStream as ∧ sent ++ left = requestBytes pad (qs ++ [r]) ∧
      left ≠ [] ∧ hello = helloAfter as
  | .readHeader r rest got =>
    reqs = qs ++ r :: rest ∧ received = responseStream as ++ got ∧ sent = requestBytes pad (qs ++ [r]) ∧
      got.length < headerSize ∧ hello = helloAfter as
  | .readHello r rest got =>
    ∃ header payload : Bytes, reqs = qs ++ r :: rest ∧ received = responseStream as ++ (header ++ payload) ∧
      sent = requestBytes pad (qs ++ [r]) ∧ header.length = headerSize ∧
      validateHeader (decodeHeader header) = true ∧ (decodeHeader header).requestId = r.requestId ∧
      (decodeHeader header).payloadSize.toNat = helloSize ∧ payload.length = got ∧ got < helloSize ∧
      hello = payload ++ (helloAfter as).drop got
  | .done true =>
    reqs = qs ∧ received = responseStream as ∧ sent = requestBytes pad reqs ∧ hello = helloAfter as
  | .done false =>
    failed ∨ ∃ r rest header, reqs = qs ++ r :: rest ∧ received = responseStream as ++ header ∧
      sent = requestBytes pad (qs ++ [r]) ∧ Refused r header

def HostInv (reqs : List MsgHeader) (pad : UInt64 → UInt32) (failed : Prop) (received sent : Bytes)
    (s : Host) : Prop :=
  ∃ qs as, List.Forall₂ Checked qs as ∧ HostPosition reqs pad failed received sent qs as s.hello s.pc ∧
    (s.pc ≠ .done false → s.i = as.length)

variable {reqs : List MsgHeader} {pad : UInt64 → UInt32} {failed : Prop} {received sent : Bytes} {s : Host}

lemma position_next {rest : List MsgHeader} (qs : List MsgHeader) (as : List Response) (hr : reqs = qs ++ rest) :
    HostPosition reqs pad failed (responseStream as) (requestBytes pad qs) qs as (helloAfter as)
      (nextRequest pad rest) := by
  cases rest with
  | nil =>
    obtain rfl : reqs = qs := by simpa using hr
    exact ⟨rfl, rfl, rfl, rfl⟩
  | cons r rest => exact ⟨hr, rfl, by simp, List.ne_nil_of_length_pos (by simp [headerSize]), rfl⟩

lemma hostInv_initial (mode : Mode) (pad : UInt64 → UInt32) :
    HostInv (requests mode) pad failed [] [] (.initial mode pad) :=
  ⟨[], [], .nil, position_next [] [] rfl, fun _ => rfl⟩

lemma forall₂_snoc {qs : List MsgHeader} {as : List Response} {r : MsgHeader} {a : Response}
    (h : List.Forall₂ Checked qs as) (ha : Checked r a) : List.Forall₂ Checked (qs ++ [r]) (as ++ [a]) :=
  List.rel_append h (.cons ha .nil)

lemma Checked.payload_eq {r : MsgHeader} {a : Response} (h : Checked r a) (hp : a.payload ≠ []) :
    a.payload.length = helloSize := by
  rw [h.payload_length]
  refine h.payload_size.resolve_left fun h0 => hp ?_
  exact List.eq_nil_of_length_eq_zero (by rw [h.payload_length, h0]; rfl)

lemma helloAfter_length {qs : List MsgHeader} {as : List Response} (h : List.Forall₂ Checked qs as) :
    (helloAfter as).length = helloSize := by
  have hgen (start : Bytes) (hs : start.length = helloSize) :
      (as.foldl (fun hello a => if a.payload = [] then hello else a.payload) start).length = helloSize := by
    induction h generalizing start with
    | nil => exact hs
    | cons ha _ ih =>
      refine ih _ ?_
      dsimp only
      split_ifs with hp
      · exact hs
      · exact ha.payload_eq hp
  exact hgen _ (by simp)

lemma hostInv_advance (pad : UInt64 → UInt32) (failed : Prop) {qs rest : List MsgHeader} {as : List Response}
    {r : MsgHeader} {a : Response}
    (hq : List.Forall₂ Checked qs as) (ha : Checked r a) (hr : reqs = qs ++ r :: rest)
    (hi : s.i = as.length) (hh : s.hello = helloAfter (as ++ [a])) :
    HostInv reqs pad failed (responseStream (as ++ [a])) (requestBytes pad (qs ++ [r]))
      (s.advance pad rest) := by
  refine ⟨qs ++ [r], as ++ [a], forall₂_snoc hq ha, ?_, fun _ => by simp [Host.advance, hi]⟩
  rw [Host.advance, hh]
  exact position_next _ _ (by simpa using hr)

lemma hostInv_checkHeader {qs rest : List MsgHeader} {as : List Response} {r : MsgHeader} {header : Bytes}
    (hq : List.Forall₂ Checked qs as) (hr : reqs = qs ++ r :: rest) (hl : header.length = headerSize)
    (hi : s.i = as.length) (hh : s.hello = helloAfter as) :
    HostInv reqs pad failed (responseStream as ++ header) (requestBytes pad (qs ++ [r]))
      (s.checkHeader pad r rest (decodeHeader header)) := by
  unfold Host.checkHeader
  split_ifs with hbad hpay hsize
  · refine ⟨qs, as, hq, .inr ⟨r, rest, header, hr, rfl, rfl, hl, ?_⟩, fun h => absurd rfl h⟩
    exact hbad.imp_right .inl
  · exact ⟨qs, as, hq, .inr ⟨r, rest, header, hr, rfl, rfl, hl, .inr (.inr ⟨hpay, hsize⟩)⟩, fun h => absurd rfl h⟩
  · simp only [not_or, Bool.not_eq_false, ne_eq, not_not] at hbad hsize
    refine ⟨qs, as, hq, ⟨header, [], hr, by simp, rfl, hl, hbad.1, hbad.2, hsize, rfl, ?_, ?_⟩, fun _ => hi⟩
    · decide
    · simpa using hh
  · simp only [not_or, Bool.not_eq_false, ne_eq, not_not] at hbad hpay
    have ha : Checked r ⟨header, []⟩ := ⟨hl, hbad.1, hbad.2, by simp [Response.head, hpay], .inl hpay⟩
    simpa [Response.bytes] using hostInv_advance pad failed hq ha hr hi (by simp [helloAfter_snoc, hh])

lemma HostInv.read (hi : HostInv reqs pad failed received sent s) {want : ℕ} (hc : s.pc.call = .read want)
    {bs : Bytes} (hl : bs.length ≤ want) : HostInv reqs pad failed (received ++ bs) sent (s.read pad bs) := by
  obtain ⟨qs, as, hq, hp, hn⟩ := hi
  rcases s with ⟨pc, i, hello⟩
  cases pc with
  | readHeader r rest got =>
    obtain ⟨hr, rfl, rfl, hg, rfl⟩ := hp
    obtain rfl := Call.read.inj hc
    have hi : i = as.length := hn (by simp)
    simp only [Host.read]
    split_ifs with hlt
    · exact ⟨qs, as, hq, ⟨hr, by simp, rfl, hlt, rfl⟩, fun _ => hi⟩
    · rw [List.append_assoc]
      refine hostInv_checkHeader hq hr ?_ hi rfl
      rw [List.length_append] at hlt ⊢
      omega
  | readHello r rest got =>
    obtain ⟨header, payload, hr, rfl, rfl, hh, hv, hid, hs, rfl, hlt, rfl⟩ := hp
    obtain rfl := Call.read.inj hc
    have hi : i = as.length := hn (by simp)
    have hlen := helloAfter_length hq
    have ho : overlay (payload ++ (helloAfter as).drop payload.length) payload.length bs =
        (payload ++ bs) ++ (helloAfter as).drop (payload.length + bs.length) := by
      rw [overlay, List.take_left' rfl, List.drop_append, List.drop_of_length_le (by omega), List.nil_append,
        Nat.add_sub_cancel_left, List.drop_drop]
    simp only [Host.read, ho]
    split_ifs with hlt'
    · refine ⟨qs, as, hq, ⟨header, payload ++ bs, hr, by simp, rfl, hh, hv, hid, hs, ?_, hlt', ?_⟩, fun _ => hi⟩
      · simp
      · simp
    · have hpl : (payload ++ bs).length = helloSize := by
        rw [List.length_append]
        omega
      have ha : Checked r ⟨header, payload ++ bs⟩ := ⟨hh, hv, hid, by rw [hpl, ← hs]; rfl, .inr hs⟩
      have hne : payload ++ bs ≠ [] := List.ne_nil_of_length_pos (by rw [hpl]; decide)
      have := hostInv_advance pad failed
        (s := ⟨.readHello r rest payload.length, i, (payload ++ bs) ++
          (helloAfter as).drop (payload.length + bs.length)⟩)
        hq ha hr hi ?_
      · simpa [Response.bytes] using this
      · rw [helloAfter_snoc, if_neg hne, List.drop_of_length_le, List.append_nil]
        rw [List.length_append] at hpl
        omega
  | sendRequest | done => cases hc

lemma HostInv.wrote (hi : HostInv reqs pad failed received sent s) {left : Bytes} (hc : s.pc.call = .write left)
    {n : ℕ} (hl : n ≤ left.length) : HostInv reqs pad failed received (sent ++ left.take n) (s.wrote n) := by
  obtain ⟨qs, as, hq, hp, hn⟩ := hi
  rcases s with ⟨pc, i, hello⟩
  cases pc with
  | sendRequest r rest left' =>
    obtain ⟨hr, rfl, hs, hne, rfl⟩ := hp
    obtain rfl := Call.write.inj hc
    have hi : i = as.length := hn (by simp)
    simp only [Host.wrote]
    split_ifs with hlt
    · refine ⟨qs, as, hq, ⟨hr, rfl, ?_, by simpa using hlt, rfl⟩, fun _ => hi⟩
      rw [List.append_assoc, List.take_append_drop, hs]
    · rw [List.take_of_length_le (by omega), hs]
      exact ⟨qs, as, hq, ⟨hr, by simp, rfl, by simp [headerSize], rfl⟩, fun _ => hi⟩
  | readHeader | readHello | done => cases hc

lemma HostInv.fail (hi : HostInv reqs pad failed received sent s) :
    HostInv reqs pad True received sent s.fail := by
  obtain ⟨qs, as, hq, -, -⟩ := hi
  exact ⟨qs, as, hq, .inl trivial, fun h => absurd rfl h⟩

inductive HostEvent
  | wrote (n : ℕ)
  | got (bs : Bytes)
  | interrupted
  | failed

def Host.step (pad : UInt64 → UInt32) (s : Host) (ev : HostEvent) : Option Host :=
  match s.pc.call, ev with
  | .write left, .wrote n => if 0 < n ∧ n ≤ left.length then some (s.wrote n) else none
  | .read want, .got bs => if bs ≠ [] ∧ bs.length ≤ want then some (s.read pad bs) else none
  | .write _, .interrupted | .read _, .interrupted => some s
  | .write _, .failed | .read _, .failed => some s.fail
  | _, _ => none

def receivedBytes (evs : List HostEvent) : Bytes :=
  evs.flatMap fun
    | .got bs => bs
    | _ => []

structure Exchange (mode : Mode) where
  pad : UInt64 → UInt32
  events : List HostEvent
  final : Host
  ok : Bool
  run : run (Host.step pad) (.initial mode pad) events = some final
  ended : final.pc = .done ok

lemma receivedBytes_snoc (evs : List HostEvent) (ev : HostEvent) :
    receivedBytes (evs ++ [ev]) = receivedBytes evs ++ receivedBytes [ev] := by
  simp [receivedBytes]

lemma HostInv.mono (hi : HostInv reqs pad failed received sent s) {failed' : Prop} (h : failed → failed') :
    HostInv reqs pad failed' received sent s := by
  obtain ⟨qs, as, hq, hp, hn⟩ := hi
  refine ⟨qs, as, hq, ?_, hn⟩
  cases hpc : s.pc with
  | done ok =>
    rw [hpc] at hp
    cases ok with
    | true => exact hp
    | false => exact hp.imp_left h
  | sendRequest | readHeader | readHello => rwa [hpc] at hp

lemma HostInv.step (hi : HostInv reqs pad failed received sent s) {ev : HostEvent} {t : Host}
    (h : s.step pad ev = some t) :
    (∃ sent', HostInv reqs pad (failed ∨ ev = .failed) (received ++ receivedBytes [ev]) sent' t) ∧
      (ev = .failed → t.pc = .done false) ∧ s.pc.call ≠ .none := by
  cases hc : s.pc.call with
  | read want =>
    cases ev with
    | got bs =>
      simp only [Host.step, hc, Option.ite_none_right_eq_some, Option.some.injEq] at h
      obtain ⟨⟨-, hl⟩, rfl⟩ := h
      refine ⟨⟨sent, ?_⟩, by simp, by simp⟩
      simpa [receivedBytes] using hi.read hc hl
    | interrupted =>
      simp only [Host.step, hc, Option.some.injEq] at h
      subst h
      refine ⟨⟨sent, ?_⟩, by simp, by simp⟩
      simpa [receivedBytes] using hi
    | failed =>
      simp only [Host.step, hc, Option.some.injEq] at h
      subst h
      refine ⟨⟨sent, ?_⟩, fun _ => rfl, by simp⟩
      simpa [receivedBytes] using hi.fail
    | wrote n => simp [Host.step, hc] at h
  | write left =>
    cases ev with
    | wrote n =>
      simp only [Host.step, hc, Option.ite_none_right_eq_some, Option.some.injEq] at h
      obtain ⟨⟨-, hl⟩, rfl⟩ := h
      refine ⟨⟨sent ++ left.take n, ?_⟩, by simp, by simp⟩
      simpa [receivedBytes] using hi.wrote hc hl
    | interrupted =>
      simp only [Host.step, hc, Option.some.injEq] at h
      subst h
      refine ⟨⟨sent, ?_⟩, by simp, by simp⟩
      simpa [receivedBytes] using hi
    | failed =>
      simp only [Host.step, hc, Option.some.injEq] at h
      subst h
      refine ⟨⟨sent, ?_⟩, fun _ => rfl, by simp⟩
      simpa [receivedBytes] using hi.fail
    | got bs => simp [Host.step, hc] at h
  | compute => cases hpc : s.pc <;> simp [hpc, HostPc.call] at hc
  | none => simp [Host.step, hc] at h

lemma hostInv_run {mode : Mode} {evs : List HostEvent} (h : run (Host.step pad) (.initial mode pad) evs = some s) :
    (∃ sent, HostInv (requests mode) pad (HostEvent.failed ∈ evs) (receivedBytes evs) sent s) ∧
      (HostEvent.failed ∈ evs → s.pc = .done false) := by
  refine run_invariant (fun evs s => (∃ sent, HostInv (requests mode) pad (HostEvent.failed ∈ evs)
    (receivedBytes evs) sent s) ∧ (HostEvent.failed ∈ evs → s.pc = .done false)) ?_ ?_ evs s h
  · exact ⟨⟨[], hostInv_initial mode pad⟩, by simp⟩
  · rintro evs t ev u - ⟨⟨sent, hi⟩, hf⟩ hu
    obtain ⟨⟨sent', hi'⟩, hfail, hcall⟩ := hi.step hu
    rw [receivedBytes_snoc]
    refine ⟨⟨sent', hi'.mono ?_⟩, ?_⟩
    · simp [eq_comm]
    · intro hm
      rcases List.mem_append.mp hm with hm | hm
      · rw [hf hm] at hcall
        exact absurd rfl hcall
      · exact hfail (List.mem_singleton.mp hm).symm

lemma checked_cancel {r r' : MsgHeader} {a a' : Response} (ha : Checked r a) (ha' : Checked r' a')
    {back back' : Bytes} (h : a.bytes ++ back = a'.bytes ++ back') : a = a' ∧ back = back' := by
  rcases a with ⟨header, payload⟩
  rcases a' with ⟨header', payload'⟩
  simp only [Response.bytes, List.append_assoc] at h
  obtain ⟨rfl, hp⟩ := List.append_inj h (ha.header_length.trans ha'.header_length.symm)
  obtain ⟨rfl, hb⟩ := List.append_inj hp (ha.payload_length.trans ha'.payload_length.symm)
  exact ⟨rfl, hb⟩

lemma responses_split {qs more : List MsgHeader} {as as' : List Response} {tail : Bytes}
    (h' : List.Forall₂ Checked qs as') (h : List.Forall₂ Checked (qs ++ more) as)
    (he : responseStream as = responseStream as' ++ tail) :
    ∃ back, as = as' ++ back ∧ responseStream back = tail ∧ List.Forall₂ Checked more back := by
  induction h' generalizing as with
  | nil => exact ⟨as, rfl, he, h⟩
  | cons ha' _ ih =>
    cases h with
    | cons ha h =>
      simp only [responseStream, List.flatMap_cons, List.append_assoc] at he
      obtain ⟨rfl, hb⟩ := checked_cancel ha ha' he
      obtain ⟨back, rfl, ht, hf⟩ := ih h hb
      exact ⟨back, rfl, ht, hf⟩

lemma refused_not_checked {r : MsgHeader} {header : Bytes} (h : Refused r header) {a : Response}
    (ha : Checked r a) : a.header ≠ header := by
  rintro rfl
  rcases h.2 with hv | hid | ⟨hp, hs⟩
  · have hv' := ha.valid
    rw [Response.head, hv] at hv'
    cases hv'
  · exact hid ha.requestId
  · rcases ha.payload_size with h0 | hsize
    · exact hp h0
    · exact hs hsize

lemma responses_unique {qs : List MsgHeader} {as as' : List Response} (h : List.Forall₂ Checked qs as)
    (h' : List.Forall₂ Checked qs as') (he : responseStream as = responseStream as') : as = as' := by
  have hnil : List.Forall₂ Checked (qs ++ []) as := by simpa using h
  obtain ⟨back, rfl, -, hb⟩ := responses_split h' hnil (he.trans (List.append_nil _).symm)
  cases hb
  exact List.append_nil as'

lemma exchange_checked {mode : Mode} {x : Exchange mode} (h : x.ok = true) :
    HostEvent.failed ∉ x.events ∧ ∃ as, List.Forall₂ Checked (requests mode) as ∧
      receivedBytes x.events = responseStream as ∧ x.final.hello = helloAfter as := by
  obtain ⟨⟨sent, qs, as, hq, hp, -⟩, hf⟩ := hostInv_run x.run
  rw [x.ended, h] at hp
  obtain ⟨rfl, hr, -, hh⟩ := hp
  refine ⟨fun hm => ?_, as, hq, hr, hh⟩
  have := hf hm
  rw [x.ended, h] at this
  cases this

theorem exchange_ok_iff {mode : Mode} (x : Exchange mode) :
    x.ok = true ↔ HostEvent.failed ∉ x.events ∧
      ∃ as, List.Forall₂ Checked (requests mode) as ∧ receivedBytes x.events = responseStream as := by
  constructor
  · intro h
    obtain ⟨hn, as, hc, hr, -⟩ := exchange_checked h
    exact ⟨hn, as, hc, hr⟩
  · rintro ⟨hn, as, ha, hr⟩
    obtain ⟨⟨sent, qs, as', hq, hp, -⟩, hf⟩ := hostInv_run x.run
    rw [x.ended] at hp
    cases hok : x.ok with
    | true => rfl
    | false =>
      rw [hok] at hp
      obtain hm | ⟨r, rest, header, hreq, hr', -, hb⟩ := hp
      · exact absurd hm hn
      · rw [hreq] at ha
        obtain ⟨back, -, hback, hchk⟩ := responses_split hq ha (hr.symm.trans hr')
        cases hchk with
        | cons hb' _ =>
          have hl := hb'.header_length.trans hb.1.symm
          simp only [responseStream, List.flatMap_cons, Response.bytes, List.append_assoc] at hback
          have := (List.append_inj (hback.trans (List.append_nil header).symm) hl).1
          exact absurd this (refused_not_checked hb hb')

lemma exchange_hello {mode : Mode} {x : Exchange mode} (h : x.ok = true) {as : List Response}
    (ha : List.Forall₂ Checked (requests mode) as) (hr : receivedBytes x.events = responseStream as) :
    x.final.hello = helloAfter as := by
  obtain ⟨-, as', hc, hr', hh⟩ := exchange_checked h
  rw [hh, responses_unique ha hc (hr.symm.trans hr')]

end Graft64.Platform.Ipc
