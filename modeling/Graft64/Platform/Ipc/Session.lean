import Graft64.Platform.Ipc.Host

/-! Host and helper joined by a socket with room for finitely many bytes in each direction. -/

namespace Graft64.Platform.Ipc

open Graft64.Library Runs

structure Setting where
  mode : Mode
  pad : UInt64 → UInt32
  helper : HelperEnv
  room : ℕ
  room_pos : 0 < room

structure System where
  host : Host
  closed : Bool
  helper : Helper
  toHelper : Bytes
  toHost : Bytes
  hostRead : Bytes
  helperRead : Bytes

def preparedPage : SharedState := ⟨PARENT_MAGIC, 0, 0, 0⟩

def System.initial (c : Setting) : System :=
  ⟨.initial c.mode c.pad, false, .initial (some preparedPage), [], [], [], []⟩

inductive Act
  | host (n : ℕ)
  | helper (n : ℕ)

def hostStep (c : Setting) (s : System) (n : ℕ) : Option System :=
  match s.host.pc.call with
  | .read want =>
    if 0 < n ∧ n ≤ want ∧ n ≤ s.toHost.length then
      some { s with
        host := s.host.read c.pad (s.toHost.take n)
        toHost := s.toHost.drop n
        hostRead := s.hostRead ++ s.toHost.take n }
    -- the end of the stream
    else if s.helper.pc.call = .none ∧ s.toHost = [] then some { s with host := s.host.fail }
    else none
  | .write left =>
    if 0 < n ∧ n ≤ left.length ∧ s.toHelper.length + n ≤ c.room then
      some { s with host := s.host.wrote n, toHelper := s.toHelper ++ left.take n }
    else none
  | .compute => none
  | .none => if s.closed then none else some { s with closed := true }

def helperStep (c : Setting) (s : System) (n : ℕ) : Option System :=
  match s.helper.pc.call with
  | .read want =>
    if 0 < n ∧ n ≤ want ∧ n ≤ s.toHelper.length then
      some { s with
        helper := s.helper.read (s.toHelper.take n)
        toHelper := s.toHelper.drop n
        helperRead := s.helperRead ++ s.toHelper.take n }
    else if s.closed = true ∧ s.toHelper = [] then some { s with helper := s.helper.read [] }
    else none
  | .write left =>
    if 0 < n ∧ n ≤ left.length ∧ s.toHost.length + n ≤ c.room then
      some { s with helper := s.helper.wrote c.helper n, toHost := s.toHost ++ left.take n }
    else none
  | .compute => some { s with helper := s.helper.serve c.helper }
  | .none => none

def System.step (c : Setting) (s : System) : Act → Option System
  | .host n => hostStep c s n
  | .helper n => helperStep c s n

def Final (s : System) : Prop := s.closed = true ∧ s.helper.pc.call = .none

def answered (e : HelperEnv) (reqs : List MsgHeader) (j : ℕ) : Bytes :=
  ((reqs.take j).mapIdx fun k r => responseBytes e k r).flatten

/-- The requests a host may send: well formed, without payload, and only the last one a shutdown. -/
structure GoodRequests (reqs : List MsgHeader) : Prop where
  valid : ∀ r ∈ reqs, validateHeader r = true ∧ r.payloadSize = 0
  shutdown : ∃ init last, reqs = init ++ [last] ∧ last.type = GRAFT_IPC_SHUTDOWN ∧
    ∀ r ∈ init, r.type ≠ GRAFT_IPC_SHUTDOWN

lemma goodRequests (mode : Mode) : GoodRequests (requests mode) where
  valid := by cases mode <;> decide
  shutdown := by
    refine ⟨(requests mode).dropLast, request GRAFT_IPC_SHUTDOWN 5, ?_, rfl, ?_⟩ <;> cases mode <;> decide

variable {e : HelperEnv} {reqs : List MsgHeader}

lemma answered_append (qs more : List MsgHeader) :
    answered e (qs ++ more) qs.length = answered e qs qs.length := by
  simp [answered]

lemma answered_succ {j : ℕ} (h : j < reqs.length) :
    answered e reqs (j + 1) = answered e reqs j ++ responseBytes e j reqs[j] := by
  have hl : (reqs.take j).length = j := List.length_take_of_le (Nat.le_of_lt h)
  rw [answered, List.take_succ_eq_append_getElem h, List.mapIdx_concat, List.flatten_append, hl]
  simp [answered]

lemma responses_eq (fs : List Frame) : responses e fs = answered e (fs.map Frame.request) fs.length := by
  induction fs using List.reverseRecOn with
  | nil => rfl
  | append_singleton fs f ih =>
    have hl : (fs.map Frame.request).length = fs.length := List.length_map _
    have ha := answered_append (e := e) (fs.map Frame.request) [f.request]
    rw [hl] at ha
    rw [responses_snoc, List.length_append, List.length_singleton, answered_succ (by simp), ih]
    simp [ha]

lemma responseBytes_length (k : ℕ) (r : MsgHeader) :
    (responseBytes e k r).length = headerSize + (helloPart e r).length := by
  simp [responseBytes]

lemma answered_add {j d : ℕ} (h : j + d ≤ reqs.length) :
    ∃ back, answered e reqs (j + d) = answered e reqs j ++ back ∧ headerSize * d ≤ back.length := by
  induction d with
  | zero => exact ⟨[], (List.append_nil _).symm, Nat.le_refl _⟩
  | succ d ih =>
    obtain ⟨back, hb, hl⟩ := ih (by omega)
    refine ⟨back ++ responseBytes e (j + d) reqs[j + d], ?_, ?_⟩
    · rw [← Nat.add_assoc, answered_succ (by omega), hb, List.append_assoc]
    · rw [List.length_append, responseBytes_length]
      simp only [headerSize] at *
      omega

lemma answered_lt {j k : ℕ} (h : j < k) (hk : k ≤ reqs.length) :
    (answered e reqs j).length + headerSize ≤ (answered e reqs k).length := by
  obtain ⟨d, rfl⟩ := Nat.exists_eq_add_of_lt h
  obtain ⟨back, hb, hl⟩ := answered_add (e := e) (show j + (d + 1) ≤ reqs.length by omega)
  rw [Nat.add_assoc, hb, List.length_append]
  simp only [headerSize] at *
  omega

lemma answered_le {j k : ℕ} (h : j ≤ k) (hk : k ≤ reqs.length) :
    (answered e reqs j).length ≤ (answered e reqs k).length := by
  rcases Nat.eq_or_lt_of_le h with rfl | h
  · exact Nat.le_refl _
  · have := answered_lt (e := e) h hk
    omega

lemma answered_hello {j : ℕ} {r : MsgHeader} (h : reqs[j]? = some r) (hr : r.type = GRAFT_IPC_HELLO) :
    (answered e reqs (j + 1)).length = (answered e reqs j).length + headerSize + helloSize := by
  obtain ⟨hj, rfl⟩ := List.getElem?_eq_some_iff.mp h
  rw [answered_succ hj, List.length_append, responseBytes_length, helloPart, if_pos hr, encodeHello_length]
  omega

@[simp] lemma requestBytes_length (pad : UInt64 → UInt32) (qs : List MsgHeader) :
    (requestBytes pad qs).length = headerSize * qs.length := by
  induction qs with
  | nil => rfl
  | cons q qs ih => simp [requestBytes, headerSize] at ih ⊢; omega

lemma frames_of_requests {pad : UInt64 → UInt32} (hg : ∀ r ∈ reqs, validateHeader r = true ∧ r.payloadSize = 0)
    {fs : List Frame} {tail : Bytes} (h : frameBytes fs ++ tail = requestBytes pad reqs) :
    ∃ rest, reqs = fs.map Frame.request ++ rest ∧ tail = requestBytes pad rest := by
  induction fs generalizing reqs with
  | nil => exact ⟨reqs, rfl, h⟩
  | cons f fs ih =>
    cases reqs with
    | nil =>
      simp only [frameBytes, List.flatMap_cons, Frame.bytes, requestBytes, List.flatMap_nil,
        List.append_eq_nil_iff] at h
      have hl := f.header_length
      rw [h.1.1.1] at hl
      cases hl
    | cons q qs =>
      simp only [frameBytes, List.flatMap_cons, Frame.bytes, List.append_assoc, requestBytes] at h
      obtain ⟨hh, hb⟩ := List.append_inj h (f.header_length.trans (encodeHeader_length _ _).symm)
      have hq : f.request = q := by rw [Frame.request, hh, decodeHeader_encodeHeader]
      have hp : f.payload = [] := by
        refine List.eq_nil_of_length_eq_zero ?_
        rw [f.payload_length, ← Frame.request, hq, (hg q (by simp)).2]
        rfl
      rw [hp, List.nil_append] at hb
      obtain ⟨rest, rfl, ht⟩ := ih (fun r hr => hg r (List.mem_cons_of_mem _ hr)) hb
      exact ⟨rest, by simp [hq], ht⟩

lemma shutdown_last (hg : GoodRequests reqs) {qs rest : List MsgHeader} {q : MsgHeader}
    (h : reqs = qs ++ q :: rest) : q.type = GRAFT_IPC_SHUTDOWN ↔ rest = [] := by
  obtain ⟨init, last, he, hl, hi⟩ := hg.shutdown
  rw [h] at he
  constructor
  · intro hq
    rcases List.eq_nil_or_concat' rest with rfl | ⟨rest', z, rfl⟩
    · rfl
    · rw [← List.cons_append, ← List.append_assoc] at he
      obtain ⟨h₁, -⟩ := List.append_inj' he rfl
      exact absurd hq (hi q (by simp [← h₁]))
  · rintro rfl
    obtain ⟨-, h₂⟩ := List.append_inj' he rfl
    rw [(List.cons.inj h₂).1, hl]

def HelperAt (e : HelperEnv) (reqs : List MsgHeader) (received sent : Bytes) (served : ℕ) : HelperPc → Prop
  | .readHeader got =>
    served < reqs.length ∧ received.length = headerSize * served + got.length ∧ got.length < headerSize ∧
      sent = answered e reqs served
  | .readPayload _ _ => False
  | .serve _ =>
    served < reqs.length ∧ received.length = headerSize * (served + 1) ∧ sent = answered e reqs served
  | .writeHeader h left =>
    0 < served ∧ served ≤ reqs.length ∧ received.length = headerSize * served ∧ left ≠ [] ∧
      sent ++ left ++ helloPart e h = answered e reqs served
  | .writeHello _ left =>
    0 < served ∧ served ≤ reqs.length ∧ received.length = headerSize * served ∧ left ≠ [] ∧
      sent ++ left = answered e reqs served
  | .exited code =>
    code = 0 ∧ served = reqs.length ∧ received.length = headerSize * reqs.length ∧ sent = answered e reqs served

variable {pad : UInt64 → UInt32} {shared : Option SharedState} {received sent more : Bytes}

lemma frames_at (hg : GoodRequests reqs) {fs : List Frame} {tail : Bytes}
    (h : frameBytes fs ++ tail = requestBytes pad reqs) :
    (frameBytes fs).length = headerSize * fs.length ∧ responses e fs = answered e reqs fs.length ∧
      ∃ rest, reqs = fs.map Frame.request ++ rest ∧ tail = requestBytes pad rest := by
  obtain ⟨rest, hr, rfl⟩ := frames_of_requests hg.valid h
  refine ⟨?_, ?_, rest, hr, rfl⟩
  · have hl := congrArg List.length h
    rw [List.length_append, requestBytes_length, requestBytes_length, hr, List.length_append, List.length_map,
      Nat.mul_add] at hl
    omega
  · have ha := answered_append (e := e) (fs.map Frame.request) rest
    rw [List.length_map, ← hr] at ha
    rw [responses_eq, ha]

lemma head_of_requests {rest : List MsgHeader} {tail : Bytes} (h : tail ++ more = requestBytes pad rest)
    (hl : headerSize ≤ tail.length) :
    ∃ q rest', rest = q :: rest' ∧ decodeHeader (tail.take headerSize) = q := by
  cases rest with
  | nil =>
    have := congrArg List.length h
    simp only [List.length_append, requestBytes_length, List.length_nil, headerSize] at this hl
    omega
  | cons q rest =>
    refine ⟨q, rest, rfl, ?_⟩
    have ht := congrArg (List.take headerSize) h
    rw [List.take_append_of_le_length hl, requestBytes, List.flatMap_cons,
      List.take_left' (encodeHeader_length _ _)] at ht
    rw [ht, decodeHeader_encodeHeader]

lemma requests_length {fs : List Frame} {rest : List MsgHeader} (hr : reqs = fs.map Frame.request ++ rest) :
    reqs.length = fs.length + rest.length := by
  rw [hr, List.length_append, List.length_map]

/-- Without a shutdown among them the frames are not all of the requests. -/
lemma requests_left (hg : GoodRequests reqs) {fs : List Frame} (hn : ∀ f ∈ fs, ¬ f.isShutdown)
    {rest : List MsgHeader} (hr : reqs = fs.map Frame.request ++ rest) : fs.length < reqs.length := by
  have hrest : rest ≠ [] := by
    rintro rfl
    obtain ⟨init, last, he, hl, -⟩ := hg.shutdown
    have hmem : last ∈ fs.map Frame.request := by simpa [hr] using congrArg (last ∈ ·) he
    obtain ⟨f, hf, rfl⟩ := List.mem_map.mp hmem
    exact hn f hf hl
  have hpos := List.length_pos_of_ne_nil hrest
  have hlen := requests_length hr
  omega

lemma frames_snoc_at (hg : GoodRequests reqs) {fs : List Frame} {f : Frame}
    (hm : frameBytes (fs ++ [f]) ++ more = requestBytes pad reqs) :
    (frameBytes (fs ++ [f])).length = headerSize * (fs.length + 1) ∧
      responses e (fs ++ [f]) = answered e reqs (fs.length + 1) ∧
      ∃ rest, reqs = fs.map Frame.request ++ f.request :: rest ∧ reqs.length = fs.length + 1 + rest.length := by
  obtain ⟨hf, ha, rest, hr, -⟩ := frames_at (e := e) hg hm
  have hlen := requests_length hr
  rw [List.length_append, List.length_singleton] at hf ha hlen
  exact ⟨hf, ha, rest, by simpa using hr, hlen⟩

lemma helper_reads (hg : GoodRequests reqs) {fs : List Frame} (hn : ∀ f ∈ fs, ¬ f.isShutdown) {got : Bytes}
    (hm : frameBytes fs ++ got ++ more = requestBytes pad reqs) (hgot : got.length < headerSize) :
    HelperAt e reqs (frameBytes fs ++ got) (responses e fs) fs.length (.readHeader got) := by
  rw [List.append_assoc] at hm
  obtain ⟨hf, ha, rest, hr, -⟩ := frames_at (e := e) hg hm
  exact ⟨requests_left hg hn hr, by rw [List.length_append, hf], hgot, ha⟩

lemma helper_serves (hg : GoodRequests reqs) {fs : List Frame} {f : Frame}
    (hm : frameBytes (fs ++ [f]) ++ more = requestBytes pad reqs) :
    HelperAt e reqs (frameBytes (fs ++ [f])) (responses e fs) fs.length (.serve f.request) := by
  obtain ⟨hf, -, rest, -, hlen⟩ := frames_snoc_at (e := e) hg hm
  rw [frameBytes_snoc, List.append_assoc] at hm
  obtain ⟨-, ha, -⟩ := frames_at (e := e) hg hm
  exact ⟨by omega, hf, ha⟩

lemma no_payload (hg : GoodRequests reqs) {fs : List Frame} {header payload : Bytes}
    (hm : frameBytes fs ++ (header ++ payload) ++ more = requestBytes pad reqs)
    (hh : header.length = headerSize) : (decodeHeader header).payloadSize = 0 := by
  rw [List.append_assoc] at hm
  obtain ⟨rest, hr, ht⟩ := frames_of_requests hg.valid hm
  obtain ⟨q, rest', rfl, hq⟩ := head_of_requests ht (by simp [hh])
  rw [List.take_left' hh] at hq
  rw [hq]
  exact (hg.valid q (by simp [hr])).2

lemma not_headless (hg : GoodRequests reqs) {fs : List Frame} {tail : Bytes}
    (hm : frameBytes fs ++ tail ++ more = requestBytes pad reqs) (hl : headerSize ≤ tail.length) :
    ¬ Headless tail := by
  intro hh
  rw [List.append_assoc] at hm
  obtain ⟨rest, hr, ht⟩ := frames_of_requests hg.valid hm
  obtain ⟨q, rest', rfl, hq⟩ := head_of_requests ht hl
  have hv := hh.resolve_left (Nat.not_lt.mpr hl)
  rw [hq, (hg.valid q (by simp [hr])).1] at hv
  cases hv

lemma helper_at (hg : GoodRequests reqs) {s : Helper} (hi : HelperInv e shared False received sent s)
    (hm : received ++ more = requestBytes pad reqs) : HelperAt e reqs received sent s.served s.pc := by
  obtain ⟨⟨fs, hn, hp⟩, -, -⟩ := hi
  cases hpc : s.pc with
  | readHeader got =>
    rw [hpc] at hp
    obtain ⟨rfl, hgot, rfl, hs⟩ := hp
    rw [hs]
    exact helper_reads hg hn hm hgot
  | readPayload h got =>
    rw [hpc] at hp
    obtain ⟨header, payload, hh, rfl, -, -, hlt, rfl, -, -⟩ := hp
    rw [no_payload hg hm hh] at hlt
    exact absurd hlt (Nat.not_lt_zero _)
  | serve h =>
    rw [hpc] at hp
    obtain ⟨f, rfl, rfl, rfl, hs⟩ := hp
    rw [hs]
    exact helper_serves hg hm
  | writeHeader h left =>
    rw [hpc] at hp
    obtain ⟨f, rfl, rfl, hw, hne, hs⟩ := hp
    obtain ⟨hf, ha, rest, -, hlen⟩ := frames_snoc_at (e := e) hg hm
    exact ⟨by omega, by omega, by rw [hf, hs], hne, by rw [hw, hs, ha]⟩
  | writeHello h left =>
    rw [hpc] at hp
    obtain ⟨f, rfl, rfl, hw, hne, hs⟩ := hp
    obtain ⟨hf, ha, rest, -, hlen⟩ := frames_snoc_at (e := e) hg hm
    exact ⟨by omega, by omega, by rw [hf, hs], hne, by rw [hw, hs, ha]⟩
  | exited code =>
    rw [hpc] at hp
    rcases hp with ⟨rfl, f, hf, rfl, rfl, hs⟩ | ⟨tail, rfl, rfl, hs, ⟨rfl, hh, he⟩ | ⟨-, -, he⟩⟩
    · obtain ⟨hfl, ha, rest, hr, hlen⟩ := frames_snoc_at (e := e) hg hm
      obtain rfl := (shutdown_last hg hr).mp hf
      rw [List.length_nil, Nat.add_zero] at hlen
      exact ⟨rfl, by omega, by rw [hfl, hlen], by rw [ha, hs]⟩
    · exact absurd hh (not_headless hg hm (he.resolve_left id))
    · exact he.elim

def expectedResponse (e : HelperEnv) (k : ℕ) (r : MsgHeader) : Response :=
  ⟨encodeHeader (e.pad k) (reply r), helloPart e r⟩

def expected (e : HelperEnv) (reqs : List MsgHeader) : List Response := reqs.mapIdx (expectedResponse e)

lemma expected_snoc (qs : List MsgHeader) (r : MsgHeader) :
    expected e (qs ++ [r]) = expected e qs ++ [expectedResponse e qs.length r] := by
  simp [expected]

lemma reply_payload (r : MsgHeader) :
    ((reply r).payloadSize = 0 ∧ r.type ≠ GRAFT_IPC_HELLO ∧ helloPart e r = []) ∨
      ((reply r).payloadSize.toNat = helloSize ∧ r.type = GRAFT_IPC_HELLO ∧
        helloPart e r = encodeHello e.hello) := by
  by_cases h : r.type = GRAFT_IPC_HELLO
  · exact .inr ⟨by simp [reply, h, helloSize], h, by simp [helloPart, h]⟩
  · exact .inl ⟨by simp [reply, h], h, by simp [helloPart, h]⟩

lemma expectedResponse_checked (k : ℕ) (r : MsgHeader) : Checked r (expectedResponse e k r) where
  header_length := encodeHeader_length _ _
  valid := by
    simp only [expectedResponse, Response.head, decodeHeader_encodeHeader, validateHeader, Bool.and_eq_true,
      decide_eq_true_eq]
    refine ⟨⟨beq_self_eq_true _, beq_self_eq_true _⟩, ?_⟩
    rcases reply_payload (e := e) r with ⟨hp, -⟩ | ⟨hp, -⟩
    · rw [hp]
      exact Nat.zero_le _
    · rw [hp]
      decide
  requestId := by simp [expectedResponse, Response.head, reply]
  payload_length := by
    simp only [expectedResponse, Response.head, decodeHeader_encodeHeader]
    rcases reply_payload (e := e) r with ⟨hp, -, hh⟩ | ⟨hp, -, hh⟩
    · rw [hp, hh]
      rfl
    · rw [hp, hh, encodeHello_length]
  payload_size := by
    simp only [expectedResponse, Response.head, decodeHeader_encodeHeader]
    rcases reply_payload (e := e) r with ⟨hp, -⟩ | ⟨hp, -⟩
    · exact .inl hp
    · exact .inr hp

lemma expected_checked (reqs : List MsgHeader) : List.Forall₂ Checked reqs (expected e reqs) := by
  induction reqs using List.reverseRecOn with
  | nil => exact .nil
  | append_singleton qs r ih =>
    rw [expected_snoc]
    exact forall₂_snoc ih (expectedResponse_checked _ r)

lemma expected_stream (reqs : List MsgHeader) :
    responseStream (expected e reqs) = answered e reqs reqs.length := by
  induction reqs using List.reverseRecOn with
  | nil => rfl
  | append_singleton qs r ih =>
    rw [expected_snoc, responseStream_snoc, ih, List.length_append, List.length_singleton, answered_succ (by simp),
      answered_append]
    simp [expectedResponse, Response.bytes, responseBytes]

lemma expected_append (qs : List MsgHeader) (more : List MsgHeader) :
    ∃ back, expected e (qs ++ more) = expected e qs ++ back := by
  induction more using List.reverseRecOn with
  | nil => exact ⟨[], by simp⟩
  | append_singleton more r ih =>
    obtain ⟨back, hb⟩ := ih
    exact ⟨back ++ [expectedResponse e (qs ++ more).length r],
      by rw [← List.append_assoc, expected_snoc, hb, List.append_assoc]⟩

lemma responses_at {qs more' : List MsgHeader} {as : List Response} {tail : Bytes}
    (hr : reqs = qs ++ more') (ha : List.Forall₂ Checked qs as)
    (h : responseStream as ++ tail = answered e reqs reqs.length) :
    as = expected e qs ∧ responseStream as = answered e reqs as.length ∧
      ∀ r rest, more' = r :: rest → ∃ back, tail = (expectedResponse e as.length r).bytes ++ back := by
  subst hr
  have hl := ha.length_eq
  obtain ⟨back, hs, ht, hb⟩ := responses_split ha (expected_checked (e := e) (qs ++ more'))
    (by rw [expected_stream, h])
  obtain ⟨back', hs'⟩ := expected_append (e := e) qs more'
  obtain ⟨rfl, rfl⟩ := List.append_inj (hs.symm.trans hs') (by rw [← hl]; simp [expected])
  refine ⟨rfl, ?_, ?_⟩
  · rw [expected_stream, ← hl, answered_append]
  · rintro r rest rfl
    obtain ⟨tail', hc⟩ := expected_append (e := e) (qs ++ [r]) rest
    rw [List.append_assoc, List.singleton_append, hs, expected_snoc, List.append_assoc] at hc
    obtain rfl := List.append_cancel_left hc
    refine ⟨responseStream tail', ?_⟩
    rw [← ht, ← hl]
    simp [responseStream]

def HostAt (e : HelperEnv) (reqs : List MsgHeader) (received sent : Bytes) (i : ℕ) (hello : Bytes) :
    HostPc → Prop
  | .sendRequest r _ left =>
    reqs[i]? = some r ∧ sent.length + left.length = headerSize * (i + 1) ∧ left ≠ [] ∧
      received = answered e reqs i
  | .readHeader r _ got =>
    reqs[i]? = some r ∧ sent.length = headerSize * (i + 1) ∧ got.length < headerSize ∧
      received = answered e reqs i ++ got
  | .readHello r _ got =>
    reqs[i]? = some r ∧ sent.length = headerSize * (i + 1) ∧ got < helloSize ∧ r.type = GRAFT_IPC_HELLO ∧
      received.length = (answered e reqs i).length + headerSize + got
  | .done ok =>
    ok = true ∧ i = reqs.length ∧ sent.length = headerSize * reqs.length ∧ received = answered e reqs i ∧
      hello = helloAfter (expected e reqs)

lemma host_at {s : Host} (hi : HostInv reqs pad False received sent s)
    (hm : received ++ more = answered e reqs reqs.length) : HostAt e reqs received sent s.i s.hello s.pc := by
  obtain ⟨qs, as, ha, hp, hn⟩ := hi
  have hl := ha.length_eq
  cases hpc : s.pc with
  | sendRequest r rest left =>
    rw [hpc] at hp
    obtain ⟨hr, rfl, hs, hne, -⟩ := hp
    have hidx := hn (by simp [hpc])
    obtain ⟨-, hrec, -⟩ := responses_at hr ha hm
    refine ⟨by simp [hidx, ← hl, hr], ?_, hne, by rw [hidx, hrec]⟩
    rw [← List.length_append, hs, requestBytes_length, hidx, ← hl, List.length_append, List.length_singleton]
  | readHeader r rest got =>
    rw [hpc] at hp
    obtain ⟨hr, rfl, rfl, hg, -⟩ := hp
    have hidx := hn (by simp [hpc])
    obtain ⟨-, hrec, -⟩ := responses_at hr ha ((List.append_assoc _ _ _).symm.trans hm)
    refine ⟨by simp [hidx, ← hl, hr], ?_, hg, by rw [hidx, ← hrec]⟩
    rw [requestBytes_length, hidx, ← hl, List.length_append, List.length_singleton]
  | readHello r rest got =>
    rw [hpc] at hp
    obtain ⟨header, payload, hr, rfl, rfl, hh, -, -, hs, rfl, hlt, -⟩ := hp
    have hidx := hn (by simp [hpc])
    obtain ⟨-, hrec, hnext⟩ := responses_at hr ha ((List.append_assoc _ _ _).symm.trans hm)
    obtain ⟨back, hb⟩ := hnext r rest rfl
    refine ⟨by simp [hidx, ← hl, hr], ?_, hlt, ?_, ?_⟩
    · rw [requestBytes_length, hidx, ← hl, List.length_append, List.length_singleton]
    · have ht : header = encodeHeader (e.pad as.length) (reply r) := by
        have hcat : header ++ (payload ++ more) = encodeHeader (e.pad as.length) (reply r) ++
            (helloPart e r ++ back) := by
          simpa [expectedResponse, Response.bytes] using hb
        exact (List.append_inj hcat (by simp [hh])).1
      rw [ht, decodeHeader_encodeHeader] at hs
      rcases reply_payload (e := e) r with ⟨h0, -⟩ | ⟨-, ht, -⟩
      · rw [h0] at hs
        cases hs
      · exact ht
    · rw [List.length_append, List.length_append, hh, hrec, hidx]
      omega
  | done ok =>
    rw [hpc] at hp
    cases ok with
    | true =>
      obtain ⟨rfl, rfl, rfl, hh⟩ := hp
      have hidx := hn (by simp [hpc])
      obtain ⟨has, hrec, -⟩ := responses_at (List.append_nil _).symm ha hm
      exact ⟨rfl, by rw [hidx, hl], requestBytes_length _ _, by rw [hidx, ← hrec], by rw [hh, ← has]⟩
    | false =>
      obtain hf | ⟨r, rest, header, hr, rfl, -, hb⟩ := hp
      · exact hf.elim
      · obtain ⟨-, -, hnext⟩ := responses_at hr ha ((List.append_assoc _ _ _).symm.trans hm)
        obtain ⟨back, he⟩ := hnext r rest rfl
        have hc := expectedResponse_checked (e := e) as.length r
        have ht := (List.append_inj (he.trans (List.append_assoc _ _ _)) (hb.1.trans hc.header_length.symm)).1
        exact absurd ht.symm (refused_not_checked hb hc)

lemma host_sent {s : Host} (hi : HostInv reqs pad False received sent s) :
    ∃ more, sent ++ more = requestBytes pad reqs := by
  have hsplit {qs rest : List MsgHeader} {r : MsgHeader} (hr : reqs = qs ++ r :: rest) :
      requestBytes pad (qs ++ [r]) ++ requestBytes pad rest = requestBytes pad reqs := by
    rw [hr]
    simp [requestBytes]
  obtain ⟨qs, as, -, hp, -⟩ := hi
  cases hpc : s.pc with
  | sendRequest r rest left =>
    rw [hpc] at hp
    obtain ⟨hr, -, hs, -⟩ := hp
    exact ⟨left ++ requestBytes pad rest, by rw [← List.append_assoc, hs, hsplit hr]⟩
  | readHeader r rest got =>
    rw [hpc] at hp
    obtain ⟨hr, -, rfl, -⟩ := hp
    exact ⟨_, hsplit hr⟩
  | readHello r rest got =>
    rw [hpc] at hp
    obtain ⟨-, -, hr, -, rfl, -⟩ := hp
    exact ⟨_, hsplit hr⟩
  | done ok =>
    rw [hpc] at hp
    cases ok with
    | true =>
      obtain ⟨-, -, rfl, -⟩ := hp
      exact ⟨[], List.append_nil _⟩
    | false =>
      obtain hf | ⟨r, rest, -, hr, -, rfl, -⟩ := hp
      · exact hf.elim
      · exact ⟨_, hsplit hr⟩

lemma helperAt_sent {served : ℕ} {pc : HelperPc} (h : HelperAt e reqs received sent served pc) :
    ∃ more, sent ++ more = answered e reqs reqs.length := by
  have hmore {j : ℕ} (hj : j ≤ reqs.length) : ∃ more, answered e reqs j ++ more = answered e reqs reqs.length := by
    obtain ⟨d, hd⟩ := Nat.exists_eq_add_of_le hj
    obtain ⟨back, hb, -⟩ := answered_add (e := e) (show j + d ≤ reqs.length by omega)
    exact ⟨back, by rw [← hb, ← hd]⟩
  cases pc with
  | readHeader got =>
    obtain ⟨hs, -, -, rfl⟩ := h
    exact hmore (Nat.le_of_lt hs)
  | readPayload h' got => exact h.elim
  | serve h' =>
    obtain ⟨hs, -, rfl⟩ := h
    exact hmore (Nat.le_of_lt hs)
  | writeHeader h' left =>
    obtain ⟨-, hs, -, -, hw⟩ := h
    obtain ⟨more, hm⟩ := hmore hs
    exact ⟨left ++ helloPart e h' ++ more, by rw [← hm, ← hw]; simp⟩
  | writeHello h' left =>
    obtain ⟨-, hs, -, -, hw⟩ := h
    obtain ⟨more, hm⟩ := hmore hs
    exact ⟨left ++ more, by rw [← hm, ← hw]; simp⟩
  | exited code =>
    obtain ⟨-, rfl, -, rfl⟩ := h
    exact ⟨[], List.append_nil _⟩

/-- The joint invariant: each process keeps its own, and what one has written the other has read or
will read. -/
structure SystemInv (c : Setting) (s : System) : Prop where
  host : HostInv (requests c.mode) c.pad False s.hostRead (s.helperRead ++ s.toHelper) s.host
  helper : HelperInv c.helper (some preparedPage) False s.helperRead (s.hostRead ++ s.toHost) s.helper
  closed : s.closed = true → s.host.pc.call = .none

variable {c : Setting} {s : System}

lemma SystemInv.helperAt (hi : SystemInv c s) :
    HelperAt c.helper (requests c.mode) s.helperRead (s.hostRead ++ s.toHost) s.helper.served s.helper.pc := by
  obtain ⟨more, hm⟩ := host_sent hi.host
  exact helper_at (goodRequests c.mode) hi.helper ((List.append_assoc _ _ _).symm.trans hm)

lemma SystemInv.hostAt (hi : SystemInv c s) :
    HostAt c.helper (requests c.mode) s.hostRead (s.helperRead ++ s.toHelper) s.host.i s.host.hello s.host.pc := by
  obtain ⟨more, hm⟩ := helperAt_sent hi.helperAt
  exact host_at hi.host ((List.append_assoc _ _ _).symm.trans hm)

lemma helperAt_bounds {served : ℕ} {pc : HelperPc} (h : HelperAt e reqs received sent served pc) :
    served ≤ reqs.length ∧ sent.length ≤ (answered e reqs served).length ∧
      headerSize * served ≤ received.length := by
  cases pc with
  | readHeader got =>
    obtain ⟨hs, hl, -, rfl⟩ := h
    exact ⟨Nat.le_of_lt hs, Nat.le_refl _, by omega⟩
  | readPayload h' got => exact h.elim
  | serve h' =>
    obtain ⟨hs, hl, rfl⟩ := h
    refine ⟨Nat.le_of_lt hs, Nat.le_refl _, ?_⟩
    rw [hl, Nat.mul_succ]
    omega
  | writeHeader h' left =>
    obtain ⟨-, hs, hl, -, hw⟩ := h
    refine ⟨hs, ?_, Nat.le_of_eq hl.symm⟩
    rw [← hw, List.length_append, List.length_append]
    omega
  | writeHello h' left =>
    obtain ⟨-, hs, hl, -, hw⟩ := h
    refine ⟨hs, ?_, Nat.le_of_eq hl.symm⟩
    rw [← hw, List.length_append]
    omega
  | exited code =>
    obtain ⟨-, rfl, hl, rfl⟩ := h
    exact ⟨Nat.le_refl _, Nat.le_refl _, Nat.le_of_eq hl.symm⟩

lemma hostAt_bounds {i : ℕ} {hello : Bytes} {pc : HostPc} (h : HostAt e reqs received sent i hello pc) :
    i ≤ reqs.length ∧ (answered e reqs i).length ≤ received.length := by
  cases pc with
  | sendRequest r rest left =>
    obtain ⟨hr, -, -, rfl⟩ := h
    exact ⟨Nat.le_of_lt (List.getElem?_eq_some_iff.mp hr).1, Nat.le_refl _⟩
  | readHeader r rest got =>
    obtain ⟨hr, -, -, rfl⟩ := h
    exact ⟨Nat.le_of_lt (List.getElem?_eq_some_iff.mp hr).1, by rw [List.length_append]; omega⟩
  | readHello r rest got =>
    obtain ⟨hr, -, -, -, hl⟩ := h
    exact ⟨Nat.le_of_lt (List.getElem?_eq_some_iff.mp hr).1, by omega⟩
  | done ok =>
    obtain ⟨-, rfl, -, rfl, -⟩ := h
    exact ⟨Nat.le_refl _, Nat.le_refl _⟩

lemma hostAt_reading {i : ℕ} {hello : Bytes} {pc : HostPc} (h : HostAt e reqs received sent i hello pc)
    {want : ℕ} (hc : pc.call = .read want) :
    i < reqs.length ∧ 0 < want ∧ sent.length = headerSize * (i + 1) ∧
      received.length < (answered e reqs (i + 1)).length := by
  cases pc with
  | readHeader r rest got =>
    obtain ⟨hr, hs, hg, rfl⟩ := h
    have hlt := (List.getElem?_eq_some_iff.mp hr).1
    have := answered_lt (e := e) (show i < i + 1 by omega) hlt
    obtain rfl := Call.read.inj hc
    refine ⟨hlt, by omega, hs, ?_⟩
    rw [List.length_append]
    omega
  | readHello r rest got =>
    obtain ⟨hr, hs, hg, ht, hl⟩ := h
    have := answered_hello (e := e) hr ht
    obtain rfl := Call.read.inj hc
    exact ⟨(List.getElem?_eq_some_iff.mp hr).1, by omega, hs, by omega⟩
  | sendRequest | done => cases hc

lemma SystemInv.no_host_eof (hi : SystemInv c s) {want : ℕ} (hc : s.host.pc.call = .read want)
    (hx : s.helper.pc.call = .none) : s.toHost ≠ [] := by
  intro h0
  obtain ⟨hlt, -, -, hshort⟩ := hostAt_reading hi.hostAt hc
  have hB := hi.helperAt
  cases hpc : s.helper.pc with
  | exited code =>
    rw [hpc, h0, List.append_nil] at hB
    obtain ⟨-, hs, -, hsent⟩ := hB
    have := answered_le (e := c.helper) (show s.host.i + 1 ≤ _ from hlt) (Nat.le_refl _)
    rw [hsent, hs] at hshort
    omega
  | readHeader | readPayload | serve | writeHeader | writeHello =>
    rw [hpc] at hx
    cases hx

lemma SystemInv.no_helper_eof (hi : SystemInv c s) {want : ℕ} (hc : s.helper.pc.call = .read want)
    (hx : s.closed = true) : s.toHelper ≠ [] := by
  intro h0
  have hA := hi.hostAt
  have hB := hi.helperAt
  have hn := hi.closed hx
  cases hpc : s.host.pc with
  | done ok =>
    rw [hpc, h0, List.append_nil] at hA
    obtain ⟨-, -, hs, -⟩ := hA
    cases hpc' : s.helper.pc with
    | readHeader got =>
      rw [hpc'] at hB
      obtain ⟨hlt, hl, hg, -⟩ := hB
      rw [hs] at hl
      simp only [headerSize] at hl hg
      omega
    | readPayload h got =>
      rw [hpc'] at hB
      exact hB
    | serve | writeHeader | writeHello | exited =>
      rw [hpc'] at hc
      cases hc
  | sendRequest | readHeader | readHello =>
    rw [hpc] at hn
    cases hn

lemma SystemInv.hostStep (hi : SystemInv c s) {n : ℕ} {t : System} (h : hostStep c s n = some t) :
    SystemInv c t := by
  unfold Ipc.hostStep at h
  cases hc : s.host.pc.call with
  | read want =>
    simp only [hc] at h
    split_ifs at h with hn he
    · obtain rfl := Option.some.inj h
      refine ⟨hi.host.read hc ?_, ?_, ?_⟩
      · exact Nat.le_trans (List.length_take_le _ _) hn.2.1
      · simpa using hi.helper
      · intro hx
        rw [hi.closed hx] at hc
        cases hc
    · exact absurd he.2 (hi.no_host_eof hc he.1)
  | write left =>
    simp only [hc] at h
    split_ifs at h with hn
    obtain rfl := Option.some.inj h
    refine ⟨?_, hi.helper, ?_⟩
    · rw [← List.append_assoc]
      exact hi.host.wrote hc hn.2.1
    · intro hx
      rw [hi.closed hx] at hc
      cases hc
  | compute => simp [hc] at h
  | none =>
    simp only [hc] at h
    split_ifs at h
    obtain rfl := Option.some.inj h
    exact ⟨hi.host, hi.helper, fun _ => hc⟩

lemma SystemInv.helperStep (hi : SystemInv c s) {n : ℕ} {t : System} (h : helperStep c s n = some t) :
    SystemInv c t := by
  unfold Ipc.helperStep at h
  cases hc : s.helper.pc.call with
  | read want =>
    simp only [hc] at h
    split_ifs at h with hn he
    · obtain rfl := Option.some.inj h
      have hne : s.toHelper.take n ≠ [] := by
        refine List.ne_nil_of_length_pos ?_
        rw [List.length_take_of_le hn.2.2]
        exact hn.1
      refine ⟨by simpa using hi.host, hi.helper.read hc hne ?_, hi.closed⟩
      exact Nat.le_trans (List.length_take_le _ _) hn.2.1
    · exact absurd he.2 (hi.no_helper_eof hc he.1)
  | write left =>
    simp only [hc] at h
    split_ifs at h with hn
    obtain rfl := Option.some.inj h
    refine ⟨hi.host, ?_, hi.closed⟩
    rw [← List.append_assoc]
    exact hi.helper.wrote hc hn.1 hn.2.1
  | compute =>
    simp only [hc] at h
    obtain rfl := Option.some.inj h
    exact ⟨hi.host, hi.helper.serve, hi.closed⟩
  | none => simp [hc] at h

def Reachable (c : Setting) (s : System) : Prop := ∃ acts, run (System.step c) (.initial c) acts = some s

lemma systemInv_reachable (h : Reachable c s) : SystemInv c s := by
  obtain ⟨acts, h⟩ := h
  refine run_invariant (fun _ s => SystemInv c s) ?_ ?_ acts s h
  · exact ⟨hostInv_initial c.mode c.pad, helperInv_initial _ _, fun h => (by cases h)⟩
  · rintro _ t act u - hi hu
    cases act with
    | host n => exact hi.hostStep hu
    | helper n => exact hi.helperStep hu

lemma helper_moves (hi : SystemInv c s) (hread : ∀ got, s.helper.pc = .readHeader got → s.toHelper ≠ [])
    (hwrite : ∀ left, s.helper.pc.call = .write left → s.toHost = []) (hx : s.helper.pc.call ≠ .none) :
    ∃ t, helperStep c s 1 = some t := by
  have hB := hi.helperAt
  unfold helperStep
  cases hpc : s.helper.pc with
  | readHeader got =>
    rw [hpc] at hB
    have hpos := List.length_pos_of_ne_nil (hread got hpc)
    have hg := hB.2.2.1
    simp only [HelperPc.call]
    rw [if_pos ⟨Nat.one_pos, by omega, hpos⟩]
    exact ⟨_, rfl⟩
  | readPayload h got =>
    rw [hpc] at hB
    exact hB.elim
  | serve h => exact ⟨_, rfl⟩
  | writeHeader h left | writeHello h left =>
    have h0 := hwrite left (by rw [hpc]; rfl)
    have hpos : 0 < left.length := call_write_pos hi.helper (by rw [hpc]; rfl)
    have hroom := c.room_pos
    simp only [HelperPc.call, h0]
    rw [if_pos ⟨Nat.one_pos, hpos, by simp only [List.length_nil]; omega⟩]
    exact ⟨_, rfl⟩
  | exited code =>
    rw [hpc] at hx
    exact absurd rfl hx

lemma helper_waits (hi : SystemInv c s) {left : Bytes} (hc : s.host.pc.call = .write left) :
    s.helper.pc.call ≠ .none ∧ (∀ left', s.helper.pc.call ≠ .write left') := by
  have hA := hi.hostAt
  have hB := hi.helperAt
  cases hpc : s.host.pc with
  | sendRequest r rest left =>
    rw [hpc] at hA
    obtain ⟨hr, hs, hne, hrec⟩ := hA
    have hlt := (List.getElem?_eq_some_iff.mp hr).1
    have hpos := List.length_pos_of_ne_nil hne
    rw [List.length_append] at hs
    cases hpc' : s.helper.pc with
    | readHeader | readPayload | serve => exact ⟨fun h => (by cases h), fun _ h => (by cases h)⟩
    | writeHeader h left' | writeHello h left' =>
      rw [hpc'] at hB
      obtain ⟨-, hn, hl, hne', hw⟩ := hB
      have hpos' := List.length_pos_of_ne_nil hne'
      have hw' := congrArg List.length hw
      simp only [List.length_append, hrec] at hw'
      have hle : s.helper.served ≤ s.host.i := by
        simp only [headerSize] at *
        omega
      have := answered_le (e := c.helper) hle (Nat.le_of_lt hlt)
      omega
    | exited code =>
      rw [hpc'] at hB
      obtain ⟨-, -, hl, -⟩ := hB
      simp only [headerSize] at *
      omega
  | readHeader | readHello | done =>
    rw [hpc] at hc
    cases hc

lemma SystemInv.helper_exited (hi : SystemInv c s) (hc : s.host.pc.call = .none) : s.helper.pc.call = .none := by
  have hA := hi.hostAt
  have hB := hi.helperAt
  cases hpc : s.host.pc with
  | done ok =>
    rw [hpc] at hA
    obtain ⟨-, hidx, -, hrec, -⟩ := hA
    have hlong : (answered c.helper (requests c.mode) (requests c.mode).length).length ≤
        (s.hostRead ++ s.toHost).length := by
      rw [List.length_append, hrec, hidx]
      omega
    cases hpc' : s.helper.pc with
    | exited code => rfl
    | readPayload h got =>
      rw [hpc'] at hB
      exact hB.elim
    | readHeader got =>
      rw [hpc'] at hB
      obtain ⟨hlt, -, -, hsent⟩ := hB
      have := answered_lt (e := c.helper) hlt (Nat.le_refl _)
      rw [hsent] at hlong
      simp only [headerSize] at *
      omega
    | serve h =>
      rw [hpc'] at hB
      obtain ⟨hlt, -, hsent⟩ := hB
      have := answered_lt (e := c.helper) hlt (Nat.le_refl _)
      rw [hsent] at hlong
      simp only [headerSize] at *
      omega
    | writeHeader h left | writeHello h left =>
      rw [hpc'] at hB
      obtain ⟨-, hn, -, hne, hw⟩ := hB
      have := answered_le (e := c.helper) hn (Nat.le_refl _)
      have hpos := List.length_pos_of_ne_nil hne
      have hw' := congrArg List.length hw
      simp only [List.length_append] at hw' hlong
      omega
  | sendRequest | readHeader | readHello =>
    rw [hpc] at hc
    cases hc

lemma SystemInv.progress (hi : SystemInv c s) (hf : ¬ Final s) : ∃ act t, s.step c act = some t := by
  have hA := hi.hostAt
  have hB := hi.helperAt
  cases hc : s.host.pc.call with
  | read want =>
    obtain ⟨hlt, hw, hs, hshort⟩ := hostAt_reading hA hc
    by_cases h0 : s.toHost = []
    · refine ⟨.helper 1, helper_moves hi ?_ (fun _ _ => h0) fun hx => hi.no_host_eof hc hx h0⟩
      -- the helper has not yet read the request the host waits for
      rintro got hpc hempty
      rw [hpc, h0, List.append_nil] at hB
      obtain ⟨-, hl, hg, hsent⟩ := hB
      rw [hempty, List.append_nil, hl] at hs
      have heq : s.helper.served = s.host.i + 1 := by
        simp only [headerSize] at *
        omega
      rw [hsent, heq] at hshort
      exact absurd hshort (Nat.lt_irrefl _)
    · have hpos := List.length_pos_of_ne_nil h0
      refine ⟨.host 1, ?_⟩
      simp only [System.step, Ipc.hostStep, hc]
      rw [if_pos ⟨Nat.one_pos, hw, hpos⟩]
      exact ⟨_, rfl⟩
  | write left =>
    by_cases hroom : s.toHelper.length + 1 ≤ c.room
    · have hpos : 0 < left.length := by
        cases hpc : s.host.pc with
        | sendRequest r rest left' =>
          rw [hpc] at hA hc
          obtain rfl := Call.write.inj hc
          exact List.length_pos_of_ne_nil hA.2.2.1
        | readHeader | readHello | done =>
          rw [hpc] at hc
          cases hc
      refine ⟨.host 1, ?_⟩
      simp only [System.step, Ipc.hostStep, hc]
      rw [if_pos ⟨Nat.one_pos, hpos, hroom⟩]
      exact ⟨_, rfl⟩
    · -- the socket is full, so there is something for the helper to read
      have hroom' := c.room_pos
      obtain ⟨hx, hwr⟩ := helper_waits hi hc
      refine ⟨.helper 1, helper_moves hi (fun _ _ h0 => ?_) (fun left' h => absurd h (hwr left')) hx⟩
      rw [h0, List.length_nil] at hroom
      omega
  | compute => cases hpc : s.host.pc <;> simp [hpc, HostPc.call] at hc
  | none =>
    by_cases hcl : s.closed = true
    · exact absurd ⟨hcl, hi.helper_exited hc⟩ hf
    · refine ⟨.host 1, ?_⟩
      simp only [System.step, Ipc.hostStep, hc]
      rw [if_neg hcl]
      exact ⟨_, rfl⟩

def heartbeat (s : System) : Option ℕ := s.helper.shared.map fun p => p.heartbeat.toNat

lemma SystemInv.heartbeat (hi : SystemInv c s) : heartbeat s = some s.helper.served := by
  have hb := beats_heartbeat (e := c.helper) (some preparedPage) s.helper.served
  rw [← hi.helper.shared] at hb
  have hle := (helperAt_bounds hi.helperAt).1
  have hlen : (requests c.mode).length ≤ 5 := by cases c.mode <;> decide
  cases hs : s.helper.shared with
  | none => simp [hs] at hb
  | some p =>
    rw [hs] at hb
    have hp : p.heartbeat = UInt64.ofNat s.helper.served := by simpa [preparedPage] using hb
    simp only [Ipc.heartbeat, hs, Option.map_some, hp, UInt64.toNat_ofNat', Option.some.injEq]
    omega

lemma SystemInv.answered_first (hi : SystemInv c s) : s.host.i ≤ s.helper.served := by
  obtain ⟨hn, hs, -⟩ := helperAt_bounds hi.helperAt
  obtain ⟨hn', hr⟩ := hostAt_bounds hi.hostAt
  by_contra hlt
  have := answered_lt (e := c.helper) (Nat.lt_of_not_le hlt) hn'
  rw [List.length_append] at hs
  simp only [headerSize] at this
  omega

lemma answered_append_of_le {j k : ℕ} (h : j ≤ k) (hk : k ≤ reqs.length) :
    answered e reqs j <+: answered e reqs k := by
  obtain ⟨d, rfl⟩ := Nat.exists_eq_add_of_le h
  obtain ⟨back, hb, -⟩ := answered_add (e := e) hk
  exact ⟨back, hb.symm⟩

lemma helloAfter_expected (reqs : List MsgHeader) :
    helloAfter (expected e reqs) =
      if ∃ r ∈ reqs, r.type = GRAFT_IPC_HELLO then encodeHello e.hello else List.replicate helloSize 0 := by
  induction reqs using List.reverseRecOn with
  | nil => rfl
  | append_singleton qs r ih =>
    rw [expected_snoc, helloAfter_snoc, ih]
    rcases reply_payload (e := e) r with ⟨-, hr, hh⟩ | ⟨-, hr, hh⟩
    · simp [expectedResponse, hh, hr, or_and_right, exists_or]
    · have hne : encodeHello e.hello ≠ [] := List.ne_nil_of_length_pos (by rw [encodeHello_length]; decide)
      rw [if_pos (c := ∃ q ∈ qs ++ [r], q.type = GRAFT_IPC_HELLO) ⟨r, by simp, hr⟩]
      simp [expectedResponse, hh, hne]

lemma nonce_ne (e : HelperEnv) : e.hello.nonce ≠ 0 := by
  simp only [HelperEnv.hello, HelperEnv.nonce]
  split_ifs with h
  · decide
  · exact h

structure ReadingAnswer (c : Setting) (s : System) (r : MsgHeader) : Prop where
  current : (requests c.mode)[s.host.i]? = some r
  sent : s.helperRead ++ s.toHelper = requestBytes c.pad ((requests c.mode).take (s.host.i + 1))
  answer : ∃ part back, s.hostRead = answered c.helper (requests c.mode) s.host.i ++ part ∧
    part ++ s.toHost ++ back = responseBytes c.helper s.host.i r
  requestId : (decodeHeader ((responseBytes c.helper s.host.i r).take headerSize)).requestId = r.requestId

lemma requestBytes_append (pad : UInt64 → UInt32) (qs more : List MsgHeader) :
    requestBytes pad (qs ++ more) = requestBytes pad qs ++ requestBytes pad more :=
  List.flatMap_append

lemma SystemInv.helper_boundary (hi : SystemInv c s) {got : Bytes} (hpc : s.helper.pc = .readHeader got) :
    s.helperRead = requestBytes c.pad ((requests c.mode).take s.helper.served) ++ got := by
  obtain ⟨more, hm⟩ := host_sent hi.host
  obtain ⟨fs, -, hp⟩ := hi.helper.position
  rw [hpc] at hp
  obtain ⟨hr, -, -, hs⟩ := hp
  have hcat : frameBytes fs ++ (got ++ (s.toHelper ++ more)) = requestBytes c.pad (requests c.mode) := by
    rw [← hm, hr]
    simp
  obtain ⟨rest, hreq, ht⟩ := frames_of_requests (goodRequests c.mode).valid hcat
  have hfs : frameBytes fs = requestBytes c.pad (fs.map Frame.request) := by
    refine List.append_cancel_right (hcat.trans ?_)
    rw [ht, ← requestBytes_append, ← hreq]
  have htake : (requests c.mode).take s.helper.served = fs.map Frame.request := by
    rw [hreq, hs]
    exact List.take_left' (List.length_map _)
  rw [hr, hfs, htake]

lemma SystemInv.reading (hi : SystemInv c s) {want : ℕ} (hc : s.host.pc.call = .read want) {r : MsgHeader}
    (hr : (requests c.mode)[s.host.i]? = some r) : ReadingAnswer c s r where
  current := hr
  sent := by
    obtain ⟨hlt, -, hs, -⟩ := hostAt_reading hi.hostAt hc
    have h₁ : s.helperRead ++ s.toHelper <+: requestBytes c.pad (requests c.mode) := host_sent hi.host
    have h₂ : requestBytes c.pad ((requests c.mode).take (s.host.i + 1)) <+: requestBytes c.pad
        (requests c.mode) := by
      have := requestBytes_append c.pad ((requests c.mode).take (s.host.i + 1))
        ((requests c.mode).drop (s.host.i + 1))
      rw [List.take_append_drop] at this
      exact ⟨_, this.symm⟩
    have hl : (requestBytes c.pad ((requests c.mode).take (s.host.i + 1))).length =
        headerSize * (s.host.i + 1) := by
      rw [requestBytes_length, List.length_take_of_le hlt]
    exact (List.prefix_of_prefix_length_le h₁ h₂ (Nat.le_of_eq (hs.trans hl.symm))).eq_of_length (hs.trans hl.symm)
  answer := by
    obtain ⟨hlt, -, hs, -⟩ := hostAt_reading hi.hostAt hc
    obtain ⟨hn, hsent, hread⟩ := helperAt_bounds hi.helperAt
    have hall : s.hostRead ++ s.toHost <+: answered c.helper (requests c.mode) (requests c.mode).length :=
      helperAt_sent hi.helperAt
    have hle : s.helper.served ≤ s.host.i + 1 := by
      rw [List.length_append] at hs
      simp only [headerSize] at *
      omega
    obtain ⟨back, hb⟩ :=
      List.prefix_of_prefix_length_le hall (answered_append_of_le (show s.host.i + 1 ≤ _ from hlt) (Nat.le_refl _))
      (Nat.le_trans hsent (answered_le hle hlt))
    obtain ⟨part, hp⟩ := List.prefix_of_prefix_length_le (answered_append_of_le (Nat.le_of_lt hlt) (Nat.le_refl _))
      ((List.prefix_append s.hostRead s.toHost).trans hall) (hostAt_bounds hi.hostAt).2
    refine ⟨part, back, hp.symm, ?_⟩
    obtain ⟨_, hri⟩ := List.getElem?_eq_some_iff.mp hr
    rw [answered_succ hlt, ← hp, hri, List.append_assoc, List.append_assoc] at hb
    rw [List.append_assoc]
    exact List.append_cancel_left hb
  requestId := by
    rw [responseBytes, List.take_left' (encodeHeader_length _ _), decodeHeader_encodeHeader]
    rfl

structure SessionOk (c : Setting) (s : System) : Prop where
  hostBoundary : ∀ r rest got, s.host.pc = .readHeader r rest got →
    s.hostRead = answered c.helper (requests c.mode) s.host.i ++ got
  helperBoundary : ∀ got, s.helper.pc = .readHeader got →
    s.helperRead = requestBytes c.pad ((requests c.mode).take s.helper.served) ++ got
  readingHeader : ∀ r rest got, s.host.pc = .readHeader r rest got → ReadingAnswer c s r
  readingHello : ∀ r rest got, s.host.pc = .readHello r rest got → ReadingAnswer c s r
  heartbeat : ∃ n, heartbeat s = some n ∧ s.host.i ≤ n
  progress : ¬ Final s → ∃ act t, s.step c act = some t
  final : Final s →
    s.host.pc = .done true ∧ s.host.i = (requests c.mode).length ∧ s.toHelper = [] ∧ s.toHost = [] ∧
      Ipc.heartbeat s = some (requests c.mode).length ∧ decodeHello s.host.hello = c.helper.hello ∧
      c.helper.hello.nonce ≠ 0 ∧ s.helper.pc = .exited 0

/-- Every state of every interleaving is in step, no state but a final one is stuck, and a final state is
a completed exchange. -/
theorem session_ok (c : Setting) (s : System) (h : Reachable c s) : SessionOk c s := by
  have hi := systemInv_reachable h
  have hA := hi.hostAt
  have hB := hi.helperAt
  refine ⟨?_, fun got => hi.helper_boundary, ?_, ?_, ⟨_, hi.heartbeat, hi.answered_first⟩, hi.progress, ?_⟩
  · intro r rest got hpc
    rw [hpc] at hA
    exact hA.2.2.2
  · intro r rest got hpc
    rw [hpc] at hA
    exact hi.reading (by rw [hpc]; rfl) hA.1
  · intro r rest got hpc
    rw [hpc] at hA
    exact hi.reading (by rw [hpc]; rfl) hA.1
  · rintro ⟨hcl, hx⟩
    have hc := hi.closed hcl
    have hbeat := hi.heartbeat
    cases hpc : s.host.pc with
    | done ok =>
      cases hpc' : s.helper.pc with
      | exited code =>
        rw [hpc] at hA
        rw [hpc'] at hB
        obtain ⟨rfl, hidx, hsent, hrec, hhello⟩ := hA
        obtain ⟨rfl, hserved, hread, hresp⟩ := hB
        rw [hserved] at hbeat hresp
        refine ⟨rfl, hidx, ?_, ?_, hbeat, ?_, nonce_ne c.helper, rfl⟩
        · rw [List.length_append, hread] at hsent
          exact List.eq_nil_of_length_eq_zero (by omega)
        · rw [hrec, hidx] at hresp
          exact List.append_right_eq_self.mp hresp
        · rw [hhello, helloAfter_expected, if_pos ⟨request GRAFT_IPC_HELLO 1, by simp [requests], rfl⟩,
            decodeHello_encodeHello]
      | readHeader | readPayload | serve | writeHeader | writeHello =>
        rw [hpc'] at hx
        cases hx
    | sendRequest | readHeader | readHello =>
      rw [hpc] at hc
      cases hc

def spawnSetting : Setting := ⟨.spawn, fun _ => 0, ⟨77, 4096, 9, fun _ => 0⟩, 16, by decide⟩

def spawnActs : List Act :=
  [.host 16, .helper 16, .host 8, .helper 8, .helper 1, .helper 10, .host 10, .helper 14, .host 14, .helper 16,
    .host 16, .helper 8, .host 8, .host 16, .helper 16, .host 8, .helper 8, .helper 0, .helper 16, .host 9,
    .helper 8, .host 15, .host 0]

theorem session_ok_spawn : ∃ h : (run (System.step spawnSetting) (.initial spawnSetting) spawnActs).isSome = true,
    SessionOk spawnSetting ((run (System.step spawnSetting) (.initial spawnSetting) spawnActs).get h) ∧
      Final ((run (System.step spawnSetting) (.initial spawnSetting) spawnActs).get h) :=
  ⟨by decide, session_ok spawnSetting _ ⟨spawnActs, (Option.some_get _).symm⟩, by
    unfold Final
    decide⟩

end Graft64.Platform.Ipc
