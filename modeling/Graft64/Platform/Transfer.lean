import Graft64.Platform.Host

/-! `read_full_deadline` and `write_full_deadline`, whatever their system calls return. -/

namespace Graft64.Platform.Transfer

structure Timespec where
  sec : Int64
  nsec : Int64

def Timespec.ms (t : Timespec) : UInt64 := t.sec.toUInt64 * 1000 + t.nsec.toUInt64 / 1000000

/-- The bits of `revents` that are looked at. -/
structure Revents where
  pollin : Bool
  pollhup : Bool
  pollerr : Bool
  pollnval : Bool
  deriving DecidableEq

inductive Poll
  | ready (r : Revents)
  | timedOut
  | failed (e : SysError)

/-- The result of `read` or `write`: at most so many bytes move. A `read` returns 0 at the end of the
connection; a `write` of some bytes does not. -/
inductive Io
  | moved (n : ℕ) (pos : 0 < n)
  | none
  | failed (e : SysError)

structure Turn where
  now : Timespec
  poll : Int16 → Int32 → Poll
  returned : Timespec
  io : Io

inductive Direction
  | read
  | write
  deriving DecidableEq

def Direction.events : Direction → Int16
  | read => 1
  | write => 4

/-- `errno` when the transfer gives up after the call itself; a `write` leaves it as it is. -/
def Direction.giveUp : Direction → Errno → Errno
  | read, _ => EPIPE
  | write, e => e

/-- `(int)(deadline_ms - current)` -/
def Turn.timeout (u : Turn) (deadline : UInt64) : Int32 := (deadline - u.now.ms).toUInt32.toInt32

def Turn.answer (u : Turn) (d : Direction) (deadline : UInt64) : Poll := u.poll d.events (u.timeout deadline)

def Revents.fatal (r : Revents) : Bool := r.pollerr || r.pollnval || (r.pollhup && !r.pollin)

def waitFdDeadline (t : Target) (d : Direction) (deadline : UInt64) (u : Turn) : Except Errno Unit :=
  if u.now.ms ≥ deadline then .error (ETIMEDOUT t)
  else match u.answer d deadline with
    | .ready r => if r.fatal then .error EPIPE else .ok ()
    | .timedOut => .error (ETIMEDOUT t)
    | .failed _ => .error EPIPE

inductive Outcome
  | done
  | gaveUp (errno : Errno)
  | waiting
  deriving DecidableEq

/-- The loop: what it returns, and the bytes it has moved. The bytes are those of the buffer, or those the
peer sends, up to the size that is asked for. -/
def fullDeadline (t : Target) (d : Direction) (deadline : UInt64) :
    Errno → List UInt8 → List Turn → Outcome × List UInt8
  | _, [], _ => (.done, [])
  | _, _ :: _, [] => (.waiting, [])
  | e, b :: bs, u :: us =>
    match waitFdDeadline t d deadline u with
    | .error e => (.gaveUp e, [])
    | .ok () =>
      match u.io with
      | .moved n _ =>
        let rest := fullDeadline t d deadline e ((b :: bs).drop n) us
        (rest.1, (b :: bs).take n ++ rest.2)
      | .none => (.gaveUp (d.giveUp e), [])
      | .failed e =>
        if e.errno = EINTR then fullDeadline t d deadline EINTR (b :: bs) us
        else (.gaveUp (d.giveUp e.errno), [])

def readFullDeadline (t : Target) (deadline : UInt64) (errno : Errno) (requested : List UInt8)
    (turns : List Turn) :
    Outcome × List UInt8 :=
  fullDeadline t .read deadline errno requested turns

def writeFullDeadline (t : Target) (deadline : UInt64) (errno : Errno) (buffer : List UInt8) (turns : List Turn) :
    Outcome × List UInt8 :=
  fullDeadline t .write deadline errno buffer turns

variable (d : Direction) (deadline : UInt64)

def Turn.Expired (u : Turn) : Prop := deadline ≤ u.now.ms ∨ deadline ≤ u.returned.ms

inductive Turn.Cause (u : Turn) : Prop
  | deadline (h : u.Expired deadline)
  | hangup (r : Revents) (h : u.answer d deadline = .ready r) (hr : r.pollhup = true ∧ r.pollin = false)
  | condition (r : Revents) (h : u.answer d deadline = .ready r) (hr : r.pollerr = true ∨ r.pollnval = true)
  | pollFailed (e : SysError) (h : u.answer d deadline = .failed e) (he : e.errno ≠ EINTR)
  | closed (r : Revents) (h : u.answer d deadline = .ready r) (hio : u.io = .none)
  | ioFailed (r : Revents) (h : u.answer d deadline = .ready r) (e : SysError) (hio : u.io = .failed e)
      (he : e.errno ≠ EINTR)

structure Turn.Spurious (u : Turn) : Prop where
  early : ¬ u.Expired deadline
  answer : u.answer d deadline = .timedOut ∨ ∃ e, u.answer d deadline = .failed e ∧ e.errno = EINTR

def Turn.amount (u : Turn) : ℕ :=
  match u.answer d deadline, u.io with
  | .ready _, .moved n _ => n
  | _, _ => 0

structure Turn.Passes (u : Turn) : Prop where
  early : u.now.ms < deadline
  answer : ∃ r, u.answer d deadline = .ready r ∧ r.fatal = false
  io : (∃ n pos, u.io = .moved n pos) ∨ ∃ e, u.io = .failed e ∧ e.errno = EINTR

def amounts : List Turn → ℕ
  | [] => 0
  | u :: us => u.amount d deadline + amounts us

def Reaches (turns : List Turn) (size : ℕ) : Prop :=
  (∀ u ∈ turns, u.Passes d deadline) ∧ amounts d deadline turns < size

def Served (turns : List Turn) (size : ℕ) : Prop :=
  ∃ front back, turns = front ++ back ∧ (∀ u ∈ front, ¬ u.Cause d deadline) ∧ size ≤ amounts d deadline front

structure Dependable (source : List UInt8) (turns : List Turn) (result : Outcome × List UInt8) : Prop where
  complete : result.1 = .done → result.2 = source
  excused : ∀ e, result.1 = .gaveUp e → ∃ front u back, turns = front ++ u :: back ∧
    Reaches d deadline front source.length ∧ ¬ u.Passes d deadline ∧ u.Cause d deadline
  succeeds : Served d deadline turns source.length → result.1 = .done

variable {d deadline}

@[simp] lemma amounts_nil : amounts d deadline [] = 0 := rfl

@[simp] lemma amounts_cons (u : Turn) (us : List Turn) :
    amounts d deadline (u :: us) = u.amount d deadline + amounts d deadline us := rfl

@[simp] lemma amounts_append (us vs : List Turn) :
    amounts d deadline (us ++ vs) = amounts d deadline us + amounts d deadline vs := by
  induction us with
  | nil => simp
  | cons u us ih => simp [ih, Nat.add_assoc]

lemma waitFdDeadline_ok {t : Target} {u : Turn} (h : waitFdDeadline t d deadline u = .ok ()) :
    u.now.ms < deadline ∧ ∃ r, u.answer d deadline = .ready r ∧ r.fatal = false := by
  rw [waitFdDeadline] at h
  split_ifs at h with hnow
  refine ⟨UInt64.not_le.mp hnow, ?_⟩
  cases ha : u.answer d deadline with
  | ready r =>
    cases hr : r.fatal with
    | false => exact ⟨r, rfl, hr⟩
    | true => simp [ha, hr] at h
  | timedOut => simp [ha] at h
  | failed e => simp [ha] at h

lemma waitFdDeadline_error {t : Target} {u : Turn} {e : Errno} (h : waitFdDeadline t d deadline u = .error e) :
    u.Cause d deadline ∨ u.Spurious d deadline := by
  by_cases hexp : u.Expired deadline
  · exact .inl (.deadline hexp)
  · rw [waitFdDeadline, if_neg (fun hnow => hexp (.inl hnow))] at h
    cases ha : u.answer d deadline with
    | ready r =>
      have hfatal : r.fatal = true := by
        by_contra hr
        simp [ha, hr] at h
      simp only [Revents.fatal, Bool.or_eq_true, Bool.and_eq_true, Bool.not_eq_true'] at hfatal
      obtain hr | hr := hfatal
      · exact .inl (.condition r ha hr)
      · exact .inl (.hangup r ha hr)
    | timedOut => exact .inr ⟨hexp, .inl ha⟩
    | failed e' =>
      by_cases he : e'.errno = EINTR
      · exact .inr ⟨hexp, .inr ⟨e', ha, he⟩⟩
      · exact .inl (.pollFailed e' ha he)

lemma Turn.Spurious.not_passes {u : Turn} (h : u.Spurious d deadline) : ¬ u.Passes d deadline := by
  rintro ⟨-, ⟨r, hr, -⟩, -⟩
  obtain ha | ⟨e, ha, -⟩ := h.answer
  · simp [hr] at ha
  · simp [hr] at ha

lemma Turn.Spurious.not_cause {u : Turn} (h : u.Spurious d deadline) : ¬ u.Cause d deadline := by
  intro hc
  obtain ha | ⟨e, ha, he⟩ := h.answer
  · cases hc with
    | deadline hexp => exact h.early hexp
    | hangup r hr | condition r hr | closed r hr | ioFailed r hr => simp [ha] at hr
    | pollFailed e' hr => simp [ha] at hr
  · cases hc with
    | deadline hexp => exact h.early hexp
    | hangup r hr | condition r hr | closed r hr | ioFailed r hr => simp [ha] at hr
    | pollFailed e' hr he' =>
      obtain rfl : e = e' := by simpa [ha] using hr
      exact he' he

lemma Reaches.nil {size : ℕ} (h : 0 < size) : Reaches d deadline [] size := ⟨by simp, h⟩

lemma Reaches.cons {u : Turn} {us : List Turn} {size left : ℕ} (hu : u.Passes d deadline)
    (hleft : left ≤ size - u.amount d deadline) (h : Reaches d deadline us left) :
    Reaches d deadline (u :: us) size := by
  refine ⟨List.forall_mem_cons.mpr ⟨hu, h.1⟩, ?_⟩
  have := h.2
  rw [amounts_cons]
  omega

inductive Ends (d : Direction) (deadline : UInt64) (source : List UInt8) (turns : List Turn) :
    Outcome × List UInt8 → Prop
  | done (front back : List Turn) (h : turns = front ++ back) (hfront : ∀ u ∈ front, u.Passes d deadline)
      (hall : source.length ≤ amounts d deadline front) : Ends d deadline source turns (.done, source)
  | gaveUp (e : Errno) (moved : List UInt8) (front : List Turn) (u : Turn) (back : List Turn)
      (h : turns = front ++ u :: back) (hfront : Reaches d deadline front source.length)
      (hu : ¬ u.Passes d deadline)
      (hcause : u.Cause d deadline ∨ u.Spurious d deadline) : Ends d deadline source turns (.gaveUp e, moved)
  | waiting (moved : List UInt8) (h : Reaches d deadline turns source.length) :
      Ends d deadline source turns (.waiting, moved)

lemma Ends.cons {source left : List UInt8} {u : Turn} {us : List Turn} {result : Outcome × List UInt8}
    (hu : u.Passes d deadline) (hleft : left = source.drop (u.amount d deadline))
    (h : Ends d deadline left us result) :
    Ends d deadline source (u :: us) (result.1, source.take (u.amount d deadline) ++ result.2) := by
  have hlength : left.length ≤ source.length - u.amount d deadline := by simp [hleft]
  cases h with
  | done front back h hfront hall =>
    subst h
    have hcover : source.length ≤ amounts d deadline (u :: front) := by
      rw [hleft, List.length_drop] at hall
      rw [amounts_cons]
      omega
    rw [hleft, List.take_append_drop]
    exact .done (u :: front) back rfl (List.forall_mem_cons.mpr ⟨hu, hfront⟩) hcover
  | gaveUp e moved front v back h hfront hv hcause =>
    subst h
    exact .gaveUp e _ (u :: front) v back rfl (hfront.cons hu hlength) hv hcause
  | waiting moved h => exact .waiting _ (h.cons hu hlength)

lemma fullDeadline_ends (t : Target) (e : Errno) (source : List UInt8) (turns : List Turn) :
    Ends d deadline source turns (fullDeadline t d deadline e source turns) := by
  induction turns generalizing e source with
  | nil =>
    cases source with
    | nil => exact .done [] [] rfl (by simp) (Nat.zero_le _)
    | cons b bs => exact .waiting [] (.nil (Nat.succ_pos _))
  | cons u us ih =>
    cases source with
    | nil => exact .done [] (u :: us) rfl (by simp) (Nat.zero_le _)
    | cons b bs =>
      have hstart : Reaches d deadline [] (b :: bs).length := .nil (Nat.succ_pos _)
      rw [fullDeadline]
      cases hw : waitFdDeadline t d deadline u with
      | error e' =>
        have hfails := waitFdDeadline_error hw
        have hstops : ¬ u.Passes d deadline := by
          rintro ⟨hnow, ⟨r, hr, hfatal⟩, -⟩
          rw [waitFdDeadline, if_neg (UInt64.not_le.mpr hnow), hr] at hw
          simp [hfatal] at hw
        exact .gaveUp e' [] [] u us rfl hstart hstops hfails
      | ok _ =>
        obtain ⟨hnow, r, hr, hfatal⟩ := waitFdDeadline_ok hw
        cases hio : u.io with
        | moved n pos =>
          have hamount : u.amount d deadline = n := by simp [Turn.amount, hr, hio]
          have hpasses : u.Passes d deadline := ⟨hnow, ⟨r, hr, hfatal⟩, .inl ⟨n, pos, hio⟩⟩
          have hgoes : Ends d deadline (b :: bs) (u :: us) _ :=
            (ih e ((b :: bs).drop (u.amount d deadline))).cons hpasses rfl
          rw [hamount] at hgoes
          exact hgoes
        | none =>
          have hstops : ¬ u.Passes d deadline := fun h => by simpa [hio] using h.io
          exact .gaveUp _ [] [] u us rfl hstart hstops (.inl (.closed r hr hio))
        | failed e' =>
          by_cases he : e'.errno = EINTR
          · have hamount : u.amount d deadline = 0 := by simp [Turn.amount, hr, hio]
            have hpasses : u.Passes d deadline := ⟨hnow, ⟨r, hr, hfatal⟩, .inr ⟨e', hio, he⟩⟩
            have hgoes : Ends d deadline (b :: bs) (u :: us) _ :=
              (ih EINTR (b :: bs)).cons hpasses (by rw [hamount, List.drop_zero])
            simpa [hamount, he] using hgoes
          · have hstops : ¬ u.Passes d deadline := fun h => by simpa [hio, he] using h.io
            simp only [he, if_false]
            exact .gaveUp _ [] [] u us rfl hstart hstops (.inl (.ioFailed r hr e' hio he))

lemma mem_or_isPrefix {front back front' back' : List Turn} {u : Turn} (h : front ++ u :: back = front' ++ back') :
    u ∈ front' ∨ ∃ mid, front = front' ++ mid := by
  obtain ⟨mid, rfl, hmid⟩ | ⟨mid, rfl, -⟩ := List.append_eq_append_iff.mp h
  · cases mid with
    | nil => exact .inr ⟨[], by simp⟩
    | cons v mid =>
      obtain ⟨rfl, -⟩ := List.cons.inj hmid
      exact .inl (by simp)
  · exact .inr ⟨mid, rfl⟩

lemma stop_unique {front back front' back' : List Turn} {u u' : Turn}
    (h : front ++ u :: back = front' ++ u' :: back')
    (hfront : ∀ v ∈ front, v.Passes d deadline) (hu : ¬ u.Passes d deadline)
    (hfront' : ∀ v ∈ front', v.Passes d deadline) (hu' : ¬ u'.Passes d deadline) : u = u' := by
  obtain hmem | ⟨mid, rfl⟩ := mem_or_isPrefix h
  · exact absurd (hfront' u hmem) hu
  · rw [List.append_assoc] at h
    cases mid with
    | nil => simpa using (List.cons.inj (List.append_cancel_left h)).1
    | cons v mid =>
      obtain ⟨rfl, -⟩ := List.cons.inj (List.append_cancel_left h)
      exact absurd (hfront v (by simp)) hu'

lemma fullDeadline_dependable (t : Target) (e : Errno) (source : List UInt8) (turns : List Turn) :
    Dependable d deadline source turns (fullDeadline t d deadline e source turns) ↔
      ∀ front u back, turns = front ++ u :: back → Reaches d deadline front source.length →
        ¬ u.Spurious d deadline := by
  have hends : Ends d deadline source turns _ := fullDeadline_ends t e source turns
  generalize fullDeadline t d deadline e source turns = result at hends
  constructor
  · rintro hdep front u back rfl hfront hspurious
    cases hends with
    | done front' back' h hfront' hall =>
      obtain hmem | ⟨mid, rfl⟩ := mem_or_isPrefix h
      · exact hspurious.not_passes (hfront' u hmem)
      · have := hfront.2
        rw [amounts_append] at this
        omega
    | gaveUp e moved =>
      obtain ⟨front', u', back', h, hfront', hu', hcause⟩ := hdep.excused e rfl
      obtain rfl := stop_unique h hfront.1 hspurious.not_passes hfront'.1 hu'
      exact hspurious.not_cause hcause
    | waiting moved h => exact hspurious.not_passes (h.1 u (by simp))
  · intro hquiet
    cases hends with
    | done => exact ⟨fun _ => rfl, fun _ h => (by cases h), fun _ => rfl⟩
    | gaveUp e moved front u back h hfront hu hcause =>
      have hreason : u.Cause d deadline := hcause.resolve_right (hquiet front u back h hfront)
      refine ⟨fun h => (by cases h), fun _ _ => ⟨front, u, back, h, hfront, hu, hreason⟩, ?_⟩
      rintro ⟨front', back', h', hnone, hall⟩
      obtain hmem | ⟨mid, rfl⟩ := mem_or_isPrefix (h.symm.trans h')
      · exact absurd hreason (hnone u hmem)
      · have := hfront.2
        rw [amounts_append] at this
        omega
    | waiting moved h =>
      refine ⟨fun h => (by cases h), fun _ h => (by cases h), ?_⟩
      rintro ⟨front', back', rfl, -, hall⟩
      have := h.2
      rw [amounts_append] at this
      omega

/-- A full transfer keeps its promises exactly when no `poll` it comes to is interrupted, or over, before the
deadline. -/
theorem transfer_dependable_iff (t : Target) (deadline : UInt64) (e : Errno) (source : List UInt8)
    (turns : List Turn) :
    (Dependable .read deadline source turns (readFullDeadline t deadline e source turns) ↔
      ∀ front u back, turns = front ++ u :: back → Reaches .read deadline front source.length →
        ¬ u.Spurious .read deadline) ∧
    (Dependable .write deadline source turns (writeFullDeadline t deadline e source turns) ↔
      ∀ front u back, turns = front ++ u :: back → Reaches .write deadline front source.length →
        ¬ u.Spurious .write deadline) :=
  ⟨fullDeadline_dependable t e source turns, fullDeadline_dependable t e source turns⟩

def Turn.Timely (d : Direction) (deadline : UInt64) (u : Turn) : Prop :=
  u.answer d deadline = .timedOut → 0 ≤ (u.timeout deadline).toInt ∧
    u.now.ms.toNat + (u.timeout deadline).toInt.toNat ≤ u.returned.ms.toNat

theorem spurious_interrupted {u : Turn} (ht : u.Timely d deadline) (hnear : (deadline - u.now.ms).toNat < 2 ^ 31)
    (h : u.Spurious d deadline) : ∃ e, u.answer d deadline = .failed e ∧ e.errno = EINTR := by
  obtain ha | ha := h.answer
  · exfalso
    obtain ⟨hnow, hreturned⟩ := not_or.mp h.early
    rw [UInt64.not_le, UInt64.lt_iff_toNat_lt] at hnow hreturned
    have hdiff : (deadline - u.now.ms).toNat = deadline.toNat - u.now.ms.toNat :=
      UInt64.toNat_sub_of_le _ _ (UInt64.le_iff_toNat_le.mpr (Nat.le_of_lt hnow))
    have hcast : (deadline - u.now.ms).toUInt32.toNat = (deadline - u.now.ms).toNat := by
      rw [UInt64.toNat_toUInt32]
      exact Nat.mod_eq_of_lt (by omega)
    have htimeout : (u.timeout deadline).toInt = (deadline - u.now.ms).toNat := by
      change (deadline - u.now.ms).toUInt32.toBitVec.toInt = _
      rw [BitVec.toInt_eq_toNat_of_lt, UInt32.toNat_toBitVec, hcast]
      rw [UInt32.toNat_toBitVec, hcast]
      omega
    have := (ht ha).2
    rw [htimeout] at this
    omega
  · exact ha

def interrupted : Turn where
  now := ⟨0, 0⟩
  poll _ _ := .failed .eintr
  returned := ⟨0, 0⟩
  io := .none

def ready : Turn where
  now := ⟨0, 1000000⟩
  poll _ _ := .ready ⟨true, false, false, false⟩
  returned := ⟨0, 1000000⟩
  io := .moved 1 Nat.one_pos

/-- A signal during `poll`, and the byte a millisecond later: the read fails ten seconds before its deadline. -/
theorem interrupted_poll_fails : (readFullDeadline .macos 10000 0 [42] [interrupted, ready]).1 = .gaveUp EPIPE ∧
    ¬ Dependable .read 10000 [42] [interrupted, ready]
      (readFullDeadline .macos 10000 0 [42] [interrupted, ready]) := by
  refine ⟨by decide, ?_⟩
  intro h
  have hspurious : interrupted.Spurious .read 10000 := ⟨by unfold Turn.Expired; decide, .inr ⟨_, rfl, rfl⟩⟩
  exact (fullDeadline_dependable .macos 0 [42] _).mp h [] interrupted [ready] rfl ⟨by simp, by decide⟩ hspurious

end Graft64.Platform.Transfer
