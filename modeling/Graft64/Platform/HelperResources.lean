import Graft64.Library.Ledger
import Graft64.Platform.HelperProbe

/-! The descriptors, the mapping and the child of one round trip, and what becomes of them. -/

namespace Graft64.Platform.HelperProbe

open Graft64.Library Ledger Ipc

structure Poll where
  waitpid : Except SysError (Option WaitStatus)
  now : ℕ

inductive PollEnd
  | ended (s : WaitStatus)
  | failed (e : SysError)
  | timedOut

def pollOnce (deadline : ℕ) (p : Poll) : Option PollEnd :=
  match p.waitpid with
  | .ok (some s) => some (.ended s)
  | .ok none => if deadline ≤ p.now then some .timedOut else none
  | .error e =>
    if e.errno ≠ EINTR then some (.failed e) else if deadline ≤ p.now then some .timedOut else none

def PollEnd.status : PollEnd → Option WaitStatus
  | .ended s => some s
  | .failed _ | .timedOut => none

/-- What the calls after the exchange find: the turns of the loop, and the blocking `waitpid` that follows
when the child is killed, interrupted so many times. -/
structure Waits {mode : Mode} (c : Calls mode) where
  deadline : ℕ
  polls : List Poll
  last : Poll
  finish : PollEnd
  going : ∀ p ∈ polls, pollOnce deadline p = none
  ended : pollOnce deadline last = some finish
  wait_eq : c.wait = finish.status
  interruptions : ℕ
  reap : Except SysError WaitStatus
  reap_ne : ∀ e, reap = .error e → e.errno ≠ EINTR

inductive Resource
  | parentSocket
  | childSocket
  | sharedFile
  | mapping
  | child
  deriving DecidableEq, Repr

inductive HostCall
  | socketpair (e : Option SysError)
  | mkstemp (e : Option SysError)
  | ftruncate (e : Option SysError)
  | mmap (e : Option SysError)
  | spawn (e : Option SysError)
  | close (r : Resource)
  | munmap
  | poll (p : Poll)
  | kill
  | wait (r : Except SysError WaitStatus)

def interrupted : SysError := .eintr

/-- A `waitpid` without `WNOHANG` that is not interrupted has waited for the child, or there is none. -/
def HostCall.entries : HostCall → List (Entry Resource)
  | .socketpair none => [.acquire .parentSocket, .acquire .childSocket]
  | .mkstemp none => [.acquire .sharedFile]
  | .mmap none => [.acquire .mapping]
  | .spawn none => [.acquire .child]
  | .close r => [.release r]
  | .munmap => [.release .mapping]
  | .poll ⟨.ok (some _), _⟩ => [.release .child]
  | .wait (.ok _) => [.release .child]
  | .wait (.error e) => if e.errno = EINTR then [] else [.release .child]
  | _ => []

def waitCalls {mode : Mode} {c : Calls mode} (w : Waits c) : List HostCall :=
  (w.polls ++ [w.last]).map .poll ++
    match w.finish with
    | .ended _ => []
    | _ => .kill :: List.replicate w.interruptions (.wait (.error interrupted)) ++ [.wait w.reap]

def closeSockets : List HostCall := [.close .parentSocket, .close .childSocket]

def roundtripCalls (t : Target) (g : Configuration) {mode : Mode} (c : Calls mode) (w : Waits c) : List HostCall :=
  if g.helperPath = [] then []
  else match c.socketpair with
  | some e => [.socketpair (some e)]
  | none =>
    .socketpair none ::
      if PATH_MAX t ≤ (sharedDir g c.cacheWritable ++ cstr "/.graft64-helper-shm-XXXXXX").length then closeSockets
      else match c.mkstemp, c.ftruncate, c.mmap, c.spawn with
      | some e, _, _, _ => .mkstemp (some e) :: closeSockets
      | none, some e, _, _ => [.mkstemp none, .ftruncate (some e), .close .sharedFile] ++ closeSockets
      | none, none, some e, _ =>
        [.mkstemp none, .ftruncate none, .mmap (some e), .close .sharedFile] ++ closeSockets
      | none, none, none, .error e =>
        [.mkstemp none, .ftruncate none, .mmap none, .spawn (some e), .close .childSocket, .munmap,
          .close .sharedFile, .close .parentSocket]
      | none, none, none, .ok _ =>
        [.mkstemp none, .ftruncate none, .mmap none, .spawn none, .close .childSocket, .munmap,
          .close .sharedFile, .close .parentSocket] ++ waitCalls w

def ReapedAtEnd (calls : List HostCall) : Prop :=
  (∃ pre p s, calls = pre ++ [.poll p] ∧ p.waitpid = .ok (some s)) ∨
    ∃ pre n r, calls = pre ++ .kill :: List.replicate n (.wait (.error interrupted)) ++ [.wait r] ∧
      ∀ e, r = .error e → e.errno ≠ EINTR

theorem polls_end {deadline : ℕ} (polls : ℕ → Poll) {n : ℕ} (h : deadline ≤ (polls n).now) :
    ∃ k finish, (∀ i < k, pollOnce deadline (polls i) = none) ∧ pollOnce deadline (polls k) = some finish := by
  have hn : (pollOnce deadline (polls n)).isSome = true := by
    rw [pollOnce]
    split
    · rfl
    · rw [if_pos h]
      rfl
    · split_ifs <;> rfl
  have hex : ∃ k, (pollOnce deadline (polls k)).isSome = true := ⟨n, hn⟩
  obtain ⟨finish, hf⟩ := Option.isSome_iff_exists.mp (Nat.find_spec hex)
  exact ⟨Nat.find hex, finish, fun i hi => by simpa using Nat.find_min hex hi, hf⟩

lemma waits_nonempty {mode : Mode} (c : Calls mode) : Nonempty (Waits c) := by
  cases h : c.wait with
  | some s =>
    exact ⟨⟨0, [], ⟨.ok (some s), 0⟩, .ended s, by simp, rfl, h, 0, .ok s, fun _ he => (by cases he)⟩⟩
  | none =>
    exact ⟨⟨0, [], ⟨.ok none, 0⟩, .timedOut, by simp, rfl, h, 0, .ok .signaled, fun _ he => (by cases he)⟩⟩

section

variable {t : Target} {g : Configuration} {mode : Mode} {c : Calls mode}

lemma poll_entries_nil {deadline : ℕ} {p : Poll} (h : pollOnce deadline p = none) :
    (HostCall.poll p).entries = [] := by
  rcases p with ⟨e | (_ | s), now⟩
  · rfl
  · rfl
  · cases h

lemma polls_entries (w : Waits c) : (w.polls.map HostCall.poll).flatMap HostCall.entries = [] := by
  rw [List.flatMap_eq_nil_iff]
  intro call hc
  obtain ⟨p, hp, rfl⟩ := List.mem_map.mp hc
  exact poll_entries_nil (w.going p hp)

lemma interrupted_entries (n : ℕ) :
    (List.replicate n (HostCall.wait (.error interrupted))).flatMap HostCall.entries = [] := by
  rw [List.flatMap_eq_nil_iff]
  intro call hc
  rw [List.eq_of_mem_replicate hc]
  rfl

lemma reap_entries (w : Waits c) : (HostCall.wait w.reap).entries = [.release .child] := by
  cases h : w.reap with
  | ok s => rfl
  | error e => exact if_neg (w.reap_ne e h)

lemma pollOnce_some {deadline : ℕ} {p : Poll} {finish : PollEnd} (h : pollOnce deadline p = some finish) :
    (∃ s, finish = .ended s ∧ p.waitpid = .ok (some s)) ∨
      (finish.status = none ∧ (HostCall.poll p).entries = []) := by
  rcases p with ⟨e | (_ | s), now⟩
  · refine .inr ⟨?_, rfl⟩
    replace h : (if e.errno ≠ EINTR then some (PollEnd.failed e) else
      if deadline ≤ now then some .timedOut else none) = some finish := h
    split_ifs at h
    all_goals
      obtain rfl := Option.some.inj h
      rfl
  · refine .inr ⟨?_, rfl⟩
    obtain ⟨-, h⟩ := Option.ite_none_right_eq_some.mp
      (h : (if deadline ≤ now then some PollEnd.timedOut else none) = _)
    obtain rfl := Option.some.inj h
    rfl
  · obtain rfl := Option.some.inj h
    exact .inl ⟨s, rfl, rfl⟩

lemma waitCalls_cases (w : Waits c) :
    (∃ s, w.last.waitpid = .ok (some s) ∧ waitCalls w = (w.polls ++ [w.last]).map .poll) ∨
      ((HostCall.poll w.last).entries = [] ∧ waitCalls w = (w.polls ++ [w.last]).map .poll ++
        .kill :: List.replicate w.interruptions (.wait (.error interrupted)) ++ [.wait w.reap]) := by
  rw [waitCalls]
  rcases pollOnce_some w.ended with ⟨s, hf, hs⟩ | ⟨hf, he⟩
  · rw [hf]
    exact .inl ⟨s, hs, List.append_nil _⟩
  · refine .inr ⟨he, ?_⟩
    cases h : w.finish with
    | ended s =>
      rw [h] at hf
      cases hf
    | failed e => simp
    | timedOut => simp

lemma waitCalls_entries (w : Waits c) : (waitCalls w).flatMap HostCall.entries = [.release .child] := by
  rcases waitCalls_cases w with ⟨s, hs, hw⟩ | ⟨he, hw⟩
  · have hl : (HostCall.poll w.last).entries = [.release .child] := by
      rcases hp : w.last with ⟨r, now⟩
      rw [hp] at hs
      obtain rfl : r = _ := hs
      rfl
    rw [hw, List.map_append, List.flatMap_append, polls_entries, List.nil_append]
    simp [hl]
  · rw [hw, List.map_append, List.flatMap_append, List.flatMap_append, List.flatMap_append, polls_entries,
      List.flatMap_cons, interrupted_entries]
    have hk : HostCall.kill.entries = [] := rfl
    simp [he, hk, reap_entries]

lemma ReapedAtEnd.append {calls : List HostCall} (h : ReapedAtEnd calls) (pre : List HostCall) :
    ReapedAtEnd (pre ++ calls) := by
  rcases h with ⟨pre', p, s, rfl, hs⟩ | ⟨pre', n, r, rfl, hr⟩
  · exact .inl ⟨pre ++ pre', p, s, (List.append_assoc pre pre' _).symm, hs⟩
  · exact .inr ⟨pre ++ pre', n, r, by simp, hr⟩

lemma waitCalls_reaped (w : Waits c) : ReapedAtEnd (waitCalls w) := by
  rcases waitCalls_cases w with ⟨s, hs, hw⟩ | ⟨-, hw⟩
  · rw [hw, List.map_append]
    exact .inl ⟨_, w.last, s, rfl, hs⟩
  · rw [hw]
    exact .inr ⟨_, w.interruptions, w.reap, rfl, w.reap_ne⟩

end

/-- On every path every descriptor is closed, the mapping unmapped and the child waited for, each exactly
once; and a child that was not found to have ended is killed before it is waited for. -/
theorem roundtrip_balanced (t : Target) (g : Configuration) {mode : Mode} (c : Calls mode) (w : Waits c) :
    Balanced ((roundtripCalls t g c w).flatMap HostCall.entries) ∧
      ∀ pid, Started t g c pid → ReapedAtEnd (roundtripCalls t g c w) := by
  constructor
  · rw [roundtripCalls]
    by_cases hp : g.helperPath = []
    · rw [if_pos hp]
      rfl
    · rw [if_neg hp]
      cases c.socketpair with
      | some e => rfl
      | none =>
        simp only
        by_cases hl : PATH_MAX t ≤ (sharedDir g c.cacheWritable ++ cstr "/.graft64-helper-shm-XXXXXX").length
        · rw [if_pos hl]
          rfl
        · rw [if_neg hl]
          cases c.mkstemp with
          | some e => rfl
          | none =>
            cases c.ftruncate with
            | some e => rfl
            | none =>
              cases c.mmap with
              | some e => rfl
              | none =>
                cases c.spawn with
                | error e => rfl
                | ok pid =>
                  simp only [List.flatMap_cons, List.flatMap_append, waitCalls_entries]
                  rfl
  · rintro pid ⟨hp, hs, hl, hm, hf, hmap, hspawn⟩
    rw [roundtripCalls, if_neg hp, hs, hm, hf, hmap, hspawn]
    simp only [if_neg (Nat.not_le.mpr hl)]
    exact (waitCalls_reaped w).append
      (.socketpair none :: [.mkstemp none, .ftruncate none, .mmap none, .spawn none, .close .childSocket, .munmap,
        .close .sharedFile, .close .parentSocket])

end Graft64.Platform.HelperProbe
