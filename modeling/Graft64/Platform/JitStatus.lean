import Graft64.Platform.PageRound
import Graft64.Platform.ProbeConsistency

/-! `graft_jit_check`: the state of JIT that the app shows, and what it has to do with the probe `jit_basic`. -/

namespace Graft64.Platform.Probes

open Graft64.Library Jit

def ENOSYS (t : Target) : Errno := if t.apple then 78 else 38

inductive JitStatus
  | unknown | enabled | disabled | unavailable
  deriving DecidableEq, Repr

structure CheckCalls where
  /-- `pthread_jit_write_protect_supported_np`, which only iOS is asked for. -/
  supported : Bool
  alloc : AllocCalls
  write : WriteCalls
  commit : Option SysError

def nop : List UInt8 := [0x1F, 0x20, 0x03, 0xD5]

def failedStatus (t : Target) (e : Errno) : JitStatus :=
  if e = EACCES ∨ e = EPERM then .disabled
  else if e = ENOTSUP t ∨ e = ENOSYS t then .unavailable
  else .unknown

/-- The region is freed before `errno` is looked at, and `errno` is kept over that. -/
def graftJitCheck (t : Target) (c : CheckCalls) (space : AddressSpace) : JitStatus × World :=
  if t.apple = false ∨ (t = .ios ∧ c.supported = false) then (.unavailable, ⟨.zero, space⟩)
  else match graftJitAlloc t c.alloc.page c.alloc.outcome 4096 ⟨.zero, space⟩ with
  | (.error e, w) => (failedStatus t e, graftJitFree w)
  | (.ok (), w) => match graftJitWrite t c.write.outcome 0 nop 4 w with
    | (.error e, w) => (failedStatus t e, graftJitFree w)
    | (.ok (), w) => match graftJitInvalidate 0 4 w with
      | .error e => (failedStatus t e, graftJitFree w)
      | .ok () => match graftJitCommit t (c.commit.map SysError.errno) w with
        | (.error e, w) => (failedStatus t e, graftJitFree w)
        | (.ok (), w) => (.enabled, graftJitFree w)

def Vacant (o : AllocOutcome) (space : AddressSpace) : Prop :=
  ∀ base, o.mmap = .ok base ∨ o.fallback = .ok base → base ≠ 0 ∧ space base = none

section Regions

variable {t : Target} {w : World} {space : AddressSpace}

lemma alloc_shape (t : Target) (page : Size) (o : AllocOutcome) (size : Size) :
    (∃ e, ∀ w, graftJitAlloc t page o size w = (.error e, w)) ∨
      ∃ base backend x, (o.mmap = .ok base ∨ o.fallback = .ok base) ∧
        ∀ w, graftJitAlloc t page o size w = (.ok (), install w base (pageRound page size) backend x) := by
  unfold graftJitAlloc
  by_cases h0 : size = 0
  · simp only [if_pos h0]
    exact .inl ⟨EINVAL, fun _ => rfl⟩
  · simp only [if_neg h0]
    cases hm : o.mmap with
    | ok base => exact .inr ⟨base, 1, _, .inl rfl, fun _ => rfl⟩
    | error e =>
      by_cases ht : t = .ios
      · simp only [if_pos ht]
        cases hf : o.fallback with
        | ok base => exact .inr ⟨base, 2, false, .inr rfl, fun _ => rfl⟩
        | error e' => exact .inl ⟨e', fun _ => rfl⟩
      · simp only [if_neg ht]
        exact .inl ⟨e, fun _ => rfl⟩

abbrev OutOfBounds (w : World) (offset size : Size) : Prop :=
  w.region.base = 0 ∨ offset > w.region.size ∨ size > w.region.size - offset

lemma write_shape (t : Target) (o : WriteOutcome) (region : Region) :
    (∃ e, ∀ w offset data size, w.region = region → ¬OutOfBounds w offset size →
      graftJitWrite t o offset data size w = (.error e, w)) ∨
    ∃ opened : Bool, ∀ w offset data size, w.region = region → ¬OutOfBounds w offset size →
      graftJitWrite t o offset data size w =
        (.ok (), memcpy (if opened then protect w true false else w) offset (data.take size.toNat)) := by
  by_cases hj : t = .ios ∧ region.backend = 1
  · by_cases hc : o.callback = 0
    · refine .inr ⟨false, ?_⟩
      rintro w offset data size rfl hb
      rw [graftJitWrite, if_neg hb, if_pos hj, if_pos hc]
      rfl
    · refine .inl ⟨if o.callback > 0 then o.callback.toNat else EIO, ?_⟩
      rintro w offset data size rfl hb
      rw [graftJitWrite, if_neg hb, if_pos hj, if_neg hc]
  · cases hm : o.mprotect with
    | some e =>
      refine .inl ⟨e, ?_⟩
      rintro w offset data size rfl hb
      unfold graftJitWrite graftJitBeginWrite
      rw [if_neg hb, if_neg hj, hm, if_neg fun h => hb (.inl h), if_neg hj]
    | none =>
      refine .inr ⟨true, ?_⟩
      rintro w offset data size rfl hb
      unfold graftJitWrite graftJitBeginWrite
      rw [if_neg hb, if_neg hj, hm, if_neg fun h => hb (.inl h), if_neg hj]
      rfl

lemma write_outOfBounds {o : WriteOutcome} {offset size : Size} {data : List UInt8}
    (h : OutOfBounds w offset size) :
    graftJitWrite t o offset data size w = (.error EINVAL, w) := if_pos h

lemma commit_shape (t : Target) (mprotect : Option Errno) (region : Region) :
    (∃ e, ∀ w, w.region = region → graftJitCommit t mprotect w = (.error e, w)) ∨
      ∃ closed : Bool, ∀ w, w.region = region →
        graftJitCommit t mprotect w = (.ok (), if closed then protect w false true else w) := by
  unfold graftJitCommit
  by_cases hb : region.base = 0
  · refine .inl ⟨EINVAL, ?_⟩
    rintro w rfl
    rw [if_pos hb]
  · by_cases hj : t = .ios ∧ region.backend = 1
    · refine .inr ⟨false, ?_⟩
      rintro w rfl
      rw [if_neg hb, if_pos hj]
      rfl
    · cases mprotect with
      | some e =>
        refine .inl ⟨e, ?_⟩
        rintro w rfl
        rw [if_neg hb, if_neg hj]
      | none =>
        refine .inr ⟨true, ?_⟩
        rintro w rfl
        rw [if_neg hb, if_neg hj]
        rfl

structure Holds (space : AddressSpace) (w : World) : Prop where
  base_ne : w.region.base ≠ 0
  vacant : space w.region.base = none
  rest : ∀ b ≠ w.region.base, w.space b = space b

lemma Holds.protect (h : Holds space w) (x y : Bool) : Holds space (protect w x y) :=
  ⟨h.base_ne, h.vacant, fun b hb => (if_neg hb).trans (h.rest b hb)⟩

lemma Holds.memcpy (h : Holds space w) (offset : Size) (data : List UInt8) : Holds space (memcpy w offset data) :=
  ⟨h.base_ne, h.vacant, fun b hb => (if_neg hb).trans (h.rest b hb)⟩

lemma Holds.write (h : Holds space w) (o : WriteOutcome) (offset : Size) (data : List UInt8) (size : Size) :
    Holds space (graftJitWrite t o offset data size w).2 := by
  by_cases hb : OutOfBounds w offset size
  · rw [write_outOfBounds hb]
    exact h
  · rcases write_shape t o w.region with ⟨e, he⟩ | ⟨opened, ho⟩
    · rw [he w offset data size rfl hb]
      exact h
    · rw [ho w offset data size rfl hb]
      cases opened with
      | true => exact (h.protect true false).memcpy _ _
      | false => exact h.memcpy _ _

lemma Holds.commit (h : Holds space w) (mprotect : Option Errno) :
    Holds space (graftJitCommit t mprotect w).2 := by
  rcases commit_shape t mprotect w.region with ⟨e, he⟩ | ⟨closed, hc⟩
  · rw [he w rfl]
    exact h
  · rw [hc w rfl]
    cases closed with
    | true => exact h.protect false true
    | false => exact h

lemma Holds.free (h : Holds space w) : graftJitFree w = ⟨.zero, space⟩ := by
  rw [graftJitFree, if_neg h.base_ne]
  congr 1
  funext b
  by_cases hb : b = w.region.base
  · rw [hb, Function.update_self, h.vacant]
  · rw [Function.update_of_ne hb, h.rest b hb]

end Regions

lemma graftJitCheck_world (t : Target) (c : CheckCalls) {space : AddressSpace}
    (hv : Vacant c.alloc.outcome space) :
    (graftJitCheck t c space).2 = ⟨.zero, space⟩ := by
  unfold graftJitCheck
  split
  · rfl
  · rcases alloc_shape t c.alloc.page c.alloc.outcome 4096 with ⟨e, he⟩ | ⟨base, backend, x, hb, ha⟩
    · rw [he]
      rfl
    · have h₀ : Holds space (install ⟨.zero, space⟩ base (pageRound c.alloc.page 4096) backend x) :=
        ⟨(hv base hb).1, (hv base hb).2, fun b hne => Function.update_of_ne hne _ _⟩
      have h₁ := h₀.write (t := t) c.write.outcome 0 nop 4
      rw [ha]
      simp only
      rcases hwrite : graftJitWrite t c.write.outcome 0 nop 4 _ with ⟨e | ⟨⟩, w₁⟩
      · rw [hwrite] at h₁
        exact h₁.free
      · rw [hwrite] at h₁
        have h₂ := h₁.commit (t := t) (c.commit.map SysError.errno)
        simp only
        cases graftJitInvalidate 0 4 w₁ with
        | error e => exact h₁.free
        | ok u =>
          rcases hcommit : graftJitCommit t (c.commit.map SysError.errno) w₁ with ⟨e | ⟨⟩, w₂⟩
          · rw [hcommit] at h₂
            exact h₂.free
          · rw [hcommit] at h₂
            exact h₂.free

section Agreement

variable {t : Target}

def trial (t : Target) (alloc : AllocCalls) (write : WriteCalls) (commit : Option SysError) : Except Errno Unit :=
  match graftJitAlloc t alloc.page alloc.outcome 4096 .empty with
  | (.error e, _) => .error e
  | (.ok (), w) => match graftJitWrite t write.outcome 0 Lifecycle.code 8 w with
    | (.error e, _) => .error e
    | (.ok (), w) => (graftJitCommit t (commit.map SysError.errno) w).1

def shownStatus (t : Target) : Except Errno Unit → JitStatus
  | .ok () => .enabled
  | .error e => failedStatus t e

lemma outOfBounds_iff {w : World} (h : w.region.size = 0 ∨ 8 ≤ w.region.size.toNat) :
    OutOfBounds w 0 4 ↔ OutOfBounds w 0 8 := by
  refine or_congr Iff.rfl (or_congr Iff.rfl ?_)
  have h0 : w.region.size - 0 = w.region.size := BitVec.sub_zero _
  rw [h0, gt_iff_lt, gt_iff_lt, BitVec.lt_def, BitVec.lt_def]
  rcases h with h | h
  · rw [h]
    decide
  · refine iff_of_false ?_ ?_
    · change ¬w.region.size.toNat < 4
      omega
    · change ¬w.region.size.toNat < 8
      omega

lemma invalidate_ok {w : World} {offset size : Size} (h : ¬OutOfBounds w offset size) :
    graftJitInvalidate offset size w = .ok () :=
  if_neg h

lemma graftJitCheck_status (c : CheckCalls) (space : AddressSpace) (ht : t.apple = true)
    (hs : t = .ios → c.supported = true)
    (hsize : pageRound c.alloc.page 4096 = 0 ∨ 8 ≤ (pageRound c.alloc.page 4096).toNat) :
    (graftJitCheck t c space).1 = shownStatus t (trial t c.alloc c.write c.commit) := by
  have hasked : ¬(t.apple = false ∨ (t = .ios ∧ c.supported = false)) := by
    rintro (h | ⟨h, hf⟩)
    · exact Bool.false_ne_true (h.symm.trans ht)
    · exact Bool.false_ne_true (hf.symm.trans (hs h))
  rw [graftJitCheck, if_neg hasked, trial]
  rcases alloc_shape t c.alloc.page c.alloc.outcome 4096 with ⟨e, he⟩ | ⟨base, backend, x, -, ha⟩
  · rw [he, he]
    rfl
  · rw [ha, ha]
    have hregion (w : World) : (install w base (pageRound c.alloc.page 4096) backend x).region =
      ⟨base, pageRound c.alloc.page 4096, backend⟩ := rfl
    simp only
    by_cases hb : OutOfBounds (install .empty base (pageRound c.alloc.page 4096) backend x) 0 8
    · have hb' : OutOfBounds (install ⟨.zero, space⟩ base (pageRound c.alloc.page 4096) backend x) 0 4 :=
        (outOfBounds_iff hsize).mpr hb
      rw [write_outOfBounds hb, write_outOfBounds hb']
      rfl
    · have hb' : ¬OutOfBounds (install ⟨.zero, space⟩ base (pageRound c.alloc.page 4096) backend x) 0 4 :=
        fun h => hb ((outOfBounds_iff hsize).mp h)
      rcases write_shape t c.write.outcome ⟨base, pageRound c.alloc.page 4096, backend⟩ with ⟨e, he⟩ | ⟨opened, ho⟩
      · rw [he _ _ _ _ (hregion _) hb, he _ _ _ _ (hregion _) hb']
        rfl
      · rw [ho _ _ _ _ (hregion _) hb, ho _ _ _ _ (hregion _) hb']
        simp only
        rw [invalidate_ok (by cases opened <;> exact hb')]
        simp only
        rcases commit_shape t (c.commit.map SysError.errno) ⟨base, pageRound c.alloc.page 4096, backend⟩ with
          ⟨e, he⟩ | ⟨closed, hc⟩
        · rw [he _ (by cases opened <;> rfl), he _ (by cases opened <;> rfl)]
          rfl
        · rw [hc _ (by cases opened <;> rfl), hc _ (by cases opened <;> rfl)]
          rfl

def WriteRefused (t : Target) (c : BasicCalls) : Prop :=
  ∃ w e, graftJitAlloc t c.alloc.page c.alloc.outcome 4096 .empty = (.ok (), w) ∧
    (graftJitWrite t c.write.outcome 0 Lifecycle.code 8 w).1 = .error e

lemma probeStatus_pass_iff {rc : ℤ} : probeStatus rc = .pass ↔ rc = 0 := by
  rw [probeStatus]
  split_ifs <;> simp_all

lemma probeStatus_blocked_iff {rc : ℤ} : probeStatus rc = .blocked ↔ rc = PROBE_INTERNAL_BLOCKED := by
  rw [probeStatus]
  split_ifs <;> simp_all [PROBE_INTERNAL_BLOCKED, PROBE_INTERNAL_SKIP]

lemma shownStatus_enabled_iff {r : Except Errno Unit} : shownStatus t r = .enabled ↔ r = .ok () := by
  cases r with
  | ok u => exact iff_of_true rfl rfl
  | error e =>
    refine iff_of_false ?_ (by simp)
    rw [shownStatus, failedStatus]
    split_ifs <;> simp

lemma shownStatus_disabled_iff {e : Errno} : shownStatus t (.error e) = .disabled ↔ e = EACCES ∨ e = EPERM := by
  rw [shownStatus, failedStatus]
  split_ifs with h h' <;> simp [h]

lemma pageRound_page {k : ℕ} {page : Size} (hpage : page.toNat = 2 ^ k) :
    pageRound page 4096 = 0 ∨ 8 ≤ (pageRound page 4096).toNat := by
  by_cases h : pageRound page 4096 = 0
  · exact .inl h
  · have hle : (4096 : Size).toNat ≤ _ := (pageRound_isLeast hpage h).1.2
    have h4096 : (4096 : Size).toNat = 4096 := rfl
    exact .inr (by omega)

lemma write_ok {o : WriteOutcome} {offset size : Size} {data : List UInt8} {w w' : World}
    (h : graftJitWrite t o offset data size w = (.ok (), w')) :
    ¬OutOfBounds w offset size ∧ w'.region = w.region := by
  by_cases hb : OutOfBounds w offset size
  · rw [write_outOfBounds hb] at h
    cases h
  refine ⟨hb, ?_⟩
  rcases write_shape t o w.region with ⟨e, he⟩ | ⟨opened, ho⟩
  · rw [he w offset data size rfl hb] at h
    cases h
  · rw [ho w offset data size rfl hb] at h
    rw [← (Prod.mk.inj h).2]
    cases opened <;> rfl

lemma jitBasic_cases {b : Build} (c : BasicCalls) (harm : b.arm64 = true) :
    (∃ e, trial b.target c.alloc c.write c.commit = .error e ∧ WriteRefused b.target c ∧ 0 < (jitBasic b c).rc) ∨
      (∃ e, trial b.target c.alloc c.write c.commit = .error e ∧ ¬WriteRefused b.target c ∧
        ((jitBasic b c).rc = PROBE_INTERNAL_BLOCKED ∧ (e = EACCES ∨ e = EPERM) ∨
          0 < (jitBasic b c).rc ∧ ¬(e = EACCES ∨ e = EPERM))) ∨
      (trial b.target c.alloc c.write c.commit = .ok () ∧
        ((jitBasic b c).rc = 0 ∧ c.call = 42 ∨ 0 < (jitBasic b c).rc ∧ c.call ≠ 42)) := by
  have ha : b.arm64 ≠ false := fun h => Bool.false_ne_true (h.symm.trans harm)
  have heacces : (0 : ℤ) < EACCES := errno_pos (by decide)
  rw [jitBasic, if_neg ha, trial]
  rcases halloc : graftJitAlloc b.target c.alloc.page c.alloc.outcome 4096 .empty with ⟨e | ⟨⟩, w₀⟩
  · refine .inr (.inl ⟨e, rfl, ?_, ?_⟩)
    · rintro ⟨w, e', hw, -⟩
      rw [halloc] at hw
      cases hw
    · change blockedOr e = PROBE_INTERNAL_BLOCKED ∧ _ ∨ 0 < blockedOr e ∧ _
      rw [blockedOr]
      split_ifs with h
      · exact .inl ⟨rfl, h⟩
      · exact .inr ⟨errno_pos (alloc_errno halloc).1, h⟩
  simp only
  rcases hwrite : graftJitWrite b.target c.write.outcome 0 Lifecycle.code 8 w₀ with ⟨e | ⟨⟩, w⟩
  · refine .inl ⟨e, rfl, ⟨w₀, e, halloc, by rw [hwrite]⟩, ?_⟩
    exact errno_pos fun h => (write_errno hwrite).1 (lastError_eq_zero.mp h).1
  have hrefused : ¬WriteRefused b.target c := by
    rintro ⟨w', e, hw, he⟩
    rw [halloc] at hw
    obtain ⟨-, rfl⟩ := Prod.mk.inj hw
    rw [hwrite] at he
    cases he
  obtain ⟨hb, hregion⟩ := write_ok hwrite
  have hinvalidate : graftJitInvalidate 0 8 w = .ok () := invalidate_ok (by rw [OutOfBounds, hregion]; exact hb)
  simp only [hinvalidate]
  rcases graftJitCommit b.target (c.commit.map SysError.errno) w with ⟨e | ⟨⟩, w₁⟩
  · refine .inr (.inl ⟨e, rfl, hrefused, ?_⟩)
    have hfailed : status (.ok ()) ≠ 0 ∨ status (.error e) ≠ 0 ∨
        (if status (.error e) = 0 then c.call.toInt else -1) ≠ 42 :=
      .inr (.inl (by simp [status]))
    rw [if_pos hfailed]
    by_cases h : e = EACCES ∨ e = EPERM
    · exact .inl ⟨if_pos ⟨rfl, h⟩, h⟩
    · exact .inr ⟨heacces.trans_eq (if_neg fun hp => h hp.2).symm, h⟩
  · refine .inr (.inr ⟨rfl, ?_⟩)
    by_cases hcall : c.call = 42
    · refine .inl ⟨?_, hcall⟩
      rw [if_neg]
      · rfl
      · simp [status, hcall]
    · refine .inr ⟨?_, hcall⟩
      have hne : c.call.toInt ≠ 42 := fun h => hcall (Int32.toInt_inj.mp h)
      have hcommitted : ¬status (.ok ()) = -1 := by decide
      rw [if_pos (.inr (.inr hne)), report_rc, if_neg fun hp => hcommitted hp.1]
      exact heacces

end Agreement

def CheckCalls.basic (c : CheckCalls) (call : Int32) (munmap : Option SysError) : BasicCalls :=
  ⟨c.alloc, c.write, c.commit, call, munmap⟩

/-- On an arm64 device the probe passes where JIT is shown as enabled and the code it writes returns 42. It is
blocked where JIT is shown as disabled, unless it is the write that is refused: the probe then fails. -/
theorem jit_check_agrees {b : Build} {c : CheckCalls} {space : AddressSpace} {k : ℕ} (harm : b.arm64 = true)
    (happle : b.target.apple = true) (hsupported : b.target = .ios → c.supported = true)
    (hpage : c.alloc.page.toNat = 2 ^ k) (hvacant : Vacant c.alloc.outcome space) (call : Int32)
    (munmap : Option SysError) :
    (probeStatus (jitBasic b (c.basic call munmap)).rc = .pass ↔
        (graftJitCheck b.target c space).1 = .enabled ∧ call = 42) ∧
      (probeStatus (jitBasic b (c.basic call munmap)).rc = .blocked ↔
        (graftJitCheck b.target c space).1 = .disabled ∧ ¬WriteRefused b.target (c.basic call munmap)) ∧
      (graftJitCheck b.target c space).2 = ⟨.zero, space⟩ := by
  rw [graftJitCheck_world b.target c hvacant,
    graftJitCheck_status c space happle hsupported (pageRound_page hpage), probeStatus_pass_iff,
    probeStatus_blocked_iff, shownStatus_enabled_iff]
  have hblocked : PROBE_INTERNAL_BLOCKED < 0 := by decide
  have hcases := jitBasic_cases (c.basic call munmap) harm
  dsimp only [CheckCalls.basic] at hcases ⊢
  refine ⟨?_, ?_, rfl⟩
  · rcases hcases with ⟨e, he, -, hrc⟩ | ⟨e, he, -, hrc⟩ | ⟨hok, hrc⟩
    · rw [he]
      exact iff_of_false hrc.ne' fun h => by cases h.1
    · rw [he]
      refine iff_of_false ?_ fun h => by cases h.1
      rcases hrc with ⟨hrc, -⟩ | ⟨hrc, -⟩
      · exact (hrc.trans_lt hblocked).ne
      · exact hrc.ne'
    · rw [hok]
      rcases hrc with ⟨hrc, hcall⟩ | ⟨hrc, hcall⟩
      · exact iff_of_true hrc ⟨rfl, hcall⟩
      · exact iff_of_false hrc.ne' fun h => hcall h.2
  · rcases hcases with ⟨e, -, hw, hrc⟩ | ⟨e, he, hw, hrc⟩ | ⟨hok, hrc⟩
    · exact iff_of_false (hblocked.trans hrc).ne' fun h => h.2 hw
    · rw [he, shownStatus_disabled_iff]
      rcases hrc with ⟨hrc, he⟩ | ⟨hrc, he⟩
      · exact iff_of_true hrc ⟨he, hw⟩
      · exact iff_of_false (hblocked.trans hrc).ne' fun h => he h.1
    · rw [hok]
      refine iff_of_false ?_ fun h => by cases h.1
      rcases hrc with ⟨hrc, -⟩ | ⟨hrc, -⟩
      · exact (hblocked.trans_eq hrc.symm).ne'
      · exact (hblocked.trans hrc).ne'

/-- Without the entitlement: iOS maps no `MAP_JIT` memory, and does not let other memory become executable. -/
def unentitled : CheckCalls where
  supported := true
  alloc := ⟨16384, .error ⟨EPERM, by decide, by decide⟩, .ok 65536⟩
  write := ⟨none, 0⟩
  commit := some ⟨EACCES, by decide, by decide⟩

theorem jit_check_agrees_unentitled :
    (probeStatus (jitBasic ⟨.ios, true⟩ (unentitled.basic 42 none)).rc = .pass ↔
        (graftJitCheck .ios unentitled fun _ => none).1 = .enabled ∧ (42 : Int32) = 42) ∧
      (probeStatus (jitBasic ⟨.ios, true⟩ (unentitled.basic 42 none)).rc = .blocked ↔
        (graftJitCheck .ios unentitled fun _ => none).1 = .disabled ∧
          ¬WriteRefused .ios (unentitled.basic 42 none)) ∧
      (graftJitCheck .ios unentitled fun _ => none).2 = ⟨.zero, fun _ => none⟩ :=
  have hvacant : Vacant unentitled.alloc.outcome fun _ => none := by
    rintro base (h | h)
    · cases h
    · cases h
      exact ⟨by decide, rfl⟩
  jit_check_agrees (b := ⟨.ios, true⟩) (k := 14) rfl rfl (fun _ => rfl) rfl hvacant 42 none

end Graft64.Platform.Probes
