import Graft64.Platform.Lifecycle

/-! The mapping behind the code cache, along every sequence of lifecycle calls. -/

namespace Graft64.Platform.Lifecycle

open Graft64.Library Jit

inductive Call
  | alloc (base : ℕ) (size : Size) (backend : ℕ)
  | write (data : List UInt8)
  | commit
  | free

def Call.apply (t : Target) (w : World) : Call → World
  | alloc base size backend => install w base size backend (decide (t = .ios ∧ backend = 1))
  | write data => memcpy (if t = .ios ∧ w.region.backend = 1 then w else protect w true false) 0 data
  | commit => if t = .ios ∧ w.region.backend = 1 then w else protect w false true
  | free => graftJitFree w

def backgroundCalls (t : Target) (page : Size) (o : PrepareOutcome) (s : State) : List Call :=
  if s.codeCacheReady then []
  else
    match graftJitAlloc t page o.alloc 4096 s.world with
    | (.error _, _) => []
    | (.ok (), w) =>
      .alloc w.region.base w.region.size w.region.backend ::
        match graftJitWrite t o.write 0 code 8 w with
        | (.error _, _) => [.free]
        | (.ok (), w) =>
          .write code ::
            match graftJitInvalidate 0 8 w with
            | .error _ => [.free]
            | .ok () =>
              match graftJitCommit t o.commit w with
              | (.error _, _) => [.free]
              | (.ok (), _) => [.commit]

def calls (b : Build) (page : Size) (s : State) : Event → List Call
  | .background o => backgroundCalls b.target page o s
  | .foreground | .jit _ => []

structure PrepareOutcome.Possible (o : PrepareOutcome) (space : AddressSpace) : Prop where
  mmap : ∀ base, o.alloc.mmap = .ok base → base ≠ 0 ∧ space base = none
  mmapError : ∀ e, o.alloc.mmap = .error e → e ≠ 0
  fallback : ∀ base, o.alloc.fallback = .ok base → base ≠ 0 ∧ space base = none
  fallbackError : ∀ e, o.alloc.fallback = .error e → e ≠ 0
  writeError : ∀ e, o.write.mprotect = some e → e ≠ 0
  commitError : ∀ e, o.commit = some e → e ≠ 0

def Event.Possible (s : State) : Event → Prop
  | .background o => o.Possible s.world.space
  | .foreground | .jit _ => True

section

variable {t : Target} {page : Size}

variable (t page) in
lemma alloc_cases {o : PrepareOutcome} {w : World} (ho : o.Possible w.space) :
    (∃ e ≠ 0, graftJitAlloc t page o.alloc 4096 w = (.error e, w)) ∨
      ∃ base size backend, base ≠ 0 ∧ w.space base = none ∧
        graftJitAlloc t page o.alloc 4096 w = (.ok (), Call.apply t w (.alloc base size backend)) := by
  have h0 : ¬ (4096 : Size) = 0 := by decide
  simp only [graftJitAlloc, if_neg h0, Call.apply]
  cases hm : o.alloc.mmap with
  | ok base =>
    obtain ⟨hb, hn⟩ := ho.mmap base hm
    exact .inr ⟨base, pageRound page 4096, 1, hb, hn, by simp⟩
  | error e =>
    by_cases ht : t = .ios
    · cases hf : o.alloc.fallback with
      | ok base =>
        obtain ⟨hb, hn⟩ := ho.fallback base hf
        exact .inr ⟨base, pageRound page 4096, 2, hb, hn, by simp [ht]⟩
      | error e => exact .inl ⟨e, ho.fallbackError e hf, by simp [ht]⟩
    · exact .inl ⟨e, ho.mmapError e hm, by simp [ht]⟩

lemma write_cases {o : PrepareOutcome} {space : AddressSpace} (ho : o.Possible space) (w : World) :
    (∃ e ≠ 0, graftJitWrite t o.write 0 code 8 w = (.error e, w)) ∨
      (8 ≤ w.region.size.toNat ∧
        graftJitWrite t o.write 0 code 8 w = (.ok (), Call.apply t w (.write code))) := by
  unfold graftJitWrite
  by_cases hr : w.region.base = 0 ∨ 0 > w.region.size ∨ 8 > w.region.size - 0
  · rw [if_pos hr]
    exact .inl ⟨EINVAL, by decide, rfl⟩
  · rw [if_neg hr]
    simp only [not_or] at hr
    obtain ⟨hbase, -, hsize⟩ := hr
    have h8 : 8 ≤ w.region.size.toNat := by
      simp only [BitVec.ofNat_eq_ofNat, BitVec.sub_zero] at hsize
      exact BitVec.le_def.mp (BitVec.not_lt.mp hsize)
    have htake : code.take (8 : Size).toNat = code := rfl
    simp only [htake, Call.apply]
    by_cases hj : t = .ios ∧ w.region.backend = 1
    · rw [if_pos hj, if_pos hj]
      by_cases hc : o.write.callback = 0
      · exact .inr ⟨h8, by rw [if_pos hc]⟩
      · rw [if_neg hc]
        refine .inl ⟨_, ?_, rfl⟩
        split_ifs with hp
        · exact (Int.lt_toNat.mpr hp).ne'
        · decide
    · unfold graftJitBeginWrite
      rw [if_neg hj, if_neg hj, if_neg hbase, if_neg hj]
      cases hm : o.write.mprotect with
      | some e => exact .inl ⟨e, ho.writeError e hm, rfl⟩
      | none => exact .inr ⟨h8, rfl⟩

lemma commit_cases {o : PrepareOutcome} {space : AddressSpace} (ho : o.Possible space) (w : World) :
    (∃ e ≠ 0, graftJitCommit t o.commit w = (.error e, w)) ∨
      graftJitCommit t o.commit w = (.ok (), Call.apply t w .commit) := by
  unfold graftJitCommit
  by_cases hbase : w.region.base = 0
  · rw [if_pos hbase]
    exact .inl ⟨EINVAL, by decide, rfl⟩
  · rw [if_neg hbase]
    simp only [Call.apply]
    by_cases hj : t = .ios ∧ w.region.backend = 1
    · rw [if_pos hj, if_pos hj]
      exact .inr rfl
    · rw [if_neg hj, if_neg hj]
      cases hm : o.commit with
      | some e => exact .inl ⟨e, ho.commitError e hm, rfl⟩
      | none => exact .inr rfl

lemma invalidate_cases (w : World) :
    graftJitInvalidate 0 8 w = .error EINVAL ∨ graftJitInvalidate 0 8 w = .ok () := by
  unfold graftJitInvalidate
  split_ifs
  · exact .inl rfl
  · exact .inr rfl

lemma noteBackground_world (t : Target) (page : Size) (o : PrepareOutcome) (s : State)
    (ho : o.Possible s.world.space) :
    (graftLifecycleNoteBackground t page o s).2.world =
      (backgroundCalls t page o s).foldl (Call.apply t) s.world := by
  unfold graftLifecycleNoteBackground backgroundCalls
  cases s.codeCacheReady with
  | true => rfl
  | false =>
    simp only [Bool.false_eq_true, if_false]
    rcases alloc_cases t page ho with ⟨e, -, ha⟩ | ⟨base, size, backend, -, -, ha⟩
    · rw [ha]
      rfl
    · rw [ha]
      simp only [fill, List.foldl_cons]
      rcases write_cases (t := t) ho (Call.apply t s.world (.alloc base size backend)) with ⟨e, -, hw⟩ | ⟨-, hw⟩
      · rw [hw]
        rfl
      · rw [hw]
        simp only [List.foldl_cons]
        rcases invalidate_cases (Call.apply t (Call.apply t s.world (.alloc base size backend)) (.write code))
          with hi | hi
        · rw [hi]
          rfl
        · rw [hi]
          simp only
          rcases commit_cases (t := t) ho
            (Call.apply t (Call.apply t s.world (.alloc base size backend)) (.write code)) with ⟨e, -, hc⟩ | hc
          · rw [hc]
            rfl
          · rw [hc]
            rfl

end

def single (r : Region) (m : Mapping) : World := ⟨r, Function.update (fun _ => none) r.base (some m)⟩

lemma protect_single (r : Region) (m : Mapping) (writable executable : Bool) :
    protect (single r m) writable executable = single r { m with writable, executable } := by
  simp only [protect, single, World.mk.injEq, true_and]
  funext a
  by_cases ha : a = r.base <;> simp [ha]

lemma memcpy_single (r : Region) (m : Mapping) (offset : Size) (data : List UInt8) :
    memcpy (single r m) offset data = single r (m.copy offset.toNat data) := by
  simp only [memcpy, single, World.mk.injEq, true_and]
  funext a
  by_cases ha : a = r.base <;> simp [ha]

lemma free_single {r : Region} (m : Mapping) (h : r.base ≠ 0) : graftJitFree (single r m) = .empty := by
  have hb : (single r m).region.base ≠ 0 := h
  rw [graftJitFree, if_neg hb]
  simp [single, World.empty]

structure Prepared (t : Target) (w : World) : Prop where
  base_ne : w.region.base ≠ 0
  fits : 8 ≤ w.region.size.toNat
  live_iff : ∀ base, w.space base ≠ none ↔ base = w.region.base
  mapping : ∃ m, w.space w.region.base = some m ∧
    m.bytes = code ++ List.replicate (w.region.size.toNat - 8) 0 ∧ m.executable = true ∧
    (m.writable = true → t = .ios ∧ w.region.backend = 1)

section

variable {t : Target} {page : Size}

lemma copy_code (size : Size) (executable : Bool) :
    ((freshMapping size executable).copy 0 code).bytes = code ++ List.replicate (size.toNat - 8) 0 := by
  simp only [Mapping.copy, freshMapping, List.take_zero, List.nil_append, List.drop_replicate, Nat.zero_add]
  rfl

lemma prepared_single {r : Region} {m : Mapping} (hr : r.base ≠ 0) (h8 : 8 ≤ r.size.toNat)
    (hb : m.bytes = code ++ List.replicate (r.size.toNat - 8) 0) (hx : m.executable = true)
    (hw : m.writable = true → t = .ios ∧ r.backend = 1) : Prepared t (single r m) where
  base_ne := hr
  fits := h8
  live_iff base := by
    by_cases h : base = r.base
    · simp [single, h]
    · simp [single, h]
  mapping := ⟨m, by simp [single], hb, hx, hw⟩

lemma apply_alloc (base : ℕ) (size : Size) (backend : ℕ) :
    Call.apply t .empty (.alloc base size backend) =
      single ⟨base, size, backend⟩ (freshMapping size (decide (t = .ios ∧ backend = 1))) := rfl

def Mapping.opened (t : Target) (r : Region) (m : Mapping) : Mapping :=
  if t = .ios ∧ r.backend = 1 then m else { m with writable := true, executable := false }

def Mapping.closed (t : Target) (r : Region) (m : Mapping) : Mapping :=
  if t = .ios ∧ r.backend = 1 then m else { m with writable := false, executable := true }

lemma apply_write (r : Region) (m : Mapping) (data : List UInt8) :
    Call.apply t (single r m) (.write data) = single r ((Mapping.opened t r m).copy 0 data) := by
  by_cases hj : t = .ios ∧ r.backend = 1
  · have hs : t = .ios ∧ (single r m).region.backend = 1 := hj
    rw [Call.apply, if_pos hs, memcpy_single, Mapping.opened, if_pos hj]
    rfl
  · have hs : ¬ (t = .ios ∧ (single r m).region.backend = 1) := hj
    rw [Call.apply, if_neg hs, protect_single, memcpy_single, Mapping.opened, if_neg hj]
    rfl

lemma apply_commit (r : Region) (m : Mapping) :
    Call.apply t (single r m) .commit = single r (Mapping.closed t r m) := by
  by_cases hj : t = .ios ∧ r.backend = 1
  · have hs : t = .ios ∧ (single r m).region.backend = 1 := hj
    rw [Call.apply, if_pos hs, Mapping.closed, if_pos hj]
  · have hs : ¬ (t = .ios ∧ (single r m).region.backend = 1) := hj
    rw [Call.apply, if_neg hs, protect_single, Mapping.closed, if_neg hj]

lemma alloc_write_commit {base : ℕ} {size : Size} {backend : ℕ} (hb : base ≠ 0) (h8 : 8 ≤ size.toNat) :
    Prepared t ([.alloc base size backend, .write code, .commit].foldl (Call.apply t) .empty) := by
  simp only [List.foldl_cons, List.foldl_nil, apply_alloc, apply_write, apply_commit]
  by_cases hj : t = .ios ∧ backend = 1
  · simp only [Mapping.opened, Mapping.closed, if_pos hj]
    exact prepared_single hb h8 (copy_code size _) (by simp [Mapping.copy, freshMapping, hj]) fun _ => hj
  · simp only [Mapping.opened, Mapping.closed, if_neg hj]
    refine prepared_single hb h8 (copy_code size (decide (t = .ios ∧ backend = 1))) rfl fun h => ?_
    cases h

lemma alloc_free {base : ℕ} {size : Size} {backend : ℕ} (hb : base ≠ 0) :
    [.alloc base size backend, .free].foldl (Call.apply t) .empty = .empty := by
  simp only [List.foldl_cons, List.foldl_nil, apply_alloc]
  exact free_single _ hb

lemma alloc_write_free {base : ℕ} {size : Size} {backend : ℕ} (hb : base ≠ 0) :
    [.alloc base size backend, .write code, .free].foldl (Call.apply t) .empty = .empty := by
  simp only [List.foldl_cons, List.foldl_nil, apply_alloc, apply_write]
  exact free_single _ hb

variable (t page) in
lemma noteBackground_empty {o : PrepareOutcome} {s : State} (ho : o.Possible s.world.space)
    (hw : s.world = .empty) (hr : s.codeCacheReady = false) :
    let r := graftLifecycleNoteBackground t page o s
    (r.2.codeCacheReady = true ∧ r.2.prepareError = 0 ∧ Prepared t r.2.world ∧
      ∃ base size backend, backgroundCalls t page o s = [.alloc base size backend, .write code, .commit]) ∨
    (r.2.codeCacheReady = false ∧ r.2.prepareError ≠ 0 ∧ r.2.world = .empty) := by
  have hworld := noteBackground_world t page o s ho
  simp only
  rw [hworld, hw]
  unfold graftLifecycleNoteBackground backgroundCalls
  rw [hr]
  simp only [Bool.false_eq_true, if_false]
  rcases alloc_cases t page ho with ⟨e, he, ha⟩ | ⟨base, size, backend, hb, -, ha⟩
  · rw [ha]
    exact .inr ⟨rfl, he, rfl⟩
  · rw [ha, hw]
    simp only [fill]
    rcases write_cases (t := t) ho (Call.apply t .empty (.alloc base size backend)) with ⟨e, he, hwr⟩ | ⟨h8, hwr⟩
    · rw [hwr]
      exact .inr ⟨rfl, he, alloc_free hb⟩
    · rw [hwr]
      simp only
      rcases invalidate_cases (Call.apply t (Call.apply t .empty (.alloc base size backend)) (.write code))
        with hi | hi
      · rw [hi]
        have he : EINVAL ≠ 0 := by decide
        exact .inr ⟨rfl, he, alloc_write_free hb⟩
      · rw [hi]
        simp only
        rcases commit_cases (t := t) ho
          (Call.apply t (Call.apply t .empty (.alloc base size backend)) (.write code)) with ⟨e, he, hc⟩ | hc
        · rw [hc]
          exact .inr ⟨rfl, he, alloc_write_free hb⟩
        · rw [hc]
          exact .inl ⟨rfl, rfl, alloc_write_commit hb h8, base, size, backend, rfl⟩

end

variable (b : Build) (page : Size)

def Possible (es : List Event) : Prop := ∀ p e q, es = p ++ e :: q → e.Possible (after b page p)

def PreparedOnce (es : List Event) : Prop :=
  ∃ p o q, es = p ++ .background o :: q ∧ (after b page p).world = .empty ∧
    (∃ base size backend, calls b page (after b page p) (.background o) =
      [.alloc base size backend, .write code, .commit]) ∧
    ∀ q₁ e q₂, q = q₁ ++ e :: q₂ → calls b page (after b page (p ++ .background o :: q₁)) e = []

structure CacheInvariant (es : List Event) (s : State) : Prop where
  ready : s.codeCacheReady = true → s.prepareError = 0 ∧ Prepared b.target s.world ∧ PreparedOnce b page es
  empty : s.codeCacheReady = false → s.world = .empty
  failed : s.codeCacheReady = false → s.backgroundSeen = true → s.prepareError ≠ 0

variable {b page}

lemma Possible.of_append {es fs : List Event} (h : Possible b page (es ++ fs)) : Possible b page es :=
  fun p e q hp => h p e (q ++ fs) (by simp [hp])

lemma calls_ready {s : State} (h : s.codeCacheReady = true) (e : Event) : calls b page s e = [] := by
  cases e with
  | background o => simp [calls, backgroundCalls, h]
  | foreground => rfl
  | jit call => rfl

lemma PreparedOnce.snoc {es : List Event} (h : PreparedOnce b page es) {e : Event}
    (hc : calls b page (after b page es) e = []) : PreparedOnce b page (es ++ [e]) := by
  obtain ⟨p, o, q, rfl, hw, hp, hq⟩ := h
  refine ⟨p, o, q ++ [e], by simp, hw, hp, ?_⟩
  intro q₁ e' q₂ he
  rcases List.eq_nil_or_concat q₂ with rfl | ⟨q₃, e'', rfl⟩
  · obtain ⟨rfl, h₁⟩ := List.append_inj' he rfl
    obtain rfl := (List.cons.inj h₁).1
    exact hc
  · rw [List.concat_eq_append, ← List.cons_append, ← List.append_assoc] at he
    exact hq q₁ e' q₃ (List.append_inj' he rfl).1

lemma cacheInvariant_step {es : List Event} {e : Event} (he : e.Possible (after b page es))
    (ih : CacheInvariant b page es (after b page es)) :
    CacheInvariant b page (es ++ [e]) (step b page (after b page es) e) := by
  have hkeep (h : (after b page es).codeCacheReady = true) : PreparedOnce b page (es ++ [e]) :=
    (ih.ready h).2.2.snoc (calls_ready h e)
  cases e with
  | background o =>
    cases hr : (after b page es).codeCacheReady with
    | true =>
      have hs : step b page (after b page es) (.background o) =
          { after b page es with prepareError := 0, backgroundSeen := true } := by
        simp [step, graftLifecycleNoteBackground, hr]
      rw [hs]
      exact ⟨fun _ => ⟨rfl, (ih.ready hr).2.1, hkeep hr⟩, fun h => absurd (hr.symm.trans h) (by decide),
        fun h => absurd (hr.symm.trans h) (by decide)⟩
    | false =>
      have hw := ih.empty hr
      rcases noteBackground_empty b.target page he hw hr with
        ⟨hr', he', hp, hcalls⟩ | ⟨hr', he', hw'⟩
      · refine ⟨fun _ => ⟨he', hp, es, o, [], rfl, hw, hcalls, ?_⟩, fun h => ?_, fun h => ?_⟩
        · intro q₁ e' q₂ hq
          cases q₁ <;> cases hq
        · exact absurd (hr'.symm.trans h) (by decide)
        · exact absurd (hr'.symm.trans h) (by decide)
      · exact ⟨fun h => absurd (hr'.symm.trans h) (by decide), fun _ => hw', fun _ _ => he'⟩
  | foreground =>
    simp only [step, graftLifecycleNoteForeground]
    split
    · exact ⟨fun h => ⟨(ih.ready h).1, (ih.ready h).2.1, hkeep h⟩, ih.empty, ih.failed⟩
    · exact ⟨fun h => ⟨(ih.ready h).1, (ih.ready h).2.1, hkeep h⟩, ih.empty, ih.failed⟩
  | jit call => exact ⟨fun h => ⟨(ih.ready h).1, (ih.ready h).2.1, hkeep h⟩, ih.empty, ih.failed⟩

lemma cacheInvariant_after {es : List Event} (h : Possible b page es) :
    CacheInvariant b page es (after b page es) := by
  induction es using List.reverseRecOn with
  | nil =>
    refine ⟨fun h => ?_, fun _ => rfl, fun _ h => ?_⟩
    · cases h
    · cases h
  | append_singleton es e ih =>
    rw [after_snoc]
    exact cacheInvariant_step (h es e [] rfl) (ih h.of_append)

lemma lifecycleJit_summary_ne (b : Build) (call : ℤ) {s : State}
    (h : s.backgroundSeen = true → s.prepareError = 0 → s.codeCacheReady = false → False) :
    (lifecycleJit b call s).summary ≠
      setText summarySize (cstr "JIT code cache was not prepared before suspend") := by
  unfold lifecycleJit
  by_cases hseen : ¬ s.backgroundSeen ∨ ¬ s.foregroundSeen
  · rw [if_pos hseen]
    decide
  · rw [if_neg hseen]
    by_cases he : s.prepareError ≠ 0
    · rw [if_pos he]
      simp only [report]
      decide
    · rw [if_neg he]
      by_cases hr : ¬ s.codeCacheReady
      · simp only [not_or, not_not] at hseen he
        exact (h hseen.1 he (by simpa using hr)).elim
      · rw [if_neg hr]
        have hresumed : setText summarySize (cstr "JIT resumed after background/foreground transition") ≠
            setText summarySize (cstr "JIT code cache was not prepared before suspend") := by decide
        have hfailed : setText summarySize (cstr "Original JIT code cache failed after resume") ≠
            setText summarySize (cstr "JIT code cache was not prepared before suspend") := by decide
        generalize (if b.arm64 then call else -1) = value
        by_cases hv : value = 42
        · rw [if_pos hv]
          exact hresumed
        · rw [if_neg hv]
          exact hfailed

/-- The flags of every reachable state say what the region holds: a ready cache is the one mapping
there is, made by one background call and not touched since, and without it there is none. So the
probe never finds the cache unprepared. -/
theorem code_cache_invariant (b : Build) (page : Size) (es : List Event) (h : Possible b page es) :
    let s := after b page es
    (s.codeCacheReady = true → s.prepareError = 0 ∧ Prepared b.target s.world ∧ PreparedOnce b page es) ∧
      (s.backgroundSeen = true → s.codeCacheReady = false → s.prepareError ≠ 0 ∧ s.world = .empty) ∧
      (∀ base, s.world.space base ≠ none → base = s.world.region.base) ∧
      (∀ e, e.Possible s → (step b page s e).world = (calls b page s e).foldl (Call.apply b.target) s.world) ∧
      ∀ call, (lifecycleJit b call s).summary ≠
        setText summarySize (cstr "JIT code cache was not prepared before suspend") := by
  have hi := cacheInvariant_after h
  refine ⟨hi.ready, fun hb hr => ⟨hi.failed hr hb, hi.empty hr⟩, ?_, ?_, ?_⟩
  · intro base hl
    cases hr : (after b page es).codeCacheReady with
    | true => exact ((hi.ready hr).2.1.live_iff base).mp hl
    | false =>
      rw [hi.empty hr] at hl
      exact absurd rfl hl
  · intro e he
    cases e with
    | background o => exact noteBackground_world b.target page o _ he
    | foreground =>
      simp only [step, graftLifecycleNoteForeground, calls, List.foldl_nil]
      split <;> rfl
    | jit call => rfl
  · intro call
    refine lifecycleJit_summary_ne b call fun hb he hr => ?_
    exact hi.failed hr hb he

theorem code_cache_invariant_retry :
    let es := [.background (alloc (.error EACCES)), .background (alloc (.ok 4096))]
    let s := after ⟨.macos, true⟩ 4096 es
    (s.codeCacheReady = true → s.prepareError = 0 ∧ Prepared .macos s.world ∧
      PreparedOnce ⟨.macos, true⟩ 4096 es) ∧
      s.codeCacheReady = true := by
  refine ⟨(code_cache_invariant ⟨.macos, true⟩ 4096 _ ?_).1, by decide⟩
  have hspace (s : AddressSpace) (hs : s 4096 = none) (r : Except Errno ℕ)
      (hr : r = .error EACCES ∨ r = .ok 4096) : (alloc r).Possible s := by
    refine ⟨?_, ?_, ?_, ?_, ?_, ?_⟩
    all_goals rcases hr with rfl | rfl
    all_goals simp [alloc, EACCES, ENOENT, hs]
  rintro (_ | ⟨e, _ | ⟨e', p⟩⟩) e q he
  · obtain ⟨rfl, rfl⟩ := List.cons.inj he
    exact hspace _ rfl _ (.inl rfl)
  · simp only [List.cons_append, List.nil_append, List.cons.injEq] at he
    obtain ⟨rfl, rfl, rfl⟩ := he
    exact hspace _ rfl _ (.inr rfl)
  · simp at he

end Graft64.Platform.Lifecycle
