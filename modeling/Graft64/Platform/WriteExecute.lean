import Graft64.Platform.Jit
import Graft64.Library.Runs

/-! Sequences of calls on one code region, on the builds where `mprotect` alone sets its protection. -/

namespace Graft64.Platform.Jit

open Graft64.Library

inductive RegionCall
  | alloc (o : AllocOutcome) (size : Size)
  | beginWrite (mprotect : Option Errno)
  | write (o : WriteOutcome) (offset : Size) (data : Option (ℕ → UInt8)) (size : Size)
  | commit (mprotect : Option Errno)
  | invalidate (offset size : Size)
  | free

def pointed (data : ℕ → UInt8) (size : Size) : List UInt8 := (List.range size.toNat).map data

def RegionCall.run (t : Target) (page : Size) (w : World) : RegionCall → Except Errno Unit × World
  | .alloc o size => graftJitAlloc t page o size w
  | .beginWrite mprotect => graftJitBeginWrite t mprotect w
  | .write _ _ none _ => (.error EINVAL, w)
  | .write o offset (some data) size => graftJitWrite t o offset (pointed data size) size w
  | .commit mprotect => graftJitCommit t mprotect w
  | .invalidate offset size => (graftJitInvalidate offset size w, w)
  | .free => (.ok (), graftJitFree w)

def afterCalls (t : Target) (page : Size) (w : World) (cs : List RegionCall) : World :=
  cs.foldl (fun w c => (c.run t page w).2) w

def World.mapping (w : World) : Option Mapping := if w.region.base = 0 then none else w.space w.region.base

structure Written where
  offset : ℕ
  size : ℕ
  data : ℕ → UInt8

def byteAt : List Written → ℕ → UInt8
  | [], _ => 0
  | d :: ds, i => if d.offset ≤ i ∧ i < d.offset + d.size then d.data (i - d.offset) else byteAt ds i

def RegionCall.note (c : RegionCall) (r : Except Errno Unit) (ds : List Written) : List Written :=
  match c, r with
  | .alloc _ _, .ok () => []
  | .write _ offset (some data) size, .ok () => ⟨offset.toNat, size.toNat, data⟩ :: ds
  | _, _ => ds

def writesSince (t : Target) (page : Size) : World → List Written → List RegionCall → List Written
  | _, ds, [] => ds
  | w, ds, c :: cs => writesSince t page (c.run t page w).2 (c.note (c.run t page w).1 ds) cs

section

variable {t : Target} {page : Size} {w : World} {m : Mapping}

lemma mapping_install {base : ℕ} {size : Size} {backend : ℕ} {executable : Bool} :
    (install w base size backend executable).mapping =
      if base = 0 then none else some (freshMapping size executable) := by
  simp [World.mapping, install]

lemma mapping_protect (writable executable : Bool) :
    (protect w writable executable).mapping = w.mapping.map fun m => { m with writable, executable } := by
  simp [World.mapping, protect, apply_ite (Option.map _)]

lemma mapping_memcpy (offset : Size) (data : List UInt8) :
    (memcpy w offset data).mapping = w.mapping.map fun m => m.copy offset.toNat data := by
  simp [World.mapping, memcpy, apply_ite (Option.map _)]

lemma inBounds_iff {offset size limit : Size} :
    ¬ (offset > limit ∨ size > limit - offset) ↔ offset.toNat + size.toNat ≤ limit.toNat := by
  have hl := limit.isLt
  rw [not_or, gt_iff_lt, gt_iff_lt, BitVec.not_lt, BitVec.not_lt, BitVec.le_def, BitVec.le_def, BitVec.toNat_sub]
  constructor
  · rintro ⟨ho, hs⟩
    have : (2 ^ 64 - offset.toNat + limit.toNat) % 2 ^ 64 = limit.toNat - offset.toNat := by omega
    omega
  · intro h
    have : (2 ^ 64 - offset.toNat + limit.toNat) % 2 ^ 64 = limit.toNat - offset.toNat := by omega
    omega

variable (page) in
lemma graftJitAlloc_cases (ht : t ≠ .ios) (o : AllocOutcome) (size : Size) (w : World) :
    (∃ base, graftJitAlloc t page o size w = (.ok (), install w base (pageRound page size) 1 false)) ∨
      ∃ e, graftJitAlloc t page o size w = (.error e, w) := by
  simp only [graftJitAlloc, ht, decide_false, if_false]
  split_ifs with h
  · exact .inr ⟨EINVAL, rfl⟩
  · cases o.mmap with
    | ok base => exact .inl ⟨base, rfl⟩
    | error e => exact .inr ⟨e, rfl⟩

lemma graftJitBeginWrite_cases (ht : t ≠ .ios) (mprotect : Option Errno) (w : World) :
    (w.region.base ≠ 0 ∧ graftJitBeginWrite t mprotect w = (.ok (), protect w true false)) ∨
      ∃ e, graftJitBeginWrite t mprotect w = (.error e, w) := by
  simp only [graftJitBeginWrite, ht, false_and, if_false]
  split_ifs with h
  · exact .inr ⟨EINVAL, rfl⟩
  · cases mprotect with
    | none => exact .inl ⟨h, rfl⟩
    | some e => exact .inr ⟨e, rfl⟩

lemma graftJitWrite_cases (ht : t ≠ .ios) (o : WriteOutcome) (offset : Size) (data : List UInt8) (size : Size)
    (w : World) :
    (offset.toNat + size.toNat ≤ w.region.size.toNat ∧
        graftJitBeginWrite t o.mprotect w = (.ok (), protect w true false) ∧
        graftJitWrite t o offset data size w =
          (.ok (), memcpy (protect w true false) offset (data.take size.toNat))) ∨
      ∃ e, graftJitWrite t o offset data size w = (.error e, w) := by
  by_cases h : w.region.base = 0 ∨ offset > w.region.size ∨ size > w.region.size - offset
  · exact .inr ⟨EINVAL, if_pos h⟩
  · have hb := inBounds_iff.mp (not_or.mp h).2
    simp only [graftJitWrite, if_neg h, ht, false_and, if_false]
    rcases graftJitBeginWrite_cases ht o.mprotect w with ⟨-, hw⟩ | ⟨e, hw⟩
    · exact .inl ⟨hb, hw, by rw [hw]⟩
    · exact .inr ⟨e, by rw [hw]⟩

lemma graftJitCommit_cases (ht : t ≠ .ios) (mprotect : Option Errno) (w : World) :
    (w.region.base ≠ 0 ∧ graftJitCommit t mprotect w = (.ok (), protect w false true)) ∨
      ∃ e, graftJitCommit t mprotect w = (.error e, w) := by
  simp only [graftJitCommit, ht, false_and, if_false]
  split_ifs with h
  · exact .inr ⟨EINVAL, rfl⟩
  · cases mprotect with
    | none => exact .inl ⟨h, rfl⟩
    | some e => exact .inr ⟨e, rfl⟩

/-- What holds of the region between any two calls: a region in use is mapped, never writable and
executable at once, and holds what was written since it was allocated. -/
structure RegionInvariant (w : World) (ds : List Written) : Prop where
  live : w.region.base ≠ 0 → ∃ m, w.mapping = some m
  exclusive : ∀ m, w.mapping = some m → ¬ (m.writable = true ∧ m.executable = true)
  bytes : ∀ m, w.mapping = some m → m.bytes = (List.range w.region.size.toNat).map (byteAt ds)

lemma RegionInvariant.of_unmapped (h : w.region.base = 0) (ds : List Written) : RegionInvariant w ds := by
  have hm : w.mapping = none := if_pos h
  refine ⟨fun hb => absurd h hb, ?_, ?_⟩
  all_goals
    intro m h'
    rw [hm] at h'
    cases h'

lemma RegionInvariant.install (base : ℕ) (size : Size) (backend : ℕ) :
    RegionInvariant (install w base size backend false) [] := by
  by_cases hb : base = 0
  · exact .of_unmapped hb []
  · have hm : (Jit.install w base size backend false).mapping = some (freshMapping size false) := by
      rw [mapping_install, if_neg hb]
    refine ⟨fun _ => ⟨_, hm⟩, ?_, ?_⟩
    · rintro _ h
      obtain rfl := Option.some.inj (hm.symm.trans h)
      exact fun h => Bool.false_ne_true h.2
    · rintro _ h
      obtain rfl := Option.some.inj (hm.symm.trans h)
      simp [freshMapping, byteAt, Jit.install, List.map_const']

lemma RegionInvariant.protect {ds : List Written} (h : RegionInvariant w ds) (writable executable : Bool)
    (he : ¬ (writable = true ∧ executable = true)) : RegionInvariant (protect w writable executable) ds := by
  constructor
  · intro hb
    obtain ⟨m, hm⟩ := h.live hb
    exact ⟨_, by rw [mapping_protect, hm]; rfl⟩
  · intro m hm
    rw [mapping_protect] at hm
    obtain ⟨m, -, rfl⟩ := Option.map_eq_some_iff.mp hm
    exact he
  · intro m hm
    rw [mapping_protect] at hm
    obtain ⟨m', hm', rfl⟩ := Option.map_eq_some_iff.mp hm
    exact h.bytes m' hm'

lemma copy_range {n offset size : ℕ} (h : offset + size ≤ n) (f g : ℕ → UInt8) :
    ((List.range n).map f).take offset ++ (List.range size).map g ++ ((List.range n).map f).drop (offset + size) =
      (List.range n).map fun i => if offset ≤ i ∧ i < offset + size then g (i - offset) else f i := by
  apply List.ext_getElem
  · simp
    omega
  · intro i h₁ h₂
    have hn : i < n := by simpa using h₂
    simp only [List.getElem_append, List.getElem_take, List.getElem_map, List.getElem_range, List.getElem_drop,
      List.length_append, List.length_take, List.length_map, List.length_range,
      Nat.min_eq_left (show offset ≤ n by omega)]
    rcases Nat.lt_or_ge i offset with ho | ho
    · rw [dif_pos (by omega), dif_pos ho, if_neg (by omega)]
    · by_cases hi : i < offset + size
      · rw [dif_pos hi, dif_neg (by omega), if_pos ⟨ho, hi⟩]
      · rw [dif_neg hi, if_neg (by omega)]
        congr 1
        omega

lemma RegionInvariant.memcpy {ds : List Written} (h : RegionInvariant w ds) {offset size : Size}
    (hb : offset.toNat + size.toNat ≤ w.region.size.toNat) (data : ℕ → UInt8) :
    RegionInvariant (memcpy w offset (pointed data size)) (⟨offset.toNat, size.toNat, data⟩ :: ds) := by
  constructor
  · intro hr
    obtain ⟨m, hm⟩ := h.live hr
    exact ⟨_, by rw [mapping_memcpy, hm]; rfl⟩
  · intro m hm
    rw [mapping_memcpy] at hm
    obtain ⟨m', hm', rfl⟩ := Option.map_eq_some_iff.mp hm
    exact h.exclusive m' hm'
  · intro m hm
    rw [mapping_memcpy] at hm
    obtain ⟨m', hm', rfl⟩ := Option.map_eq_some_iff.mp hm
    rw [Mapping.copy, h.bytes m' hm', pointed, List.length_map, List.length_range]
    exact copy_range hb (byteAt ds) data

lemma take_pointed (data : ℕ → UInt8) (size : Size) : (pointed data size).take size.toNat = pointed data size :=
  List.take_of_length_le (by simp [pointed])

lemma regionInvariant_step (ht : t ≠ .ios) {ds : List Written} (h : RegionInvariant w ds) (c : RegionCall) :
    RegionInvariant (c.run t page w).2 (c.note (c.run t page w).1 ds) := by
  cases c with
  | alloc o size =>
    rw [RegionCall.run]
    rcases graftJitAlloc_cases page ht o size w with ⟨base, hr⟩ | ⟨e, hr⟩
    · rw [hr]
      exact .install base (pageRound page size) 1
    · rw [hr]
      exact h
  | beginWrite mprotect =>
    rw [RegionCall.run]
    rcases graftJitBeginWrite_cases ht mprotect w with ⟨-, hr⟩ | ⟨e, hr⟩
    · rw [hr]
      exact h.protect true false (by simp)
    · rw [hr]
      exact h
  | write o offset data size =>
    cases data with
    | none => exact h
    | some data =>
      rw [RegionCall.run]
      rcases graftJitWrite_cases ht o offset (pointed data size) size w with ⟨hb, -, hr⟩ | ⟨e, hr⟩
      · rw [hr, take_pointed]
        exact (h.protect true false (by simp)).memcpy hb data
      · rw [hr]
        exact h
  | commit mprotect =>
    rw [RegionCall.run]
    rcases graftJitCommit_cases ht mprotect w with ⟨-, hr⟩ | ⟨e, hr⟩
    · rw [hr]
      exact h.protect false true (by simp)
    · rw [hr]
      exact h
  | invalidate offset size => exact h
  | free =>
    by_cases hb : w.region.base = 0
    · simpa only [RegionCall.run, graftJitFree, if_pos hb] using .of_unmapped hb _
    · simpa only [RegionCall.run, graftJitFree, if_neg hb] using .of_unmapped rfl _

lemma regionInvariant_after (ht : t ≠ .ios) {ds : List Written} (h : RegionInvariant w ds) (cs : List RegionCall) :
    RegionInvariant (afterCalls t page w cs) (writesSince t page w ds cs) := by
  induction cs generalizing w ds with
  | nil => exact h
  | cons c cs ih => exact ih (regionInvariant_step ht h c)

structure WritesExactly (t : Target) (mprotect : Option Errno) (offset size : Size) (data : ℕ → UInt8)
    (w w' : World) (m m₁ m' : Mapping) : Prop where
  opened : graftJitBeginWrite t mprotect w = (.ok (), protect w true false)
  copied : w' = memcpy (protect w true false) offset (pointed data size)
  before : w.mapping = some m
  during : (protect w true false).mapping = some m₁
  after : w'.mapping = some m'
  writable : m₁.writable = true
  length : m.bytes.length = w.region.size.toNat ∧ m₁.bytes = m.bytes
  inside : offset.toNat + size.toNat ≤ w.region.size.toNat
  bytes : ∀ i, m'.bytes[i]? =
    if offset.toNat ≤ i ∧ i < offset.toNat + size.toNat then some (data (i - offset.toNat)) else m.bytes[i]?
  others : ∀ b, b ≠ w.region.base → w'.space b = w.space b

lemma writesExactly {ds : List Written} (h : RegionInvariant w ds) {mprotect : Option Errno} {offset size : Size}
    (hw : graftJitBeginWrite t mprotect w = (.ok (), protect w true false)) (hr : w.region.base ≠ 0)
    (hb : offset.toNat + size.toNat ≤ w.region.size.toNat) (data : ℕ → UInt8) :
    ∃ m m₁ m', WritesExactly t mprotect offset size data w
      (memcpy (protect w true false) offset (pointed data size)) m m₁ m' := by
  obtain ⟨m, hm⟩ := h.live hr
  have hbytes := h.bytes m hm
  have hm₁ : (protect w true false).mapping = some { m with writable := true, executable := false } := by
    rw [mapping_protect, hm]
    rfl
  refine ⟨m, _, Mapping.copy { m with writable := true, executable := false } offset.toNat (pointed data size),
    hw, rfl,
    hm, hm₁, by rw [mapping_memcpy, hm₁]; rfl, rfl, ⟨by simp [hbytes], rfl⟩, hb, ?_, ?_⟩
  · intro i
    simp only [Mapping.copy, hbytes, pointed, List.length_map, List.length_range, copy_range hb (byteAt ds) data]
    by_cases hi : i < w.region.size.toNat
    · simp only [List.getElem?_map, List.getElem?_range hi, Option.map_some, apply_ite some]
    · rw [List.getElem?_eq_none (by simpa using hi), if_neg (by omega), List.getElem?_eq_none (by simpa using hi)]
  · intro b hne
    simp only [memcpy, protect, if_neg hne]

end

/-- After any calls on a region, with any outcomes, its mapping is not writable and executable at once; a
write that succeeds copies inside the region while it is writable and replaces exactly its own bytes; a
write that fails changes nothing; and a commit that succeeds leaves the mapping executable, not writable,
and with the bytes written since it was allocated. -/
theorem region_calls {t : Target} (ht : t ≠ .ios) (page : Size) (space : AddressSpace) (cs : List RegionCall) :
    let w := afterCalls t page ⟨.zero, space⟩ cs
    (∀ m, w.mapping = some m → ¬ (m.writable = true ∧ m.executable = true)) ∧
      (∀ o offset data size w', (RegionCall.write o offset data size).run t page w = (.ok (), w') →
        ∃ f m m₁ m', data = some f ∧ WritesExactly t o.mprotect offset size f w w' m m₁ m') ∧
      (∀ o offset data size e w', (RegionCall.write o offset data size).run t page w = (.error e, w') → w' = w) ∧
      ∀ mprotect w', graftJitCommit t mprotect w = (.ok (), w') →
        ∃ m, w'.mapping = some m ∧ m.executable = true ∧ m.writable = false ∧
          m.bytes = (List.range w.region.size.toNat).map (byteAt (writesSince t page ⟨.zero, space⟩ [] cs)) := by
  intro w
  have hi : RegionInvariant w (writesSince t page ⟨.zero, space⟩ [] cs) :=
    regionInvariant_after ht (.of_unmapped rfl []) cs
  refine ⟨hi.exclusive, ?_, ?_, ?_⟩
  · intro o offset data size w' h
    cases data with
    | none => cases h
    | some f =>
      rw [RegionCall.run] at h
      rcases graftJitWrite_cases ht o offset (pointed f size) size w with ⟨hb, hw, hr⟩ | ⟨e, hr⟩
      · rcases graftJitBeginWrite_cases ht o.mprotect w with ⟨hne, -⟩ | ⟨e, he⟩
        · obtain ⟨m, m₁, m', hm⟩ := writesExactly hi hw hne hb f
          rw [hr, take_pointed] at h
          obtain rfl := (Prod.mk.inj h).2
          exact ⟨f, m, m₁, m', rfl, hm⟩
        · rw [hw] at he
          cases he
      · rw [hr] at h
        cases h
  · intro o offset data size e w' h
    cases data with
    | none => exact (Prod.mk.inj h).2.symm
    | some f =>
      rw [RegionCall.run] at h
      rcases graftJitWrite_cases ht o offset (pointed f size) size w with ⟨-, -, hr⟩ | ⟨e, hr⟩
      · rw [hr] at h
        cases h
      · rw [hr] at h
        exact (Prod.mk.inj h).2.symm
  · intro mprotect w' h
    rcases graftJitCommit_cases ht mprotect w with ⟨hne, hr⟩ | ⟨e, hr⟩
    · rw [hr] at h
      obtain rfl := (Prod.mk.inj h).2
      obtain ⟨m, hm⟩ := hi.live hne
      exact ⟨{ m with writable := false, executable := true },
        by rw [mapping_protect, hm]; rfl, rfl, rfl, hi.bytes m hm⟩
    · rw [hr] at h
      cases h

def sampleCalls : List RegionCall :=
  [.alloc ⟨.ok 4096, .error ENOENT⟩ 9, .write ⟨none, 0⟩ 12 (some fun i => UInt8.ofNat (i + 1)) 4,
    .write ⟨none, 0⟩ 12 (some fun _ => 9) 0xFFFFFFFFFFFFFFFF]

theorem region_calls_sample :
    let w := afterCalls .linux 16 ⟨.zero, fun _ => none⟩ sampleCalls
    (∃ w' m, graftJitCommit .linux none w = (.ok (), w') ∧ w'.mapping = some m ∧ m.executable = true ∧
      m.writable = false ∧ m.bytes = List.replicate 12 0 ++ [1, 2, 3, 4]) := by
  intro w
  have hc : graftJitCommit .linux none w = (.ok (), protect w false true) := rfl
  obtain ⟨m, hm, hx, hw, hb⟩ :=
    (region_calls (t := .linux) (by decide) 16 (fun _ => none) sampleCalls).2.2.2 none _ hc
  exact ⟨_, m, hc, hm, hx, hw, hb.trans (by decide)⟩

end Graft64.Platform.Jit
