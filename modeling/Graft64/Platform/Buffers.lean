import Graft64.Library.Runs
import Graft64.Platform.Configuration
import Mathlib.Data.List.Zip
import Mathlib.Logic.Function.Basic

/-! The buffers behind the configured strings, byte by byte: the calls that set them check every value
before the first byte is written. -/

namespace Graft64.Platform.Buffers

open Graft64.Library

inductive Buffer
  | helperPath
  | dylibPath
  | guestBundleRoot
  | runtimeRoot
  | dataRoot
  | cacheRoot
  | bundleUrl
  | bundleExecutableUrl
  | argv0
  | currentWorkingDirectory
  | homeDirectory
  | documentsDirectory
  | libraryDirectory
  | temporaryDirectory
  | appVersion
  | livecontainerEvidence
  deriving DecidableEq

def Buffer.size (t : Target) : Buffer → ℕ
  | .appVersion => appVersionSize
  | .livecontainerEvidence => livecontainerEvidenceSize
  | _ => PATH_MAX t

structure Memory (t : Target) where
  bytes : Buffer → List UInt8
  length_eq : ∀ b, (bytes b).length = b.size t

variable {t : Target}

def Memory.initial (t : Target) : Memory t :=
  ⟨fun b => List.replicate (b.size t) 0, fun _ => List.length_replicate⟩

/-- `strcpy`; `none` when it writes past the end of the buffer or is given a null pointer. -/
def strcpy (m : Memory t) (b : Buffer) : Option CString → Option (Memory t)
  | none => none
  | some s =>
    if h : s.length + 1 ≤ b.size t then
      some {
        bytes := Function.update m.bytes b (s ++ 0 :: (m.bytes b).drop (s.length + 1))
        length_eq := by
          intro c
          by_cases hc : c = b
          · subst hc
            have := m.length_eq c
            rw [Function.update_self, List.length_append, List.length_cons, List.length_drop]
            omega
          · rw [Function.update_of_ne hc, m.length_eq] }
    else none

/-- What a call returns and the memory it leaves; `none` when its behaviour is undefined. -/
abbrev Outcome (t : Target) := Option (Except Errno Unit × Memory t)

def refused (value : Option CString) (capacity : ℕ) : Bool :=
  match value with
  | none => true
  | some s => s.isEmpty || decide (capacity ≤ s.length)

def configure (m : Memory t) (values : List (Option CString)) (destinations : List Buffer)
    (capacities : List ℕ) : Outcome t :=
  if (values.zip capacities).any fun p => refused p.1 p.2 then some (.error EINVAL, m)
  else ((destinations.zip values).foldlM (fun m p => strcpy m p.1 p.2) m).map fun m => (.ok (), m)

/-- `graft_configure_helper` and `graft_configure_dylib`, which take an empty path. -/
def configurePath (b : Buffer) (path : Option CString) (m : Memory t) : Outcome t :=
  if path.isNone || path.any (fun s => decide (b.size t ≤ s.length)) then some (.error EINVAL, m)
  else (strcpy m b path).map fun m => (.ok (), m)

def configureHelper (path : Option CString) (m : Memory t) : Outcome t := configurePath .helperPath path m

def configureDylib (path : Option CString) (m : Memory t) : Outcome t := configurePath .dylibPath path m

def pathValues (c : PathContext) : List (Option CString) :=
  [c.guestBundleRoot, c.runtimeRoot, c.dataRoot, c.cacheRoot]

def pathDestinations : List Buffer := [.guestBundleRoot, .runtimeRoot, .dataRoot, .cacheRoot]

def configurePathContext (context : Option PathContext) (m : Memory t) : Outcome t :=
  match context with
  | none => some (.error EINVAL, m)
  | some c =>
    if (pathValues c).any Option.isNone then some (.error EINVAL, m)
    else configure m (pathValues c) pathDestinations (List.replicate 4 (PATH_MAX t))

def observationValues (o : RuntimeObservation) : List (Option CString) :=
  [o.bundleUrl, o.bundleExecutableUrl, o.argv0, o.currentWorkingDirectory, o.homeDirectory, o.documentsDirectory,
    o.libraryDirectory, o.temporaryDirectory, o.appVersion, o.livecontainerEvidence]

def observationDestinations : List Buffer :=
  [.bundleUrl, .bundleExecutableUrl, .argv0, .currentWorkingDirectory, .homeDirectory, .documentsDirectory,
    .libraryDirectory, .temporaryDirectory, .appVersion, .livecontainerEvidence]

def observationCapacities (t : Target) : List ℕ :=
  [Buffer.size t .bundleUrl, Buffer.size t .bundleExecutableUrl, Buffer.size t .argv0,
    Buffer.size t .currentWorkingDirectory, Buffer.size t .homeDirectory, Buffer.size t .documentsDirectory,
    Buffer.size t .libraryDirectory, Buffer.size t .temporaryDirectory, Buffer.size t .appVersion,
    Buffer.size t .livecontainerEvidence]

def configureRuntimeObservation (observation : Option RuntimeObservation) (m : Memory t) : Outcome t :=
  match observation with
  | none => some (.error EINVAL, m)
  | some o => configure m (observationValues o) observationDestinations (observationCapacities t)

def Holds (m : Memory t) (b : Buffer) (s : CString) : Prop := ∃ rest, m.bytes b = s ++ 0 :: rest

abbrev Slot := Buffer × Option CString

structure Stored (m m' : Memory t) (slots : List Slot) : Prop where
  given : ∀ p ∈ slots, ∃ s, p.2 = some s ∧ s ≠ [] ∧ s.length < p.1.size t ∧ Holds m' p.1 s
  unchanged : ∀ b, b ∉ slots.map Prod.fst → m'.bytes b = m.bytes b

def Atomic (m : Memory t) (slots : Option (List Slot)) (r : Outcome t) : Prop :=
  r = some (.error EINVAL, m) ∨ ∃ m' ss, slots = some ss ∧ r = some (.ok (), m') ∧ Stored m m' ss

def pathSlots (c : PathContext) : List Slot := pathDestinations.zip (pathValues c)

def observationSlots (o : RuntimeObservation) : List Slot := observationDestinations.zip (observationValues o)

lemma strcpy_some {m : Memory t} {b : Buffer} {s : CString} (h : s.length < b.size t) :
    ∃ m', strcpy m b (some s) = some m' ∧ Holds m' b s ∧ ∀ c, c ≠ b → m'.bytes c = m.bytes c := by
  rw [strcpy, dif_pos (show s.length + 1 ≤ b.size t from h)]
  refine ⟨_, rfl, ⟨_, Function.update_self _ _ _⟩, ?_⟩
  intro c hc
  exact Function.update_of_ne hc _ _

lemma refused_eq_false {value : Option CString} {capacity : ℕ} :
    refused value capacity = false ↔ ∃ s, value = some s ∧ s ≠ [] ∧ s.length < capacity := by
  cases value <;> simp [refused]

lemma foldlM_strcpy (slots : List Slot) (m : Memory t) (hn : (slots.map Prod.fst).Nodup)
    (h : ∀ p ∈ slots, refused p.2 (p.1.size t) = false) :
    ∃ m', slots.foldlM (fun m p => strcpy m p.1 p.2) m = some m' ∧ Stored m m' slots := by
  induction slots generalizing m with
  | nil => exact ⟨m, rfl, by simp, fun _ _ => rfl⟩
  | cons p slots ih =>
    obtain ⟨b, v⟩ := p
    obtain ⟨hb, hns⟩ := List.nodup_cons.mp hn
    obtain ⟨hp, hs⟩ := List.forall_mem_cons.mp h
    obtain ⟨s, rfl, hne, hlt⟩ := refused_eq_false.mp hp
    obtain ⟨m₁, hcopy, ⟨rest, hrest⟩, hframe⟩ := strcpy_some (m := m) hlt
    obtain ⟨m', hrun, hst⟩ := ih m₁ hns hs
    refine ⟨m', ?_, ?_, ?_⟩
    · rw [List.foldlM_cons, hcopy]
      exact hrun
    · refine List.forall_mem_cons.mpr ⟨⟨s, rfl, hne, hlt, rest, ?_⟩, hst.given⟩
      rw [hst.unchanged b hb, hrest]
    · intro c hc
      obtain ⟨hcb, hc⟩ := not_or.mp (mt List.mem_cons.mpr hc)
      rw [hst.unchanged c hc, hframe c hcb]

lemma configure_atomic (m : Memory t) {values : List (Option CString)} {destinations : List Buffer}
    (hn : destinations.Nodup) (hlen : destinations.length = values.length) :
    Atomic m (some (destinations.zip values))
      (configure m values destinations (destinations.map (Buffer.size t))) := by
  have hany : ((values.zip (destinations.map (Buffer.size t))).any fun p => refused p.1 p.2) =
      (destinations.zip values).any fun p => refused p.2 (p.1.size t) := by
    rw [List.zip_map_right, List.any_map, ← List.zip_swap, List.any_map]
    rfl
  rw [configure, hany]
  split_ifs with h
  · exact .inl rfl
  · have hfst : (destinations.zip values).map Prod.fst = destinations := List.map_fst_zip (Nat.le_of_eq hlen)
    obtain ⟨m', hrun, hst⟩ := foldlM_strcpy (destinations.zip values) m (by rwa [hfst]) (by simpa using h)
    exact .inr ⟨m', _, rfl, by rw [hrun]; rfl, hst⟩

lemma configurePath_cases (b : Buffer) (path : Option CString) (m : Memory t) :
    configurePath b path m = some (.error EINVAL, m) ∨
      ∃ s m', path = some s ∧ s.length < b.size t ∧ configurePath b path m = some (.ok (), m') ∧ Holds m' b s ∧
        ∀ c, c ≠ b → m'.bytes c = m.bytes c := by
  rw [configurePath]
  split_ifs with h
  · exact .inl rfl
  · cases path with
    | none => exact absurd rfl h
    | some s =>
      have hlt : s.length < b.size t := by simpa using h
      obtain ⟨m', hm, hholds, hframe⟩ := strcpy_some (m := m) hlt
      exact .inr ⟨s, m', rfl, hlt, by rw [hm]; rfl, hholds, hframe⟩

lemma configurePathContext_atomic (context : Option PathContext) (m : Memory t) :
    Atomic m (context.map pathSlots) (configurePathContext context m) := by
  cases context with
  | none => exact .inl rfl
  | some c =>
    rw [configurePathContext]
    split_ifs
    · exact .inl rfl
    · exact configure_atomic m (by decide) rfl

lemma configureRuntimeObservation_atomic (observation : Option RuntimeObservation) (m : Memory t) :
    Atomic m (observation.map observationSlots) (configureRuntimeObservation observation m) := by
  cases observation with
  | none => exact .inl rfl
  | some o => exact configure_atomic m (by decide) rfl

inductive Call
  | helper (path : Option CString)
  | dylib (path : Option CString)
  | pathContext (context : Option PathContext)
  | observation (o : Option RuntimeObservation)

namespace Call

def apply : Call → Memory t → Outcome t
  | helper path => configureHelper path
  | dylib path => configureDylib path
  | pathContext context => configurePathContext context
  | observation o => configureRuntimeObservation o

def destinations : Call → List Buffer
  | helper _ => [.helperPath]
  | dylib _ => [.dylibPath]
  | pathContext _ => pathDestinations
  | observation _ => observationDestinations

end Call

def step (m : Memory t) (c : Call) : Option (Memory t) := (c.apply m).map Prod.snd

lemma Call.apply_cases (c : Call) (m : Memory t) :
    c.apply m = some (.error EINVAL, m) ∨
      ∃ m', c.apply m = some (.ok (), m') ∧ ∀ b, b ∉ c.destinations → m'.bytes b = m.bytes b := by
  have hpath (b : Buffer) (path : Option CString) : configurePath b path m = some (.error EINVAL, m) ∨
      ∃ m', configurePath b path m = some (.ok (), m') ∧ ∀ d, d ∉ [b] → m'.bytes d = m.bytes d := by
    obtain h | ⟨s, m', -, -, h, -, hframe⟩ := configurePath_cases b path m
    · exact .inl h
    · exact .inr ⟨m', h, fun d hd => hframe d (mt List.mem_singleton.mpr hd)⟩
  cases c with
  | helper path => exact hpath .helperPath path
  | dylib path => exact hpath .dylibPath path
  | pathContext context =>
    obtain h | ⟨m', ss, hss, h, hst⟩ := configurePathContext_atomic context m
    · exact .inl h
    · obtain ⟨c, -, rfl⟩ := Option.map_eq_some_iff.mp hss
      exact .inr ⟨m', h, fun b hb => hst.unchanged b hb⟩
  | observation o =>
    obtain h | ⟨m', ss, hss, h, hst⟩ := configureRuntimeObservation_atomic o m
    · exact .inl h
    · obtain ⟨c, -, rfl⟩ := Option.map_eq_some_iff.mp hss
      exact .inr ⟨m', h, fun b hb => hst.unchanged b hb⟩

/-- Where the contents of some buffers come from after a sequence of calls: one accepted call that sets
these buffers, or the memory before all calls. -/
def Origin (ds : List Buffer) (m : Memory t) (calls : List Call) (m' : Memory t) : Prop :=
  (∀ b ∈ ds, m'.bytes b = m.bytes b) ∨
    ∃ pre c post before after, calls = pre ++ c :: post ∧ c.destinations = ds ∧ Runs.run step m pre = some before ∧
      c.apply before = some (.ok (), after) ∧ ∀ b ∈ ds, m'.bytes b = after.bytes b

lemma destinations_disjoint {c d : Call} (h : c.destinations ≠ d.destinations) :
    ∀ b ∈ d.destinations, b ∉ c.destinations := by
  cases c <;> cases d <;>
    first
    | exact absurd rfl h
    | simp [Call.destinations, pathDestinations, observationDestinations]

lemma run_origin (d : Call) (m : Memory t) (calls : List Call) (m' : Memory t)
    (h : Runs.run step m calls = some m') : Origin d.destinations m calls m' := by
  refine Runs.run_invariant (fun calls m' => Origin d.destinations m calls m') ?_ ?_ calls m' h
  · exact .inl fun b _ => rfl
  · intro calls m₁ c m₂ hrun hm₁ hstep
    obtain hc | ⟨m₃, hc, hframe⟩ := c.apply_cases m₁
    · rw [step, hc] at hstep
      obtain rfl := Option.some.inj hstep
      obtain hsame | ⟨pre, e, post, before, after, rfl, he, hpre, hok, hsame⟩ := hm₁
      · exact .inl hsame
      · exact .inr ⟨pre, e, post ++ [c], before, after, by simp, he, hpre, hok, hsame⟩
    · rw [step, hc] at hstep
      obtain rfl := Option.some.inj hstep
      by_cases hd : c.destinations = d.destinations
      · exact .inr ⟨calls, c, [], m₁, m₃, rfl, hd, hrun, hc, fun b _ => rfl⟩
      · have hkeep : ∀ b ∈ d.destinations, m₃.bytes b = m₁.bytes b :=
          fun b hb => hframe b (destinations_disjoint hd b hb)
        obtain hsame | ⟨pre, e, post, before, after, rfl, he, hpre, hok, hsame⟩ := hm₁
        · exact .inl fun b hb => (hkeep b hb).trans (hsame b hb)
        · exact .inr ⟨pre, e, post ++ [c], before, after, by simp, he, hpre, hok,
            fun b hb => (hkeep b hb).trans (hsame b hb)⟩

lemma run_isSome (m : Memory t) (calls : List Call) : ∃ m', Runs.run step m calls = some m' := by
  induction calls generalizing m with
  | nil => exact ⟨m, rfl⟩
  | cons c calls ih =>
    obtain h | ⟨m', h, -⟩ := c.apply_cases m
    · rw [Runs.run_cons, step, h]
      exact ih m
    · rw [Runs.run_cons, step, h]
      exact ih m'

/-- The strings of a path context or an observation are set together or not at all. -/
theorem configuration_atomic (t : Target) :
    (∀ (context : Option PathContext) (m : Memory t),
      Atomic m (context.map pathSlots) (configurePathContext context m)) ∧
    (∀ (o : Option RuntimeObservation) (m : Memory t),
      Atomic m (o.map observationSlots) (configureRuntimeObservation o m)) ∧
    ∀ (m : Memory t) (calls : List Call), ∃ m', Runs.run step m calls = some m' ∧
      Origin pathDestinations m calls m' ∧ Origin observationDestinations m calls m' := by
  refine ⟨configurePathContext_atomic, configureRuntimeObservation_atomic, ?_⟩
  intro m calls
  obtain ⟨m', h⟩ := run_isSome m calls
  exact ⟨m', h, run_origin (.pathContext none) m calls m' h, run_origin (.observation none) m calls m' h⟩

def Buffer.value (g : Configuration) : Buffer → CString
  | .helperPath => g.helperPath
  | .dylibPath => g.dylibPath
  | .guestBundleRoot => g.guestBundleRoot
  | .runtimeRoot => g.runtimeRoot
  | .dataRoot => g.dataRoot
  | .cacheRoot => g.cacheRoot
  | .bundleUrl => g.bundleUrl
  | .bundleExecutableUrl => g.bundleExecutableUrl
  | .argv0 => g.argv0
  | .currentWorkingDirectory => g.currentWorkingDirectory
  | .homeDirectory => g.homeDirectory
  | .documentsDirectory => g.documentsDirectory
  | .libraryDirectory => g.libraryDirectory
  | .temporaryDirectory => g.temporaryDirectory
  | .appVersion => g.appVersion
  | .livecontainerEvidence => g.livecontainerEvidence

def Represents (m : Memory t) (g : Configuration) : Prop := ∀ b, Holds m b (b.value g)

lemma represents_initial : Represents (Memory.initial t) .initial := by
  intro b
  have hpos : b.size t ≠ 0 := by cases b <;> cases t <;> decide
  obtain ⟨n, hn⟩ := Nat.exists_eq_succ_of_ne_zero hpos
  refine ⟨List.replicate n 0, ?_⟩
  have hvalue : b.value .initial = [] := by cases b <;> rfl
  change List.replicate (b.size t) 0 = _
  rw [hn, hvalue]
  rfl

lemma Stored.admissible {m m' : Memory t} {slots : List Slot} (h : Stored m m' slots) :
    ∀ p ∈ slots, ∃ s, admissible (p.1.size t) p.2 = some s ∧ Holds m' p.1 s := by
  intro p hp
  obtain ⟨s, hs, hne, hlt, hholds⟩ := h.given p hp
  exact ⟨s, by simp [Platform.admissible, hs, Option.filter_some, hne, hlt], hholds⟩

lemma Holds.of_eq {m m' : Memory t} {b : Buffer} {s : CString} (h : Holds m b s) (he : m'.bytes b = m.bytes b) :
    Holds m' b s := by
  obtain ⟨rest, hrest⟩ := h
  exact ⟨rest, he.trans hrest⟩

section

variable {m m' : Memory t} {g : Configuration}

lemma configurePath_ok {b : Buffer} {path : Option CString} (h : configurePath b path m = some (.ok (), m')) :
    ∃ s, path = some s ∧ s.length < b.size t ∧ Holds m' b s ∧ ∀ d, d ≠ b → m'.bytes d = m.bytes d := by
  obtain he | ⟨s, m₁, rfl, hlt, he, hb, hframe⟩ := configurePath_cases b path m
  · simp [he] at h
  · obtain rfl : m₁ = m' := by simpa [he] using h
    exact ⟨s, rfl, hlt, hb, hframe⟩

lemma Atomic.stored {slots : Option (List Slot)} {r : Outcome t} (ha : Atomic m slots r)
    (h : r = some (.ok (), m')) : ∃ ss, slots = some ss ∧ Stored m m' ss := by
  obtain he | ⟨m₁, ss, hss, he, hst⟩ := ha
  · simp [he] at h
  · obtain rfl : m₁ = m' := by simpa [he] using h
    exact ⟨ss, hss, hst⟩

lemma represents_helper {path : Option CString} (hm : Represents m g) (hg : Configured t g)
    (h : configurePath .helperPath path m = some (.ok (), m')) : ∃ g', Configured t g' ∧ Represents m' g' := by
  obtain ⟨s, rfl, hlt, hb, hframe⟩ := configurePath_ok h
  have hset : Platform.configureHelper t (some s) g = some { g with helperPath := s } := by
    simpa [Platform.configureHelper, Option.filter_some] using! hlt
  refine ⟨_, hg.helper hset, ?_⟩
  rintro (_ | _)
  · exact hb
  all_goals exact (hm _).of_eq (hframe _ (by decide))

lemma represents_dylib {path : Option CString} (hm : Represents m g) (hg : Configured t g)
    (h : configurePath .dylibPath path m = some (.ok (), m')) : ∃ g', Configured t g' ∧ Represents m' g' := by
  obtain ⟨s, rfl, hlt, hb, hframe⟩ := configurePath_ok h
  have hset : Platform.configureDylib t (some s) g = some { g with dylibPath := s } := by
    simpa [Platform.configureDylib, Option.filter_some] using! hlt
  refine ⟨_, hg.dylib hset, ?_⟩
  rintro (_ | _)
  · exact (hm _).of_eq (hframe _ (by decide))
  · exact hb
  all_goals exact (hm _).of_eq (hframe _ (by decide))

lemma represents_pathContext {context : Option PathContext} (hm : Represents m g) (hg : Configured t g)
    (h : configurePathContext context m = some (.ok (), m')) : ∃ g', Configured t g' ∧ Represents m' g' := by
  obtain ⟨ss, hss, hst⟩ := (configurePathContext_atomic context m).stored h
  obtain ⟨c, rfl, rfl⟩ := Option.map_eq_some_iff.mp hss
  have hgiven := hst.admissible
  simp only [pathSlots, pathDestinations, pathValues, List.zip_cons_cons, List.zip_nil_right,
    List.forall_mem_cons, Buffer.size] at hgiven
  obtain ⟨⟨s₁, h₁, hb₁⟩, ⟨s₂, h₂, hb₂⟩, ⟨s₃, h₃, hb₃⟩, ⟨s₄, h₄, hb₄⟩, -⟩ := hgiven
  have hset : Platform.configurePathContext t (some c) g = some { g with
      guestBundleRoot := s₁, runtimeRoot := s₂, dataRoot := s₃, cacheRoot := s₄ } := by
    simp only [Platform.configurePathContext, Option.bind_eq_bind, Option.bind_some, h₁, h₂, h₃, h₄]
    rfl
  refine ⟨_, hg.pathContext hset, ?_⟩
  rintro (_ | _)
  case guestBundleRoot => exact hb₁
  case runtimeRoot => exact hb₂
  case dataRoot => exact hb₃
  case cacheRoot => exact hb₄
  all_goals exact (hm _).of_eq (hst.unchanged _ (show _ ∉ pathDestinations by decide))

lemma represents_observation {o : Option RuntimeObservation} (hm : Represents m g) (hg : Configured t g)
    (h : configureRuntimeObservation o m = some (.ok (), m')) :
    ∃ g', Configured t g' ∧ Represents m' g' := by
  obtain ⟨ss, hss, hst⟩ := (configureRuntimeObservation_atomic o m).stored h
  obtain ⟨c, rfl, rfl⟩ := Option.map_eq_some_iff.mp hss
  have hgiven := hst.admissible
  simp only [observationSlots, observationDestinations, observationValues, List.zip_cons_cons,
    List.zip_nil_right, List.forall_mem_cons, Buffer.size] at hgiven
  obtain ⟨⟨s₁, h₁, hb₁⟩, ⟨s₂, h₂, hb₂⟩, ⟨s₃, h₃, hb₃⟩, ⟨s₄, h₄, hb₄⟩, ⟨s₅, h₅, hb₅⟩, ⟨s₆, h₆, hb₆⟩,
    ⟨s₇, h₇, hb₇⟩, ⟨s₈, h₈, hb₈⟩, ⟨s₉, h₉, hb₉⟩, ⟨s₁₀, h₁₀, hb₁₀⟩, -⟩ := hgiven
  have hset : Platform.configureRuntimeObservation t (some c) g = some { g with
      bundleUrl := s₁, bundleExecutableUrl := s₂, argv0 := s₃, currentWorkingDirectory := s₄,
      homeDirectory := s₅, documentsDirectory := s₆, libraryDirectory := s₇, temporaryDirectory := s₈,
      appVersion := s₉, livecontainerEvidence := s₁₀ } := by
    simp only [Platform.configureRuntimeObservation, Option.bind_eq_bind, Option.bind_some, h₁, h₂, h₃,
      h₄, h₅, h₆, h₇, h₈, h₉, h₁₀]
    rfl
  refine ⟨_, hg.observation hset, ?_⟩
  rintro (_ | _)
  case bundleUrl => exact hb₁
  case bundleExecutableUrl => exact hb₂
  case argv0 => exact hb₃
  case currentWorkingDirectory => exact hb₄
  case homeDirectory => exact hb₅
  case documentsDirectory => exact hb₆
  case libraryDirectory => exact hb₇
  case temporaryDirectory => exact hb₈
  case appVersion => exact hb₉
  case livecontainerEvidence => exact hb₁₀
  all_goals exact (hm _).of_eq (hst.unchanged _ (show _ ∉ observationDestinations by decide))

lemma Call.apply_represents {c : Call} (hm : Represents m g) (hg : Configured t g)
    (h : c.apply m = some (.ok (), m')) : ∃ g', Configured t g' ∧ Represents m' g' := by
  cases c with
  | helper path => exact represents_helper hm hg h
  | dylib path => exact represents_dylib hm hg h
  | pathContext context => exact represents_pathContext hm hg h
  | observation o => exact represents_observation hm hg h

end

theorem run_configured (calls : List Call) (m : Memory t) (h : Runs.run step (Memory.initial t) calls = some m) :
    ∃ g, Configured t g ∧ Represents m g := by
  refine Runs.run_invariant (fun _ m => ∃ g, Configured t g ∧ Represents m g)
    ⟨_, .initial, represents_initial⟩ ?_ calls m h
  rintro calls m₁ c m₂ - ⟨g, hg, hm⟩ hstep
  obtain hc | ⟨m₃, hc, -⟩ := c.apply_cases m₁
  · rw [step, hc] at hstep
    obtain rfl := Option.some.inj hstep
    exact ⟨g, hg, hm⟩
  · rw [step, hc] at hstep
    obtain rfl := Option.some.inj hstep
    exact Call.apply_represents hm hg hc

end Graft64.Platform.Buffers
