import Graft64.Library.Runs
import Graft64.Packaging.Checksum
import Mathlib.Logic.Function.Basic

/-! Runs of `package-ipa.sh` and of `verify-package.sh` over one output directory, in any number and
interleaved in any way. -/

namespace Graft64.Packaging.Release

open Graft64.Library Runtime.Manifest Checksum

/-- The names in the output directory that both scripts know: `GraftHost.ipa`, `GraftHost.ipa.sha256`,
`entitlements.plist` and `package-manifest.sha256`. -/
inductive Name
  | ipa
  | ipaChecksum
  | entitlements
  | packageManifest
deriving DecidableEq

inductive Found
  | file (content : Str)
  | directory
  | missing

inductive Target
  | name (n : Name)
  | outside (f : Found)

inductive Node
  | file (content : Str)
  | directory
  | link (target : Target)

abbrev Out := Name → Option Node

/-- Where a name leads, over so many links at most. -/
def follow (out : Out) : ℕ → Name → Found
  | 0, _ => .missing
  | steps + 1, n => match out n with
    | none => .missing
    | some (.file content) => .file content
    | some .directory => .directory
    | some (.link (.name m)) => follow out steps m
    | some (.link (.outside f)) => f

/-- `rm -f` -/
def remove (out : Out) (n : Name) : Option Out :=
  match out n with
  | some .directory => none
  | _ => some (Function.update out n none)

/-- `mv` of a temporary file with this content; a directory would take it in. -/
def move (steps : ℕ) (out : Out) (n : Name) (content : Str) : Out :=
  match follow out steps n with
  | .directory => out
  | _ => Function.update out n (some (.file content))

/-- The directory, with the archives that `zip` has completed and those that `package-ipa.sh` has hashed. -/
structure World where
  out : Out
  zipped : List Str
  hashed : List Str

inductive Refusal
  | missingIpa
  | missingChecksum
  | format
  | digest
  | path
  | mismatch
deriving DecidableEq

/-- The command a run comes to next, with what it has read and what is in its temporary file. A
`mktemp` stands with the command that fills the file. -/
inductive Process
  | testApp
  | removeIpa
  | zip
  | hashIpa
  | removeChecksum (line : Str)
  | moveChecksum (line : Str)
  | created
  | testIpa
  | testChecksum
  | checkFormat
  | readLine
  | readPath (digest : Str)
  | checkDigest (digest path : Str)
  | checkPath (digest path : Str)
  | copy (digest : Str)
  | compare (digest snapshot : Str)
  | inspect (snapshot : Str)
  | readEntitlements (snapshot : Str)
  | removeEntitlements (snapshot text : Str)
  | moveEntitlements (snapshot text : Str)
  | checkBinaries (snapshot : Str)
  | hashMembers (snapshot : Str)
  | removeManifest (snapshot text : Str)
  | moveManifest (snapshot text : Str)
  | verified (snapshot : Str)
  | refused (r : Refusal)
  | stopped
deriving DecidableEq

/-- The locale and the `awk` at hand, the hash, how many links the system follows, and what `shasum` prints for the
four members of an archive. The path of the temporary directory has no character that `shasum` escapes. -/
structure Setting where
  locale : Checksum.Locale
  sha256 : Str → Digest
  steps : ℕ
  steps_pos : 0 < steps
  members : Str → Str

variable (c : Setting)

def line (archive : Str) : Str := shasumLine (c.sha256 archive).hex

def removing (w : World) (n : Name) (next : Process) : World × Process :=
  match remove w.out n with
  | some out => ({ w with out }, next)
  | none => (w, .stopped)

def moving (w : World) (n : Name) (content : Str) (next : Process) : World × Process :=
  ({ w with out := move c.steps w.out n content }, next)

def reading (w : World) (n : Name) (next : Str → Process) : World × Process :=
  match follow w.out c.steps n with
  | .file content => (w, next content)
  | _ => (w, .stopped)

def testing (w : World) (n : Name) (next : Process) (r : Refusal) : World × Process :=
  match follow w.out c.steps n with
  | .file _ => (w, next)
  | _ => (w, .refused r)

def checking (w : World) (b : Bool) (next : Process) (r : Refusal) : World × Process :=
  (w, if b then next else .refused r)

/-- The next command of a run, when nothing but what it reads makes it fail. `output` is what `zip` writes,
or what `codesign` prints. -/
def command (w : World) (output : Str) : Process → World × Process
  | .testApp => (w, .removeIpa)
  | .removeIpa => removing w .ipa .zip
  | .zip => match follow w.out c.steps .ipa with
    | .directory => (w, .stopped)
    | _ =>
      ({ w with out := Function.update w.out .ipa (some (.file output)), zipped := output :: w.zipped }, .hashIpa)
  | .hashIpa => match follow w.out c.steps .ipa with
    | .file archive => ({ w with hashed := archive :: w.hashed }, .removeChecksum (line c archive))
    | _ => (w, .stopped)
  | .removeChecksum line => removing w .ipaChecksum (.moveChecksum line)
  | .moveChecksum line => moving c w .ipaChecksum line .created
  | .testIpa => testing c w .ipa .testChecksum .missingIpa
  | .testChecksum => testing c w .ipaChecksum .checkFormat .missingChecksum
  | .checkFormat => reading c w .ipaChecksum fun text =>
    if oneRecord c.locale text then .readLine else .refused .format
  | .readLine => reading c w .ipaChecksum fun text =>
    .readPath (expectedDigest c.locale (checksumLine text))
  | .readPath digest => reading c w .ipaChecksum fun text => .checkDigest digest (checksumPath c.locale text)
  | .checkDigest digest path => checking w (isDigest c.locale digest) (.checkPath digest path) .digest
  | .checkPath digest path => checking w (path == archiveName) (.copy digest) .path
  | .copy digest => reading c w .ipa fun archive => .compare digest archive
  | .compare digest snapshot => checking w ((c.sha256 snapshot).hex == digest) (.inspect snapshot) .mismatch
  | .inspect snapshot => (w, .readEntitlements snapshot)
  | .readEntitlements snapshot => (w, .removeEntitlements snapshot output)
  | .removeEntitlements snapshot text => removing w .entitlements (.moveEntitlements snapshot text)
  | .moveEntitlements snapshot text => moving c w .entitlements text (.checkBinaries snapshot)
  | .checkBinaries snapshot => (w, .hashMembers snapshot)
  | .hashMembers snapshot => (w, .removeManifest snapshot (c.members snapshot))
  | .removeManifest snapshot text => removing w .packageManifest (.moveManifest snapshot text)
  | .moveManifest snapshot text => moving c w .packageManifest text (.verified snapshot)
  | p => (w, p)

def Process.over : Process → Bool
  | created | verified _ | refused _ | stopped => true
  | _ => false

def advance (w : World) (p : Process) : Option Str → World × Process
  | some output => command c w output p
  | none => (w, if p.over then p else .stopped)

structure State where
  world : World
  processes : ℕ → Option Process

def State.initial (out : Out) : State := ⟨⟨out, [], []⟩, fun _ => none⟩

inductive Event
  | package (k : ℕ)
  | verify (k : ℕ)
  | run (k : ℕ) (outcome : Option Str)

def State.start (s : State) (k : ℕ) (p : Process) : State :=
  match s.processes k with
  | none => { s with processes := Function.update s.processes k (some p) }
  | some _ => s

def step (s : State) : Event → State
  | .package k => s.start k .testApp
  | .verify k => s.start k .testIpa
  | .run k outcome => match s.processes k with
    | none => s
    | some p =>
      ⟨(advance c s.world p outcome).1, Function.update s.processes k (some (advance c s.world p outcome).2)⟩

def after (s : State) (es : List Event) : State := es.foldl (step c) s

def Process.accepted : Process → Option Str
  | inspect snapshot | readEntitlements snapshot | removeEntitlements snapshot _ | moveEntitlements snapshot _
  | checkBinaries snapshot | hashMembers snapshot | removeManifest snapshot _ | moveManifest snapshot _
  | verified snapshot => some snapshot
  | _ => none

variable {c}

lemma follow_eq_file {out : Out} {n : Name} {steps : ℕ} {content : Str}
    (h : ∀ node, out n = some node → ∃ x, node = .file x) (hf : follow out steps n = .file content) :
    out n = some (.file content) := by
  cases steps with
  | zero => cases hf
  | succ steps =>
    rw [follow] at hf
    cases ho : out n with
    | none => simp [ho] at hf
    | some node =>
      obtain ⟨x, rfl⟩ := h node ho
      simp only [ho, Found.file.injEq] at hf
      rw [hf]

structure World.Origin (c : Setting) (w : World) : Prop where
  checksum : ∀ node, w.out .ipaChecksum = some node → ∃ x ∈ w.hashed, node = .file (line c x)
  hashed : w.hashed ⊆ w.zipped

def Fresh (w : World) : Prop := ∀ node, w.out .ipa = some node → ∃ x ∈ w.zipped, node = .file x

def Process.Origin (c : Setting) (w : World) : Process → Prop
  | zip | hashIpa => Fresh w
  | removeChecksum text | moveChecksum text => ∃ x ∈ w.hashed, text = line c x
  | readPath digest | checkDigest digest _ | checkPath digest _ | copy digest | compare digest _ =>
    ∃ x ∈ w.hashed, digest = (c.sha256 x).hex
  | inspect snapshot | readEntitlements snapshot | removeEntitlements snapshot _ | moveEntitlements snapshot _
  | checkBinaries snapshot | hashMembers snapshot | removeManifest snapshot _ | moveManifest snapshot _
  | verified snapshot => ∃ x ∈ w.hashed, (c.sha256 x).hex = (c.sha256 snapshot).hex
  | _ => True

structure Grows (w w' : World) : Prop where
  hashed : w.hashed ⊆ w'.hashed
  zipped : w.zipped ⊆ w'.zipped
  fresh : Fresh w → Fresh w'

lemma Grows.refl (w : World) : Grows w w := ⟨List.Subset.refl _, List.Subset.refl _, id⟩

lemma Grows.origin {w w' : World} (h : Grows w w') {p : Process} (hp : p.Origin c w) : p.Origin c w' := by
  have hhashed {P : Str → Prop} (hx : ∃ x ∈ w.hashed, P x) : ∃ x ∈ w'.hashed, P x :=
    hx.imp fun x hx => ⟨h.hashed hx.1, hx.2⟩
  cases p with
  | zip | hashIpa => exact h.fresh hp
  | removeChecksum | moveChecksum | readPath | checkDigest | checkPath | copy | compare => exact hhashed hp
  | inspect | readEntitlements | removeEntitlements | moveEntitlements | checkBinaries | hashMembers
  | removeManifest | moveManifest | verified => exact hhashed hp
  | _ => exact trivial

def Kept (c : Setting) (w : World) (r : World × Process) : Prop :=
  Grows w r.1 ∧ r.1.Origin c ∧ r.2.Origin c r.1

lemma kept_self {w : World} (hw : w.Origin c) {p : Process} (hp : p.Origin c w) : Kept c w (w, p) :=
  ⟨.refl w, hw, hp⟩

lemma kept_checking {w : World} (hw : w.Origin c) (b : Bool) {next : Process} (hn : b = true → next.Origin c w)
    (r : Refusal) : Kept c w (checking w b next r) := by
  rw [checking]
  cases b with
  | false => exact kept_self hw trivial
  | true => exact kept_self hw (hn rfl)

lemma kept_testing {w : World} (hw : w.Origin c) (n : Name) {next : Process} (hn : next.Origin c w) (r : Refusal) :
    Kept c w (testing c w n next r) := by
  rw [testing]
  split
  · exact kept_self hw hn
  · exact kept_self hw trivial

lemma kept_reading {w : World} (hw : w.Origin c) (n : Name) {next : Str → Process}
    (hn : ∀ content, follow w.out c.steps n = .file content → (next content).Origin c w) :
    Kept c w (reading c w n next) := by
  rw [reading]
  split
  · next content h => exact kept_self hw (hn content h)
  · exact kept_self hw trivial

lemma kept_removing {w : World} (hw : w.Origin c) (n : Name) {next : Process}
    (hn : ∀ w', Grows w w' → (n = .ipa → Fresh w') → next.Origin c w') : Kept c w (removing w n next) := by
  rw [removing]
  split
  · next out h =>
    have hout : out = Function.update w.out n none := by
      rw [remove] at h
      split at h
      · cases h
      · exact (Option.some.inj h).symm
    have hnode {m : Name} {node : Node} (ho : out m = some node) : w.out m = some node := by
      rw [hout, Function.update_apply] at ho
      split_ifs at ho
      exact ho
    have hg : Grows w { w with out } :=
      ⟨List.Subset.refl _, List.Subset.refl _, fun hf node ho => hf node (hnode ho)⟩
    refine ⟨hg, ⟨fun node ho => hw.checksum node (hnode ho), hw.hashed⟩, hn _ hg ?_⟩
    rintro rfl node ho
    have hnone : out .ipa = none := hout ▸ Function.update_self _ _ _
    exact absurd (hnone.symm.trans ho) (by simp)
  · exact kept_self hw trivial

lemma move_apply (steps : ℕ) (out : Out) (n : Name) (content : Str) (m : Name) :
    move steps out n content m = out m ∨ m = n ∧ move steps out n content m = some (.file content) := by
  rw [move]
  cases follow out steps n with
  | directory => exact .inl rfl
  | file | missing =>
    by_cases hm : m = n
    · subst hm
      exact .inr ⟨rfl, Function.update_self _ _ _⟩
    · exact .inl (Function.update_of_ne hm _ _)

lemma kept_moving {w : World} (hw : w.Origin c) {n : Name} (hipa : n ≠ .ipa) {content : Str} {next : Process}
    (hc : n = .ipaChecksum → ∃ x ∈ w.hashed, content = line c x) (hn : ∀ w', Grows w w' → next.Origin c w') :
    Kept c w (moving c w n content next) := by
  have hg : Grows w { w with out := move c.steps w.out n content } := by
    refine ⟨List.Subset.refl _, List.Subset.refl _, fun hf node (ho : move _ _ _ _ _ = _) => hf node ?_⟩
    rcases move_apply c.steps w.out n content .ipa with hm | ⟨hm, -⟩
    · rw [← hm, ho]
    · exact absurd hm.symm hipa
  refine ⟨hg, ⟨fun node (ho : move _ _ _ _ _ = _) => ?_, hw.hashed⟩, hn _ hg⟩
  rcases move_apply c.steps w.out n content .ipaChecksum with hm | ⟨hm, hfile⟩
  · exact hw.checksum node (hm.symm.trans ho)
  · obtain ⟨x, hx, rfl⟩ := hc hm.symm
    exact ⟨x, hx, Option.some.inj (ho.symm.trans hfile)⟩

lemma World.Origin.digest {w : World} (hw : w.Origin c) {text : Str}
    (h : follow w.out c.steps .ipaChecksum = .file text) :
    ∃ x ∈ w.hashed, expectedDigest c.locale (checksumLine text) = (c.sha256 x).hex := by
  have hfile := follow_eq_file (fun node hn => (hw.checksum node hn).elim fun x hx => ⟨_, hx.2⟩) h
  obtain ⟨x, hx, hline⟩ := hw.checksum _ hfile
  obtain rfl : text = line c x := Node.file.inj hline
  exact ⟨x, hx, (of_expected_eq_some (expected_shasumLine c.locale (c.sha256 x).isHex)).2.1⟩

lemma kept_command {w : World} (hw : w.Origin c) (output : Str) {p : Process} (hp : p.Origin c w) :
    Kept c w (command c w output p) := by
  have hfile {archive : Str} (hf : Fresh w) (h : follow w.out c.steps .ipa = .file archive) :
      archive ∈ w.zipped := by
    have ho := follow_eq_file (fun node hn => (hf node hn).elim fun x hx => ⟨x, hx.2⟩) h
    obtain ⟨x, hx, he⟩ := hf _ ho
    rw [Node.file.inj he]
    exact hx
  cases p with
  | removeIpa => exact kept_removing hw _ fun w' _ hf => hf rfl
  | zip =>
    simp only [command]
    split
    · exact kept_self hw trivial
    · have hfresh : Fresh
          { w with out := Function.update w.out .ipa (some (.file output)), zipped := output :: w.zipped } := by
        intro node (ho : Function.update w.out .ipa (some (.file output)) .ipa = some node)
        rw [Function.update_self] at ho
        exact ⟨output, List.mem_cons_self, (Option.some.inj ho).symm⟩
      exact ⟨⟨List.Subset.refl _, List.subset_cons_self _ _, fun _ => hfresh⟩,
        ⟨fun node ho => hw.checksum node ho, fun x hx => List.mem_cons_of_mem _ (hw.hashed hx)⟩, hfresh⟩
  | hashIpa =>
    simp only [command]
    split
    · next archive h =>
      refine ⟨⟨List.subset_cons_self _ _, List.Subset.refl _, id⟩, ⟨?_, ?_⟩, archive, List.mem_cons_self, rfl⟩
      · exact fun node ho => (hw.checksum node ho).imp fun x hx => ⟨List.mem_cons_of_mem _ hx.1, hx.2⟩
      · exact List.cons_subset.mpr ⟨hfile hp h, hw.hashed⟩
    · exact kept_self hw trivial
  | removeChecksum text => exact kept_removing hw _ fun w' hg _ => hg.origin (p := .moveChecksum text) hp
  | moveChecksum text =>
    refine kept_moving hw ?_ (fun _ => hp) fun _ _ => trivial
    decide
  | testIpa | testChecksum =>
    refine kept_testing hw _ ?_ _
    exact trivial
  | checkFormat =>
    refine kept_reading hw _ fun text _ => ?_
    split_ifs <;> exact trivial
  | readLine => exact kept_reading hw _ fun text h => hw.digest h
  | readPath digest => exact kept_reading hw _ fun text _ => hp
  | checkDigest digest path | checkPath digest path =>
    refine kept_checking hw _ (fun _ => ?_) _
    exact hp
  | copy digest => exact kept_reading hw _ fun archive _ => hp
  | compare digest snapshot =>
    refine kept_checking hw _ (fun h => ?_) _
    obtain ⟨x, hx, rfl⟩ := hp
    exact ⟨x, hx, (beq_iff_eq.mp h).symm⟩
  | removeEntitlements snapshot text =>
    exact kept_removing hw _ fun w' hg _ => hg.origin (p := .moveEntitlements snapshot text) hp
  | moveEntitlements snapshot text =>
    refine kept_moving hw ?_ (fun h => ?_) fun w' hg => hg.origin (p := .checkBinaries snapshot) hp
    · decide
    · cases h
  | removeManifest snapshot text =>
    exact kept_removing hw _ fun w' hg _ => hg.origin (p := .moveManifest snapshot text) hp
  | moveManifest snapshot text =>
    refine kept_moving hw ?_ (fun h => ?_) fun w' hg => hg.origin (p := .verified snapshot) hp
    · decide
    · cases h
  | _ => exact kept_self hw hp

structure State.Origin (c : Setting) (s : State) : Prop where
  world : s.world.Origin c
  processes : ∀ k p, s.processes k = some p → p.Origin c s.world

lemma of_update {f : ℕ → Option Process} {k j : ℕ} {p q : Process} (h : Function.update f k (some p) j = some q) :
    j = k ∧ p = q ∨ f j = some q := by
  rw [Function.update_apply] at h
  split_ifs at h with hj
  · exact .inl ⟨hj, Option.some.inj h⟩
  · exact .inr h

lemma origin_start {s : State} (hs : s.Origin c) (k : ℕ) {p : Process} (hp : p.Origin c s.world) :
    (s.start k p).Origin c := by
  rw [State.start]
  split
  · refine ⟨hs.world, fun j q hq => ?_⟩
    rcases of_update hq with ⟨-, rfl⟩ | hq
    · exact hp
    · exact hs.processes j q hq
  · exact hs

lemma kept_advance {w : World} (hw : w.Origin c) {p : Process} (hp : p.Origin c w) (outcome : Option Str) :
    Kept c w (advance c w p outcome) := by
  cases outcome with
  | some output => exact kept_command hw output hp
  | none =>
    rw [advance]
    split_ifs
    · exact kept_self hw hp
    · exact kept_self hw trivial

lemma origin_step {s : State} (hs : s.Origin c) (e : Event) : (step c s e).Origin c := by
  cases e with
  | package k | verify k => exact origin_start hs k trivial
  | run k outcome =>
    rw [step]
    split
    · exact hs
    · next p hp =>
      obtain ⟨hg, hw, hp'⟩ := kept_advance hs.world (hs.processes k p hp) outcome
      refine ⟨hw, fun j q hq => ?_⟩
      rcases of_update hq with ⟨-, rfl⟩ | hq
      · exact hp'
      · exact hg.origin (hs.processes j q hq)

lemma origin_after {s : State} (hs : s.Origin c) (es : List Event) : (after c s es).Origin c :=
  Runs.foldl_invariant (fun _ (s : State) => s.Origin c) hs (fun _ e h => origin_step h e) es

lemma origin_accepted {w : World} {p : Process} (hp : p.Origin c w) {snapshot : Str}
    (h : p.accepted = some snapshot) :
    ∃ x ∈ w.hashed, (c.sha256 x).hex = (c.sha256 snapshot).hex := by
  cases p with
  | inspect | readEntitlements | removeEntitlements | moveEntitlements | checkBinaries | hashMembers
  | removeManifest | moveManifest | verified =>
    obtain rfl := Option.some.inj h
    exact hp
  | _ => cases h

/-- However the runs are interleaved and wherever they stop, an archive that a run goes on to inspect has the
digest of one that `zip` completed and that a packaging run hashed. -/
theorem accepted_was_packaged (c : Setting) (start : Out) (h : start .ipaChecksum = none) (es : List Event) (k : ℕ)
    (p : Process) (hp : (after c (.initial start) es).processes k = some p) (snapshot : Str)
    (hs : p.accepted = some snapshot) : ∃ archive ∈ (after c (.initial start) es).world.zipped,
      archive ∈ (after c (.initial start) es).world.hashed ∧ (c.sha256 archive).hex = (c.sha256 snapshot).hex := by
  have hinit : (State.initial start).Origin c := by
    refine ⟨⟨fun node hn => ?_, List.nil_subset _⟩, fun k p hp => by cases hp⟩
    exact absurd (h.symm.trans hn) (by simp)
  have horigin := origin_after hinit es
  obtain ⟨archive, ha, hd⟩ := origin_accepted (horigin.processes k p hp) hs
  exact ⟨archive, horigin.world.hashed ha, ha, hd⟩

def packageRun (k : ℕ) (archive : Str) : List Event := .package k :: List.replicate 6 (.run k (some archive))

lemma zeros_isHex : Runtime.DepsLock.isHexOf 64 (List.replicate 64 48) = true := by decide

lemma ones_isHex : Runtime.DepsLock.isHexOf 64 (List.replicate 64 49) = true := by decide

def sampleSetting : Setting where
  locale := wideLocale
  sha256 text := if text = [] then ⟨List.replicate 64 48, zeros_isHex⟩ else ⟨List.replicate 64 49, ones_isHex⟩
  steps := 40
  steps_pos := by decide
  members := id

def sampleOut : Out
  | .packageManifest => some (.link (.name .ipa))
  | _ => none

def sampleEvents : List Event := packageRun 0 [80] ++ .verify 1 :: List.replicate 9 (.run 1 (some []))

lemma sampleEvents_inspect :
    (after sampleSetting (.initial sampleOut) sampleEvents).processes 1 = some (.inspect [80]) := by
  decide +kernel

theorem accepted_was_packaged_sample :
    ∃ archive ∈ (after sampleSetting (.initial sampleOut) sampleEvents).world.zipped,
      archive ∈ (after sampleSetting (.initial sampleOut) sampleEvents).world.hashed ∧
      (sampleSetting.sha256 archive).hex = (sampleSetting.sha256 [80]).hex :=
  accepted_was_packaged sampleSetting sampleOut rfl sampleEvents 1 (.inspect [80]) sampleEvents_inspect [80] rfl

end Graft64.Packaging.Release
