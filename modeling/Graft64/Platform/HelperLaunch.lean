import Graft64.Library.Numerals
import Graft64.Platform.Jit
import Graft64.Platform.ProbeReturn

/-! `graft_spawn_helper`: the descriptors of the child, and the arguments that name them to the helper. -/

namespace Graft64.Platform.HelperLaunch

open Graft64.Library Jit

/-- `graft_helper_launch_config`; a null path is `none`. -/
structure LaunchConfig where
  path : Option CString
  parentSocketFd : ℤ
  socketFd : ℤ
  sharedFd : ℤ
  sharedSize : Size

inductive FileAction
  | dup2 (fd childFd : ℤ)
  | close (fd : ℤ)
  deriving DecidableEq, Repr

/-- What is handed to `posix_spawn`. -/
structure Launch where
  actions : List FileAction
  argv : List CString
  deriving DecidableEq, Repr

def highestFd (c : LaunchConfig) : ℤ := max (max c.parentSocketFd c.socketFd) c.sharedFd

/-- `graft_spawn_helper` up to the first system call. -/
def launch (c : LaunchConfig) : Except Errno Launch :=
  match c.path with
  | none => .error EINVAL
  | some path =>
    if path = [] ∨ c.parentSocketFd < 0 ∨ c.socketFd < 0 ∨ c.sharedFd < 0 ∨ c.sharedSize = 0 then .error EINVAL
    else if highestFd c > 1022 then .error EMFILE
    else
      let childSocketFd := highestFd c + 1
      let childSharedFd := highestFd c + 2
      .ok
        { actions := [.dup2 c.socketFd childSocketFd, .dup2 c.sharedFd childSharedFd, .close c.parentSocketFd,
            .close c.socketFd, .close c.sharedFd]
          argv := [path, setText 16 (fmtInt childSocketFd), setText 16 (fmtInt childSharedFd),
            setText 32 (fmtInt c.sharedSize.toNat)] }

/-- The outcomes of the calls of `graft_spawn_helper`: the first call that sets up an action and fails, and
`posix_spawn`. -/
structure SpawnCalls where
  actions : Option SysError
  posixSpawn : Except SysError Int32

/-- `config` and `out_process` may be null pointers. -/
def graftSpawnHelper (config : Option LaunchConfig) (outProcess : Bool) (o : SpawnCalls) :
    Except Errno (Launch × Int32) :=
  match config, outProcess with
  | some c, true =>
    match launch c, o.actions, o.posixSpawn with
    | .error e, _, _ => .error e
    | .ok _, some e, _ => .error e.errno
    | .ok _, none, .error e => .error e.errno
    | .ok l, none, .ok pid => .ok (l, pid)
  | _, _ => .error EINVAL

structure Descriptor (F : Type) where
  file : F
  closeOnExec : Bool

abbrev Table (F : Type) := ℤ → Option (Descriptor F)

section

variable {F : Type}

/-- A descriptor that is not open makes the action, and with it the launch, fail. -/
def FileAction.run (t : Table F) : FileAction → Option (Table F)
  | .dup2 fd childFd => (t fd).map fun d => Function.update t childFd (some { d with closeOnExec := false })
  | .close fd => (t fd).map fun _ => Function.update t fd none

def runActions (t : Table F) (actions : List FileAction) : Option (Table F) := actions.foldlM FileAction.run t

end

/-- `sizeof(graft_helper_shared_state)`. -/
def sharedStateSize : ℕ := 4 * 8

structure Arguments where
  fd : ℤ
  shared : Option (ℤ × Size)
  deriving DecidableEq, Repr

def chars (s : CString) : Str := s.map UInt8.toNat

def descriptorArgument (s : CString) : Option ℤ :=
  let (fd, rest) := Numerals.strtol (chars s)
  if rest ≠ [] ∨ fd < 0 ∨ fd > 1024 then none else some fd

def sizeArgument (s : CString) : Option Size :=
  let (size, rest) := Numerals.strtoull (chars s)
  if rest ≠ [] ∨ size < sharedStateSize then none else some (BitVec.ofNat 64 size)

/-- The start of the helper's `main`; `mmap` says whether the shared file can be mapped. -/
def parseArguments (argv : List CString) (mmap : Bool) : Except UInt8 Arguments :=
  match argv with
  | _ :: socket :: args =>
    match descriptorArgument socket with
    | none => .error 64
    | some fd =>
      match args with
      | shared :: size :: _ =>
        match descriptorArgument shared, sizeArgument size with
        | some sharedFd, some sharedSize => if mmap then .ok ⟨fd, some (sharedFd, sharedSize)⟩ else .error 64
        | _, _ => .error 64
      | _ => .ok ⟨fd, none⟩
  | _ => .error 64

lemma chars_fmtInt (n : ℕ) : chars (fmtInt n) = Decimal.ofNat n := by
  rw [chars, fmtInt, List.map_map]
  apply (List.map_congr_left _).trans (List.map_id _)
  intro c hc
  have := Decimal.ofInt_lt hc
  exact UInt8.toNat_ofNat_of_lt (this.trans (by decide))

lemma fmtInt_length (n : ℕ) : (fmtInt n).length = (Decimal.ofNat n).length := List.length_map _

lemma setText_fmtInt {n size k : ℕ} (hk : 0 < k) (h : k < size) (hn : n < 10 ^ k) :
    setText size (fmtInt n) = fmtInt n := by
  apply setText_of_lt
  rw [fmtInt_length]
  exact Nat.lt_of_le_of_lt ((Decimal.ofNat_length_le_iff hk).mpr hn) h

lemma descriptorArgument_fmtInt {n : ℕ} (h : n ≤ 1024) : descriptorArgument (fmtInt n) = some (n : ℤ) := by
  rw [descriptorArgument, chars_fmtInt, Numerals.strtol_ofNat (by simp [Numerals.LONG_MAX]; omega)]
  simp
  omega

lemma sizeArgument_fmtInt {size : Size} (h : sharedStateSize ≤ size.toNat) :
    sizeArgument (fmtInt size.toNat) = some size := by
  have hs := size.isLt
  rw [sizeArgument, chars_fmtInt, Numerals.strtoull_ofNat (by simp [Numerals.ULLONG_MAX]; omega)]
  simp [Nat.not_lt.mpr h]

lemma launch_of_spawn {c : LaunchConfig} {o : SpawnCalls} {l : Launch} {pid : Int32}
    (h : graftSpawnHelper (some c) true o = .ok (l, pid)) :
    launch c = .ok l ∧ o.actions = none ∧ o.posixSpawn = .ok pid := by
  obtain ⟨actions, posixSpawn⟩ := o
  cases hl : launch c with
  | error e =>
    rw [graftSpawnHelper, hl] at h
    cases h
  | ok l' =>
    rw [graftSpawnHelper, hl] at h
    cases actions with
    | some e => cases h
    | none =>
      cases posixSpawn with
      | error e => cases h
      | ok pid' =>
        obtain ⟨rfl, rfl⟩ := Prod.mk.inj (Except.ok.inj h)
        exact ⟨rfl, rfl, rfl⟩

/-- A child that is started is handed what `launch` has prepared, and one is started when no call fails. -/
theorem graftSpawnHelper_ok_iff {config : Option LaunchConfig} {outProcess : Bool} {o : SpawnCalls} {l : Launch}
    {pid : Int32} : graftSpawnHelper config outProcess o = .ok (l, pid) ↔
      ∃ c, config = some c ∧ outProcess = true ∧ launch c = .ok l ∧ o.actions = none ∧
        o.posixSpawn = .ok pid := by
  constructor
  · intro h
    cases config with
    | none => cases h
    | some c =>
      cases outProcess with
      | false => cases h
      | true => exact ⟨c, rfl, rfl, launch_of_spawn h⟩
  · rintro ⟨c, rfl, rfl, hl, ha, hp⟩
    rw [graftSpawnHelper, hl, ha, hp]

structure Checked (c : LaunchConfig) (path : CString) : Prop where
  path : c.path = some path
  parentSocketFd : 0 ≤ c.parentSocketFd
  socketFd : 0 ≤ c.socketFd
  sharedFd : 0 ≤ c.sharedFd
  highestFd : highestFd c ≤ 1022

lemma launch_cases {c : LaunchConfig} {l : Launch} (h : launch c = .ok l) :
    ∃ path, Checked c path ∧
      l.actions = [.dup2 c.socketFd (highestFd c + 1), .dup2 c.sharedFd (highestFd c + 2), .close c.parentSocketFd,
        .close c.socketFd, .close c.sharedFd] ∧
      l.argv = [path, setText 16 (fmtInt (highestFd c + 1)), setText 16 (fmtInt (highestFd c + 2)),
        setText 32 (fmtInt c.sharedSize.toNat)] := by
  rw [launch] at h
  split at h
  · cases h
  · rename_i path hp
    split_ifs at h with hc hh
    obtain rfl := Except.ok.inj h
    simp only [not_or, not_lt] at hc hh
    exact ⟨path, ⟨hp, hc.2.1, hc.2.2.1, hc.2.2.2.1, hh⟩, rfl, rfl⟩

lemma le_highestFd (c : LaunchConfig) :
    c.socketFd ≤ highestFd c ∧ c.sharedFd ≤ highestFd c ∧ c.parentSocketFd ≤ highestFd c := by
  simp [highestFd]

lemma setText_descriptor {n : ℕ} (h : n ≤ 1024) : setText 16 (fmtInt n) = fmtInt n :=
  setText_fmtInt (k := 4) (by decide) (by decide) (by omega)

lemma setText_size (size : Size) : setText 32 (fmtInt size.toNat) = fmtInt size.toNat :=
  setText_fmtInt (k := 20) (by decide) (by decide) (size.isLt.trans (by decide))

lemma parseArguments_fmtInt {n m : ℕ} (hn : n ≤ 1024) (hm : m ≤ 1024) {size : Size}
    (hs : sharedStateSize ≤ size.toNat) (path : CString) :
    parseArguments [path, fmtInt n, fmtInt m, fmtInt size.toNat] true = .ok ⟨n, some (m, size)⟩ := by
  rw [parseArguments]
  simp only [descriptorArgument_fmtInt hn, descriptorArgument_fmtInt hm, sizeArgument_fmtInt hs, if_true]

section

variable {F : Type} {t : Table F}

lemma runActions_dup2 {fd : ℤ} {d : Descriptor F} (h : t fd = some d) (childFd : ℤ) (actions : List FileAction) :
    runActions t (.dup2 fd childFd :: actions) =
      runActions (Function.update t childFd (some { d with closeOnExec := false })) actions := by
  rw [runActions, List.foldlM_cons, FileAction.run, h]
  rfl

lemma runActions_close {fd : ℤ} {d : Descriptor F} (h : t fd = some d) (actions : List FileAction) :
    runActions t (.close fd :: actions) = runActions (Function.update t fd none) actions := by
  rw [runActions, List.foldlM_cons, FileAction.run, h]
  rfl

variable {a b p h : ℤ} {da db dp : Descriptor F}

lemma runActions_launch (ha : t a = some da) (hb : t b = some db) (hp : t p = some dp)
    (hd : a ≠ b ∧ a ≠ p ∧ b ≠ p) (hm : a ≤ h ∧ b ≤ h ∧ p ≤ h) :
    ∃ t', runActions t [.dup2 a (h + 1), .dup2 b (h + 2), .close p, .close a, .close b] = some t' ∧
      t' (h + 1) = some { da with closeOnExec := false } ∧ t' (h + 2) = some { db with closeOnExec := false } ∧
      t' p = none ∧ t' a = none ∧ t' b = none ∧
      ∀ n, n ≠ h + 1 → n ≠ h + 2 → n ≠ p → n ≠ a → n ≠ b → t' n = t n := by
  obtain ⟨hab, hap, hbp⟩ := hd
  obtain ⟨hma, hmb, hmp⟩ := hm
  have hb₁ : Function.update t (h + 1) (some { da with closeOnExec := false }) b = some db := by
    rwa [Function.update_of_ne (by omega)]
  rw [runActions_dup2 ha, runActions_dup2 hb₁]
  generalize hu : Function.update (Function.update t (h + 1) (some { da with closeOnExec := false })) (h + 2)
    (some { db with closeOnExec := false }) = u
  have h1 : u (h + 1) = some { da with closeOnExec := false } := by
    rw [← hu, Function.update_of_ne (by omega), Function.update_self]
  have h2 : u (h + 2) = some { db with closeOnExec := false } := by
    rw [← hu, Function.update_self]
  have hrest (n : ℤ) (hn1 : n ≠ h + 1) (hn2 : n ≠ h + 2) : u n = t n := by
    rw [← hu, Function.update_of_ne hn2, Function.update_of_ne hn1]
  have hpu : u p = some dp := by rwa [hrest p (by omega) (by omega)]
  have hau : Function.update u p none a = some da := by
    rwa [Function.update_of_ne hap, hrest a (by omega) (by omega)]
  have hbu : Function.update (Function.update u p none) a none b = some db := by
    rwa [Function.update_of_ne hab.symm, Function.update_of_ne hbp, hrest b (by omega) (by omega)]
  rw [runActions_close hpu, runActions_close hau, runActions_close hbu]
  have hkeep (n : ℤ) (hnp : n ≠ p) (hna : n ≠ a) (hnb : n ≠ b) :
      Function.update (Function.update (Function.update u p none) a none) b none n = u n := by
    rw [Function.update_of_ne hnb, Function.update_of_ne hna, Function.update_of_ne hnp]
  refine ⟨_, rfl, ?_, ?_, ?_, ?_, Function.update_self .., ?_⟩
  · rw [hkeep _ (by omega) (by omega) (by omega), h1]
  · rw [hkeep _ (by omega) (by omega) (by omega), h2]
  · rw [Function.update_of_ne hbp.symm, Function.update_of_ne hap.symm, Function.update_self]
  · rw [Function.update_of_ne hab, Function.update_self]
  · intro n hn1 hn2 hnp hna hnb
    rw [hkeep n hnp hna hnb, hrest n hn1 hn2]

end

/-- The child finds the socket and the shared file at the descriptors its arguments name, the three
originals closed and nothing else changed; and the helper reads its arguments back without rejecting them. -/
theorem launch_spec {F : Type} {c : LaunchConfig} {l : Launch} (h : launch c = .ok l) (t : Table F)
    {socket shared parent : Descriptor F} (hsocket : t c.socketFd = some socket)
    (hshared : t c.sharedFd = some shared) (hparent : t c.parentSocketFd = some parent)
    (hd : c.socketFd ≠ c.sharedFd ∧ c.socketFd ≠ c.parentSocketFd ∧ c.sharedFd ≠ c.parentSocketFd)
    (hs : sharedStateSize ≤ c.sharedSize.toNat) :
    ∃ path fd sharedFd child, runActions t l.actions = some child ∧
      l.argv = [path, fmtInt fd, fmtInt sharedFd, fmtInt c.sharedSize.toNat] ∧
      child fd = some { socket with closeOnExec := false } ∧
      child sharedFd = some { shared with closeOnExec := false } ∧
      child c.parentSocketFd = none ∧ child c.socketFd = none ∧ child c.sharedFd = none ∧
      (∀ n, n ≠ fd → n ≠ sharedFd → n ≠ c.parentSocketFd → n ≠ c.socketFd → n ≠ c.sharedFd → child n = t n) ∧
      parseArguments l.argv true = .ok ⟨fd, some (sharedFd, c.sharedSize)⟩ := by
  obtain ⟨path, hc, hactions, hargv⟩ := launch_cases h
  have hle := le_highestFd c
  obtain ⟨n, hn⟩ := Int.eq_ofNat_of_zero_le (hc.socketFd.trans hle.1)
  have hn' : n ≤ 1022 := by
    have := hc.highestFd
    omega
  obtain ⟨child, hrun, h1, h2, hp, ha, hb, hrest⟩ := runActions_launch hsocket hshared hparent hd hle
  rw [hn] at hactions hargv hrun h1 h2 hrest
  have hfd : ((n : ℤ) + 1) = (n + 1 : ℕ) := by omega
  have hsharedFd : ((n : ℤ) + 2) = (n + 2 : ℕ) := by omega
  have hargv' : l.argv = [path, fmtInt (n + 1 : ℕ), fmtInt (n + 2 : ℕ), fmtInt c.sharedSize.toNat] := by
    rw [hargv, hfd, hsharedFd, setText_descriptor (by omega), setText_descriptor (by omega), setText_size]
  rw [hfd] at h1 hrest
  rw [hsharedFd] at h2 hrest
  refine ⟨path, _, _, child, hactions ▸ hrun, hargv', h1, h2, hp, ha, hb, hrest, ?_⟩
  rw [hargv']
  exact parseArguments_fmtInt (by omega) (by omega) hs path

theorem launch_spec_largest :
    let c : LaunchConfig := ⟨some (cstr "/helper"), 3, 1022, 4, 16384⟩
    let t : Table ℕ := fun n => some ⟨n.toNat, true⟩
    ∃ l child, launch c = .ok l ∧ runActions t l.actions = some child ∧
      parseArguments l.argv true = .ok ⟨1023, some (1024, 16384)⟩ ∧
        (child 1023).map Descriptor.file = some 1022 := by
  intro c t
  have hl : launch c = .ok _ := rfl
  obtain ⟨path, fd, sharedFd, child, hrun, hargv, hfd, -, -, -, -, -, hparse⟩ :=
    launch_spec hl t rfl rfl rfl (by decide) (by decide)
  have hp : parseArguments [cstr "/helper", setText 16 (fmtInt 1023), setText 16 (fmtInt 1024),
      setText 32 (fmtInt 16384)] true = .ok ⟨1023, some (1024, 16384)⟩ := by decide
  obtain ⟨rfl, -⟩ := Arguments.mk.inj (Except.ok.inj (hparse.symm.trans hp))
  exact ⟨_, child, hl, hrun, hp, by rw [hfd]; rfl⟩

end Graft64.Platform.HelperLaunch
