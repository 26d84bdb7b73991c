import Graft64.Platform.Host
import Mathlib.Data.Int.Notation
import Mathlib.Logic.Function.Basic

/-! The code-memory operations over an address space of live mappings. The outcome of each
system call is an argument. -/

namespace Graft64.Platform.Jit

abbrev Size := BitVec 64

structure Region where
  base : ℕ
  size : Size
  backend : ℕ
  deriving DecidableEq, Repr

/-- `graft_jit_region region = {0}`; the null base means that nothing is mapped. -/
def Region.zero : Region := ⟨0, 0, 0⟩

structure Mapping where
  bytes : List UInt8
  writable : Bool
  executable : Bool
  deriving DecidableEq, Repr

abbrev AddressSpace := ℕ → Option Mapping

structure World where
  region : Region
  space : AddressSpace

def World.empty : World := ⟨.zero, fun _ => none⟩

/-- The two `mmap` calls of an allocation; the second is the iOS fallback. -/
structure AllocOutcome where
  mmap : Except Errno ℕ
  fallback : Except Errno ℕ

/-- The `mprotect` call of a write, or on an iOS `MAP_JIT` region the value that
`pthread_jit_write_with_callback_np` returns. -/
structure WriteOutcome where
  mprotect : Option Errno
  callback : ℤ

def pageRound (page size : Size) : Size := (size + page - 1) &&& ~~~(page - 1)

/-- A fresh anonymous mapping is readable, writable and zeroed. -/
def freshMapping (size : Size) (executable : Bool) : Mapping :=
  ⟨List.replicate size.toNat 0, true, executable⟩

def install (w : World) (base : ℕ) (size : Size) (backend : ℕ) (executable : Bool) : World where
  region := ⟨base, size, backend⟩
  space := Function.update w.space base (some (freshMapping size executable))

def graftJitAlloc (t : Target) (page : Size) (o : AllocOutcome) (size : Size) (w : World) :
    Except Errno Unit × World :=
  if size = 0 then (.error EINVAL, w)
  else
    let size := pageRound page size
    match o.mmap with
    | .ok base => (.ok (), install w base size 1 (decide (t = .ios)))
    | .error e =>
      if t = .ios then
        match o.fallback with
        | .ok base => (.ok (), install w base size 2 false)
        | .error e => (.error e, w)
      else (.error e, w)

/-- `mprotect` of the whole region. -/
def protect (w : World) (writable executable : Bool) : World :=
  { w with space := fun b =>
      if b = w.region.base then (w.space b).map fun m => { m with writable, executable } else w.space b }

def graftJitBeginWrite (t : Target) (mprotect : Option Errno) (w : World) : Except Errno Unit × World :=
  if w.region.base = 0 then (.error EINVAL, w)
  else if t = .ios ∧ w.region.backend = 1 then (.error (ENOTSUP t), w)
  else
    match mprotect with
    | some e => (.error e, w)
    | none => (.ok (), protect w true false)

def Mapping.copy (m : Mapping) (offset : ℕ) (data : List UInt8) : Mapping :=
  { m with bytes := m.bytes.take offset ++ data ++ m.bytes.drop (offset + data.length) }

/-- `memcpy` into the mapping of the region. -/
def memcpy (w : World) (offset : Size) (data : List UInt8) : World :=
  { w with space := fun b =>
      if b = w.region.base then (w.space b).map fun m => m.copy offset.toNat data else w.space b }

def graftJitWrite (t : Target) (o : WriteOutcome) (offset : Size) (data : List UInt8) (size : Size)
    (w : World) : Except Errno Unit × World :=
  if w.region.base = 0 ∨ offset > w.region.size ∨ size > w.region.size - offset then (.error EINVAL, w)
  else if t = .ios ∧ w.region.backend = 1 then
    if o.callback = 0 then (.ok (), memcpy w offset (data.take size.toNat))
    else (.error (if o.callback > 0 then o.callback.toNat else EIO), w)
  else
    match graftJitBeginWrite t o.mprotect w with
    | (.ok (), w) => (.ok (), memcpy w offset (data.take size.toNat))
    | (.error e, w) => (.error e, w)

def graftJitCommit (t : Target) (mprotect : Option Errno) (w : World) : Except Errno Unit × World :=
  if w.region.base = 0 then (.error EINVAL, w)
  else if t = .ios ∧ w.region.backend = 1 then (.ok (), w)
  else
    match mprotect with
    | some e => (.error e, w)
    | none => (.ok (), protect w false true)

/-- The instruction cache is not modelled: only the bounds check can fail. -/
def graftJitInvalidate (offset size : Size) (w : World) : Except Errno Unit :=
  if w.region.base = 0 ∨ offset > w.region.size ∨ size > w.region.size - offset then .error EINVAL
  else .ok ()

def graftJitFree (w : World) : World :=
  if w.region.base = 0 then w
  else ⟨.zero, Function.update w.space w.region.base none⟩

end Graft64.Platform.Jit
