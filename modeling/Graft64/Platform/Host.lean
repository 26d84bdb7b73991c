import Mathlib.Algebra.Group.Nat.Defs
import Mathlib.Data.List.Basic
import Mathlib.Tactic.Common

/-! The hosts the platform layer is built for, the error numbers it compares with, and the
C strings it formats. -/

namespace Graft64.Platform

/-- The preprocessor cases: not Apple, Apple without `TARGET_OS_IPHONE`, and iOS. -/
inductive Target
  | linux
  | macos
  | ios
  deriving DecidableEq, Repr

def Target.apple : Target → Bool
  | .linux => false
  | .macos | .ios => true

/-- A build of the platform layer: the target and whether `__aarch64__` is defined. -/
structure Build where
  target : Target
  arm64 : Bool
  deriving DecidableEq, Repr

abbrev Errno := ℕ

def EPERM : Errno := 1
def ENOENT : Errno := 2
def ESRCH : Errno := 3
def EINTR : Errno := 4
def EIO : Errno := 5
def EACCES : Errno := 13
def EFAULT : Errno := 14
def EINVAL : Errno := 22
def EMFILE : Errno := 24
def EPIPE : Errno := 32

def ENOTSUP (t : Target) : Errno := if t.apple then 45 else 95
def ETIMEDOUT (t : Target) : Errno := if t.apple then 60 else 110
def ENAMETOOLONG (t : Target) : Errno := if t.apple then 63 else 36
def EOVERFLOW (t : Target) : Errno := if t.apple then 84 else 75

/-- What a failing call leaves in `errno`, an `int`. -/
structure SysError where
  errno : Errno
  errno_ne : errno ≠ 0
  errno_lt : errno < 2 ^ 31

def lastError (e : Errno) (calls : List (Option SysError)) : Errno :=
  calls.foldl (fun e o => (o.map SysError.errno).getD e) e

def SysError.eintr : SysError := ⟨EINTR, by decide, by decide⟩
def SysError.einval : SysError := ⟨EINVAL, by decide, by decide⟩

lemma lastError_eq_zero {e : Errno} {calls : List (Option SysError)} :
    lastError e calls = 0 ↔ e = 0 ∧ ∀ o ∈ calls, o = none := by
  induction calls generalizing e with
  | nil => simp [lastError]
  | cons o calls ih =>
    rw [List.forall_mem_cons]
    cases o with
    | none =>
      have h : lastError e (none :: calls) = lastError e calls := rfl
      simpa only [h, true_and] using ih
    | some e' =>
      refine iff_of_false ?_ (by simp)
      intro h
      exact e'.errno_ne (ih.mp h).1

lemma lastError_lt {e : Errno} (h : e < 2 ^ 31) (calls : List (Option SysError)) : lastError e calls < 2 ^ 31 := by
  induction calls generalizing e with
  | nil => exact h
  | cons o calls ih =>
    cases o with
    | none => exact ih h
    | some e' => exact ih e'.errno_lt

def PATH_MAX (t : Target) : ℕ := if t.apple then 1024 else 4096

/-- A C string: the bytes before the terminator. -/
abbrev CString := List UInt8

def cstr (s : String) : CString := s.toList.map fun c => UInt8.ofNat c.toNat

/-- `vsnprintf` into a buffer of `size` bytes. -/
def setText (size : ℕ) (text : CString) : CString := text.take (size - 1)

lemma setText_of_lt {size : ℕ} {text : CString} (h : text.length < size) : setText size text = text :=
  List.take_of_length_le (by omega)

end Graft64.Platform
