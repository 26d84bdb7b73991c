import Graft64.Library.Decimal
import Graft64.Platform.Host

/-! What a probe function leaves behind: its return code, `errno` and the two text buffers. -/

namespace Graft64.Platform

open Graft64.Library

structure ProbeReturn where
  rc : ℤ
  /-- Read, and followed call by call, only where `rc` is not positive. -/
  errno : Errno
  summary : CString
  details : CString
  deriving DecidableEq, Repr

def PROBE_INTERNAL_SKIP : ℤ := -2
def PROBE_INTERNAL_BLOCKED : ℤ := -3

/-- `sizeof(summary)` and `sizeof(details)` in `graft_run_probe`. -/
def summarySize : ℕ := 256
def detailsSize : ℕ := 8192

/-- The conversions `%d`, `%ld`, `%zu`, `%lld` and `%llu`. -/
def fmtInt (z : ℤ) : CString := (Decimal.ofInt z).map UInt8.ofNat

def fmtBool (b : Bool) : CString := if b then cstr "true" else cstr "false"

def report (rc : ℤ) (errno : Errno) (summary : String) (details : CString) : ProbeReturn :=
  ⟨rc, errno, setText summarySize (cstr summary), setText detailsSize details⟩

@[simp] lemma report_rc (rc : ℤ) (errno : Errno) (summary : String) (details : CString) :
    (report rc errno summary details).rc = rc := rfl

@[simp] lemma report_details (rc : ℤ) (errno : Errno) (summary : String) (details : CString) :
    (report rc errno summary details).details = setText detailsSize details := rfl

end Graft64.Platform
