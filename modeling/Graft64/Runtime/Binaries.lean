import Graft64.Runtime.Elf
import Graft64.Runtime.Pe

/-! The binaries a runtime must contain: what the validators accept, and that they always say so. -/

namespace Graft64.Runtime.Binaries

open Graft64.Library Unpack

/-- The validators return or raise an error of their own, whatever the file: no field, index or slice
leaves the bytes it is taken from, and no table that was found to be inside the file is cut short. -/
theorem validators_raise (expected : ℕ) (f : File) :
    (Elf.validateElf64Aarch64 f = .ok () ∨
      ∃ v, Elf.validateElf64Aarch64 f = .error (.value v) ∧ v ≠ .truncatedTable) ∧
    (Pe.validatePeMachine expected f = .ok () ∨
      ∃ v, Pe.validatePeMachine expected f = .error (.value v) ∧ v ≠ .truncatedTable) :=
  ⟨(Elf.validate_raises f).eq_or, (Pe.validatePeMachine_raises expected f).eq_or⟩

theorem validators_accept_iff (f : File) :
    (Elf.validateElf64Aarch64 f = .ok () ↔ Elf.IsElf64Aarch64 f.bytes) ∧
    (Pe.validatePeMachine 0xAA64 f = .ok () ↔ Pe.IsPe 0xAA64 f.bytes) :=
  ⟨Elf.validate_ok_iff f, Pe.validatePeMachine_ok_iff (by decide) f⟩

end Graft64.Runtime.Binaries
