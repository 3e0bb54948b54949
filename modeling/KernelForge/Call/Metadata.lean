import KernelForge.Formula.Precision
import KernelForge.Formula.Reduction

/-!
What a compiled kernel says about itself.
-/
namespace KernelForge

/-- The version of the calling convention, the precision, the scalars in a row of the result, the index
of the rows, and the formula if the kernel reports it. -/
structure Metadata where
  abi : UInt32
  precision : Precision
  dimout : UInt64
  axis : Axis
  formula : Option String
deriving DecidableEq, Repr

/-- The version of the calling convention that is understood. -/
def Metadata.currentAbi : UInt32 := 1

end KernelForge
