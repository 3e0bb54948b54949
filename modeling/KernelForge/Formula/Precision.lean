import KernelForge.Formula.Error
import KernelForge.Text.Blank

/-!
The two floating-point formats a kernel can compute in.
-/
namespace KernelForge

inductive Precision where
  | float32
  | float64
deriving DecidableEq, Repr, Inhabited

namespace Precision

def name : Precision → String
  | float32 => "float32"
  | float64 => "float64"

def size : Precision → Nat
  | float32 => 4
  | float64 => 8

/-- The number by which a compiled kernel reports its precision. -/
def code : Precision → UInt32
  | float32 => 0
  | float64 => 1

def ofCode? (code : UInt32) : Option Precision :=
  if code = 0 then some float32 else if code = 1 then some float64 else none

/-- The precision a spelling stands for. Case and surrounding blanks do not matter. -/
def parse (text : String) : Except FormulaError Precision :=
  let spelling := Text.lower (Text.trim text)
  if spelling ∈ ["float32", "float", "f32", "single"] then .ok float32
  else if spelling ∈ ["float64", "double", "f64"] then .ok float64
  else .error (.unknownPrecision text)

end Precision

end KernelForge
