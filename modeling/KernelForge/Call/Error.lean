import KernelForge.Call.Backend
import KernelForge.Call.Ranges
import KernelForge.Fingerprint

/-!
Why a call is refused, and how it is said.
-/
namespace KernelForge

/-- The shape an argument should have had. -/
inductive ShapeWanted where
  | parameter (dim : UInt64)
  | rows (dim : UInt64)
deriving DecidableEq, Repr

def ShapeWanted.text : ShapeWanted → String
  | parameter dim => "[" ++ Text.Numeral.text dim.toNat ++ "]"
  | rows dim =>
    if dim = 1 then "[n, 1] or [n]" else "[n, " ++ Text.Numeral.text dim.toNat ++ "]"

/-- How a loaded kernel differs from the specification it is called for. -/
inductive Mismatch where
  | numbers (kernel : Precision) (kernelAxis : Axis) (wanted : Precision) (wantedAxis : Axis)
  | pairs (dimout : UInt64)
deriving DecidableEq, Repr

def Mismatch.reason : Mismatch → String
  | numbers kernel kernelAxis wanted wantedAxis =>
    "kernel is " ++ kernel.name ++ " with rows along " ++ kernelAxis.letter ++ ", formula is " ++
      wanted.name ++ " with rows along " ++ wantedAxis.letter
  | pairs dimout =>
    "LogSumExp kernel returns " ++ Text.Numeral.text dimout.toNat ++ " values per row, expected 2"

inductive CallError where
  | argumentCount (expected found : Nat)
  | rank (name : String) (wanted : ShapeWanted) (shape : List UInt64)
  | dimension (name : String) (expected found : UInt64)
  | dataLength (name : String) (expected found : UInt64)
  | shapeOverflow (name : String) (shape : List UInt64)
  | outputOverflow (rows dimout : UInt64)
  | extent (name : String) (axis : Axis) (expected found : UInt64)
  | precision (expected found : Precision)
  | unknownBackend (name : String)
  | mixedStorage
  | deviceConflict (expected found : UInt32)
  | deviceMemory (preference : Preference)
  | memoryLocation (preference : Preference) (expected found : Memory)
  | gpuUnavailable (preference : Preference)
  | invalidRanges (defect : RangesDefect)
  | kernelMismatch (mismatch : Mismatch)
  | kernel (fingerprint : Fingerprint) (status : Int32)
deriving DecidableEq, Repr

namespace CallError

def shapeText (shape : List UInt64) : String :=
  "[" ++ ", ".intercalate (shape.map fun n => Text.Numeral.text n.toNat) ++ "]"

def message : CallError → String
  | argumentCount expected found =>
    "expected " ++ Text.Numeral.text expected ++ " arrays, got " ++ Text.Numeral.text found
  | rank name wanted shape =>
    "argument '" ++ name ++ "' has shape " ++ shapeText shape ++ ", expected " ++ wanted.text
  | dimension name expected found =>
    "argument '" ++ name ++ "' has dimension " ++ Text.Numeral.text found.toNat ++ ", expected " ++
      Text.Numeral.text expected.toNat
  | dataLength name expected found =>
    "argument '" ++ name ++ "' holds " ++ Text.Numeral.text found.toNat ++
      " values but its shape needs " ++ Text.Numeral.text expected.toNat
  | shapeOverflow name shape =>
    "argument '" ++ name ++ "' has shape " ++ shapeText shape ++ ", whose size overflows"
  | outputOverflow rows dimout =>
    "output of " ++ Text.Numeral.text rows.toNat ++ " rows of " ++ Text.Numeral.text dimout.toNat ++
      " values overflows"
  | extent name axis expected found =>
    "argument '" ++ name ++ "' has " ++ Text.Numeral.text found.toNat ++ " rows along axis " ++
      axis.index ++ ", but earlier arguments have " ++ Text.Numeral.text expected.toNat
  | precision expected found =>
    "kernel was compiled for " ++ expected.name ++ ", called with " ++ found.name ++ " data"
  | unknownBackend name => "unknown backend '" ++ name ++ "'"
  | mixedStorage => "arguments mix host and device memory"
  | deviceConflict expected found =>
    "device mismatch: expected device " ++ Text.Numeral.text expected.toNat ++ ", found device " ++
      Text.Numeral.text found.toNat
  | deviceMemory preference => "backend " ++ preference.text ++ " cannot read device memory"
  | memoryLocation preference expected found =>
    "backend " ++ preference.text ++ " expects " ++ expected.text ++ " memory, arguments are in " ++
      found.text ++ " memory"
  | gpuUnavailable preference =>
    "backend " ++ preference.text ++ " requires a GPU, but none is available"
  | invalidRanges defect => "invalid ranges: " ++ defect.reason
  | kernelMismatch mismatch => "kernel does not match the formula: " ++ mismatch.reason
  | kernel fingerprint status =>
    "kernel " ++ fingerprint.name ++ " failed with status " ++ Text.Numeral.signedText status.toInt

end CallError

end KernelForge
