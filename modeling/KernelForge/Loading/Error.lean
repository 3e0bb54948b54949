import KernelForge.Fingerprint
import KernelForge.Host.Fault

/-!
Why a published kernel cannot be loaded, and how it is said.
-/
namespace KernelForge

/-- Why a library cannot be used. -/
inductive Unusable where
  | notLibrary
  | unknownPrecision (code : UInt32)
deriving DecidableEq, Repr

def Unusable.reason : Unusable → String
  | notLibrary => "not a kernel library"
  | unknownPrecision code => "unknown precision code " ++ Text.Numeral.text code.toNat

/-- How a kernel differs from its manifest. -/
inductive Incompatibility where
  | abi (found expected : UInt32)
  | precision (found expected : Precision)
  | formula (found expected : String)
deriving DecidableEq, Repr

def Incompatibility.reason : Incompatibility → String
  | abi found expected =>
    "ABI version " ++ Text.Numeral.text found.toNat ++ ", expected " ++ Text.Numeral.text expected.toNat
  | precision found expected => "compiled for " ++ found.name ++ ", expected " ++ expected.name
  | formula found expected => "computes '" ++ found ++ "', expected '" ++ expected ++ "'"

inductive LoadError where
  | io (path : String) (fault : Fault)
  | corrupt (fingerprint : Fingerprint) (path : String) (expected found : Digest)
  | unusable (path : String) (defect : Unusable)
  | missingSymbol (path : String) (symbol : String)
  | incompatible (fingerprint : Fingerprint) (reason : Incompatibility)
  /-- Somebody else is binding the kernel and will not finish. -/
  | waiting (fingerprint : Fingerprint)
deriving DecidableEq

def LoadError.message : LoadError → String
  | io path fault => "cannot read kernel library " ++ path ++ ": " ++ fault.message
  | corrupt fingerprint path expected found =>
    "kernel library " ++ path ++ " for " ++ fingerprint.name ++ " is corrupt: expected checksum " ++
      expected.toHex ++ ", found " ++ found.toHex
  | unusable path defect => "cannot open kernel library " ++ path ++ ": " ++ defect.reason
  | missingSymbol path symbol => "kernel library " ++ path ++ " does not export '" ++ symbol ++ "'"
  | incompatible fingerprint reason =>
    "kernel " ++ fingerprint.name ++ " is incompatible: " ++ reason.reason
  | waiting fingerprint => "still waiting for another binding of " ++ fingerprint.name

end KernelForge
