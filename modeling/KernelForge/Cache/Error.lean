import KernelForge.Fingerprint
import KernelForge.Host.Fault

/-!
Why the cache fails, and how it is said.
-/
namespace KernelForge

inductive CacheError where
  | io (path : String) (fault : Fault)
  | invalidTarget (name : String)
deriving DecidableEq

def CacheError.message : CacheError → String
  | io path fault => "cache I/O error at " ++ path ++ ": " ++ fault.message
  | invalidTarget name =>
    "invalid backend id '" ++ name ++ "': expected lowercase letters, digits or '_'"

/-- What a generator that failed leaves: its exit status, if it ran to an end, and what it said. -/
structure GeneratorFailure where
  status : Option Int
  diagnostics : String
deriving DecidableEq, Repr

/-- Why a build or a removal fails. -/
inductive BuildError where
  | failed (spec : KernelSpec) (fingerprint : Fingerprint) (location : String)
      (failure : GeneratorFailure)
  | lock (location : String) (fault : Fault)
  | lockTimeout (location : String)
  /-- Nobody is left who could release the lock that is waited for. -/
  | waiting (location : String)
  | cache (error : CacheError)
deriving DecidableEq

def BuildError.message : BuildError → String
  | failed spec fingerprint location failure =>
    "failed to compile " ++ spec.text ++ " (" ++ fingerprint.name ++ ") in " ++ location ++ ": " ++
      failure.diagnostics
  | lock location fault => "failed to lock build location " ++ location ++ ": " ++ fault.message
  | lockTimeout location => "timed out waiting for the build lock on " ++ location
  | waiting location => "still waiting for the build lock on " ++ location
  | cache error => error.message

namespace Target

def create (name : String) : Except CacheError Target :=
  match create? name with
  | some t => .ok t
  | none => .error (.invalidTarget name)

end Target

end KernelForge
