import KernelForge.Config.BuildMode
import KernelForge.Host.Fault

/-!
Why a configuration is refused, and how it is said.
-/
namespace KernelForge

inductive ConfigError where
  | unreadable (fault : Fault)
  | malformed
  | invalidValue (key value : String) (wanted : Wanted)
deriving DecidableEq, Repr

def ConfigError.message : ConfigError → String
  | unreadable fault => "failed to read configuration: " ++ fault.message
  | malformed => "failed to parse configuration:"
  | invalidValue key value wanted =>
    "invalid value '" ++ value ++ "' for " ++ key ++ ": " ++ wanted.reason

namespace BuildMode

def parse (text : String) : Except ConfigError BuildMode :=
  match ofText? text with
  | some mode => .ok mode
  | none => .error (.invalidValue "build_type" text .buildType)

end BuildMode

end KernelForge
