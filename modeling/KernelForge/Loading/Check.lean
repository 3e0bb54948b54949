import KernelForge.Cache.Manifest
import KernelForge.Call.Metadata
import KernelForge.Loading.Error

/-!
What is checked before a published kernel is used: that its library is the one that was published, and that
what it says about itself agrees with the manifest.
-/
namespace KernelForge

namespace Manifest

def verify (m : Manifest) (library : Place) (disk : Disk) : Except LoadError ByteArray :=
  match disk.read library.route with
  | .error fault => .error (.io library.text fault)
  | .ok content =>
    let found := Digest.ofBytes content
    if found = m.checksum then .ok content
    else .error (.corrupt m.fingerprint library.text m.checksum found)

/-- How what a kernel says about itself disagrees with its manifest, if it does. -/
def disagreement? (m : Manifest) (info : Metadata) : Option Incompatibility :=
  if info.abi ≠ Metadata.currentAbi then some (.abi info.abi Metadata.currentAbi)
  else if info.precision ≠ m.precision then some (.precision info.precision m.precision)
  else match info.formula with
    | some formula => if formula ≠ m.formula then some (.formula formula m.formula) else none
    | none => none

/-- Checks what a kernel says about itself. -/
def checkMetadata (m : Manifest) (info : Metadata) : Except LoadError Unit :=
  match m.disagreement? info with
  | some reason => .error (.incompatible m.fingerprint reason)
  | none => .ok ()

end Manifest

end KernelForge
