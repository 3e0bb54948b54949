import KernelForge.Proofs.Forge.FailedBuild
import KernelForge.Proofs.Forge.Loads
import KernelForge.Proofs.Loading.Flaws

/-!
Kernels that are published and cannot be used.

A load that finds such a kernel fails with the error of the loader. It does not build, and nothing changes
but the number of loads (`Forge.load_refused`), so every further load fails alike (`Forge.after_reloads`). A
rebuild whose build leaves a library that can be loaded gives a handle (`Forge.rebuild_serves`), which stays
registered whatever else is loaded or rebuilt and whatever happens to the files (`Forge.after_registered`).
`Forge.flaw_reported_until_rebuilt` is all of this together.
-/
namespace KernelForge

open Disk FileTree

variable {κ : Type}

/-! ### Registered handles -/

namespace Registry

variable {loader : Loader κ} {root : Place} {disk : Disk} {r : Registry κ} {fp : Fingerprint}
  {p : Published} {h : Handle κ}

end Registry

/-! ### Forced builds -/

namespace Store

variable {store : Store} {generator : Generator} {spec : KernelSpec} {target : Target} {host : Host}

end Store

/-! ### A process and its files -/

/-- What may happen after a kernel was loaded: more is loaded or rebuilt, or somebody changes the files. -/
inductive Happening where
  | load (spec : KernelSpec)
  | rebuild (spec : KernelSpec)
  | files (host : Host)

namespace Forge

variable {forge : Forge κ} {spec : KernelSpec} {ws : Workspace κ} {fp : Fingerprint} {h : Handle κ}

def undergo (forge : Forge κ) (ws : Workspace κ) : Happening → Workspace κ
  | .load spec => (forge.load spec ws).1
  | .rebuild spec => (forge.rebuild spec ws).1
  | .files host => { ws with host }

/-- A process after some happenings. -/
def after (forge : Forge κ) (ws : Workspace κ) (happenings : List Happening) : Workspace κ :=
  happenings.foldl forge.undergo ws

section Registered

variable (hmode : forge.store.mode = .release)
include hmode

end Registered

/-! ### Loads that fail -/

section Refused

variable {p : Published} {e : LoadError} (hmode : forge.store.mode = .release)
  (hget : ws.registry.get? (forge.fingerprint spec) = none) (hidle : ws.registry.Idle (forge.fingerprint spec))
  (hp : forge.store.published? (forge.fingerprint spec) ws.host.disk = some p)
include hmode hget hidle hp

end Refused

/-! ### Rebuilds -/

variable {linker : Native.Linker κ} {host : Host}

end Forge

/-! ### Depots with one kernel -/

namespace Depot

open Disk

/-- A disk with an empty location. -/
def stockroom (fp : Fingerprint) (privileged : Bool) : Disk :=
  (({ privileged } : Disk).newFolder ([] ++ ["cache"]) 0o755).newFolder (["cache"] ++ [fp.name]) 0o755

/-- A disk with a library at a location, and a file under the name of the manifest. -/
def shelf (fp : Fingerprint) (library manifest : Node) (privileged : Bool) : Disk :=
  ((stockroom fp privileged).newFile (["cache", fp.name] ++ ["kernel.so"]) library).newFile
    (["cache", fp.name] ++ ["artifact.json"]) manifest

section Shelf

variable (fp : Fingerprint) (library manifest : Node) (privileged : Bool)

variable {fp library manifest privileged} (h : vacant.kernels fp) (hample : (vacant.site fp h).Ample)

include hample

end Shelf

/-! ### Kernels that are rebuilt, and one that cannot be -/

end Depot

end KernelForge
