import KernelForge.Host.FileSystem

/-!
The state that the visitors of a cache share: the disk, which lock files are locked, and how often a generator
has been run.

Whoever takes a lock gets a ticket for it. A lock belongs to the file and not to its name: it stays on a file
that is moved or has another name, and when all names of the file are gone it keeps nobody out, because a new
file of the same name is another one.
-/
namespace KernelForge

structure Lock where
  ticket : Nat
  file : Nat
deriving DecidableEq, Repr

/-- `issued` counts the tickets that were given out. -/
structure Host where
  disk : Disk := {}
  locks : List Lock := []
  issued : Nat := 0
  runs : Nat := 0

namespace Host

def isLocked (host : Host) (file : Nat) : Bool :=
  host.locks.any fun l => l.file = file

def lock (host : Host) (file : Nat) : Host × Nat :=
  ({ host with locks := ⟨host.issued, file⟩ :: host.locks, issued := host.issued + 1 }, host.issued)

/-- Gives back the lock of a ticket. -/
def unlock (host : Host) (ticket : Nat) : Host :=
  { host with locks := host.locks.filter fun l => l.ticket ≠ ticket }

end Host

end KernelForge
