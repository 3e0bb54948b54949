import KernelForge.Cache.Error
import KernelForge.Cache.Manifest
import KernelForge.Host

/-!
Build locations: the folder of a fingerprint below the artifact root, and the lock that guards it.

No operation on a location removes its own lock file, so all visitors lock the same file.
-/
namespace KernelForge

structure Location where
  fingerprint : Fingerprint
  folder : Place
deriving DecidableEq, Repr

namespace Location

def lockName : String := "build.lock"

def of (root : Place) (fp : Fingerprint) : Location :=
  ⟨fp, root.join fp.name⟩

/-- Where an entry of a location is. -/
def entry (l : Location) (name : String) : Place :=
  l.folder.join name

def lockFile (l : Location) : Place := l.entry lockName

def published? (l : Location) (disk : Disk) : Option Published :=
  Published.read? l.folder l.fingerprint disk

/-- Makes the folder of a location. -/
def create (l : Location) (host : Host) : Host × Except CacheError Unit :=
  match host.disk.makeFolders l.folder.route with
  | (disk, .ok ()) => ({ host with disk }, .ok ())
  | (disk, .error fault) => ({ host with disk }, .error (.io l.folder.text fault))

/-- What came of an attempt to take the lock. -/
inductive Attempt where
  | taken (ticket : Nat)
  | held
  | failed (fault : Fault)
deriving DecidableEq

/-- Takes the lock of a location unless somebody has it. The lock file is opened to read and to write, and
made if it is missing. -/
def tryLock (l : Location) (host : Host) : Host × Attempt :=
  match host.disk.openFile l.lockFile.route with
  | .error fault => (host, .failed fault)
  | .ok (disk, file) =>
    if !disk.allows .read file then (host, .failed .permission)
    else
      let host := { host with disk }
      if host.isLocked file then (host, .held)
      else
        let (host, ticket) := host.lock file
        (host, .taken ticket)

def unpublish (l : Location) (host : Host) : Host × Except CacheError Unit :=
  let manifest := l.entry Manifest.fileName
  match host.disk.unlink manifest.route with
  | .ok disk => ({ host with disk }, .ok ())
  | .error .notFound => (host, .ok ())
  | .error fault => (host, .error (.io manifest.text fault))

/-- The paths of the entries of a location besides the lock file; a missing location has none. -/
def outputs (l : Location) (disk : Disk) : Except CacheError (List (List String)) :=
  match disk.locate l.folder.route, disk.list l.folder.route with
  | .ok key, .ok names => .ok ((names.filter fun n => n ≠ lockName).map fun n => key ++ [n])
  | .error .notFound, _ => .ok []
  | .error fault, _ => .error (.io l.folder.text fault)
  | _, .error fault => .error (.io l.folder.text fault)

/-- The paths to remove, one by one, so that everything at some paths is gone. -/
def removalPlan (keys : List (List String)) (disk : Disk) : List (List String) :=
  keys.flatMap fun key =>
    (((disk.get? key).map FileTree.removals).getD []).map (key ++ ·) ++ [key]

/-- The entry of a location that a path is at or below. -/
def outputAt (l : Location) (disk : Disk) (key : List String) : Place :=
  match disk.locate l.folder.route with
  | .ok base => l.entry ((key.drop base.length).headD "")
  | .error _ => l.folder

/-- Removes paths in order, up to the first that cannot be removed. -/
def removeAll (l : Location) : List (List String) → Host → Host × Except CacheError Unit
  | [], host => (host, .ok ())
  | key :: rest, host =>
    match host.disk.strike key with
    | .ok disk => removeAll l rest { host with disk }
    | .error fault => (host, .error (.io (l.outputAt host.disk key).text fault))

/-- Removes every output and says how many entries there were. -/
def clearOutputs (l : Location) (host : Host) : Host × Except CacheError Nat :=
  match l.outputs host.disk with
  | .error e => (host, .error e)
  | .ok keys =>
    match l.removeAll (removalPlan keys host.disk) host with
    | (host, .ok ()) => (host, .ok keys.length)
    | (host, .error e) => (host, .error e)

end Location

namespace Manifest

def writeDraft (m : Manifest) (folder : Place) (disk : Disk) : Except CacheError Disk :=
  let draft := folder.join draftName
  match disk.write draft.route m.text.toUTF8 with
  | .ok disk => .ok disk
  | .error fault => .error (.io draft.text fault)

def publishDraft (folder : Place) (disk : Disk) : Except CacheError Disk :=
  let manifest := folder.join fileName
  match disk.rename (folder.join draftName).route manifest.route with
  | .ok disk => .ok disk
  | .error fault => .error (.io manifest.text fault)

/-- Saves a manifest in a folder. What was written before a failure stays. -/
def save (m : Manifest) (folder : Place) (disk : Disk) : Disk × Except CacheError Unit :=
  match m.writeDraft folder disk with
  | .error e => (disk, .error e)
  | .ok disk =>
    match publishDraft folder disk with
    | .error e => (disk, .error e)
    | .ok disk => (disk, .ok ())

end Manifest

end KernelForge
