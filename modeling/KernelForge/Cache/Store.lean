import KernelForge.Cache.Visit
import KernelForge.Config.BuildMode

/-!
The artifact cache as a visitor sees it who is alone there: building, listing, removing.
-/
namespace KernelForge

/-- A cache: its root, whether kernels are built anew each time, and whether waiting for a lock has a
limit. -/
structure Store where
  root : Place
  mode : BuildMode
  impatient : Bool
deriving DecidableEq, Repr

namespace Store

def location (store : Store) (fp : Fingerprint) : Location :=
  .of store.root fp

def published? (store : Store) (fp : Fingerprint) (disk : Disk) : Option Published :=
  (store.location fp).published? disk

/-- The result of a visit that ran alone. -/
def outcome (v : Visit) : Except BuildError Yield :=
  match v.result? with
  | some r => r
  | none => .error (.waiting v.location.folder.text)

/-- Builds a kernel. Unless forced, a kernel that is published is taken as it is. -/
def build (store : Store) (generator : Generator) (spec : KernelSpec) (target : Target)
    (fp : Fingerprint) (force : Bool) (host : Host) : Host × Except BuildError Published :=
  let visit : Visit :=
    { location := store.location fp, errand := .build spec target force, impatient := store.impatient }
  let (host, visit) := visit.run generator host
  match outcome visit with
  | .ok (.published p) => (host, .ok p)
  | .ok (.removed _) => (host, .error (.waiting visit.location.folder.text))
  | .error e => (host, .error e)

/-- Makes sure that a kernel is built, as the mode demands. -/
def ensureBuilt (store : Store) (generator : Generator) (spec : KernelSpec) (target : Target)
    (fp : Fingerprint) (host : Host) : Host × Except BuildError Published :=
  store.build generator spec target fp store.mode.alwaysRebuild host

/-- Builds a kernel in any case. -/
def ensureBuiltForced (store : Store) (generator : Generator) (spec : KernelSpec) (target : Target)
    (fp : Fingerprint) (host : Host) : Host × Except BuildError Published :=
  store.build generator spec target fp true host

def idleGenerator : Generator := fun _ host => (host.disk, .error ⟨none, ""⟩)

/-- Removes what a location holds besides its lock file, and says whether outputs were among it. -/
def remove (store : Store) (fp : Fingerprint) (host : Host) : Host × Except BuildError Bool :=
  let visit : Visit :=
    { location := store.location fp, errand := .remove, impatient := store.impatient }
  let (host, visit) := visit.run idleGenerator host
  match outcome visit with
  | .ok (.removed any) => (host, .ok any)
  | .ok (.published _) => (host, .error (.waiting visit.location.folder.text))
  | .error e => (host, .error e)

/-- The fingerprints that folders below the root are named for, in the order in which the disk lists them. A
missing root has none, and neither has one with an empty path. -/
def fingerprints (store : Store) (disk : Disk) : Except CacheError (List Fingerprint) :=
  if store.root.text = "" then .ok []
  else match disk.list store.root.route with
    | .ok names =>
      let folders := names.filter fun n => disk.isFolder (store.root.join n).route
      .ok (folders.filterMap Fingerprint.ofDirectory?)
    | .error .notFound => .ok []
    | .error fault => .error (.io store.root.text fault)

/-- Everything that is published, in the order of the fingerprints. -/
def list (store : Store) (disk : Disk) : Except CacheError (List Published) :=
  match store.fingerprints disk with
  | .ok fps =>
    let names := FlagSet.ofList (fps.map Fingerprint.name)
    .ok (names.toList.filterMap fun name => store.published? ⟨name⟩ disk)
  | .error e => .error e

/-- Removes the given locations in order and counts those that had outputs; stops at the first failure. -/
def removeEach (store : Store) : List Fingerprint → Host → Host × Except BuildError Nat
  | [], host => (host, .ok 0)
  | fp :: rest, host =>
    match store.remove fp host with
    | (host, .error e) => (host, .error e)
    | (host, .ok any) =>
      match store.removeEach rest host with
      | (host, .error e) => (host, .error e)
      | (host, .ok n) => (host, .ok (if any then n + 1 else n))

/-- Removes every location and counts those that had outputs. -/
def clean (store : Store) (host : Host) : Host × Except BuildError Nat :=
  match store.fingerprints host.disk with
  | .error e => (host, .error (.cache e))
  | .ok fps => store.removeEach fps host

end Store

end KernelForge
