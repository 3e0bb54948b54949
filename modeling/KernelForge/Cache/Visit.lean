import KernelForge.Cache.Generator
import KernelForge.Cache.Location

/-!
Visits to a build location.

A visitor comes to build a kernel or to remove what is there. A visit is a sequence of stages, and each
step from one stage to the next touches the shared state once, so any number of visits can be interleaved
step by step. All but the first stages run under the lock of the location.

A build makes the folder, takes the lock, and looks whether somebody published meanwhile. If not (or if it
was told not to look) it removes the manifest, then the outputs of earlier builds, runs the generator, gives
the library a name that carries its digest, and publishes by moving the manifest into place.
-/
namespace KernelForge

/-- What a visitor comes for. -/
inductive Errand where
  | build (spec : KernelSpec) (target : Target) (force : Bool)
  | remove
deriving DecidableEq

/-- What a visitor leaves with: a published kernel, or whether there was something to remove. -/
inductive Yield where
  | published (p : Published)
  | removed (any : Bool)
deriving DecidableEq

/-- How far a visit is. -/
inductive Stage where
  /-- Before anything happened. -/
  | arrive
  /-- The folder is there; the lock is not taken. -/
  | lock
  /-- Under the lock, before looking what is published. -/
  | recheck
  /-- Before the manifest is removed. -/
  | unpublish
  /-- Before the outputs are listed. -/
  | survey
  /-- Paths still to remove, of so many outputs. -/
  | clear (pending : List (List String)) (outputs : Nat)
  /-- Before the generator runs. -/
  | generate
  /-- The generator says where the library is. -/
  | digest (library : Place)
  /-- The digest of the library is known. -/
  | place (library : Place) (checksum : Digest)
  /-- The library has its name. -/
  | draft (manifest : Manifest)
  /-- The manifest is written, under another name. -/
  | publish (manifest : Manifest)
  /-- Still under the lock, with the result. -/
  | release (result : Except BuildError Yield)
  /-- Over. -/
  | done (result : Except BuildError Yield)

/-- A visit: to which location, for what, whether the visitor gives up when somebody else has the lock, the
ticket of the lock once it is taken, and how far the visit is. -/
structure Visit where
  location : Location
  errand : Errand
  impatient : Bool
  ticket : Option Nat := none
  stage : Stage := .arrive

namespace Visit

def result? (v : Visit) : Option (Except BuildError Yield) :=
  match v.stage with
  | .done r => some r
  | _ => none

def holdsLock (v : Visit) : Bool :=
  match v.stage with
  | .arrive | .lock | .done _ => false
  | _ => true

def goto (v : Visit) (stage : Stage) : Visit := { v with stage }

def fail (v : Visit) (e : CacheError) : Visit := v.goto (.release (.error (.cache e)))

/-- The manifest that a build publishes for a library with a digest. -/
def manifestFor (location : Location) (spec : KernelSpec) (target : Target) (checksum : Digest) :
    Manifest where
  formatVersion := Manifest.currentFormat
  toolVersion := Manifest.currentTool
  fingerprint := location.fingerprint
  target := target
  library := location.fingerprint.publishedName checksum
  checksum := checksum
  formula := spec.wrapped
  aliases := spec.signature
  precision := spec.precision

def afterClear (errand : Errand) (outputs : Nat) : Stage :=
  match errand with
  | .build .. => .generate
  | .remove => .release (.ok (.removed (0 < outputs)))

/-- The stage of removing paths, or the one after it when none is left. -/
def clearing (errand : Errand) (pending : List (List String)) (outputs : Nat) : Stage :=
  match pending with
  | [] => afterClear errand outputs
  | _ => .clear pending outputs

/-- Gives the library of a build its published name, unless it has it. -/
def placeLibrary (location : Location) (library : Place) (checksum : Digest) (disk : Disk) :
    Except CacheError Disk :=
  let published := location.folder.join (location.fingerprint.publishedName checksum)
  if Path.same library.text published.text then .ok disk
  else match disk.rename library.route published.route with
    | .ok disk => .ok disk
    | .error fault => .error (.io library.text fault)

/-- One step of a visit. A visitor that waits for the lock does not move, and neither does one that is
done. -/
def step (generator : Generator) (host : Host) (v : Visit) : Host × Visit :=
  let location := v.location
  match v.stage, v.errand with
  | .arrive, .build .. =>
    match location.create host with
    | (host, .ok ()) => (host, v.goto .lock)
    | (host, .error e) => (host, v.goto (.done (.error (.cache e))))
  | .arrive, .remove =>
    if host.disk.isFolder location.folder.route then (host, v.goto .lock)
    else (host, v.goto (.done (.ok (.removed false))))
  | .lock, errand =>
    match location.tryLock host with
    | (host, .failed fault) =>
      (host, v.goto (.done (.error (.lock location.folder.text fault))))
    | (host, .held) =>
      if v.impatient then (host, v.goto (.done (.error (.lockTimeout location.folder.text))))
      else (host, v)
    | (host, .taken ticket) =>
      let v := { v with ticket := some ticket }
      match errand with
      | .build _ _ false => (host, v.goto .recheck)
      | _ => (host, v.goto .unpublish)
  | .recheck, _ =>
    match location.published? host.disk with
    | some p => (host, v.goto (.release (.ok (.published p))))
    | none => (host, v.goto .unpublish)
  | .unpublish, _ =>
    match location.unpublish host with
    | (host, .ok ()) => (host, v.goto .survey)
    | (host, .error e) => (host, v.fail e)
  | .survey, errand =>
    match location.outputs host.disk with
    | .ok keys =>
      (host, v.goto (clearing errand (Location.removalPlan keys host.disk) keys.length))
    | .error e => (host, v.fail e)
  | .clear [] outputs, errand => (host, v.goto (afterClear errand outputs))
  | .clear (key :: pending) outputs, errand =>
    match host.disk.strike key with
    | .ok disk => ({ host with disk }, v.goto (clearing errand pending outputs))
    | .error fault => (host, v.fail (.io (location.outputAt host.disk key).text fault))
  | .generate, .build spec target _ =>
    let request : BuildRequest := ⟨spec, target, location.fingerprint, location.folder⟩
    match generator request host with
    | (disk, .ok library) =>
      ({ host with disk, runs := host.runs + 1 }, v.goto (.digest library))
    | (disk, .error failure) =>
      ({ host with disk, runs := host.runs + 1 },
       v.goto (.release (.error (.failed spec location.fingerprint location.folder.text failure))))
  | .digest library, _ =>
    match host.disk.read library.route with
    | .ok content => (host, v.goto (.place library (.ofBytes content)))
    | .error fault => (host, v.fail (.io library.text fault))
  | .place library checksum, .build spec target _ =>
    match placeLibrary location library checksum host.disk with
    | .ok disk => ({ host with disk }, v.goto (.draft (manifestFor location spec target checksum)))
    | .error e => (host, v.fail e)
  | .draft manifest, _ =>
    match manifest.writeDraft location.folder host.disk with
    | .ok disk => ({ host with disk }, v.goto (.publish manifest))
    | .error e => (host, v.fail e)
  | .publish manifest, _ =>
    match Manifest.publishDraft location.folder host.disk with
    | .ok disk =>
      ({ host with disk }, v.goto (.release (.ok (.published ⟨location.folder, manifest⟩))))
    | .error e => (host, v.fail e)
  | .release r, _ =>
    match v.ticket with
    | some ticket => (host.unlock ticket, v.goto (.done r))
    | none => (host, v.goto (.done r))
  | .done _, _ => (host, v)
  | .generate, .remove => (host, v)
  | .place .., .remove => (host, v)

/-- So many steps of a visit, with nobody else around. -/
def steps (generator : Generator) : Nat → Host → Visit → Host × Visit
  | 0, host, v => (host, v)
  | n + 1, host, v =>
    let (host, v) := v.step generator host
    steps generator n host v

/-- The number of paths that a visit is about to remove. -/
def pending (v : Visit) : Nat :=
  match v.stage with
  | .clear keys _ => keys.length
  | _ => 0

/-- A visit from its start to its end, with nobody else around: the steps up to the removal of outputs,
one step for each of these, and the steps after it. -/
def run (generator : Generator) (host : Host) (v : Visit) : Host × Visit :=
  let (host, v) := steps generator 5 host v
  let (host, v) := steps generator v.pending host v
  steps generator 7 host v

end Visit

end KernelForge
