import KernelForge.Forge.Job
import KernelForge.Rehearsal.Generator
import KernelForge.Rehearsal.Kernel

/-!
Sessions: one forge after another over the same artifact root, with a scripted generator and scripted
kernels. A session remembers the locks it keeps, the handles it has seen and the kernels it prepared.
-/
namespace KernelForge.Rehearsal

/-- The variables that generators get unless others are given. -/
def usualVariables : Program.Variables :=
  [("PATH", "/usr/local/sbin:/usr/local/bin:/usr/sbin:/usr/bin:/sbin:/bin"), ("HOME", "/root")]

structure Session where
  root : Place
  mode : BuildMode
  impatient : Bool
  gpuAvailable : Bool
  target : Target
  workspace : Workspace KernelScript := {}
  generator : GeneratorScript := {}
  kernel : KernelScript := {}
  held : List (Fingerprint × Nat) := []
  handles : List (Handle KernelScript) := []
  prepared : List (String × Prepared KernelScript) := []
  vars : Program.Variables := usualVariables

namespace Session

def store (s : Session) : Store := ⟨s.root, s.mode, s.impatient⟩

def forge (s : Session) : Forge KernelScript where
  store := s.store
  target := s.target
  gpuAvailable := s.gpuAvailable
  generator := s.generator.generator s.vars
  loader := s.kernel.loader

def host (s : Session) : Host := s.workspace.host

def disk (s : Session) : Disk := s.host.disk

def registry (s : Session) : Registry KernelScript := s.workspace.registry

def withHost (s : Session) (host : Host) : Session :=
  { s with workspace := { s.workspace with host } }

def withDisk (s : Session) (disk : Disk) : Session :=
  s.withHost { s.host with disk }

def withRegistry (s : Session) (registry : Registry KernelScript) : Session :=
  { s with workspace := { s.workspace with registry } }

def remember (s : Session) (h : Handle KernelScript) : Session :=
  if s.handles.any fun k => k.serial = h.serial then s else { s with handles := s.handles ++ [h] }

/-- Takes up a workspace and the handle that came with it. -/
def take {ε : Type} (s : Session) (r : Workspace KernelScript × Except ε (Handle KernelScript)) :
    Session × Except ε (Handle KernelScript) :=
  let s := { s with workspace := r.1 }
  match r.2 with
  | .ok h => (s.remember h, .ok h)
  | .error e => (s, .error e)

def load (s : Session) (spec : KernelSpec) : Session × Except ForgeError (Handle KernelScript) :=
  s.take (s.forge.load spec s.workspace)

def rebuild (s : Session) (spec : KernelSpec) : Session × Except ForgeError (Handle KernelScript) :=
  s.take (s.forge.rebuild spec s.workspace)

def install (s : Session) (p : Published) : Session × Except LoadError (Handle KernelScript) :=
  s.take (s.forge.install p s.workspace)

def resolve (s : Session) (fp : Fingerprint) :
    Session × Except LoadError (Option (Handle KernelScript)) :=
  let (workspace, r) := s.forge.resolve fp s.workspace
  let s := { s with workspace }
  match r with
  | .ok (some h) => (s.remember h, r)
  | _ => (s, r)

def prepare (s : Session) (spec : KernelSpec) (name : String) :
    Session × Except ForgeError (Prepared KernelScript) :=
  match s.load spec with
  | (s, .error e) => (s, .error e)
  | (s, .ok handle) =>
    let p : Prepared KernelScript := ⟨spec, handle, s.gpuAvailable⟩
    ({ s with prepared := (name, p) :: s.prepared.filter fun q => q.1 ≠ name }, .ok p)

/-- A new process over the same files. -/
def restart (s : Session) : Session :=
  s.withRegistry s.registry.fresh

/-- The result of a caller who took all the steps there were. One who still waits for the lock gives up if
waiting has a limit. -/
def outcome (s : Session) (fp : Fingerprint) : Job KernelScript → Except ForgeError (Handle KernelScript)
  | .done r => r
  | .build v =>
    let folder := v.location.folder.text
    .error (.build (if s.impatient then .lockTimeout folder else .waiting folder))
  | _ => .error (.load (.waiting fp))

/-- Loads a kernel for so many callers in this process, who take their steps in turn. Nobody gives up while
others get on, and there are enough rounds for each to build alone while the others wait. -/
def loadTogether (s : Session) (spec : KernelSpec) (n : Nat) :
    Session × List (Except ForgeError (Handle KernelScript)) :=
  let forge := { s with impatient := false }.forge
  let limit := n * (64 + s.disk.nodes.size)
  let (workspace, jobs) := Job.rounds forge limit s.workspace (List.replicate n (Job.load forge spec))
  let results := jobs.map (s.outcome (forge.fingerprint spec))
  let s := results.foldl (fun s r => match r with
    | .ok h => s.remember h
    | .error _ => s) { s with workspace }
  (s, results)

/-- Loads a kernel for so many callers one after another, each in a process of its own. -/
def loadApart (s : Session) (spec : KernelSpec) :
    Nat → Session × List (Except ForgeError (Handle KernelScript))
  | 0 => (s, [])
  | n + 1 =>
    let (own, r) := s.restart.load spec
    let next := own.withRegistry
      { s.registry with loads := own.registry.loads, made := own.registry.made }
    let (s, rs) := next.loadApart spec n
    (s, r :: rs)

inductive LockReply where
  | taken (path : String)
  | failed (e : BuildError)
  | endless

def ticket? (s : Session) (fp : Fingerprint) : Option Nat :=
  Registry.lookup fp s.held

/-- Gives back the lock that is kept under a fingerprint, if there is one. -/
def letGo (s : Session) (fp : Fingerprint) : Session :=
  match s.ticket? fp with
  | none => s
  | some ticket =>
    { s.withHost (s.host.unlock ticket) with held := s.held.filter fun h => h.1 ≠ fp }

/-- Takes the lock of a location and keeps it, in place of an earlier one under the same fingerprint. `timed`
says whether waiting has a limit. -/
def lock (s : Session) (fp : Fingerprint) (timed : Bool) : Session × LockReply :=
  let location := s.store.location fp
  if !timed && (s.ticket? fp).isSome then (s, .endless)
  else match location.tryLock s.host with
    | (host, .taken ticket) =>
      let s := (s.withHost host).letGo fp
      ({ s with held := (fp, ticket) :: s.held }, .taken location.lockFile.text)
    | (host, .held) => (s.withHost host, .failed (.lockTimeout location.folder.text))
    | (host, .failed fault) => (s.withHost host, .failed (.lock location.folder.text fault))

/-- Gives a lock back and says whether it was kept. -/
def unlock (s : Session) (fp : Fingerprint) : Session × Bool :=
  (s.letGo fp, (s.ticket? fp).isSome)

/-- Everything below the root, sorted: folders with a slash at the end, files with their size. -/
def listing (s : Session) : List String :=
  let lines := (s.disk.listing s.root.route).map fun e =>
    "/".intercalate e.1 ++ (match e.2 with
      | none => "/"
      | some size => ":" ++ Text.Numeral.text size)
  (FlagSet.ofList lines).toList

end Session

end KernelForge.Rehearsal
