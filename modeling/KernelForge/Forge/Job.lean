import KernelForge.Forge

/-!
Callers of one forge at the same time.

A job is one caller on the way from a specification to a handle: it looks the kernel up, builds it if it has
to, and installs what was published. Each step is one step of the registry or one step of a visit to the build
location, so any number of jobs can be interleaved over one workspace.
-/
namespace KernelForge

/-- How far a caller is. -/
inductive Job (κ : Type) where
  /-- Looking the kernel up. -/
  | resolve (spec : KernelSpec) (binding : Binding κ)
  /-- Before the registered kernel is forgotten. -/
  | forget (spec : KernelSpec)
  | build (visit : Visit)
  | install (p : Published) (binding : Binding κ)
  /-- Over. -/
  | done (result : Except ForgeError (Handle κ))

namespace Job

variable {κ : Type}

/-- A caller who wants the kernel of a specification. -/
def load (forge : Forge κ) (spec : KernelSpec) : Job κ :=
  .resolve spec (.lookup (forge.fingerprint spec))

/-- A caller who wants a kernel to be built anew. -/
def rebuild (spec : KernelSpec) : Job κ :=
  .forget spec

def result? : Job κ → Option (Except ForgeError (Handle κ))
  | .done r => some r
  | _ => none

def visit (forge : Forge κ) (spec : KernelSpec) (force : Bool) : Visit where
  location := forge.store.location (forge.fingerprint spec)
  errand := .build spec forge.target force
  impatient := forge.store.impatient

/-- What follows a step of looking a kernel up. -/
def afterResolve (forge : Forge κ) (spec : KernelSpec) : Binding κ → Job κ
  | .done (.ok (some h)) => .done (.ok h)
  | .done (.ok none) => .build (visit forge spec forge.store.mode.alwaysRebuild)
  | .done (.error e) => .done (.error (.load e))
  | b => .resolve spec b

def afterBuild (v : Visit) : Job κ :=
  match v.result? with
  | none => .build v
  | some (.error e) => .done (.error (.build e))
  | some (.ok (.published p)) => .install p (.slot p)
  | some (.ok (.removed _)) => .done (.error (.build (.waiting v.location.folder.text)))

def afterInstall (p : Published) : Binding κ → Job κ
  | .done (.ok (some h)) => .done (.ok h)
  | .done (.ok none) => .done (.error (.load (.waiting p.fingerprint)))
  | .done (.error e) => .done (.error (.load e))
  | b => .install p b

/-- One step of a caller. One that waits does not move, and neither does one that is done. -/
def step (forge : Forge κ) (ws : Workspace κ) : Job κ → Workspace κ × Job κ
  | .resolve spec b =>
    let (registry, b) := b.step forge.loader forge.store.mode forge.store.root ws.host.disk ws.registry
    ({ ws with registry }, afterResolve forge spec b)
  | .forget spec =>
    ({ ws with registry := ws.registry.remove (forge.fingerprint spec) },
     .build (visit forge spec true))
  | .build v =>
    let (host, v) := v.step forge.generator ws.host
    ({ ws with host }, afterBuild v)
  | .install p b =>
    let (registry, b) := b.step forge.loader forge.store.mode forge.store.root ws.host.disk ws.registry
    ({ ws with registry }, afterInstall p b)
  | .done r => (ws, .done r)

/-- One step of each caller, in turn. -/
def round (forge : Forge κ) (ws : Workspace κ) : List (Job κ) → Workspace κ × List (Job κ)
  | [] => (ws, [])
  | job :: rest =>
    let (ws, job) := job.step forge ws
    let (ws, rest) := round forge ws rest
    (ws, job :: rest)

def rounds (forge : Forge κ) : Nat → Workspace κ → List (Job κ) → Workspace κ × List (Job κ)
  | 0, ws, jobs => (ws, jobs)
  | n + 1, ws, jobs =>
    if jobs.all fun j => j.result?.isSome then (ws, jobs)
    else
      let (ws, jobs) := round forge ws jobs
      rounds forge n ws jobs

end Job

end KernelForge
