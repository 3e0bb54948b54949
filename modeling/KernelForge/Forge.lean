import KernelForge.Cache.Store
import KernelForge.Call.Launch
import KernelForge.Loading.Registry

/-!
From a specification to a kernel that can be called.

A forge resolves a fingerprint through its registry and builds what is not there. It works on the files of
a host and on the registry of its process.
-/
namespace KernelForge

inductive ForgeError where
  | noGenerator
  | build (error : BuildError)
  | load (error : LoadError)
deriving DecidableEq

def ForgeError.message : ForgeError → String
  | noGenerator => "no kernel generator configured; set GENRED_COMPILER or `compiler` in genred.toml"
  | build error => error.message
  | load error => error.message

/-- The parts that a forge is put together from. -/
structure Forge (κ : Type) where
  store : Store
  target : Target
  gpuAvailable : Bool
  generator : Generator
  loader : Loader κ

/-- What a forge works on. -/
structure Workspace (κ : Type) where
  host : Host := {}
  registry : Registry κ := {}

namespace Forge

variable {κ : Type}

def fingerprint (forge : Forge κ) (spec : KernelSpec) : Fingerprint :=
  .of spec forge.target

def resolve (forge : Forge κ) (fp : Fingerprint) (ws : Workspace κ) :
    Workspace κ × Except LoadError (Option (Handle κ)) :=
  let (registry, r) := ws.registry.resolve forge.loader forge.store.mode forge.store.root ws.host.disk fp
  ({ ws with registry }, r)

def install (forge : Forge κ) (p : Published) (ws : Workspace κ) :
    Workspace κ × Except LoadError (Handle κ) :=
  let (registry, r) := ws.registry.install forge.loader forge.store.mode forge.store.root ws.host.disk p
  ({ ws with registry }, r)

def buildAndInstall (forge : Forge κ) (spec : KernelSpec) (force : Bool) (ws : Workspace κ) :
    Workspace κ × Except ForgeError (Handle κ) :=
  match forge.store.build forge.generator spec forge.target (forge.fingerprint spec) force ws.host with
  | (host, .error e) => ({ ws with host }, .error (.build e))
  | (host, .ok p) =>
    match forge.install p { ws with host } with
    | (ws, .ok h) => (ws, .ok h)
    | (ws, .error e) => (ws, .error (.load e))

/-- The kernel of a specification: the registered one, or the published one, or one that is built now. -/
def load (forge : Forge κ) (spec : KernelSpec) (ws : Workspace κ) :
    Workspace κ × Except ForgeError (Handle κ) :=
  match forge.resolve (forge.fingerprint spec) ws with
  | (ws, .error e) => (ws, .error (.load e))
  | (ws, .ok (some h)) => (ws, .ok h)
  | (ws, .ok none) => forge.buildAndInstall spec forge.store.mode.alwaysRebuild ws

/-- Forgets the kernel of a specification, builds it anew and loads it. -/
def rebuild (forge : Forge κ) (spec : KernelSpec) (ws : Workspace κ) :
    Workspace κ × Except ForgeError (Handle κ) :=
  forge.buildAndInstall spec true { ws with registry := ws.registry.remove (forge.fingerprint spec) }

end Forge

/-- A specification with its kernel, ready to be called. -/
structure Prepared (κ : Type) where
  spec : KernelSpec
  handle : Handle κ
  gpuAvailable : Bool

namespace Prepared

/-- Calls a prepared kernel; `kernel` says what its code does. -/
def call {κ α : Type} [Scalar α] (p : Prepared κ) (kernel : κ → Launch α → Reply α)
    (arguments : List (Argument α)) (options : CallOptions) : CallReport α :=
  Call.run p.spec p.handle.fingerprint p.handle.info p.gpuAvailable (kernel p.handle.code) arguments options

end Prepared

namespace Forge

/-- Loads the kernel of a specification and prepares it for calls. -/
def prepare {κ : Type} (forge : Forge κ) (spec : KernelSpec) (ws : Workspace κ) :
    Workspace κ × Except ForgeError (Prepared κ) :=
  match forge.load spec ws with
  | (ws, .error e) => (ws, .error e)
  | (ws, .ok handle) => (ws, .ok ⟨spec, handle, forge.gpuAvailable⟩)

end Forge

end KernelForge
