import KernelForge.Cache.CommandGenerator
import KernelForge.Config
import KernelForge.Forge
import KernelForge.Loading.Native

/-!
The forge of a configuration: it builds with the configured command and links what it built.
-/
namespace KernelForge

/-- The cache of a configuration; relative paths are meant from a folder. -/
def Config.store (config : Config) (folder : List String) : Store :=
  ⟨.ofPath folder config.artifactRoot, config.buildMode, config.lockTimeout.isSome⟩

/-- The command that a configuration builds with. -/
def Config.generator (config : Config) (vars : Program.Variables) : Except ForgeError Generator :=
  match config.compiler with
  | none => .error .noGenerator
  | some command => .ok (command.generator vars)

/-- The forge of a configuration for the processor at hand. -/
def Forge.native {κ : Type} (config : Config) (vars : Program.Variables) (folder : List String)
    (linker : Native.Linker κ) :
    Except ForgeError (Forge κ) :=
  match config.generator vars with
  | .error e => .error e
  | .ok generator =>
    .ok ⟨config.store folder, .cpu, config.gpuAvailable, generator, Native.loader linker⟩

end KernelForge
