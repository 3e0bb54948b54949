import KernelForge.Cache.Error
import KernelForge.Host

/-!
Generators: what turns a specification into a library.
-/
namespace KernelForge

/-- What a generator is asked for: a kernel, its name, and the folder to work in. -/
structure BuildRequest where
  spec : KernelSpec
  target : Target
  fingerprint : Fingerprint
  folder : Place
deriving DecidableEq

/-- A generator: what it makes of the files of a host, and where the library is. -/
abbrev Generator := BuildRequest → Host → Disk × Except GeneratorFailure Place

end KernelForge
