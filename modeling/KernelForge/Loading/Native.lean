import KernelForge.Call.Launch
import KernelForge.Loading.Registry

/-!
Kernels in shared libraries.

A linker turns the content of a library into an image, or refuses it. The image of a kernel exports what it
says about itself and its code. A library is given to the linker only after its digest was compared with
the manifest.
-/
namespace KernelForge.Native

/-- What a kernel exports about itself, in the numbers of the calling convention. -/
structure RawMetadata where
  abi : UInt32
  precision : UInt32
  dimout : UInt32
  tagIJ : UInt32
  formula : Option String
deriving DecidableEq, Repr

/-- What a linked library exports of what a kernel needs. -/
structure Image (κ : Type) where
  metadata : Option RawMetadata
  launch : Option κ

/-- A linker; `none` if the content is no library. -/
abbrev Linker (κ : Type) := ByteArray → Option (Image κ)

def metadataSymbol : String := "genred_metadata"

def launchSymbol : String := "genred_launch"

/-- What a kernel says about itself, read from its numbers. Any axis number but zero is the inner axis. -/
def RawMetadata.read (raw : RawMetadata) (path : String) : Except LoadError Metadata :=
  match Precision.ofCode? raw.precision with
  | none => .error (.unusable path (.unknownPrecision raw.precision))
  | some precision =>
    .ok ⟨raw.abi, precision, raw.dimout.toUInt64, if raw.tagIJ = 0 then .outer else .inner, raw.formula⟩

/-- Takes a kernel out of an image. Both symbols are looked up before anything is read. -/
def bind {κ : Type} (image : Option (Image κ)) (path : String) : Except LoadError (Metadata × κ) :=
  match image with
  | none => .error (.unusable path .notLibrary)
  | some image =>
    match image.metadata, image.launch with
    | none, _ => .error (.missingSymbol path metadataSymbol)
    | some _, none => .error (.missingSymbol path launchSymbol)
    | some raw, some code =>
      match raw.read path with
      | .error e => .error e
      | .ok info => .ok (info, code)

def loader {κ : Type} (linker : Linker κ) : Loader κ := fun _ p disk =>
  match p.manifest.verify p.library disk with
  | .error e => .error e
  | .ok content =>
    match bind (linker content) p.library.text with
    | .error e => .error e
    | .ok (info, code) =>
      match p.manifest.checkMetadata info with
      | .error e => .error e
      | .ok () => .ok (info, code)

/-- A launch in the numbers of the calling convention: extents are signed, and so is the device. -/
structure RawLaunch where
  nx : Int64
  ny : Int64
  tags : List Int32
  device : Int32
  ranges : List (List Int64)
deriving DecidableEq, Repr

def RawLaunch.ofLaunch {α : Type} (launch : Launch α) : RawLaunch :=
  ⟨launch.nx.toInt64, launch.ny.toInt64, launch.tag.numbers, launch.device,
   match launch.ranges with
   | none => []
   | some ranges => ranges.arrays⟩

end KernelForge.Native
