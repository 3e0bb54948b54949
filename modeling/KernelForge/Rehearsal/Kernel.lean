import KernelForge.Loading.Native

/-!
Kernels that act by a script instead of computing.

A scripted kernel fills its output from a row of scalars, or from its arguments, and returns a status. The
probe writes down what it was launched with.
-/
namespace KernelForge.Rehearsal

/-- What a scripted kernel says about its formula: what it should, nothing, or something else. -/
inductive Report where
  | expected
  | silent
  | other (formula : String)
deriving DecidableEq, Repr

structure KernelScript where
  abi : UInt32 := Metadata.currentAbi
  precision : Option Precision := none
  dimout : UInt64 := 1
  axis : Axis := .outer
  formula : Report := .expected
  row : List Literal := []
  echo : Bool := false
  status : Int32 := 0
deriving DecidableEq, Repr

namespace KernelScript

def info (s : KernelScript) (precision : Precision) (formula : String) : Metadata where
  abi := s.abi
  precision := s.precision.getD precision
  dimout := s.dimout
  axis := s.axis
  formula := match s.formula with
    | .expected => some formula
    | .silent => none
    | .other formula => some formula

def reply {α : Type} [Scalar α] (s : KernelScript) (launch : Launch α) : Reply α :=
  let pattern : Array α :=
    if s.echo then launch.arguments.foldl (fun acc a => acc ++ a.values) #[]
    else (s.row.map Scalar.ofLiteral).toArray
  ⟨fun i => (pattern[i % pattern.size]?).getD Scalar.zero, s.status⟩

def loader (s : KernelScript) : Loader KernelScript := fun _ p tree =>
  match p.manifest.verify p.library tree with
  | .error e => .error e
  | .ok _ =>
    let info := s.info p.manifest.precision p.manifest.formula
    match p.manifest.checkMetadata info with
    | .error e => .error e
    | .ok () => .ok (info, s)

end KernelScript

structure Probe where
  status : Int32
deriving DecidableEq, Repr

namespace Probe

/-- The numbers of one index array: its length, whether it is absent, and its elements. -/
def arrayNumbers (a : List Int64) : List Int64 :=
  Int64.ofNat a.length :: (if a.isEmpty then 1 else 0) :: a

def scalars {α : Type} [Scalar α] (ns : List Int64) : List α :=
  ns.map Scalar.ofInt64

/-- All that a probe writes down, as far as there is room. -/
def record {α : Type} [Scalar α] (launch : Launch α) : List α :=
  let raw := Native.RawLaunch.ofLaunch launch
  let arrays := if raw.ranges.isEmpty then List.replicate 6 [] else raw.ranges
  let first (a : Argument α) : α :=
    match launch.tag.memory with
    | .device => Scalar.zero
    | .host => (a.values[0]?).getD Scalar.zero
  scalars [raw.nx, raw.ny] ++ scalars (raw.tags.map Int32.toInt64) ++
    scalars [raw.device.toInt64, Int64.ofNat launch.arguments.length, launch.outputLength.toInt64] ++
    launch.arguments.map first ++ scalars (Int64.ofNat raw.ranges.length :: arrays.flatMap arrayNumbers)

def reply {α : Type} [Scalar α] (p : Probe) (launch : Launch α) : Reply α :=
  let written := (record launch).toArray
  ⟨fun i => (written[i]?).getD Scalar.zero, p.status⟩

end Probe

end KernelForge.Rehearsal
