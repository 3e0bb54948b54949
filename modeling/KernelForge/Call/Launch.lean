import KernelForge.Call.Argument
import KernelForge.Call.Metadata
import KernelForge.Call.Placement
import KernelForge.Call.Scalar

/-!
Calling a kernel.

`Call.prepare` makes every check there is before a kernel runs and gives the launch it admits; `Call.run`
launches an admitted call once and turns what the kernel wrote into the result. A LogSumExp kernel
writes a maximum and a sum for each row, and the result is the maximum plus the logarithm of the sum.
-/
namespace KernelForge

/-- All that a kernel receives. -/
structure Launch (α : Type) where
  nx : UInt64
  ny : UInt64
  tag : Tag
  device : Int32
  ranges : Option Ranges
  arguments : List (Argument α)
  outputLength : UInt64

/-- What a kernel leaves: a scalar at each place of the output, and a status that is zero on success. -/
structure Reply (α : Type) where
  written : Nat → α
  status : Int32

/-- What a caller may ask for besides the arguments. -/
structure CallOptions where
  preference : Preference := .auto
  device : Option UInt32 := none
  ranges : Option Ranges := none

/-- A table of results, row by row. -/
structure Output (α : Type) where
  rows : UInt64
  cols : UInt64
  values : Array α

/-- The scalars of a row, if the table reaches that far. The last index of all has no row after it, so it is
out of range even when rows are empty. -/
def Output.row? {α : Type} (out : Output α) (i : UInt64) : Option (Array α) :=
  let start := i.toNat * out.cols.toNat
  let stop := (i.toNat + 1) * out.cols.toNat
  if i.toNat + 1 < UInt64.size && stop ≤ out.values.size then some (out.values.extract start stop) else none

/-- How a call can end without a result: it is refused, or its output cannot be allocated at all. -/
inductive CallFault where
  | refused (error : CallError)
  | unallocatable (bytes : Nat)
deriving DecidableEq

/-- The launches a call made, and how it ended. -/
structure CallReport (α : Type) where
  launches : List (Launch α)
  outcome : Except CallFault (Output α)

namespace Call

/-- The largest number of bytes one buffer can have. -/
def bufferLimit : Nat := 2 ^ 63 - 1

/-- Checks that a kernel computes what a specification says, in the precision of the caller's data. -/
def checkKernel (spec : KernelSpec) (info : Metadata) (data : Precision) : Except CallError Unit :=
  if data ≠ spec.precision then .error (.precision spec.precision data)
  else if info.precision ≠ data ∨ info.axis ≠ spec.axis then
    .error (.kernelMismatch (.numbers info.precision info.axis spec.precision spec.axis))
  else if spec.reduction.isLogSumExp ∧ info.dimout ≠ 2 then
    .error (.kernelMismatch (.pairs info.dimout))
  else .ok ()

def checkRanges (ranges : Option Ranges) (nx ny : UInt64) : Except CallError Unit :=
  match ranges with
  | none => .ok ()
  | some ranges =>
    match ranges.validate nx ny with
    | .error defect => .error (.invalidRanges defect)
    | .ok () => .ok ()

def rowsAlong (axis : Axis) (nx ny : UInt64) : UInt64 :=
  match axis with
  | .outer => nx
  | .inner => ny

def prepare {α : Type} [Scalar α] (spec : KernelSpec) (info : Metadata) (gpuAvailable : Bool)
    (arguments : List (Argument α)) (options : CallOptions) : Except CallError (Launch α) := do
  checkKernel spec info (Scalar.precision α)
  let (nx, ny) ← Extents.ofArguments spec arguments
  let (tag, device) ← Placement.select options.preference (arguments.map Argument.storage) gpuAvailable
    options.device
  checkRanges options.ranges nx ny
  let rows := rowsAlong spec.axis nx ny
  match Extents.product? rows info.dimout with
  | none => .error (.outputOverflow rows info.dimout)
  | some outputLength => .ok ⟨nx, ny, tag, device, options.ranges, arguments, outputLength⟩

/-- The scalars a kernel wrote. -/
def buffer {α : Type} (reply : Reply α) (length : Nat) : Array α :=
  Array.ofFn fun (i : Fin length) => reply.written i.val

/-- The result of a launch that succeeded. -/
def result {α : Type} [Scalar α] (spec : KernelSpec) (info : Metadata) (launch : Launch α)
    (reply : Reply α) : Output α :=
  let rows := rowsAlong spec.axis launch.nx launch.ny
  let length := launch.outputLength.toNat
  if spec.reduction.isLogSumExp then
    ⟨rows, 1, Array.ofFn fun (r : Fin (length / 2)) =>
      reply.written (2 * r.val) + Scalar.log (reply.written (2 * r.val + 1))⟩
  else ⟨rows, info.dimout, buffer reply length⟩

/-- Calls a kernel: checks the call, launches it once if it is admitted, and reports what was launched. -/
def run {α : Type} [Scalar α] (spec : KernelSpec) (fingerprint : Fingerprint) (info : Metadata)
    (gpuAvailable : Bool) (kernel : Launch α → Reply α) (arguments : List (Argument α))
    (options : CallOptions) : CallReport α :=
  match prepare spec info gpuAvailable arguments options with
  | .error e => ⟨[], .error (.refused e)⟩
  | .ok launch =>
    let bytes := launch.outputLength.toNat * (Scalar.precision α).size
    if bufferLimit < bytes then ⟨[], .error (.unallocatable bytes)⟩
    else
      let reply := kernel launch
      if reply.status = 0 then ⟨[launch], .ok (result spec info launch reply)⟩
      else ⟨[launch], .error (.refused (.kernel fingerprint reply.status))⟩

end Call

end KernelForge
