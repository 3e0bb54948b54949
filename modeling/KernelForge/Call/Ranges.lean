import KernelForge.Formula.Reduction

/-!
Block-sparse restrictions of a reduction.

A restriction lists blocks of rows, and for each block the blocks of columns it visits; the same with
rows and columns exchanged. The blocks visited by row block `k` are those between entry `k - 1` and
entry `k` of the slices. `Ranges.validate` accepts the restrictions that stay inside the extents of a
call and give each visited block to one row block.
-/
namespace KernelForge

/-- The indices from the first bound up to, and without, the second. -/
abbrev Interval := Int64 × Int64

structure Ranges where
  rangesI : List Interval := []
  slicesI : List Int64 := []
  redrangesJ : List Interval := []
  rangesJ : List Interval := []
  slicesJ : List Int64 := []
  redrangesI : List Interval := []
deriving DecidableEq, Repr

def Axis.index : Axis → String
  | outer => "i"
  | inner => "j"

def Axis.other : Axis → Axis
  | outer => inner
  | inner => outer

/-- What is wrong with a restriction. The axis is that of the blocks; visited blocks lie along the other. -/
inductive RangesDefect where
  | lengths (axis : Axis) (ranges slices : Nat)
  | block (axis : Axis) (k : Nat) (interval : Interval) (extent : UInt64)
  | visited (axis : Axis) (k : Nat) (interval : Interval) (extent : UInt64)
  | decreasing (axis : Axis) (k : Nat)
  | unbalanced (axis : Axis) (last : Int64) (count : Nat)
deriving DecidableEq, Repr

namespace RangesDefect

def outside (name : String) (k : Nat) (interval : Interval) (extent : UInt64) : String :=
  name ++ "[" ++ Text.Numeral.text k ++ "] = [" ++ Text.Numeral.signedText interval.1.toInt ++ ", " ++
    Text.Numeral.signedText interval.2.toInt ++ ") is not within [0, " ++
    Text.Numeral.text extent.toNat ++ ")"

def reason : RangesDefect → String
  | lengths axis ranges slices =>
    Text.Numeral.text ranges ++ " ranges_" ++ axis.index ++ " but " ++ Text.Numeral.text slices ++
      " slices_" ++ axis.index
  | block axis k interval extent => outside ("ranges_" ++ axis.index) k interval extent
  | visited axis k interval extent => outside ("redranges_" ++ axis.other.index) k interval extent
  | decreasing axis k => "slices_" ++ axis.index ++ " decreases at index " ++ Text.Numeral.text k
  | unbalanced axis last count =>
    "slices_" ++ axis.index ++ " ends at " ++ Text.Numeral.signedText last.toInt ++ ", but there are " ++
      Text.Numeral.text count ++ " redranges_" ++ axis.other.index

end RangesDefect

namespace Ranges

/-- Whether an interval is in order and lies inside an extent. The end is compared as an unsigned word. -/
def inside (interval : Interval) (extent : UInt64) : Bool :=
  0 ≤ interval.1 && interval.1 ≤ interval.2 && interval.2.toUInt64 ≤ extent

/-- The first interval that is not inside the extent, with its place. -/
def outside? (extent : UInt64) : (k : Nat) → List Interval → Option (Nat × Interval)
  | _, [] => none
  | k, interval :: rest =>
    if inside interval extent then outside? extent (k + 1) rest else some (k, interval)

/-- The last of some slices, which follow `previous` at place `k`, or the place where they decrease. -/
def lastSlice : (previous : Int64) → (k : Nat) → List Int64 → Except Nat Int64
  | previous, _, [] => .ok previous
  | previous, k, s :: rest => if s < previous then .error k else lastSlice s (k + 1) rest

/-- Checks the blocks along one axis and the blocks they visit along the other. -/
def validateHalf (axis : Axis) (ranges : List Interval) (slices : List Int64)
    (redranges : List Interval) (extent otherExtent : UInt64) : Except RangesDefect Unit :=
  if ranges.length ≠ slices.length then .error (.lengths axis ranges.length slices.length)
  else match outside? extent 0 ranges with
    | some (k, interval) => .error (.block axis k interval extent)
    | none =>
      match outside? otherExtent 0 redranges with
      | some (k, interval) => .error (.visited axis k interval otherExtent)
      | none =>
        match lastSlice 0 0 slices with
        | .error k => .error (.decreasing axis k)
        | .ok last =>
          if last.toUInt64.toNat = redranges.length then .ok ()
          else .error (.unbalanced axis last redranges.length)

/-- Checks a restriction against the extents of a call. -/
def validate (r : Ranges) (nx ny : UInt64) : Except RangesDefect Unit :=
  match validateHalf .outer r.rangesI r.slicesI r.redrangesJ nx ny with
  | .error defect => .error defect
  | .ok () => validateHalf .inner r.rangesJ r.slicesJ r.redrangesI ny nx

def flatten (intervals : List Interval) : List Int64 :=
  intervals.flatMap fun i => [i.1, i.2]

/-- The six index arrays in the order a kernel receives them, intervals as two numbers. -/
def arrays (r : Ranges) : List (List Int64) :=
  [flatten r.rangesI, r.slicesI, flatten r.redrangesJ, flatten r.rangesJ, r.slicesJ,
   flatten r.redrangesI]

end Ranges

end KernelForge
