import KernelForge.Formula.Precision

/-!
The scalars a kernel works on, one type for each precision, and the literals they are written as.
-/
namespace KernelForge

/-- A scalar as it is written: a whole number, a special value, or the pattern of its bits. -/
inductive Literal where
  | whole (n : Int)
  | nan
  | infinity (negative : Bool)
  | pattern (bits : Nat)
deriving DecidableEq, Repr

class Scalar (α : Type) extends Add α where
  precision : Precision
  zero : α
  log : α → α
  ofLiteral : Literal → α
  /-- The scalar nearest to a whole number. -/
  ofInt64 : Int64 → α
  /-- The pattern of the bits, or `none` for a value that is not a number. -/
  pattern? : α → Option Nat

namespace Scalar

instance : Scalar Float where
  precision := .float64
  zero := 0
  log := Float.log
  ofLiteral
    | .whole n => Float.ofInt n
    | .nan => 0 / 0
    | .infinity false => 1 / 0
    | .infinity true => -1 / 0
    | .pattern bits => Float.ofBits bits.toUInt64
  ofInt64 := Int64.toFloat
  pattern? x := if x.isNaN then none else some x.toBits.toNat

instance : Scalar Float32 where
  precision := .float32
  zero := 0
  log := Float32.log
  ofLiteral
    | .whole n => (Float.ofInt n).toFloat32
    | .nan => 0 / 0
    | .infinity false => 1 / 0
    | .infinity true => -1 / 0
    | .pattern bits => Float32.ofBits bits.toUInt32
  ofInt64 := Int64.toFloat32
  pattern? x := if x.isNaN then none else some x.toBits.toNat

/-- A scalar as its bits in hexadecimal. Values that are not numbers are not told apart. -/
def text {α : Type} [Scalar α] (x : α) : String :=
  match pattern? x with
  | none => "nan"
  | some bits => "0x" ++ String.ofList (Text.Numeral.hex (2 * (precision α).size) bits)

end Scalar

end KernelForge
