import KernelForge.Call.Error

/-!
The arguments of a call, and the extents that their shapes give it.
-/
namespace KernelForge

/-- An argument: how many scalars it holds, in which shape and memory, and those that can be read. -/
structure Argument (α : Type) where
  values : Array α
  length : UInt64
  shape : List UInt64
  storage : Storage

namespace Argument

/-- Scalars in host memory. -/
def ofArray {α : Type} (values : Array α) (shape : List UInt64) : Argument α :=
  ⟨values, values.size.toUInt64, shape, .host⟩

/-- Scalars in host memory, in one dimension. -/
def vector {α : Type} (values : Array α) : Argument α :=
  ofArray values [values.size.toUInt64]

end Argument

namespace Extents

/-- A product of words, unless it leaves their range. -/
def product? (a b : UInt64) : Option UInt64 :=
  if a.toNat * b.toNat < UInt64.size then some (a * b) else none

/-- The number of scalars of a shape, multiplied from the left. -/
def volume? : (acc : UInt64) → List UInt64 → Option UInt64
  | acc, [] => some acc
  | acc, n :: rest =>
    match product? acc n with
    | some acc => volume? acc rest
    | none => none

/-- The extents found so far along the two indices. -/
structure Found where
  nx : Option UInt64 := none
  ny : Option UInt64 := none
deriving DecidableEq, Repr

/-- Records that an argument has `n` rows along an index, if earlier ones do not have another number. -/
def Found.merge (found : Found) (name : String) (axis : Axis) (n : UInt64) : Except CallError Found :=
  match axis with
  | .outer =>
    match found.nx with
    | some expected =>
      if expected = n then .ok found else .error (.extent name .outer expected n)
    | none => .ok { found with nx := some n }
  | .inner =>
    match found.ny with
    | some expected =>
      if expected = n then .ok found else .error (.extent name .inner expected n)
    | none => .ok { found with ny := some n }

/-- Checks that an argument holds as many scalars as its shape has places. -/
def checkLength {α : Type} (name : String) (a : Argument α) : Except CallError Unit :=
  match volume? 1 a.shape with
  | none => .error (.shapeOverflow name a.shape)
  | some expected =>
    if expected = a.length then .ok () else .error (.dataLength name expected a.length)

def checkParameter (name : String) (dim : UInt64) (shape : List UInt64) : Except CallError Unit :=
  match shape with
  | [found] => if dim = found then .ok () else .error (.dimension name dim found)
  | _ => .error (.rank name (.parameter dim) shape)

/-- The number of rows of an indexed argument. A row of one scalar may leave out its dimension. -/
def rowCount (name : String) (dim : UInt64) (shape : List UInt64) : Except CallError UInt64 :=
  match shape with
  | [n, found] => if dim = found then .ok n else .error (.dimension name dim found)
  | [n] => if dim = 1 then .ok n else .error (.rank name (.rows dim) shape)
  | _ => .error (.rank name (.rows dim) shape)

/-- Takes one more argument into account. -/
def step {α : Type} (found : Found) (a : Alias) (argument : Argument α) : Except CallError Found :=
  match checkLength a.name argument with
  | .error e => .error e
  | .ok () =>
    match a.category with
    | .parameter =>
      match checkParameter a.name a.dim argument.shape with
      | .error e => .error e
      | .ok () => .ok found
    | .outer =>
      match rowCount a.name a.dim argument.shape with
      | .error e => .error e
      | .ok n => found.merge a.name .outer n
    | .inner =>
      match rowCount a.name a.dim argument.shape with
      | .error e => .error e
      | .ok n => found.merge a.name .inner n

def collect {α : Type} (found : Found) : List (Alias × Argument α) → Except CallError Found
  | [] => .ok found
  | (a, argument) :: rest =>
    match step found a argument with
    | .error e => .error e
    | .ok found => collect found rest

/-- The extents of a call. An index that no argument has counts one. -/
def ofArguments {α : Type} (spec : KernelSpec) (arguments : List (Argument α)) :
    Except CallError (UInt64 × UInt64) :=
  if spec.aliases.length ≠ arguments.length then
    .error (.argumentCount spec.aliases.length arguments.length)
  else
    match collect {} (spec.aliases.zip arguments) with
    | .error e => .error e
    | .ok found => .ok (found.nx.getD 1, found.ny.getD 1)

end Extents

end KernelForge
