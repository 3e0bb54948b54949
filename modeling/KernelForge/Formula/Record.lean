import KernelForge.Formula.KernelSpec
import KernelForge.Json.Field

/-!
Kernel specifications as JSON records.

Reading a record checks its shape and nothing else: a specification that was never canonical is read as
it stands.
-/
namespace KernelForge

namespace Precision

def caseName : Precision → String
  | float32 => "Float32"
  | float64 => "Float64"

def toJson (p : Precision) : Json := .str p.caseName

def ofJson? (v : Json) : Option Precision :=
  match v.plainCase? with
  | some "Float32" => some float32
  | some "Float64" => some float64
  | _ => none

end Precision

namespace Category

def caseName : Category → String
  | outer => "I"
  | inner => "J"
  | parameter => "Param"

def toJson (c : Category) : Json := .str c.caseName

def ofJson? (v : Json) : Option Category :=
  match v.plainCase? with
  | some "I" => some outer
  | some "J" => some inner
  | some "Param" => some parameter
  | _ => none

end Category

namespace Axis

def toJson (a : Axis) : Json := .str a.letter

def ofJson? (v : Json) : Option Axis :=
  match v.plainCase? with
  | some "I" => some outer
  | some "J" => some inner
  | _ => none

end Axis

namespace Reduction

def toJson : Reduction → Json
  | plain op => .str op.name
  | ranked op k => .ofFields [(op.name, .nat k.toNat)]

def ofJson? (v : Json) : Option Reduction :=
  match v.case? with
  | some (name, none) => (Plain.ofName? name).map .plain
  | some (name, some argument) =>
    match Ranked.ofName? name with
    | some op => (argument.natBelow? UInt32.size).map fun k => .ranked op k.toUInt32
    | none =>
      match argument with
      | .null => (Plain.ofName? name).map .plain
      | _ => none
  | none => none

end Reduction

namespace Alias

def toJson (a : Alias) : Json :=
  .ofFields
    [("name", .str a.name), ("category", a.category.toJson), ("position", .nat a.position.toNat),
     ("dim", .nat a.dim.toNat)]

def fieldNames : List String := ["name", "category", "position", "dim"]

def ofJson? (v : Json) : Option Alias :=
  match v.record? fieldNames with
  | some [name, category, position, dim] => do
    let name ← name.text?
    let category ← Category.ofJson? category
    let position ← position.natBelow? UInt64.size
    let dim ← dim.natBelow? UInt64.size
    return ⟨name, category, position.toUInt64, dim.toUInt64⟩
  | _ => none

end Alias

namespace FlagSet

def toJson (flags : FlagSet) : Json := .array (flags.toList.map .str)

def ofJson? (v : Json) : Option FlagSet := do
  let items ← v.items?
  let texts ← items.mapM Json.text?
  return ofList texts

end FlagSet

namespace KernelSpec

def toJson (spec : KernelSpec) : Json :=
  .ofFields
    [("formula", .str spec.formula), ("reduction", spec.reduction.toJson), ("axis", spec.axis.toJson),
     ("aliases", .array (spec.aliases.map Alias.toJson)), ("precision", spec.precision.toJson),
     ("flags", spec.flags.toJson)]

def fieldNames : List String := ["formula", "reduction", "axis", "aliases", "precision", "flags"]

def ofJson? (v : Json) : Option KernelSpec :=
  match v.record? fieldNames with
  | some [formula, reduction, axis, aliases, precision, flags] => do
    let formula ← formula.text?
    let reduction ← Reduction.ofJson? reduction
    let axis ← Axis.ofJson? axis
    let aliases ← (← aliases.items?).mapM Alias.ofJson?
    let precision ← Precision.ofJson? precision
    let flags ← FlagSet.ofJson? flags
    return ⟨formula, reduction, axis, aliases, precision, flags⟩
  | _ => none

def ofText? (s : String) : Option KernelSpec :=
  (Json.parse? s).bind ofJson?

end KernelSpec

end KernelForge
