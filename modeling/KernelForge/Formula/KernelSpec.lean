import KernelForge.Formula.FlagSet
import KernelForge.Formula.Precision
import KernelForge.Formula.Reduction

/-!
Kernel specifications: what a kernel computes, in the form that identifies it.

A formula is kept without blanks and has balanced parentheses; its variables are in the order of the
arguments; build flags are a set. `KernelSpec.wrapped` is the formula as a generator receives it.
-/
namespace KernelForge

/-! ### Formula texts -/

/-- Whether parentheses match, when `depth` of them are open. -/
def balancedFrom : (depth : Nat) → List Char → Bool
  | depth, [] => depth = 0
  | depth, c :: rest =>
    if c = '(' then balancedFrom (depth + 1) rest
    else if c = ')' then
      match depth with
      | 0 => false
      | depth + 1 => balancedFrom depth rest
    else balancedFrom depth rest

/-- A formula without its blanks, if something is left and its parentheses match. -/
def canonicalFormula (formula : String) : Except FormulaError String :=
  let stripped := Text.strip formula
  if stripped.toList.isEmpty then .error .emptyFormula
  else if balancedFrom 0 stripped.toList then .ok stripped
  else .error (.unbalancedParentheses stripped)

/-- What a kernel computes: a formula over variables, reduced along an axis in a precision, and the flags
it is built with. -/
structure KernelSpec where
  formula : String
  reduction : Reduction
  axis : Axis
  aliases : List Alias
  precision : Precision
  flags : FlagSet
deriving DecidableEq

namespace KernelSpec

/-- A specification along the outer axis and without flags. -/
def create (formula : String) (aliases : List Alias) (reduction : Reduction) (precision : Precision) :
    Except FormulaError KernelSpec :=
  match canonicalFormula formula with
  | .error e => .error e
  | .ok formula =>
    match Alias.canonicalize aliases with
    | .error e => .error e
    | .ok aliases => .ok ⟨formula, reduction, .outer, aliases, precision, .empty⟩

/-- A specification from texts alone. -/
def parse (formula : String) (declarations : List String) (reduction precision : String) :
    Except FormulaError KernelSpec := do
  let aliases ← Alias.parseList declarations
  let reduction ← Reduction.ofName reduction none
  let precision ← Precision.parse precision
  create formula aliases reduction precision

def withAxis (spec : KernelSpec) (axis : Axis) : KernelSpec :=
  { spec with axis }

def withReduction (spec : KernelSpec) (reduction : Reduction) : KernelSpec :=
  { spec with reduction }

/-- Adds flags, trimmed; blank ones are dropped. -/
def withFlags (spec : KernelSpec) (flags : List String) : KernelSpec :=
  { spec with flags := spec.flags.insertAll ((flags.map Text.trim).filter fun f => f ≠ "") }

def aliasesOf (spec : KernelSpec) (category : Category) : List Alias :=
  spec.aliases.filter fun a => a.category = category

def wrappedChars (spec : KernelSpec) : List Char :=
  spec.reduction.name.toList ++ "Reduction(".toList ++ spec.formula.toList ++
    (match spec.reduction.parameter? with
     | some k => ',' :: Text.Numeral.decimal k.toNat
     | none => []) ++
    ',' :: Text.Numeral.decimal spec.axis.tag ++ [')']

/-- The formula inside its reduction: `SumReduction(formula,axis)`, with the parameter of a ranked
reduction before the axis. -/
def wrapped (spec : KernelSpec) : String :=
  String.ofList spec.wrappedChars

/-- The declarations of the variables, joined by semicolons. -/
def signature (spec : KernelSpec) : String :=
  ";".intercalate (spec.aliases.map Alias.text)

/-- One line that says what a kernel computes. -/
def text (spec : KernelSpec) : String :=
  spec.wrapped ++ " [" ++ spec.signature ++ "] (" ++ spec.precision.name ++ ")"

end KernelSpec

end KernelForge
