import KernelForge.Text.Numeral

/-!
What can be wrong with a kernel definition, and how it is said.
-/
namespace KernelForge

/-- What is wrong with the declaration of one variable. -/
inductive AliasDefect where
  | noAssignment
  | noOpening
  | noClosing
  | unknownCategory (keyword : String)
  | badNumber
  | badCount
  | badName
  | zeroDimension
deriving DecidableEq, Repr

def AliasDefect.reason : AliasDefect → String
  | noAssignment => "expected 'name = Vi(pos, dim)'"
  | noOpening => "missing '('"
  | noClosing => "missing closing ')'"
  | unknownCategory keyword => "unknown category '" ++ keyword ++ "'"
  | badNumber => "arguments must be non-negative integers"
  | badCount => "expected one or two arguments"
  | badName => "name must be an identifier"
  | zeroDimension => "dimension must be at least 1"

inductive FormulaError where
  | emptyFormula
  | unbalancedParentheses (formula : String)
  | invalidAlias (declaration : String) (defect : AliasDefect)
  | duplicateAlias (name : String)
  | duplicatePosition (position : UInt64)
  | missingPosition (position : UInt64)
  | unknownReduction (name : String)
  | missingParameter (name : String)
  | unexpectedParameter (name : String)
  | unknownPrecision (text : String)
  | invalidAxis (index : UInt64)
deriving DecidableEq, Repr

def FormulaError.message : FormulaError → String
  | emptyFormula => "formula is empty"
  | unbalancedParentheses formula => "unbalanced parentheses in formula '" ++ formula ++ "'"
  | invalidAlias declaration defect => "invalid alias '" ++ declaration ++ "': " ++ defect.reason
  | duplicateAlias name => "alias '" ++ name ++ "' is declared more than once"
  | duplicatePosition position =>
    "argument position " ++ Text.Numeral.text position.toNat ++ " is bound by more than one alias"
  | missingPosition position =>
    "argument positions must be contiguous from 0; position " ++ Text.Numeral.text position.toNat ++
      " is missing"
  | unknownReduction name => "unknown reduction operator '" ++ name ++ "'"
  | missingParameter name => "reduction '" ++ name ++ "' requires a parameter"
  | unexpectedParameter name => "reduction '" ++ name ++ "' does not take a parameter"
  | unknownPrecision text => "unknown precision '" ++ text ++ "' (expected float32 or float64)"
  | invalidAxis index =>
    "invalid reduction axis " ++ Text.Numeral.text index.toNat ++ " (expected 0 or 1)"

end KernelForge
