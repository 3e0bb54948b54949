import KernelForge.Formula.Alias

/-!
How the rows of a formula are reduced, and along which index.
-/
namespace KernelForge

/-- A reduction that needs the number of results to keep. -/
inductive Ranked where
  | kMin
  | argKMin
  | kMinArgKMin
deriving DecidableEq, Repr

/-- A reduction that needs nothing else. -/
inductive Plain where
  | sum
  | max
  | min
  | argMax
  | argMin
  | maxArgMax
  | minArgMin
  | logSumExp
deriving DecidableEq, Repr

inductive Reduction where
  | plain (op : Plain)
  | ranked (op : Ranked) (k : UInt32)
deriving DecidableEq, Repr

def Plain.name : Plain → String
  | sum => "Sum"
  | max => "Max"
  | min => "Min"
  | argMax => "ArgMax"
  | argMin => "ArgMin"
  | maxArgMax => "MaxArgMax"
  | minArgMin => "MinArgMin"
  | logSumExp => "LogSumExp"

def Plain.all : List Plain :=
  [sum, max, min, argMax, argMin, maxArgMax, minArgMin, logSumExp]

def Plain.ofName? (name : String) : Option Plain :=
  Plain.all.find? fun op => op.name = name

def Ranked.name : Ranked → String
  | kMin => "KMin"
  | argKMin => "ArgKMin"
  | kMinArgKMin => "KMinArgKMin"

def Ranked.all : List Ranked :=
  [kMin, argKMin, kMinArgKMin]

def Ranked.ofName? (name : String) : Option Ranked :=
  Ranked.all.find? fun op => op.name = name

namespace Reduction

def sum : Reduction := .plain .sum

def name : Reduction → String
  | plain op => op.name
  | ranked op _ => op.name

/-- The number of results a ranked reduction keeps. -/
def parameter? : Reduction → Option UInt32
  | plain _ => none
  | ranked _ k => some k

def isLogSumExp (r : Reduction) : Bool :=
  r = .plain .logSumExp

/-- The reduction of a name. A ranked one requires the parameter and no other takes it. -/
def ofName (name : String) (parameter : Option UInt32) : Except FormulaError Reduction :=
  match Ranked.ofName? name, parameter with
  | some op, some k => .ok (.ranked op k)
  | some _, none => .error (.missingParameter name)
  | none, parameter =>
    match Plain.ofName? name, parameter with
    | none, _ => .error (.unknownReduction name)
    | some _, some _ => .error (.unexpectedParameter name)
    | some op, none => .ok (.plain op)

/-- The name, with the parameter in parentheses. -/
def text (r : Reduction) : String :=
  match r.parameter? with
  | some k => r.name ++ "(" ++ Text.Numeral.text k.toNat ++ ")"
  | none => r.name

end Reduction

/-- The index that the rows of the result run along; the reduction runs along the other one. -/
inductive Axis where
  | outer
  | inner
deriving DecidableEq, Repr, Inhabited

namespace Axis

def ofIndex (index : UInt64) : Except FormulaError Axis :=
  if index = 0 then .ok outer
  else if index = 1 then .ok inner
  else .error (.invalidAxis index)

/-- The number that stands for an axis in a wrapped formula. -/
def tag : Axis → Nat
  | outer => 0
  | inner => 1

/-- The category of the arguments whose rows the result has. -/
def category : Axis → Category
  | outer => .outer
  | inner => .inner

def letter : Axis → String
  | outer => "I"
  | inner => "J"

end Axis

end KernelForge
