import KernelForge.Formula.Error
import KernelForge.Text.Blank

/-!
Variables of a formula and the call arguments they stand for.

A declaration reads `name = Vi(position, dim)`, with `Vj` or `Pm` in place of `Vi`; the short form
`Vi(dim)` takes its position from its place in the list of declarations. Blanks never matter.
`Alias.canonicalize` accepts the lists that bind each argument position to one variable, and puts them
in the order of the positions.
-/
namespace KernelForge

/-- What indexes the rows of an argument: the outer index, the inner index, or nothing. -/
inductive Category where
  | outer
  | inner
  | parameter
deriving DecidableEq, Repr, Inhabited

namespace Category

def keyword : Category → String
  | outer => "Vi"
  | inner => "Vj"
  | parameter => "Pm"

def ofKeyword? (keyword : String) : Option Category :=
  if keyword = "Vi" then some outer
  else if keyword = "Vj" then some inner
  else if keyword = "Pm" then some parameter
  else none

end Category

/-- A variable: its name, what indexes its argument, which argument that is, and how many scalars a row
(or the whole parameter) has. -/
structure Alias where
  name : String
  category : Category
  position : UInt64
  dim : UInt64
deriving DecidableEq, Repr

namespace Alias

/-- The characters of the declaration `name=Vi(position,dim)`. -/
def chars (a : Alias) : List Char :=
  a.name.toList ++ '=' :: a.category.keyword.toList ++ '(' :: Text.Numeral.decimal a.position.toNat ++
    ',' :: Text.Numeral.decimal a.dim.toNat ++ [')']

/-- The declaration of a variable, in full and without blanks. -/
def text (a : Alias) : String :=
  String.ofList a.chars

def isNameStart (c : Char) : Bool :=
  c.isAlpha || c = '_'

def isNameChar (c : Char) : Bool :=
  c.isAlphanum || c = '_'

/-- A letter or underscore, then letters, digits and underscores. -/
def isIdentifier : List Char → Bool
  | [] => false
  | c :: rest => isNameStart c && rest.all isNameChar

/-- The defect of a variable as a value, if it has one. -/
def defect? (a : Alias) : Option AliasDefect :=
  if !isIdentifier a.name.toList then some .badName
  else if a.dim = 0 then some .zeroDimension
  else none

/-- A variable with a proper name and at least one scalar. -/
def create (name : String) (category : Category) (position dim : UInt64) : Except FormulaError Alias :=
  let a : Alias := ⟨name, category, position, dim⟩
  match a.defect? with
  | some defect => .error (.invalidAlias a.text defect)
  | none => .ok a

/-- The text before a final closing parenthesis. -/
def dropClosing? (cs : List Char) : Option (List Char) :=
  match cs.getLast? with
  | some ')' => some cs.dropLast
  | _ => none

/-- The position and the dimension that the numbers of a declaration give. -/
def bindNumbers (index : UInt64) : List UInt64 → Except AliasDefect (UInt64 × UInt64)
  | [dim] => .ok (index, dim)
  | [position, dim] => .ok (position, dim)
  | _ => .error .badCount

/-- Reads a declaration without blanks. -/
def parseChars (cs : List Char) (index : UInt64) : Except AliasDefect Alias :=
  match Text.cutAt '=' cs with
  | none => .error .noAssignment
  | some (name, right) =>
    match Text.cutAt '(' right with
    | none => .error .noOpening
    | some (keyword, afterOpening) =>
      match dropClosing? afterOpening with
      | none => .error .noClosing
      | some inside =>
        match Category.ofKeyword? (String.ofList keyword) with
        | none => .error (.unknownCategory (String.ofList keyword))
        | some category =>
          match (Text.splitAt ',' inside).mapM Text.Numeral.word64? with
          | none => .error .badNumber
          | some numbers =>
            match bindNumbers index numbers with
            | .error defect => .error defect
            | .ok (position, dim) =>
              let a : Alias := ⟨String.ofList name, category, position, dim⟩
              match a.defect? with
              | some defect => .error defect
              | none => .ok a

/-- Reads a declaration; `index` is its place in its list. A refused declaration is reported as it was
written. -/
def parse (declaration : String) (index : UInt64) : Except FormulaError Alias :=
  match parseChars (Text.strip declaration).toList index with
  | .error defect => .error (.invalidAlias declaration defect)
  | .ok a => .ok a

/-! ### Lists of variables -/

def repeatedName? : (seen : List String) → List Alias → Option String
  | _, [] => none
  | seen, a :: rest => if a.name ∈ seen then some a.name else repeatedName? (a.name :: seen) rest

/-- Puts a variable before the first one whose position is not smaller. -/
def insertByPosition (a : Alias) : List Alias → List Alias
  | [] => [a]
  | b :: rest => if a.position ≤ b.position then a :: b :: rest else b :: insertByPosition a rest

def sortByPosition : List Alias → List Alias
  | [] => []
  | a :: rest => insertByPosition a (sortByPosition rest)

def repeatedPosition? : List Alias → Option UInt64
  | a :: b :: rest => if a.position = b.position then some a.position else repeatedPosition? (b :: rest)
  | _ => none

/-- The first number from `expected` on that is not the position in its place. -/
def missingPosition? : (expected : Nat) → List Alias → Option Nat
  | _, [] => none
  | expected, a :: rest =>
    if a.position.toNat = expected then missingPosition? (expected + 1) rest else some expected

/-- The list in the order of its positions, if names are distinct and positions are `0, 1, …`. -/
def canonicalize (aliases : List Alias) : Except FormulaError (List Alias) :=
  match repeatedName? [] aliases with
  | some name => .error (.duplicateAlias name)
  | none =>
    let sorted := sortByPosition aliases
    match repeatedPosition? sorted with
    | some position => .error (.duplicatePosition position)
    | none =>
      match missingPosition? 0 sorted with
      | some position => .error (.missingPosition position.toUInt64)
      | none => .ok sorted

def parseFrom : (index : Nat) → List String → Except FormulaError (List Alias)
  | _, [] => .ok []
  | index, declaration :: rest =>
    match parse declaration index.toUInt64 with
    | .error e => .error e
    | .ok a =>
      match parseFrom (index + 1) rest with
      | .error e => .error e
      | .ok as => .ok (a :: as)

/-- Reads a list of declarations and puts it in the order of the positions. -/
def parseList (declarations : List String) : Except FormulaError (List Alias) :=
  match parseFrom 0 declarations with
  | .error e => .error e
  | .ok aliases => canonicalize aliases

end Alias

end KernelForge
