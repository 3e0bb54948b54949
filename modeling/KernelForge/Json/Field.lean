import KernelForge.Json

/-!
Reading typed records out of JSON values.

A record is an object that holds each of its fields once, among other members that are ignored, or an
array of its fields in order. A case of an enumeration is a string or an object with that one name.
-/
namespace KernelForge.Json

def text? : Json → Option String
  | .text content => content
  | _ => none

/-- The value of a number written as plain digits, if it is below `limit`. -/
def natBelow? (limit : Nat) : Json → Option Nat
  | .number ['0'] => if 0 < limit then some 0 else none
  | .number ('0' :: _) => none
  | .number lexeme => (Text.Numeral.digits? 10 lexeme).filter (· < limit)
  | _ => none

def items? : Json → Option (List Json)
  | .array items => some items
  | _ => none

def only? (members : List (Option String × Json)) (name : String) : Option Json :=
  match members.filter fun m => m.1 == some name with
  | [m] => some m.2
  | _ => none

/-- The fields of a record, in the order of `names`. Every member name of an object has to denote a text,
whether it is one of the fields or not. -/
def record? (names : List String) : Json → Option (List Json)
  | .object members =>
    if members.all fun m => m.1.isSome then names.mapM (only? members) else none
  | .array items => if items.length = names.length then some items else none
  | _ => none

def case? : Json → Option (String × Option Json)
  | .text (some name) => some (name, none)
  | .object [(some name, argument)] => some (name, some argument)
  | _ => none

/-- The name of a case without arguments, written alone or with `null`. -/
def plainCase? (v : Json) : Option String :=
  match case? v with
  | some (name, none) => some name
  | some (name, some .null) => some name
  | _ => none

end KernelForge.Json
