import KernelForge.Json.Token

/-!
JSON values, the text that is written for them, and the reader of such texts.

An object is the list of its members in the order of the text, repetitions included: whoever interprets
an object decides what a repeated name means. Numbers keep their lexeme. `Json.parse?` reads tokens with
an explicit stack of unfinished arrays and objects, so nesting is limited by nothing but the text.
-/
namespace KernelForge

inductive Json where
  | null
  | bool (value : Bool)
  | number (lexeme : List Char)
  | text (content : Option String)
  | array (items : List Json)
  | object (members : List (Option String × Json))
deriving Inhabited

namespace Json

def str (s : String) : Json := .text (some s)

/-- The value of a natural number. -/
def nat (n : Nat) : Json := .number (Text.Numeral.decimal n)

/-- An object with the given members, in order. -/
def ofFields (fields : List (String × Json)) : Json :=
  .object (fields.map fun f => (some f.1, f.2))

/-! ### Compact text -/

mutual

def tokens : Json → List Token
  | .null => [.null]
  | .bool b => [.bool b]
  | .number lexeme => [.number lexeme]
  | .text content => [.text content]
  | .array items => .openBracket :: (firstItem items ++ [.closeBracket])
  | .object members => .openBrace :: (firstMember members ++ [.closeBrace])

def firstItem : List Json → List Token
  | [] => []
  | v :: rest => tokens v ++ laterItems rest

def laterItems : List Json → List Token
  | [] => []
  | v :: rest => .comma :: (tokens v ++ laterItems rest)

def firstMember : List (Option String × Json) → List Token
  | [] => []
  | m :: rest => memberTokens m ++ laterMembers rest

def laterMembers : List (Option String × Json) → List Token
  | [] => []
  | m :: rest => .comma :: (memberTokens m ++ laterMembers rest)

def memberTokens : Option String × Json → List Token
  | (name, v) => .text name :: .colon :: tokens v

end

/-- The text of a value without any space. -/
def compact (v : Json) : String :=
  String.ofList (v.tokens.flatMap Token.chars)

/-! ### Indented text -/

def breakLine (depth : Nat) : List Char :=
  '\n' :: List.replicate (2 * depth) ' '

mutual

/-- The characters of a value that stands at a depth: two spaces for each level, one item on a line, and
nothing between the brackets of an empty array or object. -/
def indented (depth : Nat) : Json → List Char
  | .null => Token.chars .null
  | .bool b => Token.chars (.bool b)
  | .number lexeme => Token.chars (.number lexeme)
  | .text content => Token.chars (.text content)
  | .array [] => ['[', ']']
  | .array (v :: rest) =>
    '[' :: (breakLine (depth + 1) ++ indented (depth + 1) v ++ indentedItems depth rest ++
      breakLine depth ++ [']'])
  | .object [] => ['\x7b', '\x7d']
  | .object (m :: rest) =>
    '\x7b' :: (breakLine (depth + 1) ++ indentedMember (depth + 1) m ++ indentedMembers depth rest ++
      breakLine depth ++ ['\x7d'])

def indentedItems (depth : Nat) : List Json → List Char
  | [] => []
  | v :: rest => ',' :: (breakLine (depth + 1) ++ indented (depth + 1) v ++ indentedItems depth rest)

def indentedMembers (depth : Nat) : List (Option String × Json) → List Char
  | [] => []
  | m :: rest =>
    ',' :: (breakLine (depth + 1) ++ indentedMember (depth + 1) m ++ indentedMembers depth rest)

def indentedMember (depth : Nat) : Option String × Json → List Char
  | (name, v) => Token.chars (.text name) ++ [':', ' '] ++ indented depth v

end

/-- The text of a value with one item or member on a line. -/
def pretty (v : Json) : String :=
  String.ofList (v.indented 0)

/-! ### Reading -/

/-- An array or object that is not closed yet. What it holds so far is in reverse. -/
inductive Frame where
  | items (done : List Json)
  | members (done : List (Option String × Json))
  | member (done : List (Option String × Json)) (name : Option String)

/-- What the next token has to be. -/
inductive Expect where
  | value
  | firstItem
  | name
  | firstName
  | colon
  | separator
  | nothing (v : Json)

/-- A reader between two tokens: what it expects inside which frames, the innermost first. -/
structure Reader where
  expect : Expect := .value
  frames : List Frame := []

/-- Puts a finished value where it belongs. -/
def Reader.put (v : Json) : List Frame → Reader
  | .items done :: frames => ⟨.separator, .items (v :: done) :: frames⟩
  | .member done name :: frames => ⟨.separator, .members ((name, v) :: done) :: frames⟩
  | frames => ⟨.nothing v, frames⟩

def Reader.startValue (frames : List Frame) : Token → Option Reader
  | .null => some (put .null frames)
  | .bool b => some (put (.bool b) frames)
  | .number lexeme => some (put (.number lexeme) frames)
  | .text content => some (put (.text content) frames)
  | .openBracket => some ⟨.firstItem, .items [] :: frames⟩
  | .openBrace => some ⟨.firstName, .members [] :: frames⟩
  | _ => none

def Reader.next (r : Reader) (t : Token) : Option Reader :=
  match r.expect, t, r.frames with
  | .firstItem, .closeBracket, .items _ :: frames => some (put (.array []) frames)
  | .firstItem, t, frames => startValue frames t
  | .value, t, frames => startValue frames t
  | .firstName, .closeBrace, .members _ :: frames => some (put (.object []) frames)
  | .firstName, .text name, .members done :: frames => some ⟨.colon, .member done name :: frames⟩
  | .name, .text name, .members done :: frames => some ⟨.colon, .member done name :: frames⟩
  | .colon, .colon, frames => some ⟨.value, frames⟩
  | .separator, .comma, .items done :: frames => some ⟨.value, .items done :: frames⟩
  | .separator, .closeBracket, .items done :: frames => some (put (.array done.reverse) frames)
  | .separator, .comma, .members done :: frames => some ⟨.name, .members done :: frames⟩
  | .separator, .closeBrace, .members done :: frames => some (put (.object done.reverse) frames)
  | _, _, _ => none

def Reader.run (r : Reader) : List Token → Option Reader
  | [] => some r
  | t :: rest => (r.next t).bind fun r => r.run rest

def Reader.result? (r : Reader) : Option Json :=
  match r.expect, r.frames with
  | .nothing v, [] => some v
  | _, _ => none

/-- The value that a row of tokens denotes. -/
def ofTokens? (ts : List Token) : Option Json :=
  (({} : Reader).run ts).bind Reader.result?

/-- The value that a text denotes. -/
def parse? (s : String) : Option Json :=
  (Token.scan s.toList).bind ofTokens?

end Json

end KernelForge
