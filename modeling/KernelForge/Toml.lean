import KernelForge.Toml.Quoted
import KernelForge.Toml.Scalar

/-!
TOML documents.

A document is a list of sections, each a heading with the assignments below it. `Toml.sections?` reads the
text into sections; `Toml.assemble?` puts the sections together into one table, where the rules on what may
be defined twice apply. Numbers with a fraction and dates keep their lexeme.
-/
namespace KernelForge.Toml

inductive Value where
  | string (s : String)
  | integer (n : Int)
  | float (lexeme : String)
  | boolean (b : Bool)
  | dateTime (lexeme : String)
  | array (items : List Value)
  | table (entries : List (String × Value))
deriving Inhabited

/-! ### Tables under construction -/

/-- What a key of a table under construction stands for. A table is implicit if only keys below it were
named, and dotted if that happened on the left of an equals sign; the rows of an array of tables are held
newest first. -/
inductive Item where
  | value (v : Value)
  | table (implicit dotted : Bool) (entries : List (String × Item))
  | rows (tables : List (List (String × Item)))
deriving Inhabited

abbrev Entries := List (String × Item)

def Entries.find? (key : String) (entries : Entries) : Option Item :=
  (List.find? (fun e => e.1 = key) entries).map Prod.snd

def Entries.set (key : String) (item : Item) (entries : Entries) : Entries :=
  if entries.any fun e => e.1 = key then
    entries.map fun e => if e.1 = key then (key, item) else e
  else entries ++ [(key, item)]

/-- Changes the table at a path, making the tables on the way. A dotted path leads through implicit tables
only; any path leads into the newest row of an array of tables, and none through a value. The change is
told whether the table it gets is dotted. -/
def alterAt (dotted : Bool) (change : Bool → Entries → Option Entries) :
    List String → (isDotted : Bool) → Entries → Option Entries
  | [], isDotted, entries => change isDotted entries
  | key :: rest, _, entries =>
    match entries.find? key with
    | none =>
      (alterAt dotted change rest dotted []).map fun child => entries.set key (.table true dotted child)
    | some (.value _) => none
    | some (.rows []) => none
    | some (.rows (row :: older)) =>
      (alterAt dotted change rest false row).map fun row => entries.set key (.rows (row :: older))
    | some (.table implicit isDotted child) =>
      if dotted && !implicit then none
      else (alterAt dotted change rest isDotted child).map fun child =>
        entries.set key (.table implicit isDotted child)

/-- Adds an assignment to a table. The key has to be new, and a path may not end in a table that was
opened by a heading. -/
def assign (entries : Entries) (path : List String) (key : String) (v : Value) : Option Entries :=
  alterAt true (fun isDotted entries =>
    if isDotted == path.isEmpty then none
    else match entries.find? key with
      | some _ => none
      | none => some (entries.set key (.value v))) path false entries

mutual

def Item.toValue : Item → Value
  | .value v => v
  | .table _ _ entries => .table (entriesToValues entries)
  | .rows tables => .array (rowsToValues tables).reverse

def entriesToValues : List (String × Item) → List (String × Value)
  | [] => []
  | entry :: rest => entryToValue entry :: entriesToValues rest

def entryToValue : String × Item → String × Value
  | (key, item) => (key, item.toValue)

def rowsToValues : List (List (String × Item)) → List Value
  | [] => []
  | row :: rest => .table (entriesToValues row) :: rowsToValues rest

end

/-! ### Blanks and comments -/

def skipBlanks (cs : List Char) : List Char :=
  cs.dropWhile fun c => c = ' ' || c = '\t'

def skipComment : List Char → List Char
  | '#' :: rest => rest.dropWhile Quoted.isPlain
  | cs => cs

/-- The text of the next line, if this one ends here. -/
def endLine? : List Char → Option (List Char)
  | [] => some []
  | '\n' :: rest => some rest
  | '\r' :: '\n' :: rest => some rest
  | _ => none

/-- The text of the next line, if nothing but blanks and a comment is left on this one. -/
def finishLine? (cs : List Char) : Option (List Char) :=
  endLine? (skipComment (skipBlanks cs))

/-- Skips blanks, comments and line breaks inside an array. -/
def skipLines : (fuel : Nat) → List Char → List Char
  | 0, cs => cs
  | fuel + 1, cs =>
    match skipBlanks cs with
    | '\n' :: rest => skipLines fuel rest
    | '\r' :: '\n' :: rest => skipLines fuel rest
    | '#' :: rest => skipLines fuel (rest.dropWhile Quoted.isPlain)
    | rest => rest

/-! ### Keys -/

def isBareKeyChar (c : Char) : Bool :=
  c.isAlphanum || c = '_' || c = '-'

def simpleKey? (cs : List Char) : Option (String × List Char) :=
  match Quoted.line? cs with
  | some r => some r
  | none =>
    let word := cs.takeWhile isBareKeyChar
    if word.isEmpty then none else some (String.ofList word, cs.dropWhile isBareKeyChar)

/-- The most levels that keys and values may have, less one. -/
def depthLimit : Nat := 79

/-- The parts of a key between dots, with blanks around each. -/
def keyParts? : (parts : Nat) → List Char → Option (List String × List Char)
  | 0, _ => none
  | parts + 1, cs => do
    let (part, rest) ← simpleKey? (skipBlanks cs)
    match skipBlanks rest with
    | '.' :: rest =>
      let (more, rest) ← keyParts? parts rest
      return (part :: more, rest)
    | rest => return ([part], rest)

/-- A key: the path before its last part, and the last part. -/
def key? (cs : List Char) : Option ((List String × String) × List Char) := do
  let (parts, rest) ← keyParts? depthLimit cs
  let last ← parts.getLast?
  return ((parts.dropLast, last), rest)

/-! ### Values -/

/-- A number, a date or a bare word. -/
def scalar? (cs : List Char) : Option (Value × List Char) :=
  match cs with
  | 't' :: 'r' :: 'u' :: 'e' :: rest => some (.boolean true, rest)
  | 'f' :: 'a' :: 'l' :: 's' :: 'e' :: rest => some (.boolean false, rest)
  | _ =>
    match Scalar.dateTime? cs with
    | some (lexeme, rest) => some (.dateTime (String.ofList lexeme), rest)
    | none =>
      match Scalar.float? cs with
      | some (lexeme, rest) => some (.float (String.ofList lexeme), rest)
      | none =>
        match Scalar.special? cs with
        | some (lexeme, rest) => some (.float (String.ofList lexeme), rest)
        | none => (Scalar.integer? cs).map fun (n, rest) => (.integer n, rest)

mutual

/-- A value and the rest after it. Every call spends fuel; `depth` is the number of brackets that may
still be opened. -/
def value? : (fuel depth : Nat) → List Char → Option (Value × List Char)
  | 0, _, _ => none
  | fuel + 1, depth, cs =>
    match cs with
    | '"' :: _ => (Quoted.string? cs).map fun (s, rest) => (.string s, rest)
    | '\'' :: _ => (Quoted.string? cs).map fun (s, rest) => (.string s, rest)
    | '[' :: rest =>
      match depth with
      | 0 => none
      | depth + 1 => (items? fuel depth [] rest).map fun (items, rest) => (.array items, rest)
    | '\x7b' :: rest =>
      match depth with
      | 0 => none
      | depth + 1 =>
        match skipBlanks rest with
        | '\x7d' :: rest => some (.table [], rest)
        | rest => inlineTable? fuel depth [] rest
    | _ => scalar? cs

/-- The items of an array from here to its end; `acc` holds those before in reverse. -/
def items? : (fuel depth : Nat) → (acc : List Value) → List Char → Option (List Value × List Char)
  | 0, _, _, _ => none
  | fuel + 1, depth, acc, cs =>
    match skipLines cs.length cs with
    | ']' :: rest => some (acc.reverse, rest)
    | cs =>
      match value? fuel depth cs with
      | none => none
      | some (v, rest) =>
        match skipLines rest.length rest with
        | ',' :: rest => items? fuel depth (v :: acc) rest
        | ']' :: rest => some ((v :: acc).reverse, rest)
        | _ => none

/-- The assignments of an inline table from here to its end, all on one line. -/
def inlineTable? : (fuel depth : Nat) → Entries → List Char → Option (Value × List Char)
  | 0, _, _, _ => none
  | fuel + 1, depth, entries, cs =>
    match key? cs with
    | some ((path, key), '=' :: rest) =>
      match value? fuel depth (skipBlanks rest) with
      | none => none
      | some (v, rest) =>
        match assign entries path key v with
        | none => none
        | some entries =>
          match skipBlanks rest with
          | ',' :: rest => inlineTable? fuel depth entries rest
          | '\x7d' :: rest => some (.table (entriesToValues entries), rest)
          | _ => none
    | _ => none

end

/-! ### Sections -/

inductive Heading where
  | document
  | table (path : List String) (name : String)
  | row (path : List String) (name : String)

structure Assignment where
  path : List String
  name : String
  value : Value

structure Section where
  heading : Heading
  assignments : List Assignment

/-- A heading line, from after its first bracket. -/
def heading? (cs : List Char) : Option (Heading × List Char) :=
  match cs with
  | '[' :: rest =>
    match key? rest with
    | some ((path, name), ']' :: ']' :: rest) => (finishLine? rest).map fun rest => (.row path name, rest)
    | _ => none
  | _ =>
    match key? cs with
    | some ((path, name), ']' :: rest) => (finishLine? rest).map fun rest => (.table path name, rest)
    | _ => none

def assignment? (cs : List Char) : Option (Assignment × List Char) :=
  match key? cs with
  | some ((path, name), '=' :: rest) =>
    match value? (2 * cs.length + 2) depthLimit (skipBlanks rest) with
    | some (v, rest) => (finishLine? rest).map fun rest => (⟨path, name, v⟩, rest)
    | none => none
  | _ => none

/-- The sections from here to the end of the text. The assignments of the open section and the closed
sections are held in reverse. -/
def sectionsFrom : (fuel : Nat) → Heading → List Assignment → List Section → List Char →
    Option (List Section)
  | 0, _, _, _, _ => none
  | fuel + 1, heading, assignments, closed, cs =>
    match skipBlanks cs with
    | [] => some ((⟨heading, assignments.reverse⟩ :: closed).reverse)
    | '#' :: rest =>
      match endLine? (rest.dropWhile Quoted.isPlain) with
      | some rest => sectionsFrom fuel heading assignments closed rest
      | none => none
    | '\n' :: rest => sectionsFrom fuel heading assignments closed rest
    | '\r' :: rest =>
      match rest with
      | '\n' :: rest => sectionsFrom fuel heading assignments closed rest
      | _ => none
    | '[' :: rest =>
      match heading? rest with
      | some (next, rest) => sectionsFrom fuel next [] (⟨heading, assignments.reverse⟩ :: closed) rest
      | none => none
    | cs =>
      match assignment? cs with
      | some (a, rest) => sectionsFrom fuel heading (a :: assignments) closed rest
      | none => none

/-- The sections of a text, which may start with a byte order mark. -/
def sections? (text : String) : Option (List Section) :=
  let cs := match text.toList with
    | '\ufeff' :: rest => rest
    | cs => cs
  sectionsFrom (cs.length + 1) .document [] [] cs

/-! ### Assembling -/

def assignAll (entries : Entries) : List Assignment → Option Entries
  | [] => some entries
  | a :: rest => (assign entries a.path a.name a.value).bind fun entries => assignAll entries rest

/-- Adds a section to a document. A heading may open a table that was implicit so far, but no other that
exists; a row may follow rows only. -/
def addSection (root : Entries) (s : Section) : Option Entries :=
  match s.heading with
  | .document => assignAll root s.assignments
  | .table path name =>
    alterAt false (fun _ parent =>
      let start := match parent.find? name with
        | none => some []
        | some (.table true false entries) => some entries
        | some _ => none
      start.bind fun entries =>
        (assignAll entries s.assignments).map fun entries =>
          parent.set name (.table false false entries)) path false root
  | .row path name =>
    alterAt false (fun _ parent =>
      let older := match parent.find? name with
        | none => some []
        | some (.rows tables) => some tables
        | some _ => none
      older.bind fun older =>
        (assignAll [] s.assignments).map fun entries =>
          parent.set name (.rows (entries :: older))) path false root

def assembleFrom (root : Entries) : List Section → Option Entries
  | [] => some root
  | s :: rest => (addSection root s).bind fun root => assembleFrom root rest

def assemble? (sections : List Section) : Option (List (String × Value)) :=
  (assembleFrom [] sections).map entriesToValues

/-- The table of a document, or `none` if its text is no TOML. -/
def parse? (text : String) : Option (List (String × Value)) :=
  (sections? text).bind assemble?

end KernelForge.Toml
