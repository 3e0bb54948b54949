/-!
Shell scripts as data: words, redirections and commands.

A word is a list of parts, which expansion turns into fields. A part remembers whether it was quoted, because
quoted parts are neither split nor matched against file names.
-/
namespace KernelForge.Shell

inductive Parameter where
  | named (name : String)
  | positional (n : Nat)
  | count
  | all (joined : Bool)
  | process
  | status
  | background
  | flags
deriving DecidableEq, Repr

inductive Adjustment where
  | substitute
  | assign
  | demand
  | alternate
  | cutFront (longest : Bool)
  | cutBack (longest : Bool)
deriving DecidableEq, Repr

inductive Access where
  | read
  | write
  | force
  | append
  | both
deriving DecidableEq, Repr

mutual

inductive Part where
  | text (s : String) (quoted : Bool)
  | parameter (p : Parameter) (quoted : Bool)
  | adjusted (p : Parameter) (nullable : Bool) (adjustment : Adjustment) (word : List Part) (quoted : Bool)
  | length (p : Parameter) (quoted : Bool)
  | output (command : Command) (quoted : Bool)
  | arithmetic (expression : List Part) (quoted : Bool)
  | malformed

inductive Redirect where
  | file (stream : Nat) (access : Access) (target : List Part)
  | same (stream : Nat) (other : List Part)
  | document (stream : Nat) (number : Nat)

inductive Command where
  | simple (line : Nat) (assignments : List (String × List Part)) (words : List (List Part))
      (redirects : List Redirect)
  | define (name : String) (body : Command)
  | pipe (first second : Command)
  | sequence (first second : Command)
  | both (first second : Command)
  | either (first second : Command)
  | negate (command : Command)
  | detach (command : Command)
  | forEach (line : Nat) (name : String) (words : Option (List (List Part))) (body : Command)
  | loop (wanted : Bool) (condition body : Command)
  | branch (condition yes no : Command)
  | choose (line : Nat) (word : List Part) (clauses : List (List (List Part) × Command))
  | group (line : Nat) (apart : Bool) (body : Command) (redirects : List Redirect)
  | nothing

end

def Redirect.stream : Redirect → Nat
  | .file stream _ _ => stream
  | .same stream _ => stream
  | .document stream _ => stream

instance : Inhabited Command := ⟨.nothing⟩

abbrev Word := List Part

structure SyntaxError where
  line : Nat
  message : String
deriving DecidableEq, Repr

def specialCommands : List String :=
  [":", ".", "break", "continue", "eval", "exec", "exit", "export", "local", "readonly", "return", "set", "shift",
   "times", "trap", "unset"]

/-! ### Words -/

def plain? : Word → Option String
  | [.text s false] => some s
  | _ => none

def isNameStart (c : Char) : Bool := c.isAlpha || c = '_'

def isNameChar (c : Char) : Bool := c.isAlphanum || c = '_'

def isName : List Char → Bool
  | [] => false
  | c :: cs => isNameStart c && cs.all isNameChar

def assignment? : Word → Option (String × Word)
  | .text s false :: rest =>
    let cs := s.toList
    let name := cs.takeWhile isNameChar
    match cs.dropWhile isNameChar with
    | '=' :: value =>
      if isName name then
        some (String.ofList name, if value.isEmpty then rest else .text (String.ofList value) false :: rest)
      else none
    | _ => none
  | _ => none

def addChar (w : Word) (c : Char) (quoted : Bool) : Word :=
  match w with
  | .text s q :: rest =>
    if q = quoted then .text (s.push c) q :: rest else .text (String.singleton c) quoted :: w
  | _ => .text (String.singleton c) quoted :: w

end KernelForge.Shell
