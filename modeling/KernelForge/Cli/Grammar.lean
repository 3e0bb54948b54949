import KernelForge.Text.Blank

/-!
Options and operands of a command line.

A grammar lists the options that a command knows and says what else may be given. `Grammar.scan` takes the
words one after another. An option is written `--name`, `--name=value`, `-n`, `-nvalue` or `-n=value`, a
value may also be the next word, and short options without value may share a dash. After `--` every word is
an operand.
-/
namespace KernelForge.Cli

inductive Stop where
  | usage
  | version
  /-- Somebody asks what there is, and wants to know it briefly or at length. -/
  | help (brief : Bool)
deriving DecidableEq, Repr

/-- What belongs to an option: nothing, a value, or a value that may begin with a dash. -/
inductive Follower where
  | nothing
  | value
  | anyValue
deriving DecidableEq, Repr

structure Opt where
  name : String
  short : Option Char := none
  long : Bool := true
  follower : Follower := .value
  repeats : Bool := false
  /-- Which values the option takes. -/
  accepts : String → Bool := fun _ => true
  /-- What the option answers by itself, spelled with its letter or with its name. -/
  stops : Option (Bool → Stop) := none
  /-- What is told of the option, and of the values it takes if there are only a few. -/
  about : String := ""
  choices : List (String × String) := []
  /-- The name that help gives to its value. -/
  valueName : String := ""
  /-- The value that counts if none is given. -/
  usual : Option String := none
  required : Bool := false

inductive Operands where
  | none
  | one
  | many
deriving DecidableEq, Repr

structure Grammar where
  options : List Opt
  operands : Operands := .none
  /-- The words that end the options of this grammar and start those of another one. -/
  commands : List String := []

/-- What has been given so far: options with their values and operands, in their order, an option that still
waits for its value, and whether options have ended. -/
structure Scan where
  given : List (String × String) := []
  operands : List String := []
  pending : Option Opt := none
  ended : Bool := false

namespace Scan

def values (s : Scan) (name : String) : List String :=
  (s.given.filter fun g => g.1 = name).map Prod.snd

def has (s : Scan) (name : String) : Bool :=
  s.given.any fun g => g.1 = name

def value? (s : Scan) (name : String) : Option String :=
  (s.values name).head?

/-- Takes an option with its value. `letter` says that it was spelled with its letter. -/
def add (s : Scan) (o : Opt) (letter : Bool) (value : String) : Except Stop Scan :=
  match o.stops with
  | some stop => .error (stop letter)
  | none =>
    if s.has o.name && !o.repeats then .error .usage
    else if !o.accepts value then .error .usage
    else .ok { s with given := s.given ++ [(o.name, value)] }

end Scan

namespace Grammar

def short? (g : Grammar) (c : Char) : Option Opt :=
  g.options.find? fun o => o.short == some c

def long? (g : Grammar) (name : String) : Option Opt :=
  g.options.find? fun o => o.long && o.name == name

def operand (g : Grammar) (s : Scan) (word : String) : Except Stop Scan :=
  match g.operands, s.operands with
  | .none, _ => .error .usage
  | .one, _ :: _ => .error .usage
  | _, before => .ok { s with operands := before ++ [word] }

def longOption (g : Grammar) (s : Scan) (text : List Char) : Except Stop Scan :=
  let (name, value) := match Text.cutAt '=' text with
    | some (name, value) => (name, some value)
    | none => (text, none)
  match g.long? (String.ofList name) with
  | none => .error .usage
  | some o =>
    match o.follower, value with
    | .nothing, none => s.add o false ""
    | .nothing, some _ => .error .usage
    | _, none => .ok { s with pending := some o }
    | _, some value => s.add o false (String.ofList value)

def shortOptions (g : Grammar) (s : Scan) : List Char → Except Stop Scan
  | [] => .ok s
  | c :: rest =>
    match g.short? c with
    | none => .error .usage
    | some o =>
      match o.follower with
      | .nothing =>
        match s.add o true "" with
        | .ok s => g.shortOptions s rest
        | .error stop => .error stop
      | _ =>
        match rest with
        | [] => .ok { s with pending := some o }
        | '=' :: value => s.add o true (String.ofList value)
        | value => s.add o true (String.ofList value)

def dashed (word : String) : Bool :=
  match word.toList with
  | '-' :: _ :: _ => true
  | _ => false

def next (g : Grammar) (s : Scan) (word : String) : Except Stop Scan :=
  match s.pending with
  | some o =>
    if dashed word && o.follower ≠ .anyValue then .error .usage
    else ({ s with pending := none } : Scan).add o false word
  | none =>
    if s.ended then g.operand s word
    else match word.toList with
      | ['-', '-'] => .ok { s with ended := true }
      | '-' :: '-' :: text => g.longOption s text
      | '-' :: c :: rest => g.shortOptions s (c :: rest)
      | _ => g.operand s word

/-- Takes all words, up to a command if there is one; gives the command and the words after it. -/
def scan (g : Grammar) (s : Scan) : List String → Except Stop (Scan × Option (String × List String))
  | [] => if s.pending.isSome then .error .usage else .ok (s, none)
  | word :: rest =>
    if s.pending.isNone && !s.ended && g.commands.contains word then .ok (s, some (word, rest))
    else match g.next s word with
      | .ok s => g.scan s rest
      | .error stop => .error stop

end Grammar

end KernelForge.Cli
