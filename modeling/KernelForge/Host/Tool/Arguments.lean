import KernelForge.Host.Shell.State
import KernelForge.Host.Tool.Quoting

/-!
The arguments of tools: options, in one letter or spelled out, and operands.

Options may stand between operands unless a tool wants them first, and two dashes end them. A spelled out
option may be shortened as long as it is clear which one is meant.
-/
namespace KernelForge.Tool

/-- The options of a tool. Every option has a letter, and some are also spelled out. -/
structure Grammar where
  plain : String := ""
  valued : String := ""
  optional : String := ""
  long : List (String × Char) := []
  ordered : Bool := false
  misuse : Nat := 1
  usage : String := ""
  hint : String := ""

structure Arguments where
  options : List (Char × String) := []
  operands : List String := []

namespace Arguments

def has (a : Arguments) (letter : Char) : Bool := a.options.any fun o => o.1 = letter

def value? (a : Arguments) (letter : Char) : Option String :=
  (a.options.reverse.find? fun o => o.1 = letter).map Prod.snd

def addOption (a : Arguments) (letter : Char) (value : String) : Arguments :=
  { a with options := a.options ++ [(letter, value)] }

def addOperand (a : Arguments) (s : String) : Arguments :=
  { a with operands := a.operands ++ [s] }

end Arguments

namespace Grammar

inductive Need where
  | without
  | required
  | allowed
deriving DecidableEq, Repr

def need? (g : Grammar) (letter : Char) : Option Need :=
  if g.valued.toList.contains letter then some .required
  else if g.optional.toList.contains letter then some .allowed
  else if g.plain.toList.contains letter then some .without
  else none

/-- The spelled out options that a name can mean. Several names of one option mean the same. -/
def named (g : Grammar) (name : String) : List (String × Char) :=
  match g.long.filter fun l => l.1 = name with
  | [] =>
    match g.long.filter fun l => name.toList.isPrefixOf l.1.toList with
    | [] => []
    | first :: rest => if rest.all fun l => l.2 = first.2 then [first] else first :: rest
  | exact => exact.take 1

def letters (g : Grammar) : List Char → List String → Arguments → Except String (Arguments × List String)
  | [], rest, a => .ok (a, rest)
  | c :: cs, rest, a =>
    match g.need? c, cs, rest with
    | none, _, _ => .error ("invalid option -- '" ++ String.singleton c ++ "'")
    | some .without, cs, rest => letters g cs rest (a.addOption c "")
    | some .allowed, cs, rest => .ok (a.addOption c (String.ofList cs), rest)
    | some .required, [], [] => .error ("option requires an argument -- '" ++ String.singleton c ++ "'")
    | some .required, [], value :: rest => .ok (a.addOption c value, rest)
    | some .required, value, rest => .ok (a.addOption c (String.ofList value), rest)

def spelled (g : Grammar) (body : List Char) (rest : List String) (a : Arguments) :
    Except String (Arguments × List String) :=
  let name := String.ofList (body.takeWhile (· ≠ '='))
  let value := match body.dropWhile (· ≠ '=') with
    | _ :: value => some (String.ofList value)
    | [] => none
  match g.named name with
  | [] => .error ("unrecognized option '--" ++ String.ofList body ++ "'")
  | [(full, letter)] =>
    match g.need? letter, value, rest with
    | some .required, some value, rest => .ok (a.addOption letter value, rest)
    | some .required, none, value :: rest => .ok (a.addOption letter value, rest)
    | some .required, none, [] => .error ("option '--" ++ full ++ "' requires an argument")
    | some .allowed, value, rest => .ok (a.addOption letter (value.getD ""), rest)
    | _, none, rest => .ok (a.addOption letter "", rest)
    | _, some _, _ => .error ("option '--" ++ full ++ "' doesn't allow an argument")
  | several =>
    .error ("option '--" ++ name ++ "' is ambiguous; possibilities:" ++
      String.join (several.map fun l => " '--" ++ l.1 ++ "'"))

def read (g : Grammar) : (fuel : Nat) → List String → Arguments → Except String Arguments
  | 0, _, a => .ok a
  | _, [], a => .ok a
  | fuel + 1, arg :: rest, a =>
    match arg.toList with
    | ['-', '-'] => .ok { a with operands := a.operands ++ rest }
    | '-' :: '-' :: body => do
      let (a, rest) ← g.spelled body rest a
      read g fuel rest a
    | '-' :: c :: cs => do
      let (a, rest) ← g.letters (c :: cs) rest a
      read g fuel rest a
    | _ =>
      if g.ordered then .ok { a with operands := arg :: rest } else read g fuel rest (a.addOperand arg)

end Grammar

/-! ### Messages -/

def helpHint (name : String) : String := "Try '" ++ name ++ " --help' for more information."

def named? {α : Type} (table : List (String × α)) (word : String) : Option α :=
  match table.find? fun e => e.1 = word with
  | some e => some e.2
  | none =>
    match table.filter fun e => word.toList.isPrefixOf e.1.toList with
    | [e] => some e.2
    | _ => none

def unknownWord (name what word : String) (rows : List String) : String :=
  let fitting := rows.filter fun r => ('\'' :: word.toList).isPrefixOf r.toList
  (if 1 < fitting.length then "ambiguous" else "invalid") ++ " argument " ++ quoteText word ++ " for '" ++ what ++
    "'\nValid arguments are:\n" ++ String.join (rows.map fun r => "  - " ++ r ++ "\n") ++ helpHint name

def unnamed (name option word : String) (rows : List String) : String := unknownWord name ("--" ++ option) word rows

def misused (name message : String) (status : Nat) (st : Shell.State) : Shell.State :=
  st.protest (name ++ ": " ++ message ++ "\n" ++ helpHint name) status

def complain (name message : String) (st : Shell.State) : Shell.State :=
  st.protest (name ++ ": " ++ message) 1

def aboutItself : Char := Char.ofNat 1

def withArguments (name : String) (g : Grammar) (args : List String) (st : Shell.State)
    (f : Arguments → Shell.State → Shell.State) : Shell.State :=
  let g := { g with long := g.long ++ [("help", aboutItself), ("version", aboutItself)] }
  match g.read (args.length + 1) args {} with
  | .error message =>
    let hint := if g.hint = "" then helpHint name else g.hint
    st.protest (name ++ ": " ++ message ++ g.usage ++ "\n" ++ hint) g.misuse
  | .ok a => if a.has aboutItself then st.done 0 else f a (st.done 0)

end KernelForge.Tool
