import KernelForge.Cli.Request

/-!
Help about the command line.

A page tells what a command is for, how it is written, and what there is to give: commands, operands and
options. Beside each of them stands what is told of it. At length, that stands below, and so do the values
to choose from.
-/
namespace KernelForge.Cli

namespace Opt

def spelled (o : Opt) : String :=
  let value := if o.valueName = "" then "" else " <" ++ o.valueName ++ ">"
  match o.long, o.short with
  | false, some c => "-" ++ String.singleton c ++ value
  | _, _ => "--" ++ o.name ++ value

/-- An option in all its spellings. The names stand below one another. -/
def title (o : Opt) : String :=
  match o.long, o.short with
  | true, some c => "-" ++ String.singleton c ++ ", " ++ o.spelled
  | true, none => "    " ++ o.spelled
  | false, _ => o.spelled

/-- What options with the same place are ordered by: their letters, or their names if they have none. -/
def key (o : Opt) : String :=
  match o.short with
  | some c => String.ofList [c.toLower, if c.isLower then '0' else '1']
  | none => o.name

end Opt

structure Page where
  about : String
  usage : String
  commands : List (String × String) := []
  operands : List (String × String) := []
  options : List Opt := []

namespace Page

def padded (width : Nat) (s : String) : String :=
  s ++ String.ofList (List.replicate (width - s.length) ' ')

/-- Entries with what is told of them beside them, from one column on. -/
def table (width : Nat) (rows : List (String × String)) : List String :=
  rows.map fun (title, told) => "  " ++ padded width title ++ "  " ++ told

def below (line : String) : String := "          " ++ line

def item (o : Opt) : List String :=
  let choices := if o.choices.isEmpty then []
    else "" :: below "Possible values:" :: o.choices.map fun (name, told) => below ("- " ++ name ++ ": " ++ told)
  let usual := match o.usual with
    | some value => [below "", below ("[default: " ++ value ++ "]")]
    | none => []
  ["  " ++ o.title, below o.about] ++ choices ++ usual

def remark (o : Opt) : String :=
  let usual := match o.usual with
    | some value => " [default: " ++ value ++ "]"
    | none => ""
  let choices := if o.choices.isEmpty then ""
    else " [possible values: " ++ ", ".intercalate (o.choices.map Prod.fst) ++ "]"
  o.about ++ usual ++ choices

def part (heading : String) (lines : List String) : List String :=
  if lines.isEmpty then [] else "" :: (heading ++ ":") :: lines

/-- Whether there is more to tell at length: what values to choose from mean. -/
def hasMore (p : Page) : Bool := p.options.any fun o => !o.choices.isEmpty

def lines (p : Page) (brief : Bool) : List String :=
  let told (rows : List (String × String)) : List String := table ((rows.map (·.1.length)).foldl max 0) rows
  let options := if p.hasMore && !brief then ([""].intercalate (p.options.map item))
    else
      let width := (p.options.map (·.spelled.length)).foldl max 0
      table (width + 4) (p.options.map fun o => (o.title, remark o))
  [p.about, "", "Usage: " ++ p.usage] ++ part "Commands" (told p.commands) ++
    part "Arguments" (told p.operands) ++ part "Options" options

end Page

/-- Options in the order in which they are shown: by their places, each among its own. -/
def arranged (own : List Opt) : List Opt :=
  let placed := own.zipIdx ++ commonOptions.zipIdx
  (placed.mergeSort fun a b => a.2 < b.2 || (a.2 = b.2 && a.1.key ≤ b.1.key)).map Prod.fst

/-- The option that asks for help, with a hint at the other spelling where that tells something else. -/
def helpOptionIn (options : List Opt) (brief : Bool) : Opt :=
  let hint := if options.all fun o => o.choices.isEmpty then ""
    else if brief then " (see more with '--help')"
    else " (see a summary with '-h')"
  { helpOption with about := "Print help" ++ hint }

def CommandEntry.operandText (c : CommandEntry) : Option String :=
  match c.operands with
  | .none => none
  | .one => some ("<" ++ c.operandName ++ ">")
  | .many => some ("[" ++ c.operandName ++ "]...")

def helpAbout : String := "Print this message or the help of the given subcommand(s)"

def Topic.page (brief : Bool) : Topic → Page
  | everything =>
    { about := "Compiled reduction kernel cache"
      usage := "genred [OPTIONS] <COMMAND>"
      commands := commands.map (fun c => (c.name, c.about)) ++ [("help", helpAbout)]
      options := arranged [] ++ [helpOptionIn [] brief, versionOption] }
  | command c =>
    let required := (c.options.filter Opt.required).map Opt.spelled
    { about := c.about
      usage := " ".intercalate (["genred", c.name, "[OPTIONS]"] ++ required ++ c.operandText.toList)
      operands := c.operandText.toList.map fun text => (text, c.operandAbout)
      options := arranged c.options ++ [helpOptionIn c.options brief] }
  | help =>
    { about := helpAbout
      usage := "genred help [COMMAND]..."
      operands := [("[COMMAND]...", "Print help for the subcommand(s)")] }

end KernelForge.Cli
