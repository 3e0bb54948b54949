import KernelForge.Cache.Error
import KernelForge.Cli.Grammar

/-!
What can be asked for on the command line.
-/
namespace KernelForge.Cli

structure Description where
  formula : String
  aliases : List String
  reduction : String := "Sum"
  k : Option UInt32 := none
  axis : UInt64 := 0
  precision : String := "float32"
  target : String := "cpu"
  flags : List String := []
deriving DecidableEq, Repr

inductive Format where
  | text
  | json
deriving DecidableEq, Repr

inductive Command where
  | fingerprint (kernel : Description)
  | build (kernel : Description) (force : Bool)
  | list (format : Format)
  | clean (names : List String)
deriving DecidableEq, Repr

structure Request where
  quiet : Bool
  verbose : Bool
  config : Option String
  command : Command
deriving DecidableEq, Repr

/-! ### Values -/

/-- The parameter of a reduction. A minus sign is allowed before zero. -/
def parameter? (text : String) : Option UInt32 :=
  let value := match text.toList with
    | '-' :: digits => (Text.Numeral.digits? 10 digits).filter fun n => n = 0
    | digits => Text.Numeral.read? 10 UInt32.size digits
  value.map Nat.toUInt32

def index? (text : String) : Option UInt64 :=
  Text.Numeral.word64? text.toList

def Format.ofName? : String → Option Format
  | "text" => some .text
  | "json" => some .json
  | _ => none

/-! ### Grammars -/

def helpOption : Opt :=
  { name := "help", short := some 'h', follower := .nothing, stops := some .help }

def versionOption : Opt :=
  { name := "version", short := some 'V', follower := .nothing, stops := some fun _ => .version
    about := "Print version" }

def commonOptions : List Opt :=
  [{ name := "quiet", short := some 'q', follower := .nothing
     about := "Suppress all output except errors" },
   { name := "verbose", short := some 'v', follower := .nothing
     about := "Enable verbose (debug-level) output" },
   { name := "config", valueName := "CONFIG", accepts := fun path => path ≠ ""
     about := "Path to a `genred.toml` configuration file" }]

def descriptionOptions : List Opt :=
  [{ name := "alias", short := some 'a', valueName := "ALIASES", repeats := true, required := true
     about := "Alias declarations, e.g. `x=Vi(0,3)`. Repeat for each alias" },
   { name := "reduction", short := some 'r', valueName := "REDUCTION", usual := some "Sum"
     about := "Reduction operator" },
   { name := "k", short := some 'k', long := false, valueName := "K"
     accepts := fun text => (parameter? text).isSome
     about := "Parameter of `KMin`, `ArgKMin` and `KMinArgKMin`" },
   { name := "axis", valueName := "AXIS", usual := some "0", accepts := fun text => (index? text).isSome
     about := "Reduction axis: 0 gives one row per `i`, 1 one row per `j`" },
   { name := "precision", short := some 'p', valueName := "PRECISION", usual := some "float32"
     about := "Scalar precision" },
   { name := "backend", short := some 'b', valueName := "BACKEND", usual := some "cpu"
     about := "Target backend" },
   { name := "flag", valueName := "FLAGS", follower := .anyValue, repeats := true
     about := "Extra build flag. Repeat for each flag" }]

structure CommandEntry where
  name : String
  about : String
  options : List Opt := []
  operands : Operands := .none
  operandName : String := ""
  operandAbout : String := ""

def fingerprintEntry : CommandEntry where
  name := "fingerprint"
  about := "Print the fingerprint of a formula"
  options := descriptionOptions
  operands := .one
  operandName := "FORMULA"
  operandAbout := "Formula body, e.g. `Exp(-SqDist(x,y))*b`"

def commands : List CommandEntry :=
  [fingerprintEntry,
   { fingerprintEntry with
     name := "build"
     about := "Compile a formula into the cache"
     options := descriptionOptions ++
       [{ name := "force", short := some 'f', follower := .nothing
          about := "Rebuild even if the kernel is already published" }] },
   { name := "list"
     about := "List published kernels"
     options :=
       [{ name := "format", short := some 'f', valueName := "FORMAT", usual := some "text"
          accepts := fun text => (Format.ofName? text).isSome
          about := "Output format"
          choices := [("text", "Human-readable table"), ("json", "Machine-readable JSON")] }] },
   { name := "clean"
     about := "Remove kernels from the cache"
     operands := .many
     operandName := "FINGERPRINTS"
     operandAbout := "Fingerprints to remove. Removes every kernel if omitted" }]

def mainGrammar : Grammar where
  options := commonOptions ++ [helpOption, versionOption]
  commands := "help" :: commands.map CommandEntry.name

def CommandEntry.grammar (c : CommandEntry) : Grammar :=
  { options := commonOptions ++ helpOption :: c.options, operands := c.operands }

/-! ### Reading a request -/

/-- The kernel that was described. The formula and at least one alias are required. -/
def Description.ofScan (s : Scan) : Except Stop Description :=
  match s.operands, s.values "alias" with
  | [formula], first :: more =>
    .ok {
      formula
      aliases := first :: more
      reduction := (s.value? "reduction").getD "Sum"
      k := (s.value? "k").bind parameter?
      axis := ((s.value? "axis").bind index?).getD 0
      precision := (s.value? "precision").getD "float32"
      target := (s.value? "backend").getD "cpu"
      flags := s.values "flag" }
  | _, _ => .error .usage

def Command.ofScan (name : String) (s : Scan) : Except Stop Command :=
  match name with
  | "fingerprint" => (Description.ofScan s).map .fingerprint
  | "build" => (Description.ofScan s).map fun kernel => .build kernel (s.has "force")
  | "list" => .ok (.list (((s.value? "format").bind Format.ofName?).getD .text))
  | "clean" => .ok (.clean s.operands)
  | _ => .error .usage

inductive Topic where
  | everything
  | command (entry : CommandEntry)
  | help

inductive Reply where
  | usage
  | version
  | help (topic : Topic) (brief : Bool)

def Stop.reply (topic : Topic) : Stop → Reply
  | usage => .usage
  | version => .version
  | help brief => .help topic brief

def Topic.ofWords : List String → Except Reply Topic
  | [] => .ok .everything
  | ["help"] => .ok .help
  | [name] =>
    match commands.find? fun c => c.name = name with
    | some c => .ok (.command c)
    | none => .error .usage
  | _ => .error .usage

/-- Reads a command line. An option that is given before and after the command counts as given after it. -/
def Request.parse (words : List String) : Except Reply Request := do
  let (before, command) ← (mainGrammar.scan {} words).mapError (Stop.reply .everything)
  match command with
  | none => .error .usage
  | some (name, rest) =>
    match commands.find? fun c => c.name = name with
    | none =>
      let topic ← Topic.ofWords rest
      .error (.help topic false)
    | some entry =>
      let (after, _) ← (entry.grammar.scan {} rest).mapError (Stop.reply (.command entry))
      let command ← (Command.ofScan name after).mapError (Stop.reply (.command entry))
      return {
        quiet := before.has "quiet" || after.has "quiet"
        verbose := before.has "verbose" || after.has "verbose"
        config := (after.value? "config").or (before.value? "config")
        command }

/-! ### Kernels -/

inductive DescriptionError where
  | formula (error : FormulaError)
  | target (error : CacheError)
deriving DecidableEq

def DescriptionError.message : DescriptionError → String
  | formula error => error.message
  | target error => error.message

namespace Description

def spec (d : Description) : Except FormulaError KernelSpec := do
  let aliases ← Alias.parseList d.aliases
  let reduction ← Reduction.ofName d.reduction d.k
  let precision ← Precision.parse d.precision
  let spec ← KernelSpec.create d.formula aliases reduction precision
  let axis ← Axis.ofIndex d.axis
  return (spec.withAxis axis).withFlags d.flags

def resolve (d : Description) : Except DescriptionError (KernelSpec × Target) :=
  match d.spec with
  | .error e => .error (.formula e)
  | .ok spec =>
    match Target.create d.target with
    | .error e => .error (.target e)
    | .ok target => .ok (spec, target)

end Description

end KernelForge.Cli
