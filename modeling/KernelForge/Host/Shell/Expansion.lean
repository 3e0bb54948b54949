import KernelForge.Host.Shell.Arithmetic
import KernelForge.Host.Shell.Pattern
import KernelForge.Host.Shell.State

/-!
From words to fields.

The parts of a word are turned into text one after the other. What comes from an unquoted part is split at
separators, and then unquoted patterns are replaced by the names of the files that match. Commands in words are
run by a function that is given.
-/
namespace KernelForge.Shell

/-! ### Fields -/

/-- Fields under construction. Both lists are in reverse. -/
structure Fields where
  done : List (List Mark) := []
  current : Option (List Mark) := none
  quotes : Bool := false
  spaced : Bool := false
  strict : Bool := false

namespace Fields

def close (f : Fields) : Fields :=
  { f with done := (f.current.getD []).reverse :: f.done, current := none, quotes := false }

def separate (f : Fields) : Fields :=
  if f.current.isSome || f.quotes then f.close else f

def add (f : Fields) (s : String) (quoted : Bool) : Fields :=
  { f with
    current := some (s.toList.foldl (fun cs c => (c, quoted) :: cs) (f.current.getD []))
    spaced := false }

def isBlank (c : Char) : Bool := c = ' ' || c = '\t' || c = '\n'

def gap : Char := Char.ofNat 0

def addSplit (f : Fields) (separators : List Char) (s : String) : Fields :=
  let strict := f.strict
  s.toList.foldl (fun f c =>
    if c ∉ separators && c ≠ gap then f.add (String.singleton c) false
    else if (isBlank c || c = gap) && !strict then
      if f.current.isSome || f.quotes then { f.close with spaced := true } else f
    else if f.current.isNone && f.spaced then { f with spaced := false }
    else { f.close with spaced := false }) { f with spaced := false, strict := false }

def toList (f : Fields) : List (List Mark) := f.separate.done.reverse

end Fields

def textOf (cs : List Mark) : String := String.ofList (cs.map Prod.fst)

/-! ### Parameters -/

namespace State

def separators (st : State) : List Char := ((st.value? "IFS").getD " \t\n").toList

def joined (st : State) : String :=
  let gap := match st.value? "IFS" with
    | some s => String.ofList (s.toList.take 1)
    | none => " "
  gap.intercalate st.args

def optionLetters : List Char :=
  ['p', 'u', 'b', 'a', 'C', 'E', 'V', 'v', 'x', 's', 'n', 'm', 'i', 'I', 'f', 'e']

def flags (st : State) : String :=
  String.ofList (optionLetters.filter st.options.has)

def parameter? (st : State) : Parameter → Option String
  | .named name => st.value? name
  | .positional 0 => some st.name
  | .positional (n + 1) => st.args[n]?
  | .count => some (Text.Numeral.text st.args.length)
  | .all _ => some st.joined
  | .process => some (Text.Numeral.text st.process)
  | .status => some (Text.Numeral.text st.status)
  | .background => st.aside.map Text.Numeral.text
  | .flags => some st.flags

end State

namespace Parameter

def shown : Parameter → String
  | .named name => name
  | .positional n => Text.Numeral.text n
  | .count => "#"
  | .all true => "*"
  | .all false => "@"
  | .process => "$"
  | .status => "?"
  | .background => "!"
  | .flags => "-"

def demandable : Parameter → Bool
  | .all _ => false
  | _ => true

end Parameter

/-! ### File names -/

def isMagic (cs : List Mark) : Bool :=
  cs.any fun (c, quoted) => !quoted && (c = '*' || c = '?' || c = '[')

def segments (cs : List Mark) : List (List Mark) :=
  cs.foldr (fun (c, q) acc =>
    if c = '/' then [] :: acc
    else match acc with
      | first :: rest => ((c, q) :: first) :: rest
      | [] => [[(c, q)]]) [[]]

def matching (st : State) : (known : String) → List (List Mark) → List String
  | known, [] => [known]
  | known, segment :: rest =>
    let go (name : String) : List String :=
      matching st (if rest.isEmpty then known ++ name else known ++ name ++ "/") rest
    if isMagic segment then
      match st.list (if known = "" then "." else known) with
      | .error _ => []
      | .ok names =>
        let pattern := patternOf segment
        let dotted := (segment.head?.map Prod.fst) = some '.'
        let names := (if dotted then [".", ".."] else []) ++ names
        let names := names.filter fun name =>
          (dotted || name.toList.head? ≠ some '.') && Glob.accept pattern name.toList
        names.flatMap fun name => if rest.isEmpty || st.isFolder (known ++ name) then go name else []
    else
      let name := textOf segment
      let path := known ++ name
      if rest.isEmpty && path ≠ "" then
        match st.walkName path with
        | .ok _ => [path]
        | .error _ => []
      else go name

def pathsOf (st : State) (field : List Mark) : List String :=
  if st.options.literal || !isMagic field then [textOf field]
  else match matching st "" (segments field) with
    | [] => [textOf field]
    | paths => paths.mergeSort fun a b => a ≤ b

/-! ### Parts -/

abbrev Runner := Command → State → State

inductive Tilde where
  | never
  | start
  | assignment
deriving DecidableEq, Repr

structure Context where
  splits : Bool
  inBraces : Bool := false
  tilde : Tilde := .never
  first : Bool := true

def outputText (bytes : ByteArray) : String :=
  let cs := (Text.Octets.ofBytes bytes).toList.filter fun c => c ≠ Char.ofNat 0
  String.ofList (cs.reverse.dropWhile (· = '\n')).reverse

def homes : List (String × String) :=
  [("root", "/root"), ("daemon", "/usr/sbin"), ("bin", "/bin"), ("sys", "/dev"), ("sync", "/bin"),
   ("games", "/usr/games"), ("man", "/var/cache/man"), ("lp", "/var/spool/lpd"), ("mail", "/var/mail"),
   ("news", "/var/spool/news"), ("uucp", "/var/spool/uucp"), ("proxy", "/bin"), ("www-data", "/var/www"),
   ("backup", "/var/backups"), ("list", "/var/list"), ("irc", "/run/ircd"), ("_apt", "/nonexistent"),
   ("nobody", "/nonexistent")]

def homeOf (st : State) (name : List Char) : Option String :=
  if name.isEmpty then st.value? "HOME" else homes.lookup (String.ofList name)

def tildeAt? (st : State) (closed : Bool) : List Char → Option (String × List Char)
  | '~' :: cs =>
    let name := cs.takeWhile (· ≠ '/')
    let rest := cs.drop name.length
    if rest.isEmpty && !closed then none else (homeOf st name).map fun home => (home, rest)
  | _ => none

def tildes (st : State) (context : Context) (closed : Bool) (s : String) : List (Option String × String) :=
  let piece (mayStart closed : Bool) (cs : List Char) : Option String × String :=
    match if mayStart then tildeAt? st closed cs else none with
    | some (home, rest) => (some home, String.ofList rest)
    | none => (none, String.ofList cs)
  match context.tilde with
  | .never => [(none, s)]
  | .start => [piece context.first closed s.toList]
  | .assignment =>
    let pieces := Text.splitAt ':' s.toList
    pieces.zipIdx.map fun (cs, i) =>
      let (home, rest) := piece (context.first || 0 < i) (closed || i + 1 < pieces.length) cs
      (home, if i + 1 < pieces.length then rest ++ ":" else rest)

section

variable (run : Runner)

def addValue (context : Context) (st : State) (f : Fields) (value : String) (quoted : Bool) : Fields :=
  if quoted then f.add value true
  else if context.splits then f.addSplit st.separators value
  else f.add value false

def argumentPieces (context : Context) (st : State) (joined quoted : Bool) : List String :=
  let apart := context.splits && (if quoted then !joined else (st.value? "IFS").isSome)
  if apart then st.args else if st.args.isEmpty then [] else [st.joined]

def addPieces (context : Context) (st : State) (f : Fields) (joined quoted : Bool) (pieces : List String) :
    Fields :=
  let f := if quoted && !joined && context.splits && !pieces.isEmpty then { f with strict := true } else f
  match pieces with
  | [] => if quoted then f else addValue context st f "" false
  | [text] => addValue context st f text quoted
  | first :: rest =>
    if quoted then rest.foldl (fun f a => f.close.add a true) (f.add first true)
    else f.addSplit st.separators ((String.singleton Fields.gap).intercalate (first :: rest))

def addAll (context : Context) (st : State) (f : Fields) (joined quoted : Bool) : Fields :=
  if st.args.isEmpty && quoted && !joined && context.splits then
    if f.current.isNone then { f with quotes := false } else f
  else addPieces context st f joined quoted (argumentPieces context st joined quoted)

def cutFrontPieces (gs : List Glob) (longest : Bool) : List String → List String
  | [] => []
  | first :: rest =>
    if longest && Glob.accept gs first.toList then [""]
    else String.ofList (Glob.cutFront gs longest first.toList) :: rest

def cutAtFirst (gs : List Glob) : List String → Option (List String)
  | [] => none
  | first :: _ =>
    ((List.range (first.length + 1)).find? fun n => Glob.accept gs (first.toList.drop n)).map fun n =>
      [String.ofList (first.toList.take n)]

def cutAtLast (gs : List Glob) : List String → Option (List String)
  | [] => none
  | piece :: rest =>
    match cutAtLast gs rest with
    | some cut => some (piece :: cut)
    | none =>
      ((List.range (piece.length + 1)).reverse.find? fun n => Glob.accept gs (piece.toList.drop n)).map fun n =>
        [String.ofList (piece.toList.take n)]

def cutBackPieces (gs : List Glob) (longest : Bool) (pieces : List String) : List String :=
  ((if longest then cutAtFirst gs pieces else cutAtLast gs pieces)).getD pieces

def missing (st : State) (p : Parameter) (message : String) : State :=
  st.fail (p.shown ++ ": " ++ message)

def calculate (st : State) (expression : String) : State × String :=
  let fail (message : String) : State × String :=
    (st.fail ("arithmetic expression: " ++ message ++ ": \"" ++ expression ++ "\""), "")
  match Arithmetic.eval st.value? (Arithmetic.parse expression) [] with
  | .error (.expression message) => fail message
  | .error (.value s) => (st.fail ("Illegal number: " ++ s), "")
  | .ok (n, assigned) =>
    (assigned.reverse.foldl (fun st v => st.assign v.1 v.2) st, Text.Numeral.signedText n.toInt)

def expandParts : (fuel : Nat) → Context → List Part → State × Fields → State × Fields
  | 0, _, _, (st, f) => ({ st with flow := some (.killed 9) }, f)
  | _, _, [], (st, f) => (st, f)
  | fuel + 1, context, part :: rest, (st, f) =>
    if st.flow.isSome then (st, f)
    else
      let oneText (w : List Part) (st : State) : State × List Mark :=
        let (st, f) := expandParts fuel { splits := false, tilde := .start } w (st, {})
        (st, (f.current.getD []).reverse)
      let (st, f) := match part with
        | .text s true => (st, if s = "" then { f with quotes := f.current.isNone } else f.add s true)
        | .text s false =>
          (st, (tildes st context rest.isEmpty s).foldl (fun f (home, s) =>
            let f := match home with
              | some home => if home = "" then f else f.add home true
              | none => f
            if s = "" then f
            else if context.inBraces && context.splits then f.addSplit st.separators s
            else f.add s false) f)
        | .parameter (.all joined) quoted => (st, addAll context st f joined quoted)
        | .parameter p quoted =>
          match st.parameter? p with
          | some value => (st, addValue context st f value quoted)
          | none =>
            if st.options.demandsValues && p.demandable then (missing st p "parameter not set", f)
            else (st, if quoted then f.add "" true else f)
        | .length (.all joined) quoted =>
          let pieces := argumentPieces context st joined quoted
          let size := pieces.foldl (fun n s => n + s.length) (pieces.length - 1)
          (st, addValue context st f (Text.Numeral.text size) quoted)
        | .length p quoted =>
          match st.parameter? p with
          | none =>
            if st.options.demandsValues && p.demandable then (missing st p "parameter not set", f)
            else (st, addValue context st f "0" quoted)
          | some value => (st, addValue context st f (Text.Numeral.text value.length) quoted)
        | .adjusted p nullable adjustment word quoted =>
          let value := st.parameter? p
          let lacks := value.isNone || (!nullable && value = some "")
          let pieces (st : State) : List String :=
            match p with
            | .all joined => argumentPieces context st joined quoted
            | _ => [(st.parameter? p).getD ""]
          let own (st : State) (f : Fields) : Fields :=
            match p with
            | .all joined => addPieces context st f joined quoted (pieces st)
            | _ => addValue context st f (value.getD "") quoted
          let cut (shorten : List Glob → List String → List String) : State × Fields :=
            if value.isNone then
              if st.options.demandsValues && p.demandable then (missing st p "parameter not set", f)
              else (st, addValue context st f "" quoted)
            else
              let texts := pieces st
              let (st, pattern) := oneText word st
              (st, addPieces context st f (p ≠ .all false) quoted (shorten (patternOf pattern) texts))
          let instead (st : State) : State × Fields :=
            let f := if quoted then { f with quotes := f.current.isNone } else f
            let tilde := if quoted then .never else .start
            expandParts fuel { context with inBraces := true, tilde, first := true } word (st, f)
          match adjustment with
          | .substitute => if lacks then instead st else (st, own st f)
          | .alternate =>
            if lacks then (st, addValue context st f "" quoted) else instead st
          | .assign =>
            if lacks then
              let (st, cs) := oneText word st
              match p with
              | .named name =>
                let st := if st.flow.isSome then st else st.assign name (textOf cs)
                (st, addValue context st f (textOf cs) quoted)
              | p => (missing st p "bad variable name", f)
            else (st, own st f)
          | .demand =>
            if lacks then
              let (st, cs) := oneText word st
              let message :=
                if !word.isEmpty then textOf cs
                else if nullable then "parameter not set"
                else "parameter not set or null"
              (if st.flow.isSome then st else missing st p message, f)
            else (st, own st f)
          | .cutFront longest => cut fun gs => cutFrontPieces gs longest
          | .cutBack longest => cut fun gs => cutBackPieces gs longest
        | .output command quoted =>
          let (after, bytes) := st.capture (run command)
          let st := { after with taken := some after.status, status := st.status }
          (st, addValue context st f (outputText bytes) quoted)
        | .arithmetic expression quoted =>
          let (st, cs) := oneText expression st
          if st.flow.isSome then (st, f)
          else
            let (st, value) := calculate st (textOf cs)
            (st, addValue context st f value quoted)
        | .malformed => (st.fail "Bad substitution", f)
      expandParts fuel { context with first := false } rest (st, f)

def expandMarks (fuel : Nat) (tilde : Tilde) (w : Word) (st : State) : State × List Mark :=
  let (st, f) := expandParts run fuel { splits := false, tilde } w (st, {})
  (st, (f.current.getD []).reverse)

def expandText (fuel : Nat) (tilde : Tilde) (w : Word) (st : State) : State × String :=
  let (st, cs) := expandMarks run fuel tilde w st
  (st, textOf cs)

def expandWord (fuel : Nat) (w : Word) (st : State) : State × List String :=
  let (st, f) := expandParts run fuel { splits := true, tilde := .start } w (st, {})
  if st.flow.isSome then (st, []) else (st, f.toList.flatMap (pathsOf st))

def expandWords (fuel : Nat) : List Word → State → State × List String
  | [], st => (st, [])
  | w :: rest, st =>
    let (st, fields) := expandWord run fuel w st
    if st.flow.isSome then (st, [])
    else
      let (st, more) := expandWords fuel rest st
      (st, fields ++ more)

def assigningCommands : List String := ["alias", "export", "local", "readonly"]

/-- The fields of a command, of which some are known. The value of an assignment is not split if the command
makes assignments. -/
def expandCommand (fuel : Nat) : (known : List String) → List Word → State → State × List String
  | known, [], st => (st, known)
  | known, w :: rest, st =>
    let assigning := match (known.dropWhile (· = "command")).head? with
      | some name => name ∈ assigningCommands && (st.functions.lookup name).isNone
      | none => false
    match if assigning then assignment? w else none with
    | some (name, value) =>
      let (st, value) := expandText run fuel .assignment value st
      if st.flow.isSome then (st, [])
      else expandCommand fuel (known ++ [name ++ "=" ++ value]) rest st
    | none =>
      let (st, fields) := expandWord run fuel w st
      if st.flow.isSome then (st, []) else expandCommand fuel (known ++ fields) rest st

end

end KernelForge.Shell
