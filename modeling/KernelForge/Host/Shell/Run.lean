import KernelForge.Host.Shell.Launch

/-!
Running commands.

`run` evaluates a command in a state. Each kind of command has a function of its own, which is given the
evaluator for the commands inside it; every step inwards spends fuel, so every run ends.
-/
namespace KernelForge.Shell

section

variable (go : Evaluator) (fuel : Nat)

/-! ### Simple commands -/

def callLimit : Nat := 1000

/-- Gives variables back that were hidden. Only then is a name found that is none. -/
def uncover (hidden : List (String × Option Variable)) (st : State) : State :=
  let st := hidden.foldl (fun st v => st.restore v.1 v.2) st
  match hidden.find? fun v => v.1 ≠ "-" && !isName v.1.toList, st.flow with
  | some (name, _), none => st.fail (name ++ ": bad variable name")
  | _, _ => st

def call (tested : Bool) (body : Command) (args : List String) (st : State) : State :=
  if callLimit ≤ st.calls then
    st.fail ("Maximum function recursion depth (" ++ Text.Numeral.text callLimit ++ ") reached")
  else
    let inner := go tested body { st with
      args
      nextOption := 1
      looked := none
      hidden := []
      loops := 0
      calls := st.calls + 1
      isInFunction := true }
    let restored := { inner with
      args := st.args
      nextOption := st.nextOption
      looked := st.looked
      hidden := st.hidden
      loops := st.loops
      calls := st.calls
      isInFunction := st.isInFunction }
    let restored := match inner.flow with
      | some (.leave status) => { restored with flow := none, status }
      | _ => restored
    uncover inner.hidden restored

/-- The path of a script for the same shell. A name without a slash is looked for like a program. -/
def sourcePath? (st : State) (name : String) : Option String :=
  if name.toList.contains '/' then some name
  else
    let folders := (Text.splitAt ':' ((st.value? "PATH").getD "").toList).map String.ofList
    (folders.map fun f => if f = "" then name else Path.join f name).find? fun path =>
      st.disk.isFile (st.route path)

def source (args : List String) (st : State) : State :=
  st.doing "." fun st => Builtin.withLetters "." [] args st fun _ args =>
  match args with
  | [] => st.done 0
  | name :: _ =>
    match sourcePath? st name with
    | none => st.doing "." fun st => st.fail (name ++ ": not found")
    | some path =>
      match st.walk path with
      | .ok (.file id) =>
        let inner := st.doing path fun st =>
          runFile go (st.contentFrom id 0) { st with calls := st.calls + 1, line := 1 }
        let inner := { inner with calls := st.calls }
        match inner.flow with
        | some (.leave status) => { inner with flow := none, status }
        | _ => inner
      | .ok _ => st.done 0
      | .error fault =>
        let reason := if fault = .notFound || fault = .notFolder then "No such file" else fault.reason
        st.doing "." fun st => st.fail ("cannot open " ++ path ++ ": " ++ reason)

inductive Meaning where
  | keyword
  | standsFor (text : String)
  | function
  | special
  | builtin
  | program (path : String) (known : Bool)

def meaning? (name : String) (st : State) : Option Meaning :=
  if name ∈ reservedWords then some .keyword
  else match st.aliases.lookup name with
    | some text => some (.standsFor text)
    | none =>
      if name ∈ specialCommands && Builtin.isKnown name then some .special
      else if (st.functions.lookup name).isSome then some .function
      else if Builtin.isKnown name then some .builtin
      else if name.toList.contains '/' then
        -- A path means whatever is there.
        if (st.walk name).toOption.isSome then some (.program name false) else none
      else match st.located.lookup name, Installation.search st name "" with
        | some path, _ => some (.program path true)
        | none, .ok path =>
          if (Installation.executableAt st path).toOption.isSome then some (.program path false) else none
        | none, .error _ => none

def remember (name : String) (m : Option Meaning) (st : State) : State :=
  match m with
  | some (.program path false) =>
    if name.toList.contains '/' then st else { st with located := (name, path) :: st.located }
  | _ => st

def rememberAll (st : State) : Command → State
  | .pipe first second => rememberAll (rememberAll st first) second
  | .simple _ _ ([.text name false] :: _) _ =>
    if isName name.toList then remember name (meaning? name st) st else st
  | _ => st

def describe (names : List String) (st : State) : State :=
  names.foldl (fun st name =>
    let m := meaning? name st
    let said := match m with
      | some .keyword => name ++ " is a shell keyword"
      | some (.standsFor text) => name ++ " is an alias for " ++ text
      | some .function => name ++ " is a shell function"
      | some .special => name ++ " is a special shell builtin"
      | some .builtin => name ++ " is a shell builtin"
      | some (.program path true) => name ++ " is a tracked alias for " ++ path
      | some (.program path false) => name ++ " is " ++ path
      | none => name ++ ": not found"
    let st := remember name m (st.print (said ++ "\n"))
    if m.isNone then st.done 127 else st) (st.done 0)

def resolve (names : List String) (st : State) : State :=
  match names with
  | [] => st.done 0
  | name :: _ =>
    let m := meaning? name st
    let st := remember name m st
    match m with
    | some (.standsFor text) => (st.print ("alias " ++ Builtin.aliasLine name text)).done 0
    | some (.program path _) => (st.print (path ++ "\n")).done 0
    | some _ => (st.print (name ++ "\n")).done 0
    | none => st.done 127

def hash (args : List String) (st : State) : State :=
  Builtin.withLetters "hash" ['r'] args st fun letters names =>
    if 'r' ∈ letters then { st with located := [] }.done 0
    else if names.isEmpty then
      let listed := st.located.reverse.mergeSort fun a b =>
        State.placeOf a.1 31 ≤ State.placeOf b.1 31
      (st.print (String.join (listed.map fun l => l.2 ++ "\n"))).done 0
    else names.foldl (fun st name =>
      -- Only what would be run counts, and a path is taken as it is.
      let st' := { st with aliases := [] }
      match if name ∈ reservedWords then none else meaning? name st' with
      | none =>
        let fault := match Installation.search st name "" with
          | .error fault => if name = "" then Fault.permission else fault
          | .ok _ => .notFound
        if name.toList.contains '/' then st
        else st.complain (name ++ ": " ++ (if fault = .notFound then "not found" else fault.reason)) 1
      | m => remember name m st) (st.done 0)

def runBuiltin (f : List String → State → State) (name : String) (args : List String) (st : State) : State :=
  st.doing name fun st =>
    let after := f args { st with unwritten := none }
    match after.unwritten with
    | none => after
    | some _ =>
      let after := { after with unwritten := none }
      let status := after.status
      after.complain (name ++ ": I/O error") (if status % 2 = 1 then status else status + 1)

inductive Request where
  | words (usually : Bool) (words : List String)
  | path (usually : Bool) (names : List String)
  | meaning (usually : Bool) (names : List String)
  | unknown (letter : Char)

def request (usually : Bool) : (fuel : Nat) → List String → Request
  | fuel + 1, "command" :: args =>
    match Builtin.lettersOf ['p', 'v', 'V'] args with
    | .error c => .unknown c
    | .ok (letters, rest) =>
      let usually := usually || 'p' ∈ letters
      if 'V' ∈ letters then .meaning usually rest
      else if 'v' ∈ letters then .path usually rest
      else request usually fuel rest
  | _, words => .words usually words

def performWords (tested usually : Bool) : (words : List String) → State → State
  | [], st => st.done 0
  | "eval" :: args, st =>
    if args.isEmpty then st.done 0 else st.doing "eval" (runText go tested (" ".intercalate args))
  | "." :: args, st => source go args st
  | "exec" :: args, st =>
    match args with
    | [] => st.done 0
    | name :: args =>
      let after := st.doing "exec" (launch go true usually name args)
      if after.flow.isSome then after else after.exit after.status
  | "wait" :: args, st => wait go args st
  | "hash" :: args, st => runBuiltin hash "hash" args st
  | "type" :: names, st => runBuiltin describe "type" names st
  | name :: args, st =>
    match Builtin.find? name with
    | some f => runBuiltin f name args st
    | none => launch go false usually name args st

/-- Runs a command that is no function. An error ends the shell only in special commands. -/
def perform (tested : Bool) (words : List String) (st : State) : State :=
  let asked := request false words.length words
  -- Such a command has variables of its own, though no others see them.
  let isOwn : Bool := match asked with
    | .words _ ("local" :: _) => words.head? = some "command"
    | _ => false
  let after := match asked with
    | .words usually words =>
      performWords go tested usually words (if isOwn then { st with hidden := [], isInFunction := true } else st)
    | .path usually names => st.seeking usually (runBuiltin resolve "command" names)
    | .meaning usually names => st.seeking usually (runBuiltin describe "command" (names.take 1))
    | .unknown c =>
      st.doing "command" fun st => Builtin.misused st "command" ("Illegal option -" ++ String.singleton c)
  if words.headD "" ∈ specialCommands then after
  else if isOwn then
    uncover after.hidden { after.survive with hidden := st.hidden, isInFunction := st.isInFunction }
  else after.survive

def traceMark (st : State) : String :=
  let mark := (st.value? "PS4").getD "+ "
  match Reader.text { rest := mark.toList } with
  | .ok w => (expandText (substituted go) fuel .never w st).2
  | .error _ => mark

def trace (streams : List (Nat × Nat)) (assignments : List (String × String)) (fields : List String)
    (st : State) : State :=
  if st.options.traces then
    let shown := assignments.map (fun a => a.1 ++ "=" ++ a.2) ++ fields
    let line := traceMark go fuel st ++ " ".intercalate shown ++ "\n"
    { { st with streams }.write 2 (Text.Octets.toBytes line) with unwritten := st.unwritten, streams := st.streams }
  else st

def assignAll (exported : Bool) : List (String × Word) → State →
    State × List (String × Option Variable) × List (String × String)
  | [], st => (st, [], [])
  | (name, w) :: rest, st =>
    let (st, value) := expandText (substituted go) fuel .assignment w st
    if st.flow.isSome then (st, [], [])
    else
      let before := st.entry? name
      let st := st.assign name value
      let st := if exported && st.flow.isNone then
          st.setVariable name { (st.entry? name).getD {} with exported := true }
        else st
      if st.flow.isSome then (st, [], [])
      else
        let (st, olds, news) := assignAll exported rest st
        (st, (name, before) :: olds, (name, value) :: news)

def runSimple (tested : Bool) (line : Nat) (assignments : List (String × Word)) (words : List Word)
    (redirects : List Redirect) (st : State) : State :=
  let st := { st with line, taken := none }
  let (st, fields) := expandCommand (substituted go) fuel [] words st
  if st.flow.isSome then st
  else
    let streams := st.streams
    let name := fields.headD ""
    let isSpecial := name ∈ specialCommands
    let (st, ok) := redirect go fuel redirects st
    if !ok then
      let st := { st with streams }
      if st.flow.isNone && isSpecial then st.exit 2 else st
    else
      let lasting := fields.isEmpty || isSpecial
      let (st, olds, news) := assignAll go fuel (!lasting) assignments st
      if st.flow.isSome then { st with streams }
      else
        let st := if fields.isEmpty && news.isEmpty then st else trace go fuel streams news fields st
        if fields.isEmpty then { st with streams, status := st.taken.getD 0 }
        else
          let after := match (if isSpecial then none else st.functions.lookup name) with
            | some body => call go tested body fields.tail st
            | none => perform go tested fields st
          let after := if lasting then after else olds.foldr (fun v st => st.restore v.1 v.2) after
          match request false fields.length fields with
          | .words _ ("exec" :: _) => after
          | _ => after.reset streams (redirects.map Redirect.stream)

/-! ### Loops -/

def afterRound (st : State) : State × Bool :=
  match st.flow with
  | none => (st, true)
  | some (.skip again n) =>
    if 1 < n then ({ st with flow := some (.skip again (n - 1)) }, false) else ({ st with flow := none }, again)
  | some _ => (st, false)

def rounds (tested : Bool) (name : String) (body : Command) : List String → State → State
  | [], st => st
  | value :: rest, st =>
    let st := st.assign name value
    if st.flow.isSome then st
    else
      let (st, more) := afterRound (go tested body st)
      if more then rounds tested name body rest st else st

def roundsWhile (tested wanted : Bool) (condition body : Command) : (fuel status : Nat) → State → State
  | 0, _, st => { st with flow := some (.killed 9) }
  | fuel + 1, status, st =>
    let (st, more) := afterRound (go true condition st)
    if !more then st
    else if (st.status = 0) = wanted then
      let (st, more) := afterRound (go tested body st)
      if more then roundsWhile tested wanted condition body fuel st.status st else st
    else st.done status

def looping (f : State → State) (st : State) : State :=
  { f { st with loops := st.loops + 1 } with loops := st.loops }

/-! ### Choices -/

def chooseClause (value : List Char) : List (List Word × Command) → State → State × Option Command
  | [], st => (st, none)
  | (patterns, body) :: rest, st =>
    let (st, found) := patterns.foldl (fun (st, found) w =>
      if found || st.flow.isSome then (st, found)
      else
        let (st, pattern) := expandMarks (substituted go) fuel .start w st
        (st, Glob.accept (patternOf pattern) value)) (st, false)
    if st.flow.isSome then (st, none)
    else if found then (st, some body)
    else chooseClause value rest st

end

def check (tested : Bool) (st : State) : State :=
  if st.options.stopsOnFailure && !tested && st.status ≠ 0 && st.flow.isNone then st.exit st.status else st

section

variable (go : Evaluator) (fuel : Nat)

def runCommand (tested : Bool) (command : Command) (st : State) : State :=
  let attend (st : State) : State := runDue go (settleJobs go st).collect
  let orNothing (command : Command) (st : State) : State :=
    match command with
    | .nothing => st.done 0
    | c => go tested c st
  match command with
  | .nothing => st
  | .simple line assignments words redirects =>
    check tested (attend (runSimple go fuel tested line assignments words redirects st))
  | .define name body => { st with functions := (name, body) :: st.functions }.done 0
  | .pipe first second =>
    let (after, bytes) := st.capture fun st => subshell go (go tested first) st
    let after := rememberAll (after.done st.status) (.pipe first second)
    check tested (attend (subshell go (fun st => go tested second (st.feed 0 bytes)) after))
  | .sequence first second => go tested second (go tested first st)
  | .both first second =>
    let st := go true first st
    if st.status = 0 then go tested second st else st
  | .either first second =>
    let st := go true first st
    if st.status = 0 then st else go tested second st
  | .negate command =>
    let st := go true command st
    if st.flow.isSome then st else st.done (if st.status = 0 then 1 else 0)
  | .detach command => attend (detach go command st)
  | .forEach line name words body =>
    let st := { st with line }
    let (st, values) := match words with
      | some words => expandWords (substituted go) fuel words st
      | none => (st, st.args)
    if st.flow.isSome then st
    else if values.isEmpty then st.done 0
    else looping (rounds go tested name body values) st
  | .loop wanted condition body =>
    looping (roundsWhile go tested wanted condition body fuel 0) st
  | .branch condition yes no =>
    let st := go true condition st
    if st.flow.isSome then st
    else if st.status = 0 then go tested yes st
    else orNothing no st
  | .choose line word clauses =>
    let (st, value) := textIn go fuel word { st with line }
    if st.flow.isSome then st
    else
      let (st, body) := chooseClause go fuel value.toList clauses st
      if st.flow.isSome then st else orNothing (body.getD .nothing) st
  | .group line alone body redirects =>
    let inside (st : State) : State :=
      let (opened, ok) := redirect go fuel redirects { st with line }
      if ok then go tested body opened else check tested opened
    if alone then check tested (attend (subshell go inside st))
    else (inside st).reset st.streams (redirects.map Redirect.stream)

end

def run : (fuel : Nat) → (tested : Bool) → Command → State → State
  | 0, _, _, st => { st with flow := some (.killed 9) }
  | fuel + 1, tested, command, st =>
    if st.flow.isSome then st
    else if st.options.onlyReads then st.done 0
    else patiently (run fuel) (runCommand (run fuel) fuel tested command) fuel st

def fuelLimit : Nat := 100000

end KernelForge.Shell
