import KernelForge.Host.Installation
import KernelForge.Host.Shell.Redirection
import KernelForge.Host.Tool.Printing

/-!
Programs that a shell starts, one of which is the shell itself.

A program is a tool, a shell with a script of its own, or a program that starts another one. It shares the files
and the streams with the shell that waits for it, and gets the variables that are meant for programs.
-/
namespace KernelForge.Shell

section

variable (go : Evaluator)

def runDue (st : State) : State :=
  if st.flow.isSome || st.due.isEmpty then st
  else
    let due := st.due.mergeSort fun a b => a.1 ≤ b.1
    let after := due.foldl (fun (st : State) d =>
      if st.flow.isSome then st else runText go false d.2 st) { st with due := [] }
    if after.flow.isSome then after else after.done st.status

/-! ### Commands that were put aside -/

def Command.steps : Command → List Command
  | .sequence first second => steps first ++ steps second
  | c => [c]

/-- Does what can be done of a command that was put aside without time passing, and notes when the rest is due.
What takes time is done when its time is over. -/
def advance : (own : Own) → (steps : List Command) → (job : Job) → State → State × Job
  | own, [], job, st => (st, { job with status := own.status, rest := none })
  | own, step :: steps, job, st =>
    let before : State := { toWorld := st.toWorld, toOwn := own }
    let after := go false step before
    let elapsed := after.disk.clock - st.disk.clock
    if let some (.blocked file) := after.flow then
      (st, { job with rest := some (own, step :: steps, st.disk.clock), stuck := some file })
    else if 0 < elapsed then (st, { job with rest := some (own, step :: steps, st.disk.clock + elapsed) })
    else
      let st := { st with toWorld := after.toWorld, jobs := st.jobs ++ after.jobs }
      match after.flow with
      | some (.exit status) => (st, { job with status := status % 256, rest := none })
      | some (.killed signal) => (st, { job with status := 128 + signal, signal := some signal, rest := none })
      | some _ => (st, { job with status := after.status, rest := none })
      | none => advance after.toOwn steps job st

def resume (job : Job) (st : State) : State × Job :=
  match job.rest with
  | some (own, step :: steps, time) =>
    let now := max time st.disk.clock
    let after := go false step { toWorld := st.toWorld, toOwn := own }
    let job := { job with stuck := none }
    let world := { after.toWorld with disk := { after.disk with clock := now } }
    let before := st
    let st := { st with toWorld := world, jobs := st.jobs ++ after.jobs }
    match after.flow with
    | some (.blocked file) => (before, { job with rest := some (own, step :: steps, now), stuck := some file })
    | some (.exit status) => (st, { job with status := status % 256, rest := none })
    | some (.killed signal) => (st, { job with status := 128 + signal, signal := some signal, rest := none })
    | some _ => (st, { job with status := after.status, rest := none })
    | none => advance go after.toOwn steps job st
  | _ => (st, { job with rest := none })

def Job.time? (job : Job) : Option Int := job.rest.map fun r => r.2.2

def isWriting (st : State) (file : Nat) : Bool :=
  st.streams.any fun s => (st.openings[s.2]?).any fun o => o.writes && o.target == .file file

def isReady (last : Option Int) (st : State) (job : Job) : Bool :=
  match job.time?, job.stuck with
  | some _, some file => !(st.disk.content file).isEmpty && (last.isNone || !isWriting st file)
  | some t, none => last.all fun l => t ≤ l
  | none, _ => false

/-- Runs jobs that are chosen, one step after the other, as long as one of them can go on. -/
def runJobs (isChosen : State → Job → Bool) (last : Option Int) : (fuel : Nat) → State → State
  | 0, st => st
  | fuel + 1, st =>
    let ready := st.jobs.filter fun j => isChosen st j && isReady last st j
    let first := ready.foldl (fun (best : Option Job) j =>
      match best with
      | none => some j
      | some b => if (j.time?.getD 0) < (b.time?.getD 0) then some j else some b) none
    match first with
    | none => st
    | some job =>
      let now := st.disk.clock
      let time := if job.stuck.isSome then now else (job.time?).getD now
      let st := { st with disk := { st.disk with clock := if last.isSome then time else max now time } }
      let (st, job) := resume go job st
      let jobs := st.jobs.map fun j => if j.process = job.process then job else j
      let st := { st with jobs, disk := { st.disk with clock := max now st.disk.clock } }
      runJobs isChosen last fuel st

def jobLimit : Nat := 10000

def settleJobs (st : State) : State :=
  if st.jobs.any (isReady (some st.disk.clock) st) then
    runJobs go (fun _ _ => true) (some st.disk.clock) jobLimit st
  else st

/-- Runs jobs that are chosen to their end. Those that wait for what nobody writes do not wait any longer. -/
def finishJobs (isChosen : State → Job → Bool) (st : State) : State :=
  let st := runJobs go isChosen none jobLimit st
  if st.jobs.any fun j => j.stuck.isSome && isChosen st j then
    let jobs := st.jobs.map fun j =>
      match j.stuck, j.rest with
      | some _, some (own, steps, time) =>
        { j with stuck := none, rest := some ({ own with hasty := true }, steps, time) }
      | _, _ => j
    runJobs go isChosen none jobLimit { st with jobs }
  else st

/-- Runs a command that may have to wait for something that jobs write. What it did before it had to wait is
done again. -/
def patiently (f : State → State) : (fuel : Nat) → State → State
  | 0, st => f st
  | fuel + 1, st =>
    let after := f st
    match after.flow with
    | some (.blocked file) =>
      let isMissing (st : State) : Bool := (st.disk.content file).isEmpty
      let later := runJobs go (fun st _ => isMissing st) none jobLimit st
      if !isMissing later then patiently f fuel later
      else if st.inner || 1 < st.ancestors.length then after
      else { f { later with hasty := true } with hasty := st.hasty }
    | _ => after

def isHeard (st : State) (job : Job) : Bool :=
  match job.rest with
  | some (own, _, _) => own.streams.any fun s =>
    match (st.openings[s.2]?).map Opening.target with
    | some .out => true
    | some .err => true
    | _ => false
  | none => false

def detach (command : Command) (st : State) : State :=
  let process := st.nextProcess
  let place := st.freePlace
  let st := { st with started := st.started + 1 }
  let traps := st.traps.filter fun t => t.2 = ""
  let inner := { st with reached := 1, inner := true, jobs := [], traps }.connect 0
    { target := .nothing, reads := true }
  let st := { st with toWorld := inner.toWorld }
  let finish (st : State) (job : Job) : State :=
    let jobs := st.jobs.filter fun j => j.lost || j.place ≠ place
    { st with aside := some process, jobs := jobs ++ [job] }.done 0
  let putAside (st : State) : State :=
    let steps := match command with
      | .group _ _ body [] => body.steps
      | c => [c]
    let (st, job) := advance go inner.toOwn steps { process, place } st
    finish st job
  if st.hurried then
    let after := st.apart fun st => runExit go (go false command { st with toOwn := inner.toOwn })
    match after.flow with
    | some (.blocked _) => putAside st
    | some _ => after
    | none => finish after { process, place, status := after.status }
  else putAside st

def State.tell (st : State) (isTold : Job → Bool) : State :=
  { st with jobs := st.jobs.map fun j =>
    if isTold j && j.rest.isNone then { j with noticed := true, waited := true } else j }

def isQuiet (st : State) : Bool :=
  !st.signals.any fun s => s.1 = st.process && (st.traps.lookup s.2).any (· ≠ "")

def interrupted (st : State) : State :=
  match st.signals.find? fun s => s.1 = st.process with
  | some s => st.done (128 + s.2)
  | none => st

def waitFor (process : Nat) (st : State) : State :=
  match st.jobs.find? fun j => j.process = process && !j.lost with
  | none => st.done 127
  | some before =>
    let st := finishJobs go (fun st j =>
      match st.jobs.find? fun j => j.process = process with
      | some target =>
        (target.time?).any (fun t => target.stuck.isSome || (j.time?).any (· ≤ t)) && isQuiet st
      | none => false) st
    if !isQuiet st then interrupted st
    else match st.jobs.find? fun j => j.process = process with
    | none => st.done 127
    | some job =>
      let said := if before.isGone then "" else (job.signal.map Signal.description).getD ""
      let st := if said = "" then st else st.protest said 0
      (st.tell fun j => j.process = process).done job.status

def wait (args : List String) (st : State) : State :=
  st.doing "wait" fun st => Builtin.withLetters "wait" [] args st fun _ args => match args with
  | [] =>
    let st := finishJobs go (fun st j => !j.lost && isQuiet st) st
    if isQuiet st then (st.tell fun j => !j.lost).done 0 else interrupted st
  | args =>
    (args.foldl (fun (st, stopped) arg =>
      if stopped then (st, true)
      else match Builtin.processOf? st arg with
        | some n => (waitFor go n st, false)
        | none =>
          let said := if arg.toList.head? = some '%' then Builtin.jobFlaw arg else "Illegal number: " ++ arg
          (Builtin.misused st "wait" said, true)) (st, false)).1

/-! ### Programs -/

structure Invocation where
  options : Options := {}
  inline : Bool := false
  piped : Bool := false
  rest : List String := []
  told : String := ""

def invocation : (fuel : Nat) → List String → Invocation → Except String Invocation
  | 0, _, i => .ok i
  | _, [], i => .ok { i with rest := [] }
  | fuel + 1, first :: rest, i =>
    match first.toList with
    | ['-'] => .ok { i with rest }
    | ['-', '-'] => .ok { i with rest }
    | [] => .ok { i with rest := first :: rest }
    | sign :: letters =>
      if sign ≠ '-' && sign ≠ '+' then .ok { i with rest := first :: rest }
      else
        let (r, rest) := Builtin.readLetters true (sign = '-') letters rest { options := i.options }
        match r.flaw with
        | some message => .error message
        | none => invocation fuel rest { i with
            options := r.options
            inline := i.inline || r.others.contains 'c'
            piped := i.piped || letters.contains 's'
            told := i.told ++ r.told }

def usualPath : String := "/usr/local/sbin:/usr/local/bin:/usr/sbin:/usr/bin:/sbin:/bin"

def freshValues (st : State) : List (String × Variable) :=
  let given := st.values.filter fun v => v.2.exported && v.1 ∉ ["IFS", "OPTIND", "PWD", "PPID"]
  let here := (st.here?.map pathText).getD ""
  let pwd := match st.environment.lookup "PWD" with
    | some p =>
      match st.walk p with
      | .ok (.folder id _) => if id = st.folder && Path.isAbsolute p then p else here
      | _ => here
    | none => here
  let usual (name value : String) : List (String × Variable) :=
    if (given.lookup name).isSome then [] else [(name, { value := some value })]
  [("IFS", { value := some " \t\n" }), ("OPTIND", { value := some "1" })] ++ usual "PATH" usualPath ++
    usual "PS1" "# " ++ usual "PS2" "> " ++ usual "PS4" "+ " ++ given ++
    [("PPID", { value := some (Text.Numeral.text st.process) }), ("PWD", { value := some pwd, exported := true })]

def shell (name : String) (args : List String) (st : State) : State :=
  let refuse (message : String) : State := (st.protest (name ++ ": 0: " ++ message) 2).exit 2
  let values := freshValues st
  let st := if st.here?.isSome then st
    else st.protest ("sh: 0: getcwd() failed: " ++ Fault.notFound.reason) st.status
  let fresh (st : State) (name : String) (args : List String) (i : Invocation) : State := { st with
    name, args, values
    options := i.options
    pwd := ((values.lookup "PWD").bind Variable.value).getD "/"
    functions := []
    aliases := []
    documents := []
    located := []
    within := none
    traps := []
    ignored := (st.traps.filter fun t => t.2 = "").map Prod.fst ++ st.ignored
    due := []
    process := st.nextProcess
    ancestors := st.process :: st.ancestors
    inner := false
    started := st.started + 1
    hidden := []
    looked := none
    nextOption := 1
    loops := 0
    calls := 0
    isInFunction := false
    aside := none
    jobs := []
    status := 0
    line := 1 }
  match invocation (args.length + 1) args {} with
  | .error message => refuse message
  | .ok i =>
    let st := if i.told = "" then st else st.write 1 (Text.Octets.toBytes i.told)
    let st := if i.options.has 'm' then
        st.protest (name ++ ": 0: can't access tty; job control turned off") st.status
      else st
    let i := { i with options := i.options.set 'm' false }
    let fresh := fresh st
    match i.inline, i.piped, i.rest with
    | true, _, [] => refuse "-c requires an argument"
    | true, _, script :: rest => runExit go (runText go false script (fresh (rest.headD name) rest.tail i))
    | false, false, path :: rest =>
      match st.walk path with
      | .ok (.file id) => runExit go (runFile go (st.contentFrom id 0) (fresh path rest i))
      | .ok _ => (fresh path rest i).exit 0
      | .error fault =>
        let reason := if fault = .notFound || fault = .notFolder then "No such file" else fault.reason
        refuse ("cannot open " ++ path ++ ": " ++ reason)
    | false, _, rest =>
      let (st', input) := st.drain 0
      let world := { st'.toWorld with started := st.started + 1 }
      runExit go (runFile go (input.toOption.getD ByteArray.empty) { fresh name rest i with toWorld := world })

def withVariables : List String → State → State × List String
  | [], st => (st, [])
  | arg :: rest, st =>
    if arg.toList.contains '=' then
      let (name, value) := Builtin.nameAndValue arg
      withVariables rest (st.setVariable name { value, exported := true })
    else (st, arg :: rest)

def environment (a : Tool.Arguments) (st : State) : State × List String :=
  let (bare, operands) := match a.operands with
    | "-" :: rest => (true, rest)
    | operands => (a.has 'i', operands)
  let st := if bare then { st with values := [] } else st
  let st := a.options.foldl (fun st o => if o.1 = 'u' then st.dropVariable o.2 else st) st
  withVariables operands st

def shownVariables (a : Tool.Arguments) (st : State) : List (String × String) :=
  let (bare, operands) := match a.operands with
    | "-" :: rest => (true, rest)
    | operands => (a.has 'i', operands)
  let kept := if bare then [] else st.environment
  let kept := kept.filter fun v => !(a.options.any fun o => o.1 = 'u' && o.2 = v.1)
  operands.foldl (fun all arg =>
    let (name, value) := Builtin.nameAndValue arg
    let value := value.getD ""
    if all.any fun v => v.1 = name then all.map fun v => if v.1 = name then (name, value) else v
    else all ++ [(name, value)]) kept

def wrapperFlaw? (name shown : String) (a : Tool.Arguments) : Option String :=
  match name with
  | "env" =>
    (a.options.find? fun o => o.1 = 'u' && (o.2 = "" || o.2.toList.contains '=')).map fun o =>
      "cannot unset " ++ Tool.quoteText o.2 ++ ": " ++ Fault.invalid.reason
  | "timeout" =>
    (a.options.find? fun o => o.1 = 's' && (Signal.number? o.2).isNone).map fun o =>
      Tool.quoteText o.2 ++ ": invalid signal\n" ++ Tool.helpHint shown
  | _ => none

def wrapper? (name : String) : Option (Tool.Grammar × Nat) :=
  match name with
  | "env" => some ({
      plain := "i0v"
      valued := "uCS"
      long := [("ignore-environment", 'i'), ("unset", 'u'), ("null", '0'), ("chdir", 'C'), ("split-string", 'S'),
        ("debug", 'v')]
      ordered := true
      misuse := 125 }, 0)
  | "timeout" => some ({
      plain := "pfv"
      valued := "ks"
      long := [("kill-after", 'k'), ("signal", 's'), ("preserve-status", 'p'), ("foreground", 'f'),
        ("verbose", 'v')]
      ordered := true
      misuse := 125 }, 1)
  | _ => none

def testTool (name : String) (args : List String) (st : State) : State :=
  match Condition.eval st false args with
  | .ok b => st.done (if b then 0 else 1)
  | .error flaw =>
    -- Of two or three words, one has to be an operator.
    let words := if args.head? = some "!" && 2 < args.length && args.length < 5 then args.tail else args
    let message := match flaw, words with
      | .illegalNumber s, _ => "invalid integer " ++ Tool.quoteText s
      | _, [a, b] =>
        if a.length = 2 && a.toList.head? = some '-' then Tool.quoteText a ++ ": unary operator expected"
        else "missing argument after " ++ Tool.quoteText b
      | _, [_, op, _] => Tool.quoteText op ++ ": binary operator expected"
      | .argumentExpected op, _ => "missing argument after " ++ Tool.quoteText op
      | .unclosed, _ => "')' expected"
      | .unexpected _ next, _ => "extra argument " ++ Tool.quoteText next
    st.protest (name ++ ": " ++ message) 2

def withDeadline (time : Int) (f : State → State) (st : State) : State × Bool :=
  let mine := st.disk.clock + time
  let last := (st.deadline.map (min mine)).getD mine
  let after := f { st with deadline := some last }
  match after.flow with
  | some .overdue =>
    if mine ≤ last then ({ after with deadline := st.deadline, flow := none }, false)
    else ({ after with deadline := st.deadline }, true)
  | _ => ({ after with deadline := st.deadline }, true)

/-- Tools that put out at once what they write. All others keep it until they end or complain. -/
def promptTools : List String := ["cat", "true", "false", "sleep"]

def backwardTools : List String := ["tac"]

def holding (frank : Bool) (f : State → State) (st : State) : State :=
  match st.openingOf? 1 with
  | none => f st
  | some out =>
    let n := st.buffers.size
    let kept := if frank then some (n, out) else none
    let after := f ({ st with buffers := st.buffers.push ByteArray.empty, kept }.connect 1
      { target := .pipe n, writes := true, keptFor := st.fileOf? 1 })
    let bytes := (after.buffers[n]?).getD ByteArray.empty
    let after := { after with
      streams := st.streams
      buffers := after.buffers.modify n fun _ => ByteArray.empty
      kept := st.kept }
    { after.write 1 bytes with status := after.status }

def execute : (depth : Nat) → Installation.Startable → State → State
  | 0, _, st => st.done 126
  | depth + 1, p, st =>
    let shown := p.shown
    let args := p.args
    match p.program with
    | "dash" => shell go shown args st
    | "bash" => shell go shown args st
    | "printf" => Tool.settleOutput p.program shown (holding true (Tool.printf shown args) st)
    | "test" => testTool shown args st
    | "[" =>
      if args.getLast? = some "]" then testTool shown args.dropLast st
      else st.protest (shown ++ ": missing ']'") 2
    | name =>
      match wrapper? name, Tool.find? name with
      | some (grammar, skipped), _ =>
        Tool.withArguments shown grammar args st fun a st =>
          if let some message := wrapperFlaw? name shown a then st.protest (shown ++ ": " ++ message) 125 else
          let split := ((a.value? 'S').map fun s =>
            ((Text.splitAt ' ' s.toList).filter fun w => !w.isEmpty).map String.ofList).getD []
          let a := { a with operands := split ++ a.operands }
          let (inner, rest) := if name = "env" then environment a st else (st, a.operands.drop skipped)
          let moved := match (if name = "env" then a.value? 'C' else none) with
            | none => some inner
            | some path =>
              match st.walk path with
              | .ok (.folder id _) => some { inner with folder := id }
              | _ => none
          let time := if name = "timeout" then a.operands.head?.map Tool.interval? else none
          match moved, time, rest with
          | none, _, _ =>
            let path := (a.value? 'C').getD ""
            let reason := match st.walk path with
              | .error fault => fault.reason
              | .ok _ => Fault.notFolder.reason
            st.protest (shown ++ ": cannot change directory to " ++ Tool.quote path ++ ": " ++ reason) 125
          | some _, _, [] =>
            if name = "env" then
              let finish := if a.has '0' then "\x00" else "\n"
              Tool.settleOutput name shown (st.print (String.join ((shownVariables a st).map fun (n, v) =>
                n ++ "=" ++ v ++ finish)))
            else if name = "timeout" then
              st.protest ("Try '" ++ shown ++ " --help' for more information.") 125
            else Tool.misused shown "missing operand" 125 st
          | some _, some none, _ =>
            Tool.misused shown ("invalid time interval " ++ Tool.quoteText (a.operands.headD "")) 125 st
          | some inner, time, program :: args =>
            match Installation.start inner true program args with
            | .error fault =>
              let what := if name = "timeout" then "failed to run command " ++ Tool.quoteText program
                else Tool.quoteText program
              -- Blanks in a name come from the first line of a script.
              let hint := if name = "env" && fault = .notFound && program.toList.any Char.isWhitespace then
                  "\n" ++ shown ++ ": use -[v]S to pass options in shebang lines"
                else ""
              st.protest (shown ++ ": " ++ what ++ ": " ++ fault.reason ++ hint)
                (if fault = .notFound then 127 else 126)
            | .ok p =>
              match time with
              | some (some t) =>
                let (after, enough) :=
                  if t = 0 then (execute depth p inner, true) else withDeadline t (execute depth p) inner
                let signal := ((a.value? 's').bind Signal.number?).getD 15
                let after := if enough || !a.has 'v' then after
                  else after.protest (shown ++ ": sending signal " ++ Signal.name signal ++
                    " to command " ++ Tool.quoteText program) after.status
                if enough then after
                else if signal = 9 then { after with flow := some (.killed 9) }
                else after.done (if a.has 'p' then 128 + signal else 124)
              | _ => execute depth p inner
      | none, some tool =>
        let work (st : State) : State := Tool.settleInput name shown (tool shown args st)
        Tool.settleOutput name shown (if name ∈ promptTools then work st
          else holding (name ∉ backwardTools) work st)
      | none, none => st.done 127

def depthLimit : Nat := 64

def State.seeking (st : State) (usually : Bool) (f : State → State) : State :=
  if usually then
    let before := st.entry? "PATH"
    let after := f { st with values := State.setEntry "PATH" { value := some usualPath } st.values }
    { after with values := match before with
      | some v => State.setEntry "PATH" v after.values
      | none => after.values.filter fun v => v.1 ≠ "PATH" }
  else f st

/-- Starts a program from a shell and waits for it, or lets it take the shell's place. The program may be
looked for in the usual folders only. -/
def launch (inPlace usually : Bool) (name : String) (args : List String) (st : State) : State :=
  let seeker := if usually then { st with values := [("PATH", { value := some usualPath })] } else st
  match Installation.start seeker true name args "" with
  | .error fault =>
    let lacks := fault = .notFound || fault = .notFolder
    let reason := if lacks then "not found" else fault.reason
    let isPlain := !inPlace && !name.toList.contains '/' && (Installation.search seeker name "").toOption.isNone
    let isOut := (lacks && name ≠ "") || isPlain || fault = .nameTooLong || fault = .tooManyLinks
    let status := if isOut then 127 else 126
    let reason := if name = "" then Fault.permission.reason else reason
    st.complain (name ++ ": " ++ reason) status
  | .ok p =>
    let path := (Installation.search seeker name "").toOption.getD name
    let st := if usually || name.toList.contains '/' || (st.located.lookup name).isSome then st
      else { st with located := (name, path) :: st.located }
    let after := st.apart fun st =>
      execute go depthLimit p { st with values := st.values.filter fun v => v.2.exported }
    let after := if inPlace && after.flow.isNone then { after with traps := [] }.exit after.status else after
    match after.flow with
    | some (.killed signal) =>
      if inPlace then after
      else
        let said := Signal.description signal
        let after := if said = "" then after else after.write 2 (said ++ "\n").toUTF8
        { after with flow := none, status := 128 + signal }
    | _ => after

end

end KernelForge.Shell
