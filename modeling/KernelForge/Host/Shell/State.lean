import KernelForge.Host.FileSystem
import KernelForge.Host.Shell.Signal
import KernelForge.Host.Shell.Syntax
import KernelForge.Text.Octets

/-!
The state of a shell while it runs a script.

Processes share a world: the disk, the files they have open, and what the whole program has said so far. All
else is a process's own: its folder, its arguments, its variables, and where its streams lead. Texts are
bytes throughout.
-/
namespace KernelForge.Shell

/-! ### Open files -/

inductive Target where
  | out
  | err
  | file (id : Nat)
  | pipe (n : Nat)
  | folder
  | nothing
deriving DecidableEq, Repr

structure Opening where
  target : Target
  position : Nat := 0
  reads : Bool := false
  writes : Bool := false
  appends : Bool := false
  keptFor : Option Nat := none
deriving DecidableEq, Repr

inductive Holder where
  | starter
  | guard (n : Nat)
  | opening (n : Nat)
deriving DecidableEq, Repr

structure Lock where
  holder : Holder
  file : Nat
  shared : Bool := false
deriving DecidableEq, Repr

structure World where
  disk : Disk
  openings : Array Opening :=
    #[{ target := .nothing, reads := true }, { target := .out, writes := true }, { target := .err, writes := true }]
  buffers : Array ByteArray := #[]
  out : ByteArray := ByteArray.empty
  err : ByteArray := ByteArray.empty
  started : Nat := 0
  signals : List (Nat × Nat) := []
  locks : List Lock := []

/-! ### A process's own -/

inductive Flow where
  | exit (status : Nat)
  | failed (status : Nat)
  | killed (signal : Nat)
  | leave (status : Nat)
  | skip (again : Bool) (levels : Nat)
  | overdue
  | blocked (file : Nat)
deriving DecidableEq, Repr

structure Variable where
  value : Option String := none
  exported : Bool := false
  fixed : Bool := false
deriving DecidableEq, Repr

structure Options where
  letters : List Char := []
deriving DecidableEq, Repr

namespace Options

def has (o : Options) (letter : Char) : Bool := o.letters.contains letter

def set (o : Options) (letter : Char) (on : Bool) : Options :=
  let others := o.letters.filter (· ≠ letter)
  ⟨if on then letter :: others else others⟩

def setLetter (o : Options) (letter : Char) (on : Bool) : Options :=
  let o := o.set letter on
  if !on then o else if letter = 'V' then o.set 'E' false else if letter = 'E' then o.set 'V' false else o

def stopsOnFailure (o : Options) : Bool := o.has 'e'

def demandsValues (o : Options) : Bool := o.has 'u'

def literal (o : Options) : Bool := o.has 'f'

def traces (o : Options) : Bool := o.has 'x'

def onlyReads (o : Options) : Bool := o.has 'n'

def echoes (o : Options) : Bool := o.has 'v'

def keepsFiles (o : Options) : Bool := o.has 'C'

def exportsAll (o : Options) : Bool := o.has 'a'

end Options

structure Own where
  folder : Nat
  pwd : String := "/"
  mask : Nat := 0o022
  name : String := "sh"
  args : List String := []
  values : List (String × Variable) := []
  functions : List (String × Command) := []
  aliases : List (String × String) := []
  documents : List (Nat × Word) := []
  options : Options := {}
  streams : List (Nat × Nat) := [(0, 0), (1, 1), (2, 2)]
  process : Nat := 4095
  ancestors : List Nat := []
  inner : Bool := false
  line : Nat := 1
  reached : Nat := 1
  status : Nat := 0
  flow : Option Flow := none
  taken : Option Nat := none
  unwritten : Option Fault := none
  unread : Bool := false
  aside : Option Nat := none
  loops : Nat := 0
  calls : Nat := 0
  isInFunction : Bool := false
  hidden : List (String × Option Variable) := []
  traps : List (Nat × String) := []
  ignored : List Nat := []
  due : List (Nat × String) := []
  nextOption : Nat := 1
  looked : Option Nat := none
  hurried : Bool := false
  deadline : Option Int := none
  hasty : Bool := false
  limits : List (Char × Option Nat × Option Nat) := []
  located : List (String × String) := []
  within : Option String := none
  kept : Option (Nat × Nat) := none

structure Job where
  process : Nat
  place : Nat := 1
  status : Nat := 0
  signal : Option Nat := none
  rest : Option (Own × List Command × Int) := none
  stuck : Option Nat := none
  lost : Bool := false
  noticed : Bool := false
  waited : Bool := false

namespace Job

/-- A job that a signal ends. One that has ended does not notice. -/
def fall (job : Job) (signal : Nat) : Job :=
  if job.rest.isSome then { job with status := 128 + signal, signal := some signal, rest := none } else job

def isGone (job : Job) : Bool := job.rest.isNone && job.noticed

end Job

structure State extends World, Own where
  jobs : List Job := []

namespace State

def ownJobs (st : State) : List Job := (st.jobs.filter fun j => !j.lost).reverse

/-- The place of a new job: the first that is free. The place of one whose status was told is free. -/
def freePlace (st : State) : Nat :=
  let taken := (st.ownJobs.filter fun j => j.rest.isSome || !j.waited).map Job.place
  (((List.range (taken.length + 1)).map (· + 1)).find? fun n => n ∉ taken).getD 1

/-! ### Streams -/

def openingOf? (st : State) (stream : Nat) : Option Nat :=
  st.streams.lookup stream

def opening? (st : State) (stream : Nat) : Option Opening :=
  (st.openingOf? stream).bind fun n => st.openings[n]?

def fileOf? (st : State) (stream : Nat) : Option Nat :=
  (st.opening? stream).bind fun o =>
    match o.target with
    | .file id => some id
    | _ => o.keptFor

def streamAt? (path : String) : Option Nat :=
  match path with
  | "/dev/stdin" => some 0
  | "/dev/stdout" => some 1
  | "/dev/stderr" => some 2
  | path =>
    match path.toList.take 8, path.toList.drop 8 with
    | ['/', 'd', 'e', 'v', '/', 'f', 'd', '/'], digits => Text.Numeral.digits? 10 digits
    | _, _ => none

def attach (st : State) (stream n : Nat) : State :=
  { st with streams := (stream, n) :: st.streams.filter fun s => s.1 ≠ stream }

def connect (st : State) (stream : Nat) (opening : Opening) : State :=
  { st with openings := st.openings.push opening }.attach stream st.openings.size

def disconnect (st : State) (stream : Nat) : State :=
  { st with streams := st.streams.filter fun s => s.1 ≠ stream }

def reset (st : State) (before : List (Nat × Nat)) (streams : List Nat) : State :=
  streams.foldl (fun st s =>
    match before.lookup s with
    | some n => st.attach s n
    | none => st.disconnect s) st

def feed (st : State) (stream : Nat) (bytes : ByteArray) : State :=
  { st with buffers := st.buffers.push bytes }.connect stream { target := .pipe st.buffers.size, reads := true }

def overwrite (old : ByteArray) (position : Nat) (bytes : ByteArray) : ByteArray :=
  if position = old.size then old ++ bytes
  else if position < old.size then
    old.extract 0 position ++ bytes ++ old.extract (position + bytes.size) old.size
  else old ++ ⟨Array.replicate (position - old.size) 0⟩ ++ bytes

def lose (st : State) (fault : Fault) : State := { st with unwritten := some fault }

def emit (st : State) (n : Nat) (o : Opening) (bytes : ByteArray) : State :=
  match o.target with
  | .out => { st with out := st.out ++ bytes }
  | .err => { st with err := st.err ++ bytes }
  | .nothing | .folder => st
  | .pipe b => { st with buffers := st.buffers.modify b (· ++ bytes) }
  | .file id =>
    match (st.disk.node id).kind with
    | .device .full => st.lose .noSpace
    | .device _ => st
    | .pipe => { st with disk := st.disk.setContent id (st.disk.content id ++ bytes) }
    | _ =>
      let old := st.disk.content id
      let position := if o.appends then old.size else o.position
      { st with
        disk := st.disk.setContent id (overwrite old position bytes)
        openings := st.openings.modify n fun o => { o with position := position + bytes.size } }

def write (st : State) (stream : Nat) (bytes : ByteArray) : State :=
  if bytes.isEmpty then st
  else match st.openingOf? stream, st.opening? stream with
    | some n, some o => if o.writes then st.emit n o bytes else st.lose .badStream
    | _, _ => st.lose .badStream

def print (st : State) (s : String) : State := st.write 1 (Text.Octets.toBytes s)

def endless : Nat := 131072

def contentFrom (st : State) (id position : Nat) : ByteArray :=
  match (st.disk.node id).kind with
  | .device .zero => ⟨Array.replicate endless 0⟩
  | .device .full => ⟨Array.replicate endless 0⟩
  | .device .null => ByteArray.empty
  | _ =>
    let content := st.disk.content id
    content.extract position content.size

def pass (st : State) (time : Int) : State :=
  let now := st.disk.clock + time
  match st.deadline with
  | some last =>
    if last < now then { st with disk := { st.disk with clock := max st.disk.clock last }, flow := some .overdue }
    else { st with disk := { st.disk with clock := now } }
  | none => { st with disk := { st.disk with clock := now } }

def await (st : State) (file : Nat) : State :=
  if (st.disk.node file).kind ≠ .pipe || !(st.disk.content file).isEmpty then st
  else if !st.hasty then { st with flow := some (.blocked file) }
  else match st.deadline with
    | some last => st.pass (last - st.disk.clock + 1)
    | none => st

def awaitInput (st : State) (stream : Nat) : State :=
  match st.opening? stream with
  | some o =>
    match o.target with
    | .file id => if o.reads && o.writes then st.await id else st
    | _ => st
  | none => st

def input (st : State) (stream : Nat) : Except Fault ByteArray :=
  match st.opening? stream with
  | none => .error .badStream
  | some o =>
    if !o.reads then .error .badStream
    else match o.target with
      | .pipe n =>
        let buffer := (st.buffers[n]?).getD ByteArray.empty
        .ok (buffer.extract o.position buffer.size)
      | .file id => .ok (st.contentFrom id o.position)
      | .folder => .error .isFolder
      | _ => .ok ByteArray.empty

def consume (st : State) (stream count : Nat) : State :=
  match st.openingOf? stream, st.opening? stream with
  | some n, some o =>
    match o.target with
    | .file id =>
      match (st.disk.node id).kind with
      | .pipe =>
        let content := st.disk.content id
        { st with disk := st.disk.setContent id (content.extract count content.size) }
      | _ => { st with openings := st.openings.modify n fun o => { o with position := o.position + count } }
    | _ => { st with openings := st.openings.modify n fun o => { o with position := o.position + count } }
  | _, _ => st

def giveBack (st : State) (stream count : Nat) : State :=
  match st.openingOf? stream, st.opening? stream with
  | some n, some o =>
    match o.target with
    | .file id =>
      if (st.disk.node id).kind = .regular then
        { st with openings := st.openings.modify n fun o => { o with position := o.position - count } }
      else st
    | _ => st
  | _, _ => st

def drain (st : State) (stream : Nat) : State × Except Fault ByteArray :=
  let st := st.awaitInput stream
  match st.input stream with
  | .ok bytes => (st.consume stream bytes.size, .ok bytes)
  | .error fault => ({ st with unread := st.unread || fault = .badStream }, .error fault)

/-! ### Ends -/

def done (st : State) (status : Nat) : State := { st with status }

def release (st : State) : State :=
  match st.kept with
  | none => st
  | some (buffer, opening) =>
    match st.openings[opening]?, (st.buffers[buffer]?).getD ByteArray.empty with
    | some o, bytes =>
      if bytes.isEmpty || !o.writes then st
      else { st with buffers := st.buffers.modify buffer fun _ => ByteArray.empty }.emit opening o bytes
    | none, _ => st

def protest (st : State) (line : String) (status : Nat) : State :=
  let st := st.release
  let unwritten := st.unwritten
  { st.write 2 (Text.Octets.toBytes (line ++ "\n")) with unwritten, status }

def complain (st : State) (message : String) (status : Nat) : State :=
  let who := match st.within with
    | some command => command ++ ": "
    | none => ""
  st.protest (st.name ++ ": " ++ Text.Numeral.text st.line ++ ": " ++ who ++ message) status

def doing (st : State) (command : String) (f : State → State) : State :=
  { f { st with within := some command } with within := st.within }

def exit (st : State) (status : Nat) : State :=
  { st with status, flow := some (.exit status) }

def fail (st : State) (message : String) : State :=
  { st.complain message 2 with flow := some (.failed 2) }

def survive (st : State) : State :=
  match st.flow with
  | some (.failed status) => { st with flow := none, status }
  | _ => st

/-! ### Signals -/

def nextProcess (st : State) : Nat := 4096 + st.started

def receive (st : State) (signal : Nat) : State :=
  if st.inner then { st with signals := st.signals ++ [(st.process, signal)] }
  else if signal ∈ st.ignored && Signal.isCaught signal then st
  else match (if Signal.isCaught signal then st.traps.lookup signal else none) with
    | some "" => st
    | some commands =>
      if (st.due.lookup signal).isSome then st else { st with due := st.due ++ [(signal, commands)] }
    | none => if Signal.isQuiet signal then st else { st with flow := some (.killed signal) }

def collect (st : State) : State :=
  if st.inner || st.signals.isEmpty then st
  else
    let (mine, others) := st.signals.partition fun s => s.1 = st.process
    mine.foldl (fun st s => st.receive s.2) { st with signals := others }

/-! ### Variables -/

def entry? (st : State) (name : String) : Option Variable :=
  st.values.lookup name

def value? (st : State) (name : String) : Option String :=
  (st.entry? name).bind Variable.value

/-- Gives a name an entry among variables. One that is there keeps its place. -/
def setEntry (name : String) (v : Variable) : List (String × Variable) → List (String × Variable)
  | [] => [(name, v)]
  | x :: rest => if x.1 = name then (name, v) :: rest else x :: setEntry name v rest

def setVariable (st : State) (name : String) (v : Variable) : State :=
  { st with
    values := setEntry name v st.values
    located := if name = "PATH" then [] else st.located }

def dropVariable (st : State) (name : String) : State :=
  { st with values := st.values.filter fun x => x.1 ≠ name }

def number? (s : String) : Option Nat :=
  let cs := (s.toList.dropWhile Char.isWhitespace).reverse.dropWhile Char.isWhitespace
  Text.Numeral.read? 10 (2 ^ 31) cs.reverse

def lookFrom (st : State) (index : Nat) : State := { st with nextOption := max 1 index, looked := none }

def store (st : State) (name value : String) : State :=
  let v := (st.entry? name).getD {}
  if v.fixed then st.fail (name ++ ": is read only")
  else st.setVariable name { v with value := some value, exported := v.exported || st.options.exportsAll }

def assign (st : State) (name value : String) : State :=
  let after := st.store name value
  if name ≠ "OPTIND" || after.flow.isSome then after
  else match number? value with
    | some n => after.lookFrom n
    | none => st.fail ("Illegal number: " ++ value)

def publish (st : State) (name value : String) : State :=
  let st := st.assign name value
  if st.flow.isSome then st
  else st.setVariable name { (st.entry? name).getD {} with value := some value, exported := true }

def restore (st : State) (name : String) (v : Option Variable) : State :=
  if name = "-" then { st with options := ⟨((v.bind Variable.value).getD "").toList⟩ }
  else
    let st := if name = "OPTIND" then st.lookFrom (((v.bind Variable.value).bind number?).getD 1) else st
    match v with
    | some v => st.setVariable name v
    | none => st.dropVariable name

def placeOf (name : String) (rows : Nat := 39) : Nat :=
  let codes := name.toList.map Char.toNat
  (codes.headD 0 * 16 + codes.sum) % rows

def environment (st : State) : List (String × String) :=
  let given := st.values.filterMap fun (name, v) => if v.exported then v.value.map fun s => (name, s) else none
  given.mergeSort fun a b => placeOf a.1 ≤ placeOf b.1

/-! ### Shells in shells -/

/-- What a command does in a process of its own. The world is shared; all else stays as it was outside, but for
the status. A shell that is killed takes the one outside with it. -/
def apart (st : State) (f : State → State) : State :=
  let inside := f { st with jobs := [] }
  let left := (inside.jobs.filter fun j => j.rest.isSome).map fun j => { j with lost := true }
  let mine := st.jobs.map fun j => if j.rest.isNone then { j with noticed := true } else j
  let after := { st with toWorld := inside.toWorld, jobs := mine ++ left }
  match inside.flow with
  | some (.exit status) => after.done (status % 256)
  | some (.failed status) => after.done status
  | some (.leave status) => after.done (status % 256)
  | some (.killed signal) => { after with flow := some (.killed signal) }
  | some .overdue => { after with flow := some .overdue }
  | some (.blocked file) => { after with flow := some (.blocked file) }
  | _ => after.done (inside.status % 256)

def capture (st : State) (f : State → State) : State × ByteArray :=
  let n := st.buffers.size
  let after := st.apart fun st =>
    let st := { st with buffers := st.buffers.push ByteArray.empty, hurried := true }
    f (st.connect 1 { target := .pipe n, writes := true })
  ({ after with buffers := after.buffers.modify n fun _ => ByteArray.empty },
   (after.buffers[n]?).getD ByteArray.empty)

/-! ### Paths -/

def here? (st : State) : Option (List String) :=
  st.disk.root.pathOf? st.folder

def nowhere : List String := ["/", "/"]

def goneRoute (id : Nat) : List String := ["/", Text.Numeral.text id]

/-- The route of names from a folder that is gone. It is empty, and two dots lead back to the folder it was
in. -/
def routeFromGone (d : Disk) : (id : Nat) → List String → List String
  | id, [] => goneRoute id
  | id, part :: rest =>
    if part = "" || part = "." then routeFromGone d id rest
    else if part ≠ ".." then nowhere
    else match d.above.lookup id with
      | none => rest
      | some parent =>
        match d.root.pathOf? parent with
        | some key => key ++ rest
        | none => routeFromGone d parent rest

def route (st : State) (path : String) : List String :=
  let text := Text.Octets.toText path
  if path = "" then nowhere
  else match st.here? with
    | some here => Path.resolve here text
    | none => if Path.isAbsolute text then Path.resolve [] text
      else routeFromGone st.disk st.folder (Path.parts text)

def goneAt? : List String → Option FileTree
  | ["/", number] => (Text.Numeral.digits? 10 number.toList).map fun id => .folder id []
  | _ => none

def walk (st : State) (path : String) : Except Fault FileTree :=
  let route := st.route path
  match goneAt? route with
  | some t => .ok t
  | none => st.disk.walk route

def walkName (st : State) (path : String) : Except Fault FileTree :=
  let route := st.route path
  match goneAt? route with
  | some t => .ok t
  | none => st.disk.walkName route

def isFolder (st : State) (path : String) : Bool :=
  let route := st.route path
  (goneAt? route).isSome || st.disk.isFolder route

def isPresent (st : State) (path : String) : Bool :=
  let route := st.route path
  (goneAt? route).isSome || st.disk.isPresent route

def list (st : State) (path : String) : Except Fault (List String) :=
  let route := st.route path
  match if (goneAt? route).isSome then .ok [] else st.disk.list route with
  | .ok names => .ok ((names.map Text.Octets.ofText).mergeSort fun a b => a ≤ b)
  | .error fault => .error fault

def read (st : State) (path : String) : Except Fault ByteArray :=
  match st.disk.fileAt (st.route path) with
  | .ok id => .ok (st.contentFrom id 0)
  | .error fault => .error fault

def fileMode (st : State) : Nat := 0o666 &&& (0o777 ^^^ st.mask)

def folderMode (st : State) : Nat := 0o777 &&& (0o777 ^^^ st.mask)

end State

def pathText (key : List String) : String := Text.Octets.ofText ("/" ++ "/".intercalate key)

end KernelForge.Shell
