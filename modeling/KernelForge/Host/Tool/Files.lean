import KernelForge.Host.Mode
import KernelForge.Host.Tool.Arguments
import KernelForge.Text.Calendar

/-!
Tools that make and remove files, and change what is known of them.
-/
namespace KernelForge.Tool

open Shell (State)

def each (operands : List String) (st : State) (f : String → State → State) : State :=
  operands.foldl (fun st path => f path st) st

def ask (question : String) (st : State) : State × Bool :=
  let st := st.write 2 (Text.Octets.toBytes question)
  let bytes := (st.input 0).toOption.getD ByteArray.empty
  let line := bytes.data.toList.takeWhile (· ≠ 10)
  (st.consume 0 (min bytes.size (line.length + 1)), line.head? = some 121 || line.head? = some 89)

def settle (name message : String) (st : State) (result : Except Fault Disk) : State :=
  match result with
  | .ok disk => { st with disk }
  | .error fault => complain name (message ++ ": " ++ fault.reason) st

def lastName (path : String) : String := (Path.pieces path).getLastD "/"

def nodeOf (st : State) : FileTree → Node
  | .file id => st.disk.node id
  | .folder id _ => st.disk.node id
  | .link _ => { mode := 0o777, modified := st.disk.clock }

def numberOf? : FileTree → Option Nat
  | .file id => some id
  | .folder id _ => some id
  | .link _ => none

def withoutSlashes (path : String) : String :=
  match (path.toList.reverse.dropWhile (· = '/')).reverse with
  | [] => if path = "" then "" else "/"
  | cs => String.ofList cs

def isLink (st : State) (path : String) : Bool :=
  match st.walkName path with
  | .ok (.link _) => true
  | _ => false

/-! ### Times -/

def timeOption (name : String) (a : Arguments) (st : State) : Except State Int :=
  match a.value? 'r', a.value? 'd', a.value? 't' with
  | some path, date, _ =>
    match st.walk path with
    | .error fault => .error (complain name ("failed to get attributes of " ++ quote path ++ ": " ++
      fault.reason) st)
    | .ok t =>
      let moment := (nodeOf st t).modified
      match date with
      | none => .ok moment
      | some date =>
        match Text.Date.read? moment date with
        | some n => .ok n
        | none => .error (complain name ("invalid date format " ++ quoteText date) st)
  | none, some date, _ =>
    match Text.Date.read? st.disk.clock date with
    | some n => .ok n
    | none => .error (complain name ("invalid date format " ++ quoteText date) st)
  | none, none, some stamp =>
    match Text.Date.ofDigits? st.disk.clock stamp with
    | some n => .ok n
    | none => .error (complain name ("invalid date format " ++ quoteText stamp) st)
  | none, none, none => .ok st.disk.clock

def touch (name : String) (args : List String) (st : State) : State :=
  let g : Grammar := {
    plain := "acfmh"
    valued := "drtT"
    long := [("no-create", 'c'), ("no-dereference", 'h'), ("date", 'd'), ("reference", 'r'), ("time", 'T')] }
  withArguments name g args st fun a st =>
    match timeOption name a st with
    | .error st => st
    | .ok moment =>
      let changes := a.has 'm' || !a.has 'a'
      let stamp (id : Nat) (st : State) : State :=
        if changes then { st with disk := st.disk.modify id fun n => { n with modified := moment } } else st
      if a.operands.isEmpty then misused name "missing file operand" 1 st
      else each a.operands st fun path st =>
        if path = "-" then st
        else match st.walk path with
          | .ok t =>
            match if a.has 'h' && isLink st path then none else numberOf? t with
            | some id => stamp id st
            | none => st
          | .error fault =>
            if a.has 'c' || a.has 'h' then
              if fault = .notFound || (a.has 'h' && isLink st path) then st
              else complain name ("setting times of " ++ quote path ++ ": " ++ fault.reason) st
            else if Path.endsInSlash path then
              complain name ("setting times of " ++ quote path ++ ": " ++ fault.reason) st
            else match st.disk.openFile (st.route path) st.fileMode with
              | .ok (disk, id) => stamp id { st with disk }
              | .error fault => complain name ("cannot touch " ++ quote path ++ ": " ++ fault.reason) st

/-! ### Folders -/

def stretches (path : String) : List String :=
  let cs := path.toList
  let ends := (List.range cs.length).filter fun i => cs.getD i '/' ≠ '/' && cs.getD (i + 1) '/' = '/'
  ends.dropLast.map (fun i => String.ofList (cs.take (i + 1))) ++ [path]

def makePath (name : String) (told : Option String) (mode : Nat) : List String → State → State
  | [], st => st
  | path :: rest, st =>
    let refuse (fault : Fault) : State :=
      complain name ("cannot create directory " ++ quoteText path ++ ": " ++ fault.reason) st
    match st.walk path with
    | .ok (.folder ..) => makePath name told mode rest st
    | .ok _ => refuse (if rest.isEmpty then .alreadyExists else .notFolder)
    | .error _ =>
      match st.disk.makeFolder (st.route path) (if rest.isEmpty then mode else st.folderMode) with
      | .error fault => refuse fault
      | .ok disk =>
        let st := { st with disk }
        let st := match told with
          | some word => st.print (name ++ ": " ++ word ++ " directory " ++ quote path ++ "\n")
          | none => st
        makePath name told mode rest st

def mkdir (name : String) (args : List String) (st : State) : State :=
  let g : Grammar := {
    plain := "pvZ"
    valued := "m"
    long := [("parents", 'p'), ("mode", 'm'), ("verbose", 'v')] }
  withArguments name g args st fun a st =>
    if a.operands.isEmpty then misused name "missing operand" 1 st
    else
      let mode := match a.value? 'm' with
        | some s => (Mode.changed? s st.mask true 0o777).map fun m => (m, s)
        | none => some (st.folderMode, "")
      match mode with
      | none => complain name ("invalid mode " ++ quoteText ((a.value? 'm').getD "")) st
      | some (mode, _) =>
        each a.operands st fun path st =>
          let refuse (fault : Fault) : State :=
            complain name ("cannot create directory " ++ quoteText path ++ ": " ++ fault.reason) st
          if path = "" then refuse .notFound
          else if a.has 'p' then
            makePath name (if a.has 'v' then some "created" else none) mode (stretches path) st
          else match st.disk.makeFolder (st.route path) mode with
            | .error fault => refuse fault
            | .ok disk =>
              let st := { st with disk }
              if a.has 'v' then st.print (name ++ ": created directory " ++ quote path ++ "\n") else st

def pathAbove (path : String) : String :=
  let cs := ((withoutSlashes path).toList.reverse.dropWhile (· ≠ '/')).dropWhile (· = '/')
  String.ofList cs.reverse

/-! ### Permissions -/

def pathsBelow (path : String) (t : FileTree) : List (String × FileTree) :=
  t.contents.map fun e => (e.1.foldl (fun p n => Path.join p (Text.Octets.ofText n)) path, e.2)

def chmod (name : String) (args : List String) (st : State) : State :=
  let isMode (s : String) : Bool := (Mode.changed? s 0 false 0).isSome
  let dashed := args.filter fun s => 1 < s.length && s.toList.head? = some '-' && isMode s
  let joined := if dashed.isEmpty then [] else [",".intercalate dashed]
  let g : Grammar := {
    plain := "Rvfc"
    valued := "\x03"
    long := [("recursive", 'R'), ("verbose", 'v'), ("quiet", 'f'), ("silent", 'f'), ("changes", 'c'),
      ("reference", Char.ofNat 3)] }
  withArguments name g (args.filter fun s => s ∉ dashed) st fun a st =>
    let set (mode : Nat → Bool → Nat) (path : String) (t : FileTree) (st : State) : State :=
      match t with
      | .link _ => st
      | t =>
        let id := (numberOf? t).getD 0
        let old := (st.disk.node id).mode
        let folder := match t with
          | .folder .. => true
          | _ => false
        let new := mode old folder
        let st := { st with disk := st.disk.modify id fun n => { n with mode := new } }
        let shown (m : Nat) : String := Mode.digits m ++ " (" ++ Mode.text m ++ ")"
        let st := if old = new then
            if a.has 'v' then st.print ("mode of " ++ quote path ++ " retained as " ++ shown new ++ "\n") else st
          else if a.has 'v' || a.has 'c' then
            st.print ("mode of " ++ quote path ++ " changed from " ++ shown old ++ " to " ++ shown new ++ "\n")
          else st
        -- Who writes a change like an option may not expect that some bits stay.
        let meant := (joined.head?.bind fun s => Mode.changed? s 0 folder old).getD new
        if new &&& (0o7777 ^^^ meant) = 0 then st
        else complain name (quoteIfNeeded path ++ ": new permissions are " ++ Mode.text new ++ ", not " ++
          Mode.text meant) st
    let change (mode : Nat → Bool → Nat) (paths : List String) (st : State) : State :=
      each paths st fun path st =>
        match st.walk path with
        | .error fault =>
          if a.has 'f' then st.done 1
          else if fault = .notFound && isLink st path then
            complain name ("cannot operate on dangling symlink " ++ quote path) st
          else
            let st := complain name ("cannot access " ++ quote path ++ ": " ++ fault.reason) st
            if a.has 'v' then st.print (quote path ++ " could not be accessed\n") else st
        | .ok t =>
          let st := set mode path t st
          if a.has 'R' then (pathsBelow path t).foldl (fun st (p, t) => set mode p t st) st else st
    match a.value? (Char.ofNat 3), joined ++ a.operands with
    | _, [] => misused name "missing operand" 1 st
    | some model, paths =>
      match st.walk model with
      | .ok t => change (fun _ _ => (nodeOf st t).mode) paths st
      | .error fault => complain name ("failed to get attributes of " ++ quote model ++ ": " ++ fault.reason) st
    | none, [mode] => misused name ("missing operand after " ++ quoteText mode) 1 st
    | none, mode :: paths =>
      if isMode mode then change (fun old folder => (Mode.changed? mode st.mask folder old).getD old) paths st
      else misused name ("invalid mode: " ++ quoteText mode) 1 st

/-! ### Sizes -/

def size? (s : String) : Option Nat :=
  let digits := s.toList.takeWhile Char.isDigit
  let suffix := s.toList.drop digits.length
  let power (c : Char) : Option Nat :=
    match c with
    | 'k' => some 1
    | 'K' => some 1
    | 'M' => some 2
    | 'm' => some 2
    | 'G' => some 3
    | 'T' => some 4
    | 'P' => some 5
    | 'E' => some 6
    | _ => none
  let unit := match suffix with
    | [] => some 1
    | ['b'] => some 512
    | ['c'] => some 1
    | [c] => (power c).map (1024 ^ ·)
    | [c, 'B'] => (power c).map (1000 ^ ·)
    | [c, 'i', 'B'] => (power c).map (1024 ^ ·)
    | _ => none
  match Text.Numeral.digits? 10 digits, unit with
  | some n, some u => some (n * u)
  | none, some u => if digits.isEmpty && !suffix.isEmpty then some u else none
  | _, _ => none

/-! ### Pipes -/

def mkfifo (name : String) (args : List String) (st : State) : State :=
  withArguments name { valued := "m", long := [("mode", 'm')] } args st fun a st =>
    if a.operands.isEmpty then misused name "missing operand" 1 st
    else
      let given := match a.value? 'm' with
        | some s => Mode.changed? s st.mask false 0o666
        | none => some st.fileMode
      match given with
      | none => complain name "invalid mode" st
      | some mode =>
        if 0o777 < mode then complain name "mode must specify only file permission bits" st
        else each a.operands st fun path st =>
          settle name ("cannot create fifo " ++ quote path) st (match st.disk.tip (st.route path) with
            | .error fault => .error fault
            | .ok .dots => .error .alreadyExists
            | .ok (.entry base last slash) =>
              if (st.disk.get? (base ++ [last])).isSome then .error .alreadyExists
              else if slash then .error .notFound
              else .ok (st.disk.newFile (base ++ [last]) { kind := .pipe, mode }))

end KernelForge.Tool
