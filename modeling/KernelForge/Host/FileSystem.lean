import KernelForge.Host.Disk
import KernelForge.Host.Fault
import KernelForge.Host.Path

/-!
Operations on files, by routes.

`locate` follows a route to the path of what is there: names lead down, two dots lead back, one dot stays, a
link leads where it says, and only a folder can be passed through. `tip` follows a route to the folder that
its last name is in, which is what an operation needs that makes, removes or moves a name; a link that has
this name is not followed then. Every operation is a change of the tree or of a node behind the checks that
make it fail. The rights of the user are checked last: to read and to write a file, to list a folder, and to
change its entries.
-/
namespace KernelForge.Disk

/-! ### Routes -/

def nameLimit : Nat := 255

def pathLimit : Nat := 4095

def linkLimit : Nat := 40

def tooLong (name : String) : Bool :=
  nameLimit < name.utf8ByteSize

def flaw? (route : List String) : Option Fault :=
  if route.any fun part => part.toList.contains (Char.ofNat 0) then some .embeddedNul
  else if pathLimit < (route.map fun part => part.utf8ByteSize + 1).sum then some .nameTooLong
  else none

/-- How far a route leads without links: to its end, or to a link with a rest of the route after it. -/
inductive Stretch where
  | arrived (key : List String)
  | turned (here : List String) (target : String) (rest : List String)

/-- Follows a route from a path up to the first link. -/
def stretch (t : FileTree) (here : List String) : List String → Except Fault Stretch
  | [] => .ok (.arrived here)
  | part :: rest =>
    match t.get? here with
    | none => .error .notFound
    | some (.folder _ entries) =>
      if part = "" || part = "." then stretch t here rest
      else if part = ".." then stretch t here.dropLast rest
      else if tooLong part then .error .nameTooLong
      else match FileTree.find? part entries with
        | some (.link target) => .ok (.turned here target rest)
        | some _ => stretch t (here ++ [part]) rest
        | none => .error .notFound
    | some _ => .error .notFolder

/-- Follows a route from a path, through so many links at most. -/
def follow (t : FileTree) : (links : Nat) → (here route : List String) → Except Fault (List String)
  | links, here, route =>
    match stretch t here route with
    | .error f => .error f
    | .ok (.arrived key) => .ok key
    | .ok (.turned here target rest) =>
      match links with
      | 0 => .error .tooManyLinks
      | links + 1 => follow t links (if Path.isAbsolute target then [] else here) (Path.parts target ++ rest)

def locate (d : Disk) (route : List String) : Except Fault (List String) :=
  match flaw? route with
  | some f => .error f
  | none => follow d.root linkLimit [] route

inductive Tip where
  /-- A name in a folder, which may have a slash after it. -/
  | entry (base : List String) (name : String) (slash : Bool)
  /-- A folder that is pointed at by dots, or the root. -/
  | dots
deriving DecidableEq, Repr

def tip (d : Disk) (route : List String) : Except Fault Tip :=
  match flaw? route with
  | some f => .error f
  | none =>
    let core := Path.withoutSlash route
    match core.getLast? with
    | none => .ok .dots
    | some last =>
      match follow d.root linkLimit [] core.dropLast with
      | .error f => .error f
      | .ok base =>
        match d.get? base with
        | none => .error .notFound
        | some (.folder ..) =>
          if last = "." || last = ".." then .ok .dots
          else if tooLong last then .error .nameTooLong
          else .ok (.entry base last (core.length < route.length))
        | some _ => .error .notFolder

/-- Where a route ends if a link there is followed on, through so many links at most. -/
def farTip (d : Disk) : (links : Nat) → (route : List String) → Except Fault Tip
  | links, route =>
    match d.tip route with
    | .ok (.entry base name false) =>
      match d.get? (base ++ [name]) with
      | some (.link target) =>
        match links with
        | 0 => .error .tooManyLinks
        | links + 1 => farTip d links (Path.resolve base target)
      | _ => .ok (.entry base name false)
    | other => other

/-- The path of what a route names: a link itself, and not what it leads to. -/
def locateName (d : Disk) (route : List String) : Except Fault (List String) :=
  match d.tip route with
  | .ok (.entry base name false) =>
    if (d.get? (base ++ [name])).isSome then .ok (base ++ [name]) else .error .notFound
  | .error f => .error f
  | _ => d.locate route

/-! ### Looking -/

def walk (d : Disk) (route : List String) : Except Fault FileTree :=
  match d.locate route with
  | .error f => .error f
  | .ok key =>
    match d.get? key with
    | some found => .ok found
    | none => .error .notFound

def walkName (d : Disk) (route : List String) : Except Fault FileTree :=
  match d.locateName route with
  | .error f => .error f
  | .ok key =>
    match d.get? key with
    | some found => .ok found
    | none => .error .notFound

def isFile (d : Disk) (route : List String) : Bool :=
  match d.walk route with
  | .ok (.file id) => (d.node id).kind = .regular
  | _ => false

def isFolder (d : Disk) (route : List String) : Bool :=
  match d.walk route with
  | .ok (.folder ..) => true
  | _ => false

def isPresent (d : Disk) (route : List String) : Bool :=
  match d.walk route with
  | .ok _ => true
  | .error _ => false

def fileAt (d : Disk) (route : List String) : Except Fault Nat :=
  match d.walk route with
  | .ok (.file id) => .ok id
  | .ok _ => .error .isFolder
  | .error f => .error f

def read (d : Disk) (route : List String) : Except Fault ByteArray :=
  match d.fileAt route with
  | .ok id => if d.allows .read id then .ok (d.content id) else .error .permission
  | .error f => .error f

def readText (d : Disk) (route : List String) : Except Fault String :=
  match d.read route with
  | .error f => .error f
  | .ok content =>
    match String.fromUTF8? content with
    | some s => .ok s
    | none => .error .notText

/-- The names in a folder, each once. -/
def list (d : Disk) (route : List String) : Except Fault (List String) :=
  match d.walk route with
  | .ok (.folder id entries) =>
    if d.allows .read id then .ok (entries.map Prod.fst).eraseDups else .error .permission
  | .ok _ => .error .notFolder
  | .error f => .error f

/-- How many bytes are behind a name. Those of a link are the path in it. -/
def size (d : Disk) : FileTree → Nat
  | .file id => (d.content id).size
  | .link target => target.utf8ByteSize
  | .folder .. => 0

/-- Everything below a route as far as folders and links to folders lead, each with its size unless it is a
folder. A route that is too long or passes too many links ends in something that is no folder, so `depth` is
never used up. -/
def survey (d : Disk) : (depth : Nat) → (route : List String) → List (List String × Option Nat)
  | 0, _ => []
  | depth + 1, route =>
    match d.list route with
    | .error _ => []
    | .ok names => names.flatMap fun name =>
      let there := route ++ [name]
      if d.isFolder there then
        ([name], none) :: (survey d depth there).map fun e => (name :: e.1, e.2)
      else match d.walkName there with
        | .ok t => [([name], some (d.size t))]
        | .error _ => []

/-- Everything below a route, each with its size unless it is a folder. -/
def listing (d : Disk) (route : List String) : List (List String × Option Nat) :=
  d.survey pathLimit route

/-! ### Files -/

/-- The path of the file that a route opens for writing, whether or not it exists. -/
def opening (d : Disk) (route : List String) : Except Fault (List String) :=
  match d.farTip linkLimit route with
  | .error f => .error f
  | .ok .dots => .error .isFolder
  | .ok (.entry _ _ true) => .error .isFolder
  | .ok (.entry base name false) =>
    match d.get? (base ++ [name]) with
    | some (.folder ..) => .error .isFolder
    | _ => .ok (base ++ [name])

/-- Opens a file for writing, which is made if it is missing, and gives its number. -/
def openFile (d : Disk) (route : List String) (mode : Nat := 0o644) : Except Fault (Disk × Nat) :=
  match d.opening route with
  | .error f => .error f
  | .ok key =>
    match d.get? key with
    | some (.file id) => if d.allows .write id then .ok (d, id) else .error .permission
    | _ =>
      if d.opens .write key.dropLast then .ok (d.newFile key { mode }, d.nodes.size) else .error .permission

def write (d : Disk) (route : List String) (content : ByteArray) (mode : Nat := 0o644) : Except Fault Disk :=
  match d.openFile route mode with
  | .error f => .error f
  | .ok (d, id) => .ok (d.setContent id content)

/-- Makes sure that a file exists; a new one is empty. -/
def touch (d : Disk) (route : List String) (mode : Nat := 0o644) : Except Fault Disk :=
  match d.openFile route mode with
  | .error f => .error f
  | .ok (d, _) => .ok d

/-! ### Names -/

def unlink (d : Disk) (route : List String) : Except Fault Disk :=
  match d.tip route with
  | .error f => .error f
  | .ok .dots => .error .isFolder
  | .ok (.entry base name slash) =>
    match d.get? (base ++ [name]) with
    | none => .error .notFound
    | some (.folder ..) => .error (if d.opens .write base then .isFolder else .permission)
    | some _ =>
      if slash then .error .notFolder
      else if d.opens .write base then .ok (d.erase (base ++ [name]))
      else .error .permission

def removeFolder (d : Disk) (route : List String) : Except Fault Disk :=
  match d.tip route with
  | .error f => .error f
  | .ok .dots => .error (if (Path.withoutSlash route).getLast? = some "." then .invalid else .notEmpty)
  | .ok (.entry base name _) =>
    match d.get? (base ++ [name]) with
    | none => .error .notFound
    | some (.folder _ entries) =>
      if !d.opens .write base then .error .permission
      else if entries.isEmpty then .ok (d.erase (base ++ [name]))
      else .error .notEmpty
    | some _ => .error .notFolder

/-- Whether what is at a path may be removed by somebody who first lists the folder it is in, and who lists
a folder before it is removed. What has gone already is not missed. -/
def mayStrike (d : Disk) (key : List String) : Bool :=
  (d.get? key).isNone ||
    (d.root.number? key).all (d.allows .read) && d.opens .read key.dropLast && d.opens .write key.dropLast

/-- Removes what is at a path, below which nothing is left. -/
def strike (d : Disk) (key : List String) : Except Fault Disk :=
  if d.mayStrike key then .ok (d.erase key) else .error .permission

/-- Moves what is at one path to another. What is no folder takes the place of its like, a folder that of an
empty folder, and no folder moves into itself. Between two names of one file nothing is to be done. -/
def move (d : Disk) (source target : List String) : Except Fault Disk :=
  match d.get? source, d.get? target with
  | none, _ => .error .notFound
  | some moved, there =>
    let done := (d.erase source).place target moved
    if source = target then .ok d
    else if source.isPrefixOf target then .error .invalid
    else if target.isPrefixOf source then .error .notEmpty
    else match moved, there with
      | _, none => .ok done
      | .folder .., some (.folder _ entries) => if entries.isEmpty then .ok done else .error .notEmpty
      | .folder .., some _ => .error .notFolder
      | _, some (.folder ..) => .error .isFolder
      | .file a, some (.file b) => .ok (if a = b then d else done)
      | _, some _ => .ok done

/-- Whether one thing stands at two paths. -/
def isSame (d : Disk) (source target : List String) : Bool :=
  source = target || match d.get? source, d.get? target with
    | some (.file a), some (.file b) => a = b
    | _, _ => false

/-- Gives something another name. Only the names of folders may have a slash at the end. -/
def rename (d : Disk) (source target : List String) : Except Fault Disk :=
  match d.tip source, d.tip target with
  | .error f, _ => .error f
  | _, .error f => .error f
  | .ok .dots, _ => .error .busy
  | _, .ok .dots => .error .busy
  | .ok (.entry base name slash), .ok (.entry base' name' slash') =>
    let moved :=
      if (d.opens .write base && d.opens .write base') || d.isSame (base ++ [name]) (base' ++ [name']) then
        d.move (base ++ [name]) (base' ++ [name'])
      else .error .permission
    match d.get? (base ++ [name]) with
    | some (.folder ..) => moved
    | some _ => if slash || slash' then .error .notFolder else moved
    | none => .error .notFound

/-- Makes a name for something that exists, or for a link. -/
def enter (d : Disk) (route : List String) (t : FileTree) : Except Fault Disk :=
  match d.tip route with
  | .error f => .error f
  | .ok .dots => .error .alreadyExists
  | .ok (.entry base name slash) =>
    match d.get? (base ++ [name]) with
    | some _ => .error .alreadyExists
    | none =>
      if slash then .error .notFound
      else if d.opens .write base then .ok (d.place (base ++ [name]) t)
      else .error .permission

def makeLink (d : Disk) (target : String) (route : List String) : Except Fault Disk :=
  if target = "" then .error .notFound else d.enter route (.link target)

/-! ### Folders -/

def makeFolder (d : Disk) (route : List String) (mode : Nat := 0o755) : Except Fault Disk :=
  match d.tip route with
  | .error f => .error f
  | .ok .dots => .error .alreadyExists
  | .ok (.entry base name _) =>
    match d.get? (base ++ [name]) with
    | some _ => .error .alreadyExists
    | none => if d.opens .write base then .ok (d.newFolder (base ++ [name]) mode) else .error .permission

/-- Makes sure that a folder exists. If the one above it is missing, that one is made first, where `above` has
the routes that are left to try. Folders that were made stay if a later one cannot be. -/
def ensureFolder : (above : List (List String)) → List String → Disk → Disk × Except Fault Unit
  | above, route, d =>
    match d.makeFolder route with
    | .ok d => (d, .ok ())
    | .error .notFound =>
      match above with
      | [] => (d, .error .notFound)
      | up :: above =>
        match ensureFolder above up d with
        | (d, .error f) => (d, .error f)
        | (d, .ok ()) =>
          match d.makeFolder route with
          | .ok d => (d, .ok ())
          | .error f => (d, if d.isFolder route then .ok () else .error f)
    | .error f => (d, if d.isFolder route then .ok () else .error f)

def makeFolders (d : Disk) (route : List String) : Disk × Except Fault Unit :=
  ensureFolder (Path.ancestors route) route d

/-- Writes a file and makes the folders above it. -/
def deposit (d : Disk) (route : List String) (content : ByteArray) : Disk × Except Fault Unit :=
  match d.makeFolders (Path.parent route) with
  | (d, .error f) => (d, .error f)
  | (d, .ok ()) =>
    match d.write route content with
    | .ok d => (d, .ok ())
    | .error f => (d, .error f)

/-- Removes what a route names, with all below it. A link is removed, and not what it leads to. -/
def discard (d : Disk) (route : List String) : Except Fault Disk :=
  match d.locateName route with
  | .error f => .error f
  | .ok key => .ok (d.erase key)

end KernelForge.Disk
