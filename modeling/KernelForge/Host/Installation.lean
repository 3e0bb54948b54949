import KernelForge.Host.Tool

/-!
The folders that every host has, and where programs are found.

The programs of the system stand in one folder, and a copy of one is the same program. A program that is
named without a slash is looked for in the folders that a variable lists; a file can be executed if its
permissions say so, and a script says in its first line which program runs it.
-/
namespace KernelForge.Installation

open Shell (State)

def launchers : List String :=
  ["dash", "bash", "env", "timeout", "printf", "test", "["]

def names : List String := launchers ++ Tool.names

def magic : List UInt8 := [0x7f, 0x45, 0x4c, 0x46, 2, 1, 1, 0]

/-- The content of a program. -/
def image (name : String) : ByteArray := ⟨magic.toArray⟩ ++ name.toUTF8 ++ ⟨#[0]⟩

def programIn? (content : ByteArray) : Option String :=
  if (content.extract 0 magic.length).data.toList = magic then
    let name := (content.extract magic.length 256).data.toList.takeWhile (· ≠ 0)
    some (Text.Octets.ofBytes ⟨name.toArray⟩)
  else none

/-- The files of the system that are not folders: their paths, and what is there. -/
def devices : List (String × Device) := [("null", .null), ("zero", .zero), ("full", .full)]

/-- A disk with the folders of the system. -/
def disk : Disk :=
  let d : Disk := {}
  let d := [["dev"], ["etc"], ["home"], ["root"], ["tmp"], ["usr"], ["usr", "bin"], ["usr", "lib"],
    ["usr", "local"], ["usr", "local", "bin"], ["usr", "local", "sbin"], ["usr", "sbin"], ["var"]].foldl
      (fun d key => d.newFolder key 0o755) d
  let d := devices.foldl
    (fun d (name, device) => d.newFile ["dev", name] { kind := .device device, mode := 0o666 }) d
  let d := names.foldl (fun d name => d.newFile ["usr", "bin", name] { content := image name, mode := 0o755 }) d
  let d := d.place ["usr", "bin", "sh"] (.link "dash")
  [("bin", "usr/bin"), ("lib", "usr/lib"), ("sbin", "usr/sbin")].foldl (fun d (name, target) =>
    d.place [name] (.link target)) d

def folders : List String := ["bin", "dev", "etc", "home", "lib", "root", "sbin", "tmp", "usr", "var"]

/-! ### Finding programs -/

inductive Executable where
  | program (name : String)
  | script (id : Nat)
deriving DecidableEq, Repr

def executableAt (st : State) (path : String) : Except Fault Executable :=
  match st.walk path with
  | .error fault => .error fault
  | .ok (.file id) =>
    let node := st.disk.node id
    if !node.isExecutable then .error .permission
    else if node.kind ≠ .regular then .error .permission
    else match programIn? node.content with
      | some name => .ok (.program name)
      | none => .ok (.script id)
  | .ok _ => .error .permission

def usualFolders : String := "/bin:/usr/bin"

/-- The path of the program with a name. A candidate that cannot be executed is passed over, but remembered. The
folders are those of a variable, or others if there is no such variable. -/
def search (st : State) (name : String) (others : String := usualFolders) : Except Fault String :=
  if name = "" then .error .notFound
  else if name.toList.contains '/' then .ok name
  else
    let folders := (Text.splitAt ':' ((st.value? "PATH").getD others).toList).map String.ofList
    let rec go (fault : Fault) : List String → Except Fault String
      | [] => .error fault
      | folder :: rest =>
        let path := if folder = "" then name else Path.join folder name
        match executableAt st path with
        | .ok _ => .ok path
        | .error .notFound => go fault rest
        | .error .notFolder => go fault rest
        | .error other => go other rest
    go .notFound folders

/-- The interpreter that the first line of a script names, with its argument. -/
def interpreter? (content : ByteArray) : Option (String × List String) :=
  let line := (Text.Octets.ofBytes (content.extract 0 256)).toList.takeWhile (· ≠ '\n')
  let isBlank (c : Char) : Bool := c = ' ' || c = '\t'
  match line with
  | '#' :: '!' :: line =>
    let line := line.dropWhile isBlank
    let path := line.takeWhile fun c => !isBlank c
    let rest := (((line.drop path.length).dropWhile isBlank).reverse.dropWhile isBlank).reverse
    if path.isEmpty then none
    else some (String.ofList path, if rest.isEmpty then [] else [String.ofList rest])
  | _ => none

/-- How many interpreters may stand behind one another. -/
def interpreterLimit : Nat := 5

/-- A program that is ready to run: its name, the name it is started by, and its arguments. -/
structure Startable where
  program : String
  shown : String
  args : List String
deriving DecidableEq, Repr

/-- Whether somebody can write to the file at a path: whoever started the program and has it locked, or the
shell itself. -/
def isBeingWritten (st : State) (path : String) : Bool :=
  match st.walk path with
  | .ok (.file id) =>
    (st.locks.any fun l => l.holder = .starter && l.file = id) ||
      st.streams.any fun s => (st.opening? s.1).any Shell.Opening.writes && st.fileOf? s.1 = some id
  | _ => false

/-- What runs when the file at a path is executed. Nothing does as long as somebody can write to it. -/
def prepare (st : State) : (depth : Nat) → (path shown : String) → List String → Except Fault Startable
  | 0, _, _, _ => .error .tooManyLinks
  | depth + 1, path, shown, args =>
    match executableAt st path with
    | .error fault => .error fault
    | .ok executable =>
      if isBeingWritten st path then .error .beingWritten
      else match executable with
        | .program name => .ok ⟨name, shown, args⟩
        | .script id =>
          match interpreter? (st.disk.content id) with
          | none => .error .notExecutable
          | some (program, before) => prepare st depth program program (before ++ (path :: args))

/-- What runs when a program is started by its name. A file that says nothing of an interpreter is for the
shell if `forgiving`. -/
def start (st : State) (forgiving : Bool) (name : String) (args : List String) (others : String := usualFolders) :
    Except Fault Startable :=
  match search st name others with
  | .error fault => .error fault
  | .ok path =>
    match prepare st interpreterLimit path name args with
    | .error .notExecutable =>
      if forgiving then prepare st interpreterLimit "/bin/sh" "/bin/sh" (path :: args) else .error .notExecutable
    | result => result

end KernelForge.Installation
