import KernelForge.Host.FileTree

/-!
Disks: names, and what is behind them.

A tree has the names. What a file holds, who may execute it and when it was last changed is kept under the
number of the file, and stays there when the last of its names is gone: whoever has the file open can go on with
it. A folder that was removed is empty, and still leads back to the one it was in. Numbers are given out once.

Everything on a disk belongs to its user, who may do what the modes of files and folders say: read a file or
list a folder, and write a file or change the entries of a folder. A privileged user may do all of that in
any case. Whether a folder can be passed through is not a question of its mode here.
-/
namespace KernelForge

/-- Contents are compared as the core library does it, whatever else a module imports. -/
instance (priority := 10001) decidableEqContent : DecidableEq ByteArray := ByteArray.instDecidableEq

/-- Files that are no files on a disk. -/
inductive Device where
  | null
  | zero
  | full
deriving DecidableEq, Repr

inductive Kind where
  | regular
  | pipe
  | device (device : Device)
deriving DecidableEq, Repr

/-- What is kept under a number. Times are in thousandths of a second. -/
structure Node where
  kind : Kind := .regular
  content : ByteArray := ByteArray.empty
  mode : Nat := 0o644
  modified : Int := 0

namespace Node

/-- Whether anybody may execute a file. -/
def isExecutable (n : Node) : Bool := n.mode &&& 0o111 ≠ 0

end Node

structure Disk where
  root : FileTree := .folder 0 []
  nodes : Array Node := #[{ mode := 0o755 }]
  clock : Int := 1750000000000
  /-- The numbers of the folders that removed folders were in. -/
  above : List (Nat × Nat) := []
  /-- Whether modes do not bind the user. -/
  privileged : Bool := true

/-- What a mode can allow the user. -/
inductive Right where
  | read
  | write
deriving DecidableEq, Repr

def Right.bit : Right → Nat
  | read => 0o400
  | write => 0o200

namespace Disk

/-! ### Numbers -/

def node (d : Disk) (id : Nat) : Node := (d.nodes[id]?).getD {}

def content (d : Disk) (id : Nat) : ByteArray := (d.node id).content

def modify (d : Disk) (id : Nat) (f : Node → Node) : Disk :=
  { d with nodes := d.nodes.modify id f }

/-- Whether the user has a right to what is under a number. -/
def allows (d : Disk) (right : Right) (id : Nat) : Bool :=
  d.privileged || (d.nodes[id]?).any fun n => n.mode &&& right.bit ≠ 0

/-- Gives a file new content. Devices have none. -/
def setContent (d : Disk) (id : Nat) (content : ByteArray) : Disk :=
  d.modify id fun n =>
    match n.kind with
    | .device _ => n
    | _ => { n with content, modified := d.clock }

/-! ### Paths -/

def get? (d : Disk) (key : List String) : Option FileTree := d.root.get? key

/-- Whether the user has a right to the folder at a path. -/
def opens (d : Disk) (right : Right) (key : List String) : Bool :=
  (d.root.number? key).any (d.allows right)

/-- Puts a tree at a path whose folder exists. -/
def place (d : Disk) (key : List String) (t : FileTree) : Disk :=
  { d with root := d.root.put key t }

/-- Removes what is at a path, with all below it. Where folders were is kept for whoever is still in them. -/
def erase (d : Disk) (key : List String) : Disk :=
  let gone := match d.root.get? key.dropLast, d.root.get? key with
    | some (.folder parent _), some t => t.parents parent
    | _, _ => []
  { d with root := d.root.erase key, above := gone ++ d.above }

def newFile (d : Disk) (key : List String) (node : Node) : Disk :=
  { d with nodes := d.nodes.push { node with modified := d.clock } }.place key (.file d.nodes.size)

/-- Makes an empty folder at a path. -/
def newFolder (d : Disk) (key : List String) (mode : Nat) : Disk :=
  { d with nodes := d.nodes.push { mode, modified := d.clock } }.place key (.folder d.nodes.size [])

/-- How many names a file has. -/
def nameCount (d : Disk) (id : Nat) : Nat :=
  (d.root.contents.filter fun e =>
    match e.2 with
    | .file n => n = id
    | _ => false).length

end Disk

end KernelForge
