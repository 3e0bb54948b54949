/-!
The names of files, and the folders they are in.

A tree is a file, a link or a folder of named trees. A file is only a number here, under which a disk keeps what
is in it, so one file can have several names. A folder has a number as well, by which it is found again after it
was moved. A link holds a path to somewhere else, which may lead nowhere.

Paths of a tree are lists of names from its root. `get?` looks a path up, `put` and `erase` change what
stands at it; none of them follows a link.
-/
namespace KernelForge

inductive FileTree where
  | file (id : Nat)
  | link (target : String)
  | folder (id : Nat) (entries : List (String × FileTree))

namespace FileTree

instance : Inhabited FileTree := ⟨.folder 0 []⟩

/-! ### Entries of a folder -/

def find? (name : String) : List (String × FileTree) → Option FileTree
  | [] => none
  | (n, t) :: rest => if n = name then some t else find? name rest

/-- Gives a name to a tree, in place of the one that had it. -/
def setEntry (name : String) (tree : FileTree) : List (String × FileTree) → List (String × FileTree)
  | [] => [(name, tree)]
  | (n, t) :: rest => if n = name then (n, tree) :: rest else (n, t) :: setEntry name tree rest

def eraseEntry (name : String) (entries : List (String × FileTree)) : List (String × FileTree) :=
  entries.filter fun e => e.1 ≠ name

/-! ### Paths -/

def get? : List String → FileTree → Option FileTree
  | [], t => some t
  | n :: rest, .folder _ entries =>
    match find? n entries with
    | some t => get? rest t
    | none => none
  | _ :: _, _ => none

/-- The number of the folder at a path. -/
def number? (t : FileTree) (key : List String) : Option Nat :=
  match t.get? key with
  | some (.folder id _) => some id
  | _ => none

def put : List String → FileTree → (new : FileTree) → FileTree
  | [], _, new => new
  | [n], .folder id entries, new => .folder id (setEntry n new entries)
  | n :: m :: rest, .folder id entries, new =>
    match find? n entries with
    | some t => .folder id (setEntry n (put (m :: rest) t new) entries)
    | none => .folder id entries
  | _ :: _, t, _ => t

def erase : List String → FileTree → FileTree
  | [], t => t
  | [n], .folder id entries => .folder id (eraseEntry n entries)
  | n :: m :: rest, .folder id entries =>
    match find? n entries with
    | some t => .folder id (setEntry n (erase (m :: rest) t) entries)
    | none => .folder id entries
  | _ :: _, t => t

/-! ### Whole trees -/

mutual

/-- The paths below a tree in an order in which they can be removed one by one. -/
def removals : FileTree → List (List String)
  | .folder _ entries => removalsOf entries
  | _ => []

def removalsOf : List (String × FileTree) → List (List String)
  | [] => []
  | entry :: rest => removalsAt entry ++ removalsOf rest

def removalsAt : String × FileTree → List (List String)
  | (name, t) => (removals t).map (name :: ·) ++ [[name]]

end

mutual

/-- Every path below a tree with what stands there, folders before what they hold. -/
def contents : FileTree → List (List String × FileTree)
  | .folder _ entries => contentsOf entries
  | _ => []

def contentsOf : List (String × FileTree) → List (List String × FileTree)
  | [] => []
  | entry :: rest => contentsAt entry ++ contentsOf rest

def contentsAt : String × FileTree → List (List String × FileTree)
  | (name, t) => ([name], t) :: (contents t).map fun e => (name :: e.1, e.2)

end

mutual

def parents (parent : Nat) : FileTree → List (Nat × Nat)
  | .folder id entries => (id, parent) :: parentsOf id entries
  | _ => []

def parentsOf (parent : Nat) : List (String × FileTree) → List (Nat × Nat)
  | [] => []
  | entry :: rest => parentsAt parent entry ++ parentsOf parent rest

def parentsAt (parent : Nat) : String × FileTree → List (Nat × Nat)
  | (_, t) => parents parent t

end

mutual

def pathOf? (number : Nat) : FileTree → Option (List String)
  | .folder id entries => if id = number then some [] else pathIn? number entries
  | _ => none

def pathIn? (number : Nat) : List (String × FileTree) → Option (List String)
  | [] => none
  | entry :: rest => (pathAt? number entry).or (pathIn? number rest)

def pathAt? (number : Nat) : String × FileTree → Option (List String)
  | (name, t) => (pathOf? number t).map (name :: ·)

end

end FileTree

end KernelForge
