import KernelForge.Host.Disk

/-!
What has to be done to the files so that one disk becomes another.
-/
namespace KernelForge

inductive Change where
  | removeFile (path : List String)
  | removeFolder (path : List String)
  | makeFolder (path : List String)
  | makeLink (path : List String) (target : String)
  | writeFile (path : List String) (content : ByteArray) (executable : Bool)

namespace Change

/-- What stands at a path: a folder, a link, or a file with its content and whether it can be executed. -/
inductive Thing where
  | folder
  | link (target : String)
  | file (content : ByteArray) (executable : Bool)
deriving DecidableEq

def thing (d : Disk) : FileTree → Thing
  | .folder .. => .folder
  | .link target => .link target
  | .file id => .file (d.content id) (d.node id).isExecutable

/-- Whether two things differ so much that one has to go before the other can come. -/
def Thing.excludes : Thing → Thing → Bool
  | folder, folder => false
  | file .., file .. => false
  | _, _ => true

def things (d : Disk) : List (List String × Thing) :=
  d.root.contents.map fun e => (e.1, thing d e.2)

/-- The changes that lead from one disk to another: what is gone is removed from the inside out, then what is
new or different is written from the outside in. -/
def between (before after : Disk) : List Change :=
  let old := things before
  let new := things after
  let removed := (old.filter fun e => !new.any fun n => n.1 = e.1 && !n.2.excludes e.2).reverse.map fun e =>
    match e.2 with
    | .folder => removeFolder e.1
    | _ => removeFile e.1
  let written := (new.filter fun e => !old.any fun o => o.1 = e.1 && o.2 = e.2).map fun e =>
    match e.2 with
    | .folder => makeFolder e.1
    | .link target => makeLink e.1 target
    | .file content executable => writeFile e.1 content executable
  removed ++ written

end Change

end KernelForge
