import KernelForge.Text.Blank

/-!
Paths: as texts, which messages show, and as routes, which a file system follows part by part.

A route is the list of a path's parts from the root on. A part is a name, one dot or two dots; a slash at the
end of a path leaves an empty part at the end of its route. What dots and such a slash mean depends on the
files, so a route keeps them.
-/
namespace KernelForge

namespace Path

def isAbsolute (path : String) : Bool :=
  path.toList.head? == some '/'

def endsInSlash (path : String) : Bool :=
  path.toList.getLast? == some '/'

/-- Continues a path. An absolute continuation stands alone, and one slash divides the two parts unless
the first is empty or ends in a slash. -/
def join (path more : String) : String :=
  if isAbsolute more then more
  else if path = "" then more
  else if endsInSlash path then path ++ more
  else path ++ "/" ++ more

/-- What stands between the slashes of a path, without empty pieces. -/
def pieces (path : String) : List String :=
  ((Text.splitAt '/' path.toList).map String.ofList).filter fun n => n ≠ ""

/-- The parts of a path. -/
def parts (path : String) : List String :=
  if endsInSlash path && !(pieces path).isEmpty then pieces path ++ [""] else pieces path

def withoutSlash (route : List String) : List String :=
  if route.getLast? = some "" then route.dropLast else route

/-- Continues a route by a path. Nothing leads to the same folder, as a slash at the end does. -/
def resolve (route : List String) (path : String) : List String :=
  if isAbsolute path then parts path
  else if path = "" then withoutSlash route ++ [""]
  else withoutSlash route ++ parts path

/-- The parts of a route that are more than a dot or a slash at its end. -/
def names (route : List String) : List String :=
  route.filter fun n => n ≠ "" && n ≠ "."

/-- The route to the folder above, by the names of a route alone. -/
def parent (route : List String) : List String :=
  (names route).dropLast

/-- The routes to the folders above, the nearest first. -/
def ancestors (route : List String) : List (List String) :=
  let ns := names route
  (List.range ns.length).reverse.map ns.take

/-- What counts when paths are compared: the pieces, but of single dots only one in front of a relative
path. -/
def components (path : String) : List String :=
  match pieces path with
  | [] => []
  | first :: rest =>
    if first = "." && !isAbsolute path then "." :: names rest else names (first :: rest)

def same (a b : String) : Bool :=
  isAbsolute a == isAbsolute b && components a == components b

end Path

structure Place where
  text : String
  route : List String
deriving DecidableEq, Repr

namespace Place

def ofPath (folder : List String) (path : String) : Place :=
  ⟨path, Path.resolve folder path⟩

def join (place : Place) (more : String) : Place :=
  ⟨Path.join place.text more, Path.resolve place.route more⟩

end Place

end KernelForge
