import KernelForge.Host.Tool.Catalog
import KernelForge.Host.Tool.Columns
import KernelForge.Host.Tool.Copies
import KernelForge.Host.Tool.Ending
import KernelForge.Host.Tool.Linking
import KernelForge.Host.Tool.Numbers
import KernelForge.Host.Tool.Removal
import KernelForge.Host.Tool.Reversal
import KernelForge.Host.Tool.Search

/-!
The tools of a host, by name: those that build scripts are made of. A host has no other programs.
-/
namespace KernelForge.Tool

/-- The tools with their names. A tool gets the name it was started by, which its messages show. -/
def table : List (String × (String → List String → Shell.State → Shell.State)) :=
  [("true", fun _ _ st => st.done 0), ("false", fun _ _ st => st.done 1), ("basename", basename), ("cat", cat),
   ("chmod", chmod), ("cp", cp), ("cut", cut), ("dirname", dirname), ("echo", echo), ("grep", grep false false),
   ("head", portion false), ("link", link), ("ln", ln), ("ls", ls), ("mkdir", mkdir),
   ("mkfifo", mkfifo), ("mv", mv), ("printenv", printenv), ("pwd", pwd), ("rm", rm), ("rmdir", rmdir),
   ("sleep", sleep), ("sort", sort), ("tac", tac), ("tail", portion true), ("touch", touch), ("unlink", unlink),
   ("wc", wc)]

def find? (name : String) : Option (String → List String → Shell.State → Shell.State) := table.lookup name

def names : List String := table.map Prod.fst

end KernelForge.Tool
