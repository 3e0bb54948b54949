/-!
Compile targets: the name of what a kernel is compiled for.
-/
namespace KernelForge

structure Target where
  name : String
deriving DecidableEq, Repr

namespace Target

def isNameChar (c : Char) : Bool :=
  c.isLower || c.isDigit || c = '_'

/-- A target with a non-empty name of small letters, digits and underscores. -/
def create? (name : String) : Option Target :=
  if !name.toList.isEmpty && name.toList.all isNameChar then some ⟨name⟩ else none

def cpu : Target := ⟨"cpu"⟩

def cuda : Target := ⟨"cuda"⟩

end Target

end KernelForge
