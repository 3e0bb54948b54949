import KernelForge.Text.Blank

/-!
Build modes, generator commands and the errors of a configuration.
-/
namespace KernelForge

/-- Whether a published kernel is used as it is, or built anew whenever it is asked for. -/
inductive BuildMode where
  | release
  | debug
deriving DecidableEq, Repr, Inhabited

/-- What a setting should have been. -/
inductive Wanted where
  | flag
  | buildType
  | seconds
  | commandLine
  | programName
deriving DecidableEq, Repr

def Wanted.reason : Wanted → String
  | flag => "expected 0 or 1"
  | buildType => "expected Release or Debug"
  | seconds => "expected a whole number of seconds"
  | commandLine => "expected a command line"
  | programName => "expected at least a program name"

namespace BuildMode

def name : BuildMode → String
  | release => "Release"
  | debug => "Debug"

def alwaysRebuild : BuildMode → Bool
  | release => false
  | debug => true

/-- The mode of a name. Case and surrounding blanks do not matter. -/
def ofText? (text : String) : Option BuildMode :=
  let word := Text.lower (Text.trim text)
  if word = "release" then some release
  else if word = "debug" then some debug
  else none

end BuildMode

/-- The program that generates kernels, and the arguments it always gets. -/
structure GeneratorCommand where
  program : String
  args : List String
deriving DecidableEq, Repr

namespace GeneratorCommand

def ofWords? : List String → Option GeneratorCommand
  | [] => none
  | program :: args => some ⟨program, args⟩

/-- The command of a line: its words are divided by blanks, and there is no quoting. -/
def parse? (line : String) : Option GeneratorCommand :=
  ofWords? (Text.words line)

end GeneratorCommand

end KernelForge
