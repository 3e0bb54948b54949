import KernelForge.Cache.CommandGenerator

/-!
Generators that act by a script: they run a command, or leave files, fail, or give a library with a
certain name and content.
-/
namespace KernelForge.Rehearsal

inductive LibraryName where
  | expected
  | published
  | other (name : String)
deriving DecidableEq, Repr

inductive Product where
  | file
  | nothing
  | folder
deriving DecidableEq, Repr

structure GeneratorScript where
  command : Option GeneratorCommand := none
  extra : List (String × String) := []
  failure : Option GeneratorFailure := none
  text : Option String := none
  name : LibraryName := .expected
  product : Product := .file

namespace GeneratorScript

def libraryName (s : GeneratorScript) (fp : Fingerprint) (content : ByteArray) : String :=
  match s.name with
  | .expected => fp.libraryName
  | .published => fp.publishedName (.ofBytes content)
  | .other name => name

/-- What is left of a script that breaks off because a file cannot be written. No program ends with such a
status. -/
def brokenOff : GeneratorFailure := ⟨some (2 ^ 32), "broke off"⟩

/-- Writes files with the folders above them, up to the first that cannot be written. -/
def deposits (folder : Place) : List (String × String) → Disk → Disk × Except GeneratorFailure Unit
  | [], disk => (disk, .ok ())
  | (name, text) :: rest, disk =>
    match disk.deposit (folder.join name).route text.toUTF8 with
    | (disk, .ok ()) => deposits folder rest disk
    | (disk, .error _) => (disk, .error brokenOff)

/-- Makes the library of a script. The folder of a file has to be there. -/
def produce (s : GeneratorScript) (library : Place) (content : ByteArray) (disk : Disk) :
    Disk × Except GeneratorFailure Place :=
  match s.product with
  | .nothing => (disk, .ok library)
  | .file =>
    match disk.write library.route content with
    | .ok disk => (disk, .ok library)
    | .error _ => (disk, .error brokenOff)
  | .folder =>
    match disk.makeFolders library.route with
    | (disk, .ok ()) => (disk, .ok library)
    | (disk, .error _) => (disk, .error brokenOff)

/-- A script as a generator. Without a text of its own, the library of the `n`th run says which run it
was. -/
def generator (s : GeneratorScript) (vars : Program.Variables) : Generator := fun request host =>
  match s.command with
  | some command => command.generate vars request host
  | none =>
    match deposits request.folder s.extra host.disk, s.failure with
    | (disk, .error failure), _ => (disk, .error failure)
    | (disk, .ok ()), some failure => (disk, .error failure)
    | (disk, .ok ()), none =>
      let content := (s.text.getD ("build #" ++ Text.Numeral.text (host.runs + 1))).toUTF8
      s.produce (request.folder.join (s.libraryName request.fingerprint content)) content disk

end GeneratorScript

end KernelForge.Rehearsal
