import KernelForge.Cache.Generator
import KernelForge.Config.BuildMode
import KernelForge.Host.Program

/-!
Generators that are programs.

The program gets the request as options after its own arguments and the variables of whoever runs it, works
in the build folder, and has to leave the library there under the name it was told.
-/
namespace KernelForge.GeneratorCommand

def requestOptions (request : BuildRequest) : List String :=
  ["--formula", request.spec.wrapped, "--aliases", request.spec.signature,
   "--precision", request.spec.precision.name, "--backend", request.target.name,
   "--name", request.fingerprint.name, "--library", request.fingerprint.libraryName,
   "--out-dir", request.folder.text] ++
    request.spec.flags.toList.flatMap fun f => ["--flag", f]

def argumentsFor (command : GeneratorCommand) (request : BuildRequest) : List String :=
  command.args ++ requestOptions request

/-- What a program that failed said: its errors, then its output if that is not blank. -/
def diagnostics (out err : ByteArray) : String :=
  let out := Text.Utf8.lossy out
  let err := Text.trimEnd (Text.Utf8.lossy err)
  if Text.isBlankText out then err
  else (if err = "" then "" else err ++ "\n") ++ Text.trimEnd out

/-- Runs a command for a request. Whoever runs it keeps the locks of the host. -/
def generate (command : GeneratorCommand) (vars : Program.Variables) (request : BuildRequest) (host : Host) :
    Disk × Except GeneratorFailure Place :=
  match Program.spawn host.disk (host.locks.map Lock.file) vars request.folder.route command.program
    (command.argumentsFor request) with
  | .error e => (host.disk, .error ⟨none, "failed to run '" ++ command.program ++ "': " ++ e.message⟩)
  | .ok run =>
    match run.status with
    | some 0 =>
      let library := request.folder.join request.fingerprint.libraryName
      if run.disk.isFile library.route then (run.disk, .ok library)
      else (run.disk, .error ⟨none, "'" ++ command.program ++ "' succeeded but did not produce " ++
        library.text⟩)
    | status => (run.disk, .error ⟨status.map Int.ofNat, diagnostics run.out run.err⟩)

def generator (command : GeneratorCommand) (vars : Program.Variables) : Generator :=
  command.generate vars

end KernelForge.GeneratorCommand
