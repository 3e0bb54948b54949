import KernelForge.Cli
import KernelForge.Host.Change

/-!
The program `genred`: reads the files that a command line depends on, runs it, and carries the changes out.
-/
namespace KernelForge.Main

def absolute (key : List String) : String :=
  "/" ++ "/".intercalate key

/-- A file as it is kept on a disk. Files that start like a script can be executed. -/
def nodeOf (content : ByteArray) : Node :=
  { content, mode := if content.extract 0 2 = "#!".toUTF8 then 0o755 else 0o644 }

/-- Reads a file or a folder with all below it onto a disk, as deep as `depth`. -/
def snapshot (depth : Nat) (key : List String) (disk : Disk) : IO Disk := do
  let path := (← IO.currentDir) / absolute key
  match depth with
  | 0 => return disk
  | depth + 1 =>
    if ← path.isDir then
      let mut disk := if disk.isFolder key then disk else disk.newFolder key 0o755
      for e in ← path.readDir do
        disk ← snapshot depth (key ++ [e.fileName]) disk
      return disk
    else if ← path.pathExists then
      return disk.newFile key (nodeOf (← IO.FS.readBinFile path))
    else return disk

/-- The path that a route leads to if all that it passes through are folders. -/
def collapse (route : List String) : List String :=
  route.foldl (fun key part =>
    if part = "" || part = "." then key
    else if part = ".." then key.dropLast
    else key ++ [part]) []

/-- Adds what a route leads to to a disk, with what it passes through as far as that exists. -/
def attach (disk : Disk) (route : List String) : IO Disk := do
  let here ← IO.currentDir
  let mut disk := disk
  for n in List.range route.length do
    let above := collapse (route.take n)
    let path := here / absolute above
    unless (disk.get? above).isSome do
      if ← path.isDir then disk := disk.newFolder above 0o755
      else if ← path.pathExists then disk := disk.newFile above (nodeOf (← IO.FS.readBinFile path))
  snapshot 64 (collapse route) disk

def carryOut : Change → IO Unit
  | .removeFile path => IO.FS.removeFile (absolute path)
  | .removeFolder path => IO.FS.removeDir (absolute path)
  | .makeFolder path => IO.FS.createDir (absolute path)
  | .makeLink path _ => throw (IO.userError ("cannot make the link " ++ absolute path))
  | .writeFile path content executable => do
    IO.FS.writeBinFile (absolute path) content
    if executable then
      let all : IO.AccessRight := { read := true, execution := true }
      IO.setAccessRights (absolute path) { user := { all with write := true }, group := all, other := all }

def variableNames : List String := Config.variableNames ++ ["PATH", "HOME", "TMPDIR"]

def variablesHere : IO Program.Variables := do
  let mut values := #[]
  for name in variableNames do
    if let some value ← IO.getEnv name then
      values := values.push (name, value)
  return values.toList

/-- The files that a request depends on: configuration, generator and cache. -/
def filesFor (r : Cli.Request) (site : Cli.Surroundings) : IO Disk := do
  let locate (path : String) := Path.resolve site.folder path
  let mut disk ← attach Installation.disk (site.folder ++ [Config.fileName])
  if let some path := r.config then
    disk ← attach disk (locate path)
  match Cli.configOf r site disk with
  | .error _ => return disk
  | .ok config =>
    if let some command := config.compiler then
      for word in command.program :: command.args do
        let path := (← IO.currentDir) / absolute (collapse (locate word))
        if ← path.pathExists then
          unless ← path.isDir do
            disk ← attach disk (locate word)
    attach disk (locate config.artifactRoot)

end KernelForge.Main

open KernelForge in
def main (words : List String) : IO UInt32 := do
  let folder := Path.pieces (← IO.currentDir).toString
  let site : Cli.Surroundings := ⟨← Main.variablesHere, folder⟩
  let disk ← match Cli.Request.parse words with
    | .ok request => Main.filesFor request site
    | .error _ => pure Installation.disk
  let (host, transcript) := Cli.run site words { disk }
  for change in Change.between disk host.disk do
    Main.carryOut change
  for line in transcript.progress do
    IO.eprintln line
  for line in transcript.out do
    IO.println line
  return transcript.code
