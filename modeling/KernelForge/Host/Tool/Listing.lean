import KernelForge.Host.Shell.Format
import KernelForge.Host.Tool.Streams

/-!
Tools that show parts of paths, and what is known of files.
-/
namespace KernelForge.Tool

open Shell (State)

/-! ### Parts of paths -/

def basename (name : String) (args : List String) (st : State) : State :=
  let g : Grammar := {
    ordered := true
    plain := "az"
    valued := "s"
    long := [("multiple", 'a'), ("suffix", 's'), ("zero", 'z')] }
  withArguments name g args st fun a st =>
    let several := a.has 'a' || a.has 's'
    let finish := if a.has 'z' then "\x00" else "\n"
    let cut (suffix path : String) : String :=
      let base := if path = "" then "" else lastName path
      if base ≠ suffix && suffix.toList.isSuffixOf base.toList then
        String.ofList (base.toList.take (base.length - suffix.length))
      else base
    match several, a.operands with
    | _, [] => misused name "missing operand" 1 st
    | true, paths => each paths st fun path st => st.print (cut ((a.value? 's').getD "") path ++ finish)
    | false, [path] => st.print (cut "" path ++ finish)
    | false, [path, suffix] => st.print (cut suffix path ++ finish)
    | false, _ :: _ :: third :: _ => misused name ("extra operand " ++ quoteText third) 1 st

def folderOf (path : String) : String :=
  let trimmed := (path.toList.reverse.dropWhile (· = '/')).dropWhile (· ≠ '/')
  let folder := String.ofList (trimmed.dropWhile (· = '/')).reverse
  if folder ≠ "" then folder else if Path.isAbsolute path then "/" else "."

def dirname (name : String) (args : List String) (st : State) : State :=
  withArguments name { plain := "z", long := [("zero", 'z')] } args st fun a st =>
    if a.operands.isEmpty then misused name "missing operand" 1 st
    else each a.operands st fun path st => st.print (folderOf path ++ (if a.has 'z' then "\x00" else "\n"))

/-! ### What is known of files -/

def kindLetter (st : State) : FileTree → Char
  | .folder .. => 'd'
  | .link _ => 'l'
  | .file id =>
    match (st.disk.node id).kind with
    | .pipe => 'p'
    | .device _ => 'c'
    | _ => '-'

def shownSize (st : State) (t : FileTree) : Nat :=
  match t with
  | .folder .. => 4096
  | .file id =>
    match (st.disk.node id).kind with
    | .pipe => 0
    | _ => st.disk.size t
  | t => st.disk.size t

def blocks (st : State) (t : FileTree) : Nat :=
  match t with
  | .link _ => 0
  | t => (shownSize st t + 4095) / 4096 * 8

def linkCount (st : State) : FileTree → Nat
  | .file id => st.disk.nameCount id
  | .link _ => 1
  | .folder id entries =>
    if (st.disk.root.pathOf? id).isNone then 0
    else 2 + (entries.filter fun e => match e.2 with
      | .folder .. => true
      | _ => false).length

def kindWords (st : State) (t : FileTree) : String :=
  match kindLetter st t with
  | 'd' => "directory"
  | 'l' => "symbolic link"
  | 'p' => "fifo"
  | 'c' => "character special file"
  | _ => if shownSize st t = 0 then "regular empty file" else "regular file"

def modeLetters (st : State) (t : FileTree) : String :=
  String.singleton (kindLetter st t) ++ Mode.text (nodeOf st t).mode

end KernelForge.Tool
