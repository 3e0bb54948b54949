import KernelForge.Host.Tool.Listing

/-!
Tools that remove files and folders.
-/
namespace KernelForge.Tool

open Shell (State)

def rmdir (name : String) (args : List String) (st : State) : State :=
  let g : Grammar := {
    plain := "pvi"
    long := [("parents", 'p'), ("verbose", 'v'), ("ignore-fail-on-non-empty", 'i')] }
  withArguments name g args st fun a st =>
    let rec remove : (fuel : Nat) → (word path : String) → State → State
      | 0, _, _, st => st
      | fuel + 1, word, path, st =>
        let st := if a.has 'v' then st.print (name ++ ": removing directory, " ++ quote path ++ "\n") else st
        match st.disk.removeFolder (st.route path) with
        | .error fault =>
          if a.has 'i' && fault = .notEmpty then st
          else
            let leads := match st.walk path with
              | .ok (.folder ..) => true
              | .ok _ => false
              | .error fault => fault ≠ .notFolder
            let isHidden := fault = .notFolder && Path.endsInSlash path && leads && isLink st (withoutSlashes path)
            let reason := if isHidden then "Symbolic link not followed" else fault.reason
            complain name ("failed to remove " ++ word ++ quote path ++ ": " ++ reason) st
        | .ok disk =>
          let st := { st with disk }
          let above := pathAbove path
          if a.has 'p' && above ≠ "" then remove fuel "directory " above st else st
    if a.operands.isEmpty then misused name "missing operand" 1 st
    else each a.operands st fun path st => remove (path.length + 1) "" path st

def unlink (name : String) (args : List String) (st : State) : State :=
  withArguments name {} args st fun a st =>
    match a.operands with
    | [] => misused name "missing operand" 1 st
    | [path] => settle name ("cannot unlink " ++ quote path) st (st.disk.unlink (st.route path))
    | _ :: other :: _ => misused name ("extra operand " ++ quoteText other) 1 st

inductive Asking where
  | never
  | once
  | always
deriving DecidableEq, Repr

structure Removal where
  name : String
  deep : Bool
  folders : Bool
  lenient : Bool
  verbose : Bool
  asking : Asking
  reckless : Bool

namespace Removal

def agreed (r : Removal) (question : String) (st : State) : State × Bool :=
  if r.asking = .always then ask (r.name ++ ": " ++ question ++ "? ") st else (st, true)

/-- Removes what a path names. The answer is whether nothing is left of it. -/
def remove (r : Removal) : (depth : Nat) → (path : String) → State → State × Bool
  | 0, _, st => (st, false)
  | depth + 1, path, st =>
    let refuse (fault : Fault) (st : State) : State × Bool :=
      (complain r.name ("cannot remove " ++ quote path ++ ": " ++ fault.reason) st, false)
    let told (what : String) (st : State) : State × Bool :=
      (if r.verbose then st.print ("removed " ++ what ++ quote path ++ "\n") else st, true)
    match st.walkName path with
    | .error fault =>
      if r.lenient && (fault = .notFound || fault = .notFolder) then (st, true)
      else refuse (if fault = .notFound && isLink st (withoutSlashes path) then .notFolder else fault) st
    | .ok (.folder id entries) =>
      if !r.deep && !r.folders then refuse .isFolder st
      else if !r.deep && !entries.isEmpty then refuse .notEmpty st
      else if (Path.pieces path).getLast?.any fun p => p = "." || p = ".." then
        (complain r.name ("refusing to remove '.' or '..' directory: skipping " ++ quote path) st, false)
      else if r.deep && !r.reckless && (Path.pieces path).isEmpty then
        (complain r.name ("it is dangerous to operate recursively on " ++ quote path ++ "\n" ++ r.name ++
          ": use --no-preserve-root to override this failsafe") st, false)
      else
        let gone (st : State) : State × Bool :=
          match r.agreed ("remove " ++ kindWords st (.folder id entries) ++ " " ++ quote path) st with
          | (st, false) => (st, false)
          | (st, true) =>
            match st.disk.removeFolder (st.route path) with
            | .ok disk => told "directory " { st with disk }
            | .error fault => if r.lenient && fault = .notFolder then (st, true) else refuse fault st
        if !r.deep || entries.isEmpty then gone st
        else
          match r.agreed ("descend into directory " ++ quote path) st with
          | (st, false) => (st, false)
          | (st, true) =>
            let (st, all) := entries.foldl (fun (st, all) e =>
              let (st, one) := remove r depth (Path.join path (Text.Octets.ofText e.1)) st
              (st, all && one)) (st, true)
            if all then gone st else (st, false)
    | .ok t =>
      match r.agreed ("remove " ++ kindWords st t ++ " " ++ quote path) st with
      | (st, false) => (st, false)
      | (st, true) =>
        match st.disk.unlink (st.route path) with
        | .ok disk => told "" { st with disk }
        | .error fault => if r.lenient && fault = .notFolder then (st, true) else refuse fault st

end Removal

def askings : List (String × Asking) :=
  [("never", .never), ("no", .never), ("none", .never), ("once", .once), ("always", .always), ("yes", .always)]

def rm (name : String) (args : List String) (st : State) : State :=
  let askOption := Char.ofNat 3
  let wholeOption := Char.ofNat 4
  let recklessOption := Char.ofNat 5
  let fileSystemOption := Char.ofNat 6
  let dashed := args.find? fun s => 1 < s.length && s.toList.head? = some '-' && (st.walkName s).isOk
  let g : Grammar := {
    plain := "rRfdiIv\x05\x06"
    optional := "\x03\x04"
    usage := match dashed with
      | some s => "\nTry '" ++ name ++ " ./" ++ quoteIfNeeded s ++ "' to remove the file " ++ quote s ++ "."
      | none => ""
    long := [("recursive", 'r'), ("force", 'f'), ("dir", 'd'), ("verbose", 'v'), ("interactive", askOption),
      ("preserve-root", wholeOption), ("no-preserve-root", recklessOption), ("one-file-system", fileSystemOption)] }
  withArguments name g args st fun a st =>
    let words := (a.options.filter fun o => o.1 = askOption && o.2 ≠ "").map Prod.snd
    match words.find? fun w => (named? askings w).isNone with
    | some word =>
      let rows := ["'never', 'no', 'none'", "'once'", "'always', 'yes'"]
      complain name (unnamed name "interactive" word rows) st
    | none =>
      let asking := (a.options.filterMap fun o =>
        if o.1 = 'f' then some Asking.never
        else if o.1 = 'i' then some .always
        else if o.1 = 'I' then some .once
        else if o.1 = askOption then some ((named? askings o.2).getD .always)
        else none).getLast?.getD .never
      let lenient := (a.options.filter fun o => o.1 = 'f' || o.1 = 'i' || o.1 = 'I').getLast?.any fun o => o.1 = 'f'
      let r : Removal := {
        name, asking, lenient
        deep := a.has 'r' || a.has 'R'
        folders := a.has 'd'
        verbose := a.has 'v'
        reckless := a.has recklessOption }
      if a.operands.isEmpty then (if a.has 'f' then st else misused name "missing operand" 1 st)
      else
        let count := a.operands.length
        let (st, goes) := if asking = .once && (r.deep || 3 < count) then
            ask (name ++ ": remove " ++ Text.Numeral.text count ++
              (if count = 1 then " argument" else " arguments") ++
              (if r.deep then " recursively? " else "? ")) st
          else (st, true)
        if goes then each a.operands st fun path st => (r.remove (st.disk.nodes.size + 2) path st).1 else st

end KernelForge.Tool
