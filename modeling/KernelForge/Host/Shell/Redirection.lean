import KernelForge.Host.Shell.Script

/-!
Redirections: where the streams of a command lead.
-/
namespace KernelForge.Shell

namespace State

def duplicate (st : State) (stream other : Nat) : State × Bool :=
  match st.openingOf? other with
  | some n => (st.attach stream n, true)
  | none => (st.complain (Text.Numeral.text other ++ ": Bad file descriptor") 2, false)

def openNumber (st : State) (stream : Nat) (access : Access) (id : Nat) : State :=
  let opening : Opening := { target := .file id }
  match access with
  | .read => (st.await id).connect stream { opening with reads := true }
  | .both => st.connect stream { opening with reads := true, writes := true }
  | .append => st.connect stream { opening with writes := true, appends := true }
  | _ =>
    let st := if (st.disk.node id).kind = .pipe then st
      else { st with disk := st.disk.setContent id ByteArray.empty }
    st.connect stream { opening with writes := true }

def openPath (st : State) (stream : Nat) (access : Access) (path : String) : Except Fault State :=
  match access with
  | .read =>
    match st.walk path with
    | .ok (.file id) => .ok (st.openNumber stream .read id)
    | .ok _ => .ok (st.connect stream { target := .folder, reads := true })
    | .error fault => .error fault
  | access =>
    if access = .write && st.options.keepsFiles && st.disk.isFile (st.route path) then .error .alreadyExists
    else match st.disk.openFile (st.route path) st.fileMode with
      | .ok (disk, id) => .ok ({ st with disk }.openNumber stream access id)
      | .error fault => .error fault

def openAt (st : State) (stream : Nat) (access : Access) (path : String) : State × Bool :=
  let (verb, absent) := if access = .read then ("open", "No such file") else ("create", "Directory nonexistent")
  let refuse (fault : Fault) : State × Bool :=
    let reason := if fault = .notFound || fault = .notFolder then absent else fault.reason
    (st.complain ("cannot " ++ verb ++ " " ++ path ++ ": " ++ reason) 2, false)
  match streamAt? path with
  | none =>
    match st.openPath stream access path with
    | .ok st => (st, true)
    | .error fault => refuse fault
  | some other =>
    match st.openingOf? other, st.opening? other with
    | some n, some o =>
      match o.target with
      | .file id => (st.openNumber stream access id, true)
      | _ => (st.attach stream n, true)
    | _, _ => refuse .notFound

end State

section

variable (go : Evaluator) (fuel : Nat)

def textIn (w : Word) (st : State) : State × String :=
  expandText (substituted go) fuel .start w st

inductive Aim where
  | file (access : Access) (path : String)
  | stream (number : Nat)
  | closed
  | document (number : Nat)

/-- What redirections lead streams to. Every target is expanded before one is followed. -/
def aims : List Redirect → State → State × List (Nat × Aim)
  | [], st => (st, [])
  | r :: rest, st =>
    let (st, first) := match r with
      | .file stream access target =>
        let (st, path) := textIn go fuel target st
        (st, (stream, Aim.file access path))
      | .same stream other =>
        let (st, text) := textIn go fuel other st
        if st.flow.isSome || text = "-" then (st, (stream, Aim.closed))
        else match text.toList with
          | [c] =>
            if c.isDigit then (st, (stream, Aim.stream (c.toNat - '0'.toNat)))
              else (unknown st, (stream, Aim.closed))
          | _ => (unknown st, (stream, Aim.closed))
      | .document stream number => (st, (stream, Aim.document number))
    if st.flow.isSome then (st, [])
    else
      let (st, more) := aims rest st
      (st, first :: more)
where
  unknown (st : State) : State := { st with line := st.reached }.fail "Syntax error: Bad fd number"

def follow (st : State) (stream : Nat) : Aim → State × Bool
  | .file access path => st.openAt stream access path
  | .stream n => st.duplicate stream n
  | .closed => (st.disconnect stream, true)
  | .document number =>
    let (st, text) := expandText (substituted go) fuel .never ((st.documents.lookup number).getD []) st
    if st.flow.isSome then (st.survive, false) else (st.feed stream (Text.Octets.toBytes text), true)

def redirect (redirects : List Redirect) (st : State) : State × Bool :=
  let (st, aims) := aims go fuel redirects st
  if st.flow.isSome then (st, false)
  else aims.foldl (fun (st, ok) t => if ok then follow go fuel st t.1 t.2 else (st, false)) (st, true)

end

end KernelForge.Shell
