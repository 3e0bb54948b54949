import KernelForge.Host.Tool.Targets

/-!
Tools that make links.
-/
namespace KernelForge.Tool

open Shell (State)

/-! ### Linking -/

def relativePath (folder key : List String) : String :=
  let shared := ((folder.zip key).takeWhile fun p => p.1 = p.2).length
  let up := List.replicate (folder.length - shared) ".."
  match up ++ key.drop shared with
  | [] => "."
  | names => "/".intercalate names

def canonical (st : State) (path : String) : Except Fault (List String) :=
  match st.disk.locate (st.route path) with
  | .ok key => .ok key
  | .error fault =>
    match st.disk.farTip Disk.linkLimit (Path.withoutSlash (st.route path)) with
    | .ok (.entry base last _) => if fault = .notFound then .ok (base ++ [last]) else .error fault
    | .ok .dots => .error fault
    | .error fault => .error fault

/-- Gives something one more name. What is in the way of the name is found before that a folder has only one. -/
def addName (disk : Disk) (t : FileTree) (route : List String) : Except Fault Disk :=
  match disk.enter route t, t with
  | .ok _, .folder .. => .error .notPermitted
  | made, _ => made

def linkModel (a : Arguments) (source target : String) (st : State) : Except Fault FileTree :=
  if a.has 's' then
    .ok (.link (Text.Octets.toText (
      if a.has 'r' then
        match canonical st source, st.disk.tip (st.route target) with
        | .ok key, .ok (.entry base _ _) => Text.Octets.ofText (relativePath base key)
        | _, _ => source
      else source)))
  else if a.has 'L' then st.walk source
  else st.walkName source

def makeNew (soft : Bool) (model : FileTree) (route : List String) (disk : Disk) : Except Fault Disk :=
  match soft, model with
  | true, .link text => disk.makeLink text route
  | _, t => addName disk t route

def linkRefused (soft : Bool) (source target : String) (fault : Fault) : String :=
  let what := if soft then
      "symbolic link " ++ quote target ++
        (if source = "" || fault = .nameTooLong then " -> " ++ quote source else "")
    else "hard link " ++ quote target ++
      (if fault = .alreadyExists || fault = .noSpace then "" else " => " ++ quote source)
  "failed to create " ++ what ++ ": " ++ fault.reason

/-- Makes a link at a place, of which messages show `target`. Only where that fails is it asked why, and
whether what is there may be replaced. -/
def linkTo (name : String) (a : Arguments) (batch : Batch) (source target place : String) (st : State) : State :=
  let soft := a.has 's'
  let route := st.route place
  match linkModel a source place st with
  | .error fault => complain name ("failed to access " ++ quote source ++ ": " ++ fault.reason) st
  | .ok model =>
    let shown := match soft, model with
      | true, .link text => Text.Octets.ofText text
      | _, _ => source
    let finish (disk : Disk) (spare : Option String) (st : State) : State :=
      let st := { st with disk }
      if a.has 'v' then
        let before := (spare.map fun s => quote s ++ " ~ ").getD ""
        st.print (before ++ quote target ++ (if soft then " -> " else " => ") ++ quote shown ++ "\n")
      else st
    match makeNew soft model route st.disk with
    | .ok disk => finish disk none st
    | .error fault =>
      let backsUp := backupOf a ≠ .none
      let refuse (st : State) : State := complain name (linkRefused soft shown target fault) st
      if isFolderItself model && !a.has 'd' && !a.has 'F' then
        complain name (quoteIfNeeded source ++ ": hard link not allowed for directory") st
      else if !(a.has 'f' || a.has 'i' || backsUp) then refuse st
      else match st.walkName place with
        | .error .notFound => refuse st
        | .error fault => complain name ("failed to access " ++ quote target ++ ": " ++ fault.reason) st
        | .ok (.folder ..) => complain name (quoteIfNeeded target ++ ": cannot overwrite directory") st
        | .ok there =>
          if !soft && a.has 'f' && backupOf a ≠ .numbered && batch.targets.contains target then
            complain name (justMade source target) st
          else
          let entry := sameEntry st source place
          let isSame := match if soft then st.walk source else .ok model with
            | .ok seen =>
              (if isLinkItself seen && isLinkItself there then entry else sameNumber seen there) &&
                (linkCount st seen = 1 || entry)
            | .error _ => false
          if (!soft || !backsUp) && isSame then
            complain name (quote source ++ " and " ++ quote target ++ " are the same file") st
          else
            let asking := (a.options.filter fun o => o.1 = 'f' || o.1 = 'i').getLast?.any fun o => o.1 = 'i'
            let (st, goes) := if asking then ask (name ++ ": replace " ++ quote target ++ "? ") st else (st, true)
            if !goes then st.done 1
            else if fault ≠ .alreadyExists then refuse st
            else
              let (st, spare) := backUp a place st
              let disk := (st.disk.unlink route).toOption.getD st.disk
              match makeNew soft model route disk with
              | .ok disk => finish disk spare st
              | .error _ => refuse st

def ln (name : String) (args : List String) (st : State) : State :=
  let g : Grammar := {
    plain := "sfnvrTbLPdFi"
    valued := "tS"
    optional := "\x03"
    long := [("symbolic", 's'), ("force", 'f'), ("no-dereference", 'n'), ("verbose", 'v'), ("relative", 'r'),
      ("no-target-directory", 'T'), ("target-directory", 't'), ("backup", backupOption), ("suffix", 'S'),
      ("logical", 'L'), ("physical", 'P'), ("directory", 'd'), ("interactive", 'i')] }
  withArguments name g args st fun a st =>
    let misplaced := (a.value? 't').bind fun folder => match st.walk folder with
      | .ok (.folder ..) => none
      | .ok _ => some ("target " ++ quote folder ++ " is not a directory")
      | .error fault => some ("failed to access " ++ quote folder ++ ": " ++ fault.reason)
    let flaw := (backupFlaw? name a).or
      (if a.has 'r' && !a.has 's' then some "cannot do --relative without --symbolic" else none)
    -- A folder, where links to folders may not count.
    let folder? (path : String) : Except Fault Unit :=
      if a.has 'n' && isLink st path then .error .notFolder
      else match st.walk path with
        | .ok (.folder ..) => .ok ()
        | .ok _ => .error .notFolder
        | .error fault => .error fault
    let named (batch : Batch) (source target : String) (st : State) : State :=
      linkTo name a batch source target (if nameOf source = "" then "" else target) st
    let into (folder : String) (sources : List String) : State :=
      match folder? folder with
      | .ok () => intoFolder folder sources nameOf st named
      | .error fault => complain name ("target " ++ quote folder ++ ": " ++ fault.reason) st
    match misplaced, flaw, a.operands with
    | some message, _, _ => complain name message st
    | none, _, [] => misused name "missing file operand" 1 st
    | none, some message, _ => complain name message st
    | none, none, operands =>
      if a.has 'T' then
        match operands with
        | [source, target] => linkTo name a {} source target target st
        | [only] => misused name ("missing destination file operand after " ++ quote only) 1 st
        | _ => misused name ("extra operand " ++ quote (operands.getD 2 "")) 1 st
      else match a.value? 't', operands with
        | some folder, sources => into folder sources
        | none, [only] => intoFolder "." [only] nameOf st named
        | none, [source, target] =>
          -- A folder is gone into only where its name is in the way.
          let made := (linkModel a source target st).bind fun t => makeNew (a.has 's') t (st.route target) st.disk
          let isFree := match made with
            | .ok _ => true
            | .error fault => fault ∉ [.alreadyExists, .notFolder, .invalid]
          if (a.has 'r' || !isFree) && (folder? target).toOption.isSome then into target [source]
            else linkTo name a {} source target target st
        | none, operands => into (operands.getLastD "") operands.dropLast

def link (name : String) (args : List String) (st : State) : State :=
  withArguments name {} args st fun a st =>
    match a.operands with
    | [] => misused name "missing operand" 1 st
    | [only] => misused name ("missing operand after " ++ quoteText only) 1 st
    | [source, target] =>
      settle name ("cannot create link " ++ quote target ++ " to " ++ quote source) st
        (match st.walkName source with
          | .ok t => addName st.disk t (st.route target)
          | .error fault => .error fault)
    | _ :: _ :: third :: _ => misused name ("extra operand " ++ quoteText third) 1 st

end KernelForge.Tool
