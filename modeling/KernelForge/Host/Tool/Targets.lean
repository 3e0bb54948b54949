import KernelForge.Host.Tool.Listing

/-!
Where copies, moves and links go, and what becomes of what is there.
-/
namespace KernelForge.Tool

open Shell (State)

/-! ### Destinations -/

def placeIn (folder : String) (last : String) : String :=
  let folder := withoutSlashes folder
  if folder = "" || Path.endsInSlash folder then folder ++ last else folder ++ "/" ++ last

def nameOf (source : String) : String := (Path.pieces source).getLastD ""

structure Batch where
  sources : List String := []
  targets : List String := []

def intoFolder (folder : String) (sources : List String) (named : String → String) (st : State)
    (f : Batch → String → String → State → State) : State :=
  (sources.foldl (fun (st, batch) source =>
    let target := placeIn folder (named source)
    let after := f batch source target (st.done 0)
    let isMade := after.status = 0 && (after.walkName target).toOption.isSome
    (after.done (max st.status after.status), { batch with
      sources := batch.sources ++ [source]
      targets := if isMade then batch.targets ++ [target] else batch.targets : Batch })) (st, ({} : Batch))).1

/-- Where operands go: the place of each in a folder, where it has a name by `named`, or the one place for a
single operand. The folder is given by an option or stands last. -/
def destinations (name : String) (a : Arguments) (named : String → String) (st : State)
    (f : Batch → String → String → State → State) : State :=
  let into (folder : String) (sources : List String) (st : State) : State := intoFolder folder sources named st f
  match a.value? 't', a.operands with
  | some _, [] => misused name "missing file operand" 1 st
  | some folder, sources =>
    match st.walk folder with
    | .ok (.folder ..) => into folder sources st
    | .ok _ => complain name ("target directory " ++ quote folder ++ ": " ++ Fault.notFolder.reason) st
    | .error fault => complain name ("target directory " ++ quote folder ++ ": " ++ fault.reason) st
  | none, operands =>
    match operands.getLast?, operands.dropLast with
    | none, _ => misused name "missing file operand" 1 st
    | some only, [] => misused name ("missing destination file operand after " ++ quote only) 1 st
    | some target, sources =>
      if a.has 'T' then
        match operands with
        | _ :: _ :: third :: _ => misused name ("extra operand " ++ quote third) 1 st
        | _ => f {} (sources.headD "") target st
      else match st.walk target, sources with
        | .ok (.folder ..), sources => into target sources st
        | _, [source] => f {} source target st
        | .ok _, _ => complain name ("target " ++ quote target ++ ": " ++ Fault.notFolder.reason) st
        | .error fault, _ => complain name ("target " ++ quote target ++ ": " ++ fault.reason) st

def placeOf (target : String) : String := if target = "" then "." else target

def sameEntry (st : State) (a b : String) : Bool :=
  match st.disk.tip (st.route a), st.disk.tip (st.route b) with
  | .ok (.entry base last _), .ok (.entry base' last' _) => base = base' && last = last'
  | _, _ => false

def justMade (source target : String) : String :=
  "will not overwrite just-created " ++ quote target ++ " with " ++ quote source

def sameNumber (s t : FileTree) : Bool := (numberOf? s).isSome && numberOf? s = numberOf? t

def isLinkItself : FileTree → Bool
  | .link _ => true
  | _ => false

def isFolderItself : FileTree → Bool
  | .folder .. => true
  | _ => false

inductive Backup where
  | none
  | simple
  | existing
  | numbered
deriving DecidableEq, Repr

def backups : List (String × Backup) :=
  [("none", .none), ("off", .none), ("simple", .simple), ("never", .simple), ("existing", .existing),
   ("nil", .existing), ("numbered", .numbered), ("t", .numbered)]

def backupOption : Char := Char.ofNat 3

def updateOption : Char := Char.ofNat 4

def backupWord? (a : Arguments) : Option String :=
  ((a.options.filter fun o => o.1 = backupOption && o.2 ≠ "").map Prod.snd).getLast?

def backupOf (a : Arguments) : Backup :=
  if a.has 'b' || a.has 'S' || a.has backupOption then
    ((backupWord? a).bind (named? backups)).getD .existing
  else .none

def backupNumber (st : State) (path : String) : Nat :=
  let above := pathAbove path
  let folder := if above ≠ "" then above else if Path.isAbsolute path then "/" else "."
  let names : List String := match st.walk folder with
    | .ok (.folder _ entries) => entries.map fun e => Text.Octets.ofText e.1
    | _ => []
  let start := (lastName path ++ ".~").toList
  names.foldl (fun most n =>
    let cs := n.toList
    if start.isPrefixOf cs && cs.getLast? = some '~' then
      max most ((Text.Numeral.digits? 10 (cs.drop start.length).dropLast).getD 0)
    else most) 0

def spareName (a : Arguments) (kind : Backup) (path : String) (st : State) : String :=
  let number := backupNumber st path
  let isNumbered := kind = .numbered || (kind = .existing && 0 < number)
  withoutSlashes path ++
    (if isNumbered then ".~" ++ Text.Numeral.text (number + 1) ++ "~" else (a.value? 'S').getD "~")

def backUp (a : Arguments) (path : String) (st : State) : State × Option String :=
  let kind := backupOf a
  if kind ≠ .none && (st.walkName path).toOption.isSome then
    let spare := spareName a kind path st
    match st.disk.rename (st.route path) (st.route spare) with
    | .ok disk => ({ st with disk }, some spare)
    | .error _ => (st, none)
  else (st, none)

def endangers (a : Arguments) (source target : String) (st : State) : Bool :=
  let kind := backupOf a
  (kind = .simple || (kind = .existing && backupNumber st target = 0)) &&
    sameEntry st source (spareName a kind target st)

def mightLose (source target : String) : String :=
  "backing up " ++ quote target ++ " might destroy source;  " ++ quote source

def spareText : Option String → String
  | some spare => " (backup: " ++ quote spare ++ ")"
  | none => ""

inductive Replacing where
  | always
  | never
  | skipped
  | older
  | asked
deriving DecidableEq, Repr

def updates : List (String × Replacing) := [("all", .always), ("none", .skipped), ("older", .older)]

def replacings (force : Bool) (a : Arguments) : List Replacing :=
  let last (letters : List Char) : Option (Char × String) :=
    (a.options.filter fun o => letters.contains o.1).getLast?
  let update := match last ['u', updateOption] with
    | some (c, word) => if c = 'u' || word = "" then .older else (named? updates word).getD .older
    | none => .always
  let asking := match last (if force then ['f', 'i', 'n'] else ['i', 'n']) with
    | some ('i', _) => .asked
    | some ('n', _) => .never
    | _ => Replacing.always
  [update, asking]

def wordFlaw? (name : String) (a : Arguments) : Option String :=
  a.options.findSome? fun (letter, word) =>
    if letter = updateOption && word ≠ "" && (named? updates word).isNone then
      some (unnamed name "update" word ["'all'", "'none'", "'older'"])
    else none

def backupFlaw? (name : String) (a : Arguments) : Option String :=
  (backupWord? a).bind fun word =>
    if (named? backups word).isNone then
      some (unknownWord name "backup type" word
        ["'none', 'off'", "'simple', 'never'", "'existing', 'nil'", "'numbered', 't'"])
    else none

def isOutdated (st : State) (source : FileTree) (target : String) : Bool :=
  match st.walk target with
  | .ok t => (nodeOf st source).modified ≤ (nodeOf st t).modified
  | .error _ => false

/-! ### A target that is the source -/

structure Manner where
  moves : Bool := false
  keepsLinks : Bool := false
  hard : Bool := false
  soft : Bool := false
  backsUp : Bool := false
  clears : Bool := false

/-- What becomes of a source whose target is there. -/
inductive Overlap where
  | apart
  | settled
  | same
deriving DecidableEq, Repr

def overlap (st : State) (m : Manner) (source target : String) (seen there : FileTree) : Overlap :=
  let entry := sameEntry st source target
  let isSame (s t : FileTree) : Bool := if isLinkItself s && isLinkItself t then entry else sameNumber s t
  -- By their names alone, `s` and `t` are found.
  let compare (s t : FileTree) : Overlap :=
    let plain := !isLinkItself s && !isLinkItself t
    if m.backsUp then
      if isSame s t then if entry then .same else .apart
      else if !m.moves && !m.keepsLinks && isLinkItself s && !isLinkItself t then .same
      else .apart
    else if (m.moves || m.clears) && isLinkItself t then .apart
    else if (m.moves || m.clears) && isSame s t && 1 < linkCount st t && !entry then
      if m.moves then .same else .apart
    else if plain && !isSame s t then .apart
    else if plain && m.hard then .settled
    else if m.moves && isLinkItself seen && 1 < linkCount st t then
      if (st.disk.locate (st.route source)).toOption = (st.disk.locateName (st.route target)).toOption then .same
      else .apart
    else if m.soft && isLinkItself t then .apart
    else if m.keepsLinks then
      match st.walk source, st.walk target with
      | .ok x, .ok y =>
        if !sameNumber x y then .apart else if !m.hard then .same else if isLinkItself t then .apart else .settled
      | _, _ => .apart
    else .same
  if m.hard && isSame seen there then .settled
  else if m.keepsLinks then
    if isLinkItself seen && isLinkItself there then if entry then .same else .apart
    else compare seen there
  else if !isSame seen there then .apart
  else match st.walkName source, st.walkName target with
    | .ok s, .ok t => if isLinkItself s && isLinkItself t && m.clears then .apart else compare s t
    | _, _ => .apart

end KernelForge.Tool
