import KernelForge.Host.Tool.Targets

/-!
Tools that copy and move files.
-/
namespace KernelForge.Tool

open Shell (State)

/-! ### Moving -/

def moveRefused (source target : String) : Fault → String
  | .invalid => "cannot move " ++ quote source ++ " to a subdirectory of itself, " ++ quote target
  | .notEmpty => "cannot overwrite " ++ quote target ++ ": " ++ Fault.notEmpty.reason
  | fault => "cannot move " ++ quote source ++ " to " ++ quote target ++ ": " ++ fault.reason

def isTaken (st : State) (source target : String) : Bool :=
  match st.disk.tip (st.route source), st.disk.tip (st.route target) with
  | .ok (.entry base last _), .ok (.entry base' last' _) =>
    (st.disk.get? (base ++ [last])).isSome && (st.disk.get? (base' ++ [last'])).isSome
  | .ok (.entry ..), .ok .dots => true
  | _, _ => false

/-- Moves a source to a target. A target that is there is looked at before anything is moved: it may have to
stay, be the source itself, or be of another kind. -/
def moveTo (name : String) (a : Arguments) (batch : Batch) (source target : String) (st : State) : State :=
  let place := placeOf target
  let rules := replacings true a
  let move (st : State) : State :=
    let (st, spare) := backUp a place st
    match st.disk.rename (st.route source) (st.route place) with
    | .error fault => complain name (moveRefused source target fault) st
    | .ok disk =>
      let st := { st with disk }
      if a.has 'v' then
        st.print ("renamed " ++ quote source ++ " -> " ++ quote target ++ spareText spare ++ "\n")
      else st
  let keep (st : State) : State :=
    if rules.contains .never then complain name ("not replacing " ++ quote target) st else st
  let stays := rules.any fun r => r = .never || r = .skipped
  if stays && isTaken st source target then keep st
  else match st.walkName source, st.walkName place with
    | .error fault, _ => complain name ("cannot stat " ++ quote source ++ ": " ++ fault.reason) st
    | .ok seen, .error .notFound =>
      if isFolderItself seen && isLink st (withoutSlashes target) then
        complain name ("cannot overwrite non-directory " ++ quote target ++ " with directory " ++ quote source) st
      else move st
    | _, .error fault => complain name ("cannot stat " ++ quote target ++ ": " ++ fault.reason) st
    | .ok seen, .ok there =>
      let backsUp := backupOf a ≠ .none
      let manner : Manner := { moves := true, keepsLinks := true, backsUp }
      if stays then keep st
      else if overlap st manner source place seen there = .same then
        complain name (quote source ++ " and " ++ quote target ++ " are the same file") st
      else if rules.contains .older && !isFolderItself seen && isOutdated st seen place then st
      else
        let (st, goes) := if rules.contains .asked then ask (name ++ ": overwrite " ++ quote target ++ "? ") st
          else (st, true)
        if !goes then st.done 1
        else if isFolderItself seen && !isFolderItself there && !backsUp then
          complain name ("cannot overwrite non-directory " ++ quote target ++ " with directory " ++ quote source) st
        else if !isFolderItself there && backupOf a ≠ .numbered && batch.targets.contains target then
          complain name (justMade source target) st
        else if !isFolderItself seen && isFolderItself there && !backsUp then
          complain name ("cannot overwrite directory " ++ quote target ++ " with non-directory") st
        else if backsUp && endangers a source place st then
          complain name (mightLose source target ++ " not moved") st
        else move st

def mv (name : String) (args : List String) (st : State) : State :=
  let g : Grammar := {
    plain := "fnivuTbZ\x05\x06"
    valued := "tS"
    optional := "\x03\x04"
    long := [("force", 'f'), ("no-clobber", 'n'), ("interactive", 'i'), ("verbose", 'v'), ("update", updateOption),
      ("no-target-directory", 'T'), ("target-directory", 't'), ("backup", backupOption), ("suffix", 'S'),
      ("strip-trailing-slashes", Char.ofNat 5), ("no-copy", Char.ofNat 6), ("context", 'Z')] }
  withArguments name g args st fun a st =>
    match (wordFlaw? name a).or (backupFlaw? name a) with
    | some message => complain name message st
    | none => destinations name a nameOf st fun batch source target st =>
      moveTo name a batch (if a.has (Char.ofNat 5) then withoutSlashes source else source) target st

/-! ### Copying -/

inductive Following where
  | always
  | operands
  | never
deriving DecidableEq, Repr

def emptyOption : Char := Char.ofNat 5

structure Copying where
  name : String
  options : Arguments
  deep : Bool := false
  following : Following := .always
  keepsMode : Bool := false
  keepsTime : Bool := false
  keepsNames : Bool := false
  clears : Bool := false
  mode : Option Nat := none

namespace Copying

def has (c : Copying) (letter : Char) : Bool := c.options.has letter

def finish (c : Copying) (id : Nat) (model : Node) (st : State) : State :=
  { st with disk := st.disk.modify id fun n =>
    { n with
      mode := if c.keepsMode then model.mode else n.mode
      modified := if c.keepsTime then model.modified else n.modified } }

def modeFor (c : Copying) (model : Node) (st : State) : Nat :=
  c.mode.getD (model.mode &&& 0o777 &&& (0o777 ^^^ st.mask))

def manner (c : Copying) : Manner where
  keepsLinks := c.following = .never
  hard := c.has 'l'
  soft := c.has 's'
  backsUp := backupOf c.options ≠ .none
  clears := c.clears

def told (c : Copying) (source target : String) (spare : Option String) (st : State) : State :=
  if c.has 'v' then st.print (quote source ++ " -> " ++ quote target ++ spareText spare ++ "\n") else st

def agreed (c : Copying) (target : String) (st : State) : State × Bool :=
  if (replacings false c.options).contains .asked then ask (c.name ++ ": overwrite " ++ quote target ++ "? ") st
  else (st, true)

/-- Makes way for a copy. What is at the target may have to stay, be the source itself, or be of another
kind, and then the state after that is all there is. Else what is left at the target is given, and the name
of what was put out of the way. -/
def makeWay (c : Copying) (batch : Batch) (source target : String) (seen : FileTree) (st : State) :
    Except State (State × Option FileTree × Option String) :=
  let isFolder := isFolderItself seen
  let isPipe := match seen with
    | .file id => (st.disk.node id).kind = .pipe
    | _ => false
  let m := c.manner
  let byName := isFolder || isLinkItself seen || (isPipe && c.deep) || m.hard || m.soft || m.backsUp || m.clears
  let place := if byName || c.has 'T' then placeOf target else target
  let rules := replacings false c.options
  let stays := rules.any fun r => r = .never || r = .skipped
  let refuse (said : String) (st : State) : Except State (State × Option FileTree × Option String) :=
    .error (complain c.name said st)
  match (if byName then st.walkName place else st.walk place) with
  | .error .notFound => .ok (st, none, none)
  | .error fault => refuse ("cannot stat " ++ quote target ++ ": " ++ fault.reason) st
  | .ok there =>
    let outcome := if stays then .apart else overlap st m source place seen there
    if outcome = .same then refuse (quote source ++ " and " ++ quote target ++ " are the same file") st
    else if !isFolder && (stays || (rules.contains .older && isOutdated st seen place)) then .error st
    else match if isFolder then (st, true) else c.agreed target st with
      | (st, false) => .error (st.done 1)
      | (st, true) =>
        if outcome = .settled then .error st
        else if isFolder && !isFolderItself there then
          refuse ("cannot overwrite non-directory " ++ quote target ++ " with directory " ++ quote source) st
        else if !isFolderItself there && backupOf c.options ≠ .numbered && batch.targets.contains target then
          refuse (justMade source target) st
        else if !isFolder && isFolderItself there then
          refuse ("cannot overwrite directory " ++ quote target ++ " with non-directory") st
        else if isFolder then .ok (st, some there, none)
        else if m.backsUp then
          if endangers c.options source place st then
            refuse (mightLose source target ++ " not copied") st
          else
            let (st, spare) := backUp c.options place st
            .ok (st, none, spare)
        else if m.clears || (c.keepsNames && 1 < linkCount st there) ||
            (m.keepsLinks && (isPipe || isLinkItself seen)) then
          let st := { st with disk := (st.disk.unlink (st.route place)).toOption.getD st.disk }
          .ok (if c.has 'v' then st.print ("removed " ++ quote target ++ "\n") else st, none, none)
        else .ok (st, some there, none)

def file (c : Copying) (target : String) (id : Nat) (isNew : Bool) (st : State) : State :=
  let model := st.disk.node id
  if isNew && isLink st target then complain c.name ("not writing through dangling symlink " ++ quote target) st
  else match st.disk.openFile (st.route target) (c.modeFor model st) with
    | .error fault =>
      let fault := if fault = .isFolder && Path.endsInSlash target then .notFolder else fault
      complain c.name ("cannot create regular file " ++ quote target ++ ": " ++ fault.reason) st
    | .ok (disk, new) =>
      let content := if c.has emptyOption then st.disk.content new else st.contentFrom id 0
      c.finish new model { st with disk := disk.setContent new content }

def isInPlace (st : State) (path : String) : Bool :=
  match st.disk.tip (st.route path), st.disk.locate (st.route ".") with
  | .ok (.entry base _ _), .ok here => base = here
  | _, _ => true

def link (c : Copying) (source target : String) (seen : FileTree) (st : State) : State :=
  let soft := c.has 's'
  let made : FileTree := if soft then .link (Text.Octets.toText source) else seen
  if soft && !Path.isAbsolute source && !isInPlace st target then
    complain c.name (quoteIfNeeded target ++ ": can make relative symbolic links only in current directory") st
  else
    let disk := if c.has 'f' then (st.disk.unlink (st.route target)).toOption.getD st.disk else st.disk
    match disk.enter (st.route target) made with
    | .ok disk => { st with disk }
    | .error fault =>
      complain c.name ("cannot create " ++ (if soft then "symbolic" else "hard") ++ " link " ++ quote target ++
        " to " ++ quote source ++ ": " ++ fault.reason) st

def special (c : Copying) (target : String) (seen : FileTree) (st : State) : State :=
  let (disk, made, kind) := match seen with
    | .file id =>
      ({ st.disk with nodes := st.disk.nodes.push (st.disk.node id) }, FileTree.file st.disk.nodes.size, "fifo")
    | t => (st.disk, t, "symbolic link")
  match disk.enter (st.route target) made with
  | .ok disk => { st with disk }
  | .error fault => complain c.name ("cannot create " ++ kind ++ " " ++ quote target ++ ": " ++ fault.reason) st

/-- Copies what a path leads to. `top` has the operand and its place, and `made` the first folder that was
made for it, into which nothing more is copied. -/
def copy (c : Copying) (batch : Batch) (top : String × String) :
    (depth : Nat) → (made : Option Nat) → (source target : String) → State → State
  | 0, _, _, _, st => st
  | depth + 1, made, source, target, st =>
    let isOperand := source = top.1
    let follows := c.following = .always || (c.following = .operands && isOperand)
    match (if follows then st.walk source else st.walkName source) with
    | .error fault => complain c.name ("cannot stat " ++ quote source ++ ": " ++ fault.reason) st
    | .ok seen =>
      if isFolderItself seen && !c.deep then
        complain c.name ((if c.mode.isSome then "" else "-r not specified; ") ++ "omitting directory " ++
          quote source) st
      else if isOperand && !isFolderItself seen && c.mode.isNone && backupOf c.options = .none &&
          batch.sources.any (sameEntry st source) then
        (complain c.name ("warning: source file " ++ quote source ++ " specified more than once") st).done st.status
      else if isOperand && isFolderItself seen && batch.sources.any (sameEntry st source) &&
          batch.targets.contains target then
        (complain c.name ("warning: source directory " ++ quote source ++ " specified more than once") st).done
          st.status
      else match c.makeWay (if isOperand then batch else {}) source target seen st with
        | .error st => st
        | .ok (st, there, spare) =>
          match seen with
          | .link _ =>
            let st := c.told source target spare st
            if c.has 's' || c.has 'l' then c.link source target seen st else c.special target seen st
          | .file id =>
            let st := c.told source target spare st
            if c.has 's' || c.has 'l' then c.link source target seen st
            else if c.deep && (st.disk.node id).kind = .pipe then c.special target seen st
            else c.file target id there.isNone st
          | .folder id entries =>
            if some id = made then
              complain c.name ("cannot copy a directory, " ++ quote top.1 ++ ", into itself, " ++ quote top.2) st
            else
              let model := st.disk.node id
              let new := st.disk.nodes.size
              let opened : Except State (State × Option Nat × Nat) :=
                match there.bind numberOf? with
                | some number => .ok (st, made, number)
                | none =>
                  match st.disk.makeFolder (st.route target) (c.modeFor model st) with
                  | .ok disk => .ok (c.told source target none { st with disk }, made.orElse fun _ => some new, new)
                  | .error fault => .error (complain c.name ("cannot create directory " ++ quote target ++ ": " ++
                      fault.reason) st)
              match opened with
              | .error st => st
              | .ok (st, made, number) =>
                let names := match st.walk source with
                  | .ok (.folder _ entries) => entries.map Prod.fst
                  | _ => entries.map Prod.fst
                let st := names.foldl (fun st n =>
                  let n := Text.Octets.ofText n
                  copy c batch top depth made (placeIn source n) (placeIn target n) st) st
                if there.isNone || c.keepsTime then c.finish number model st else st

end Copying

def attributes : List (String × String) :=
  [("mode", "mode"), ("timestamps", "timestamps"), ("ownership", "ownership"), ("links", "links"),
   ("context", "context"), ("xattr", "xattr"), ("all", "all")]

def reflinkOption : Char := Char.ofNat 6
def sparseOption : Char := Char.ofNat 7
def trimOption : Char := Char.ofNat 8
def ignoredCopyOption : Char := Char.ofNat 11

def copyFlaw? (name : String) (a : Arguments) : Option String :=
  let rows {α : Type} (table : List (String × α)) : List String := table.map fun e => quoteText e.1
  let whens : List (String × Unit) := [("auto", ()), ("always", ()), ("never", ())]
  let sparse : List (String × Unit) := [("never", ()), ("auto", ()), ("always", ())]
  a.options.findSome? fun (letter, word) =>
    if letter = 'k' || letter = 'K' then
      ((Text.splitAt ',' word.toList).map String.ofList).findSome? fun w =>
        if word ≠ "" && (named? attributes w).isNone then
          some (unnamed name (if letter = 'k' then "preserve" else "no-preserve") w (rows attributes))
        else none
    else if letter = reflinkOption && word ≠ "" && (named? whens word).isNone then
      some (unnamed name "reflink" word (rows whens))
    else if letter = sparseOption && (named? sparse word).isNone then
      some (unnamed name "sparse" word (rows sparse))
    else none

def makeParents (c : Copying) (folder : String) : (above : String) → List String → State → State
  | _, [], st => st
  | above, part :: rest, st =>
    let source := if above = "" then part else Path.join above part
    let path := Path.join folder source
    match st.walk path with
    | .ok (.folder ..) => makeParents c folder source rest st
    | .ok _ =>
      complain c.name (quote path ++ " exists but is not a directory") st
    | .error _ =>
      let mode := ((st.walk source).toOption.map fun t => c.modeFor (nodeOf st t) st).getD st.folderMode
      match st.disk.makeFolder (st.route path) mode with
      | .error fault => complain c.name ("cannot make directory " ++ quote path ++ ": " ++ fault.reason) st
      | .ok disk =>
        let st := { st with disk }
        let st := if c.has 'v' then st.print (source ++ " -> " ++ path ++ "\n") else st
        makeParents c folder source rest st

def cp (name : String) (args : List String) (st : State) : State :=
  let g : Grammar := {
    plain := "rRafpvniuLPHdlsTxbUOZ\x05\x08\x0b"
    valued := "tSK\x07"
    optional := "k\x03\x04\x06"
    long := [("recursive", 'r'), ("archive", 'a'), ("force", 'f'), ("preserve", 'k'), ("verbose", 'v'),
      ("no-clobber", 'n'), ("interactive", 'i'), ("update", updateOption), ("dereference", 'L'),
      ("no-dereference", 'P'), ("link", 'l'), ("symbolic-link", 's'), ("no-target-directory", 'T'),
      ("target-directory", 't'), ("one-file-system", 'x'), ("backup", backupOption), ("suffix", 'S'),
      ("remove-destination", 'U'), ("no-preserve", 'K'), ("parents", 'O'), ("attributes-only", emptyOption),
      ("reflink", reflinkOption), ("sparse", sparseOption), ("strip-trailing-slashes", trimOption),
      ("copy-contents", ignoredCopyOption), ("context", 'Z')] }
  withArguments name g args st fun a st =>
    let kept := match a.value? 'k' with
      | some "" => ["mode", "timestamps"]
      | some list => (Text.splitAt ',' list.toList).filterMap fun w => named? attributes (String.ofList w)
      | none => []
    let all := a.has 'a' || a.has 'p' || kept.contains "all"
    let deep := a.has 'r' || a.has 'R' || a.has 'a'
    let order := a.options.filterMap fun o =>
      match o.1 with
      | 'L' => some Following.always
      | 'P' => some .never
      | 'd' => some .never
      | 'a' => some .never
      | 'H' => some .operands
      | _ => none
    let c : Copying := {
      name, deep
      options := a
      following := order.getLast?.getD (if deep && !a.has 'l' then .never else .always)
      clears := a.has 'U'
      keepsNames := a.has 'a' || a.has 'd' || kept.contains "links" || kept.contains "all"
      keepsMode := all || kept.contains "mode"
      keepsTime := all || kept.contains "timestamps" }
    let warnings := a.options.filter fun o => o.1 = 'n'
    let st := warnings.foldl (fun st _ =>
      (complain name ("warning: behavior of -n is non-portable and may change in future; " ++
        "use --update=none instead") st).done 0) st
    let copy (batch : Batch) (source target : String) (st : State) : State :=
      c.copy batch (source, target) (st.disk.nodes.size + Disk.linkLimit) none source target st
    let trimmed (source : String) : String := if a.has trimOption then withoutSlashes source else source
    match ((copyFlaw? name a).or (wordFlaw? name a)).or (backupFlaw? name a) with
    | some message => complain name message st
    | none =>
      if a.has 'O' && 1 < a.operands.length + (if a.has 't' then 1 else 0) then
        let folder := (a.value? 't').getD (a.operands.getLastD "")
        let sources := if a.has 't' then a.operands else a.operands.dropLast
        if !st.isFolder folder then misused name "with --parents, the destination must be a directory" 1 st
        else each sources st fun source st =>
          let parts := (Path.pieces source).dropLast
          let before := st.status
          let st := makeParents c folder (if Path.isAbsolute source then "/" else "") parts (st.done 0)
          if st.status ≠ 0 then st
          else
            let gap := if Path.endsInSlash folder || Path.isAbsolute source then "" else "/"
            copy {} (trimmed source) (folder ++ gap ++ withoutSlashes source) (st.done before)
      else
        -- The folder above a source has no name of its own in another.
        let named (source : String) : String := if nameOf source = ".." then "." else nameOf source
        destinations name a named st fun batch source target st => copy batch (trimmed source) target st

end KernelForge.Tool
