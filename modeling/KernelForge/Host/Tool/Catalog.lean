import KernelForge.Host.Tool.Catalog.Plan

/-!
Lists of the names of files, with what is known of the files.
-/
namespace KernelForge.Tool

open Shell (State Glob)

structure Listed where
  name : String
  tree : Option FileTree
  beyond : Option FileTree := none

namespace Listed

def letter (st : State) (e : Listed) : Char := (e.tree.map (kindLetter st)).getD '?'

def size (st : State) (e : Listed) : Nat := (e.tree.map (shownSize st)).getD 0

def blocks (st : State) (e : Listed) : Nat := (e.tree.map (Tool.blocks st)).getD 0

def modified (st : State) (e : Listed) : Int := (e.tree.map fun t => (nodeOf st t).modified).getD 0

def isFolder (e : Listed) : Bool := match e.tree with
  | some (.folder ..) => true
  | _ => false

def leadsToFolder (e : Listed) : Bool := e.isFolder || match e.beyond with
  | some (.folder ..) => true
  | _ => false

end Listed

/-! ### Sizes -/

def humanSize (n : Nat) (base : Nat := 1024) : String :=
  let rec go : List String → Nat → String
    | [], m => Text.Numeral.text m
    | [unit], m => Text.Numeral.text ((m + base - 1) / base) ++ unit
    | unit :: more, m =>
      if m < base * base then
        let tenths := (m * 10 + base - 1) / base
        if tenths < 100 then Text.Numeral.text (tenths / 10) ++ "." ++ Text.Numeral.text (tenths % 10) ++ unit
        else if (m + base - 1) / base < base then Text.Numeral.text ((m + base - 1) / base) ++ unit
        else "1.0" ++ more.headD unit
      else go more ((m + base - 1) / base)
  if n < base then Text.Numeral.text n else go [if base = 1000 then "k" else "K", "M", "G", "T"] n

namespace SizeUnit

def text (u : SizeUnit) (bytes : Nat) : String :=
  match u with
  | .human base => humanSize bytes base
  | .blocks size letter => Text.Numeral.text ((bytes + size - 1) / size) ++ letter

end SizeUnit

/-! ### Names -/

def doubleQuoted (colon : Bool) (s : String) : String :=
  "\"" ++ String.join (s.toList.map fun c =>
    if c = '"' || c = '\\' || (colon && c = ':') then String.ofList ['\\', c]
    else if isPrinted c then String.singleton c
    else escape c) ++ "\""

namespace NameStyle

def apply (style : NameStyle) (title : Bool) (s : String) : String :=
  let needed (quoted : String) : String := if title && s.toList.contains ':' then quoted else quoteIfNeeded s
  let raw := if s.toList.all isPrinted then quote s else "'" ++ s ++ "'"
  match style with
  | .literal => s
  | .shell => if s.toList.all isPrinted then needed raw else raw
  | .shellAlways => raw
  | .shellEscape => needed (quote s)
  | .shellEscapeAlways => quote s
  | .text => doubleQuoted title s
  | .textMaybe =>
    let quoted := doubleQuoted title s
    if quoted.length = s.length + 2 then s else quoted
  | .escape => String.join (s.toList.map fun c =>
    if c = '\\' || c = ' ' || (title && c = ':') then String.ofList ['\\', c]
    else if isPrinted c then String.singleton c
    else Tool.escape c)
  | .message => quoteText s

end NameStyle

namespace Catalog

def shown (c : Catalog) (title : Bool) (s : String) : String :=
  let s := c.style.apply title s
  if c.marksUnprinted then String.ofList (s.toList.map fun ch => if isPrinted ch then ch else '?') else s

def aligns (c : Catalog) : Bool :=
  (c.form = .long || ((c.form = .down || c.form = .across) && 0 < c.width)) &&
    (c.style = .shell || c.style = .shellEscape || c.style = .textMaybe)

def aligned (c : Catalog) (someQuoted : Bool) (name : String) : String :=
  let shown := c.shown false name
  if someQuoted && shown = name then " " ++ shown else shown

def mark (c : Catalog) (st : State) (t : Option FileTree) : String :=
  match t with
  | none => ""
  | some t =>
    match kindLetter st t with
    | '-' => if c.indicator = .all && (nodeOf st t).isExecutable then "*" else ""
    | 'd' => if c.indicator = .none then "" else "/"
    | 'l' => if c.indicator = .none || c.indicator = .folders then "" else "@"
    | 'p' => if c.indicator = .none || c.indicator = .folders then "" else "|"
    | _ => ""

def blockUnit (c : Catalog) : SizeUnit :=
  match c.sizes with
  | some u => u
  | none => .blocks 1024 ""

def blockText (c : Catalog) (st : State) (e : Listed) : String :=
  if e.tree.isNone then "?" else c.blockUnit.text (512 * e.blocks st)

def numberText (e : Listed) : String :=
  match e.tree with
  | none => "?"
  | some t => Text.Numeral.text ((numberOf? t).getD 0 + 1000)

def right (width : Nat) (s : String) : String := String.ofList (List.replicate (width - s.length) ' ') ++ s

def front (c : Catalog) (st : State) (entries : List Listed) (e : Listed) : String :=
  let most (f : Listed → String) : Nat :=
    if c.form = .commas then 0 else (entries.map fun e => (f e).length).foldl max 0
  (if c.numbers then right (most numberText) (numberText e) ++ " " else "") ++
    (if c.blocks then right (most (c.blockText st)) (c.blockText st e) ++ " " else "")

def cells (c : Catalog) (st : State) (entries : List Listed) : List String :=
  let someQuoted := c.aligns && entries.any fun e => c.shown false e.name ≠ e.name
  let context := if c.context then "? " else ""
  entries.map fun e => c.front st entries e ++ context ++ c.aligned someQuoted e.name ++ c.mark st e.tree

/-! ### Columns -/

def gap (c : Catalog) : (fuel start stop : Nat) → String
  | 0, _, _ => ""
  | fuel + 1, start, stop =>
    if stop ≤ start then ""
    else if 0 < c.tab && (start + 1) / c.tab < stop / c.tab then
      "\t" ++ gap c fuel (start + (c.tab - start % c.tab)) stop
    else " " ++ gap c fuel (start + 1) stop

def widths? (c : Catalog) (names : List Nat) (columns : Nat) : Option (List Nat) :=
  let rows := (names.length + columns - 1) / columns
  let place (i : Nat) : Nat := if c.form = .down then i / max 1 rows else i % columns
  let widths := (List.range columns).map fun k =>
    ((names.zipIdx.filter fun (_, i) => place i = k).map fun (n, _) => n + (if k + 1 = columns then 0 else 2)).foldl
      max 3
  if columns ≤ 1 || widths.sum < c.width then some widths else none

def columnText (c : Catalog) (cells : List String) : String :=
  let names := cells.map String.length
  let most := c.width / 3 + (if c.width % 3 = 0 then 0 else 1)
  let most := if 0 < most && most < cells.length then most else cells.length
  let widths := ((List.range most).reverse.findSome? fun k => c.widths? names (k + 1)).getD [0]
  let columns := widths.length
  let rows := (cells.length + columns - 1) / columns
  let lines := (List.range rows).map fun r =>
    (List.range columns).filterMap fun k => cells[if c.form = .down then k * rows + r else r * columns + k]?
  String.join (lines.map fun line =>
    let (text, _, _) := (line.zip widths).foldl (fun (text, used, place) (cell, width) =>
      (text ++ c.gap (place - used + 1) used place ++ cell, place + cell.length, place + width)) ("", 0, 0)
    text ++ c.finish)

def runText (c : Catalog) (mark : String) (cells : List String) : String :=
  let (text, _, _) := cells.foldl (fun (text, place, first) cell =>
    if first then (cell, cell.length, false)
    else if c.width = 0 || place + cell.length + 2 < c.width then
      (text ++ mark ++ " " ++ cell, place + 2 + cell.length, false)
    else (text ++ mark ++ c.finish ++ cell, cell.length, false)) ("", 0, true)
  text ++ c.finish

/-! ### Long lists -/

def timeText (c : Catalog) (st : State) (modified : Int) : String :=
  let isRecent := modified ≤ st.disk.clock && st.disk.clock - modified < 15778476000
  Text.Date.write (if isRecent then c.time.recent else c.time.old).toList modified

def deviceNumbers? (st : State) (e : Listed) : Option (String × String) :=
  match e.tree with
  | some (.file id) =>
    match (st.disk.node id).kind with
    | .device .null => some ("1", "3")
    | .device .zero => some ("1", "5")
    | .device .full => some ("1", "7")
    | _ => none
  | _ => none

def sizeText (c : Catalog) (st : State) (e : Listed) : String :=
  if e.tree.isNone then "?"
  else match deviceNumbers? st e with
    | some (major, minor) => major ++ ", " ++ minor
    | none => (c.sizes.getD (.blocks 1 "")).text (e.size st)

def longRows (c : Catalog) (st : State) (entries : List Listed) : List String :=
  let owner (e : Listed) : String := if e.tree.isNone then "?" else if c.numeric then "0" else "root"
  let most (f : Listed → String) : Nat := (entries.map fun e => (f e).length).foldl max 0
  let links (e : Listed) : String := (e.tree.map fun t => Text.Numeral.text (linkCount st t)).getD "?"
  let time (e : Listed) : String := if e.tree.isNone then "?" else c.timeText st (e.modified st)
  let someQuoted := c.aligns && entries.any fun e => c.shown false e.name ≠ e.name
  let names := most owner
  let person (e : Listed) : String :=
    if c.numeric || e.tree.isNone then right names (owner e)
    else owner e ++ String.ofList (List.replicate (names - (owner e).length) ' ')
  entries.map fun e =>
    let mode := match e.tree with
      | some t => modeLetters st t
      | none => "l?????????"
    let target := match e.tree with
      | some (.link target) =>
        " -> " ++ c.aligned false (Text.Octets.ofText target) ++
          (if c.indicator = .kinds || c.indicator = .all then c.mark st e.beyond else "")
      | t => c.mark st t
    c.front st entries e ++ " ".intercalate ([mode, right (most links) (links e)] ++
      (if c.owner then [person e] else []) ++ (if c.group then [person e] else []) ++
      (if c.author then [person e] else []) ++ (if c.context then ["?"] else []) ++
      [right (most (c.sizeText st)) (c.sizeText st e), right (if e.tree.isNone then most time else 0) (time e),
        c.aligned someQuoted e.name ++ target])

def text (c : Catalog) (st : State) (entries : List Listed) : String :=
  if entries.isEmpty then ""
  else match c.form with
    | .long => String.join ((c.longRows st entries).map (· ++ c.finish))
    | .single => String.join ((c.cells st entries).map (· ++ c.finish))
    | .commas => c.runText "," (c.cells st entries)
    | _ => if c.width = 0 then c.runText " " (c.cells st entries) else c.columnText (c.cells st entries)

/-! ### Orders -/

def extensionOf (name : String) : List Char :=
  let cs := name.toList
  if cs.contains '.' then '.' :: (cs.reverse.takeWhile (· ≠ '.')).reverse else []

def precedes (c : Catalog) (st : State) (x y : Listed) : Bool :=
  let byName := compare x.name y.name
  let order := match c.sorting with
    | .time => (compare (y.modified st) (x.modified st)).then byName
    | .size => (compare (y.size st) (x.size st)).then byName
    | .extension => (compare (extensionOf x.name) (extensionOf y.name)).then byName
    | .version =>
      let bytes (s : String) : Line := (Text.Octets.toBytes s).data.toList
      (Order.compareVersions (x.name.length + y.name.length + 2) (bytes x.name) (bytes y.name)).then byName
    | .width => (compare (c.shown false x.name).length (c.shown false y.name).length).then byName
    | _ => byName
  (if c.reversed then order.swap else order) ≠ .gt

def arranged (c : Catalog) (st : State) (entries : List Listed) : List Listed :=
  if c.sorting = .none then entries
  else
    let sorted := entries.mergeSort (c.precedes st)
    if c.foldersFirst then
      sorted.filter Listed.leadsToFolder ++ sorted.filter fun e => !e.leadsToFolder
    else sorted

/-! ### Folders -/

def fits (pattern name : String) : Bool :=
  (name.toList.head? ≠ some '.' || pattern.toList.head? = some '.' || "\\.".toList.isPrefixOf pattern.toList) &&
    Glob.accept (Shell.patternOfText pattern) name.toList

def leavesOut (c : Catalog) (name : String) : Bool :=
  (match c.dots with
    | .all => false
    | .shown => name = "." || name = ".."
    | .hidden => name.toList.head? = some '.') ||
  (c.dots = .hidden && c.hidden.any fun p => fits p name) || c.ignored.any fun p => fits p name

def needsFiles (c : Catalog) : Bool :=
  c.form = .long || c.blocks || c.context || c.sorting = .time || c.sorting = .size

def needsKinds (c : Catalog) : Bool := c.recursive || c.indicator ≠ .none || c.foldersFirst || c.numbers

/-- The entries of a folder, with complaints about links that lead nowhere. -/
def entriesOf (c : Catalog) (name path : String) (here : FileTree) (named : List (String × FileTree)) (st : State) :
    State × List Listed :=
  let above := (st.walk (Path.join path "..")).toOption.getD here
  let dots := if (numberOf? here).any fun id => (st.disk.root.pathOf? id).isNone then []
    else [(".", here), ("..", above)]
  let all := dots ++ named.map fun (n, t) => (Text.Octets.ofText n, t)
  (all.filter fun e => !c.leavesOut e.1).foldl (fun (st, found) (n, t) =>
    let full := Path.join path n
    match t with
    | .link _ =>
      match st.walk full with
      | .ok beyond =>
        let tree := if c.follows = .always then beyond else t
        (st, found ++ [{ name := n, tree := some tree, beyond := some beyond }])
      | .error fault =>
        if c.follows = .always && (c.needsFiles || c.needsKinds) then
          (st.protest (name ++ ": cannot access " ++ quote full ++ ": " ++ fault.reason) (max 1 st.status),
            found ++ [{ name := n, tree := none }])
        else (st, found ++ [{ name := n, tree := some t }])
    | t => (st, found ++ [{ name := n, tree := some t }])) (st, ([] : List Listed))

def listFolder (c : Catalog) (name : String) : (depth : Nat) → (titled first : Bool) → (path : String) →
    State → State
  | 0, _, _, _, st => st
  | depth + 1, titled, first, path, st =>
    match st.walk path with
    | .ok (.folder id entries) =>
      let title := if titled || c.recursive then (if first then "" else "\n") ++ c.shown true path ++ ":\n" else ""
      let st := st.print title
      let (st, found) := c.entriesOf name path (.folder id entries) entries st
      let sorted := c.arranged st found
      let total := if c.form = .long || c.blocks then
          "total " ++ c.blockUnit.text (512 * (sorted.map (Listed.blocks st)).sum) ++ c.finish
        else ""
      let st := st.print (total ++ c.text st sorted)
      if c.recursive then
        sorted.foldl (fun st e =>
          if e.isFolder && e.name ≠ "." && e.name ≠ ".." then
            listFolder c name depth true false (Path.join path e.name) st
          else st) st
      else st
    | _ => st

def argument? (c : Catalog) (st : State) (path : String) : Except Fault Listed := do
  let beyond := (st.walk path).toOption
  let itself (t : FileTree) : Listed := { name := path, tree := some t, beyond }
  match c.follows with
  | .always => return itself (← st.walk path)
  | .arguments => return itself (← st.walk path)
  | .never => return itself (← st.walkName path)
  | .argumentFolders =>
    match st.walk path with
    | .ok (.folder id entries) => return itself (.folder id entries)
    | .ok _ => return itself (← st.walkName path)
    | .error .notFound => return itself (← st.walkName path)
    | .error .tooManyLinks => return itself (← st.walkName path)
    | .error fault => throw fault

end Catalog

def ls (name : String) (args : List String) (st : State) : State :=
  withArguments name Catalog.grammar args st fun a st =>
    match Catalog.ofOptions name a.options with
    | .error (message, status) => st.protest (name ++ ": " ++ message) status
    | .ok c =>
      let given := if a.operands.isEmpty then ["."] else a.operands
      let (st, present) := given.foldl (fun (st, present) path =>
        match c.argument? st path with
        | .ok e => (st, present ++ [e])
        | .error fault =>
          (st.protest (name ++ ": cannot access " ++ quote path ++ ": " ++ fault.reason) 2, present))
        (st, ([] : List Listed))
      let sorted := c.arranged st present
      let isOpened (e : Listed) : Bool := e.isFolder && !c.foldersThemselves
      let single := sorted.filter fun e => !isOpened e
      let folders := sorted.filter isOpened
      let st := st.print (c.text st single)
      let titled := 1 < given.length || 1 < folders.length
      (folders.foldl (fun (st, first) e =>
        (c.listFolder name (st.disk.nodes.size + 2) titled first e.name st, false)) (st, single.isEmpty)).1

end KernelForge.Tool
