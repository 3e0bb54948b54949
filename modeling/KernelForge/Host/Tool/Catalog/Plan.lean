import KernelForge.Host.Shell.Pattern
import KernelForge.Host.Tool.Listing
import KernelForge.Host.Tool.Sorting

/-!
What a list of names looks like: which names it has, in what order and what form, and what is shown beside them.
-/
namespace KernelForge.Tool

inductive Layout where
  | long
  | commas
  | across
  | down
  | single
deriving DecidableEq, Repr

inductive NameOrder where
  | name
  | none
  | time
  | size
  | extension
  | version
  | width
deriving DecidableEq, Repr

inductive Indicator where
  | none
  | folders
  | kinds
  | all
deriving DecidableEq, Repr

inductive NameStyle where
  | literal
  | shell
  | shellAlways
  | shellEscape
  | shellEscapeAlways
  | text
  | textMaybe
  | escape
  | message
deriving DecidableEq, Repr

inductive DotNames where
  | hidden
  | shown
  | all
deriving DecidableEq, Repr

inductive LinkRule where
  | never
  | always
  | arguments
  | argumentFolders
deriving DecidableEq, Repr

inductive SizeUnit where
  | blocks (size : Nat) (letter : String)
  | human (base : Nat)
deriving DecidableEq, Repr

structure TimeStyle where
  recent : String := "%b %e %H:%M"
  old : String := "%b %e  %Y"
deriving DecidableEq, Repr

structure Catalog where
  layout : Option Layout := none
  order : Option NameOrder := none
  reversed : Bool := false
  foldersFirst : Bool := false
  foldersThemselves : Bool := false
  recursive : Bool := false
  dots : DotNames := .hidden
  hidden : List String := []
  ignored : List String := []
  following : Option LinkRule := none
  indicator : Indicator := .none
  style : NameStyle := .literal
  marksUnprinted : Bool := false
  numbers : Bool := false
  blocks : Bool := false
  context : Bool := false
  owner : Bool := true
  group : Bool := true
  author : Bool := false
  numeric : Bool := false
  sizes : Option SizeUnit := none
  kilobytes : Bool := false
  timed : Bool := false
  time : TimeStyle := {}
  width : Nat := 80
  tab : Nat := 8
  finish : String := "\n"
deriving DecidableEq, Repr

namespace Catalog

def form (c : Catalog) : Layout := c.layout.getD .single

def sorting (c : Catalog) : NameOrder :=
  c.order.getD (if c.timed && c.form ≠ .long then .time else .name)

def follows (c : Catalog) : LinkRule :=
  c.following.getD
    (if c.foldersThemselves || c.indicator = .all || c.form = .long then .never else .argumentFolders)

/-! ### Tables of words -/

def orders : List (String × NameOrder) :=
  [("none", .none), ("time", .time), ("size", .size), ("extension", .extension), ("version", .version),
   ("width", .width)]

def layouts : List (String × Layout) :=
  [("verbose", .long), ("long", .long), ("commas", .commas), ("horizontal", .across), ("across", .across),
   ("vertical", .down), ("single-column", .single)]

def indicators : List (String × Indicator) :=
  [("none", .none), ("slash", .folders), ("file-type", .kinds), ("classify", .all)]

def styles : List (String × NameStyle) :=
  [("literal", .literal), ("shell", .shell), ("shell-always", .shellAlways), ("shell-escape", .shellEscape),
   ("shell-escape-always", .shellEscapeAlways), ("c", .text), ("c-maybe", .textMaybe), ("escape", .escape),
   ("locale", .message), ("clocale", .text)]

def occasions : List (String × Bool) :=
  [("always", true), ("yes", true), ("force", true), ("never", false), ("no", false), ("none", false),
   ("auto", false), ("tty", false), ("if-tty", false)]

def occasionRows : List String :=
  ["'always', 'yes', 'force'", "'never', 'no', 'none'", "'auto', 'tty', 'if-tty'"]

def times : List (String × Unit) :=
  [("atime", ()), ("access", ()), ("use", ()), ("ctime", ()), ("status", ()), ("mtime", ()), ("modification", ()),
   ("birth", ()), ("creation", ())]

def timeRows : List String :=
  ["'atime', 'access', 'use'", "'ctime', 'status'", "'mtime', 'modification'", "'birth', 'creation'"]

def timeStyles : List (String × TimeStyle) :=
  [("full-iso", ⟨"%Y-%m-%d %H:%M:%S.%N %z", "%Y-%m-%d %H:%M:%S.%N %z"⟩),
   ("long-iso", ⟨"%Y-%m-%d %H:%M", "%Y-%m-%d %H:%M"⟩), ("iso", ⟨"%m-%d %H:%M", "%Y-%m-%d "⟩), ("locale", {})]

/-! ### Options -/

abbrev OptionFlaw := String × Nat

def unit? (word : String) : Except OptionFlaw SizeUnit :=
  if word = "human-readable" then .ok (.human 1024)
  else if word = "si" then .ok (.human 1000)
  else
    let digits := word.toList.takeWhile Char.isDigit
    let letters := word.toList.drop digits.length
    let count := (Text.Numeral.digits? 10 digits).getD 1
    let power (c : Char) : Option Nat :=
      ["kK", "mM", "gG", "tT", "pP", "eE", "zZ", "yY"].findIdx? fun s => s.toList.contains c
    let unit : Option (Nat × String) := match letters with
      | [] => if digits.isEmpty then none else some (1, "")
      | [c] => (power c).map fun p => (1024 ^ (p + 1), String.singleton c.toUpper)
      | [c, 'B'] => (power c).map fun p => (1000 ^ (p + 1), String.ofList [if p = 0 then 'k' else c.toUpper, 'B'])
      | [c, 'i', 'B'] => (power c).map fun p => (1024 ^ (p + 1), String.ofList [c.toUpper, 'i', 'B'])
      | _ => none
    let flaw (what : String) : OptionFlaw := (what ++ "--block-size argument " ++ quoteText word, 2)
    match unit with
    | some (size, letter) =>
      if count * size = 0 then .error (flaw "invalid ")
      else .ok (.blocks (count * size) (if digits.isEmpty then letter else ""))
    | none => .error (flaw (if digits.isEmpty then "invalid " else "invalid suffix in "))

def hideOption : Char := Char.ofNat 3
def orderOption : Char := Char.ofNat 4
def timeOption : Char := Char.ofNat 5
def layoutOption : Char := Char.ofNat 6
def fullTimeOption : Char := Char.ofNat 7
def indicatorOption : Char := Char.ofNat 8
def styleOption : Char := Char.ofNat 11
def timeStyleOption : Char := Char.ofNat 12
def decimalOption : Char := Char.ofNat 14
def zeroOption : Char := Char.ofNat 15
def blockOption : Char := Char.ofNat 16
def authorOption : Char := Char.ofNat 17
def foldersFirstOption : Char := Char.ofNat 18
def kindsOption : Char := Char.ofNat 19
def unprintedOption : Char := Char.ofNat 20
def followFoldersOption : Char := Char.ofNat 21
def classifyOption : Char := Char.ofNat 22
def colorOption : Char := Char.ofNat 2
def linkOption : Char := Char.ofNat 23

def grammar : Grammar := {
  misuse := 2
  plain := "aA1ldFprRtShisnCxmqkLucgoGQUfBbNHvXZ\x07\x0e\x0f\x11\x12\x13\x14\x15"
  valued := "wTI\x03\x04\x05\x06\x08\x0b\x0c\x10"
  optional := "\x02\x16\x17"
  long := [("all", 'a'), ("almost-all", 'A'), ("author", authorOption), ("escape", 'b'),
    ("block-size", blockOption),
    ("ignore-backups", 'B'), ("directory", 'd'), ("classify", classifyOption), ("file-type", kindsOption),
    ("format", layoutOption), ("full-time", fullTimeOption), ("group-directories-first", foldersFirstOption),
    ("no-group", 'G'), ("human-readable", 'h'), ("si", decimalOption), ("dereference-command-line", 'H'),
    ("dereference-command-line-symlink-to-dir", followFoldersOption), ("hide", hideOption),
    ("hyperlink", linkOption), ("indicator-style", indicatorOption), ("inode", 'i'), ("ignore", 'I'),
    ("kibibytes", 'k'), ("dereference", 'L'), ("numeric-uid-gid", 'n'), ("literal", 'N'),
    ("hide-control-chars", 'q'), ("show-control-chars", unprintedOption), ("quote-name", 'Q'),
    ("quoting-style", styleOption), ("reverse", 'r'), ("recursive", 'R'), ("size", 's'), ("sort", orderOption),
    ("time", timeOption), ("time-style", timeStyleOption), ("tabsize", 'T'), ("width", 'w'), ("context", 'Z'),
    ("zero", zeroOption), ("color", colorOption)] }

def choice {α : Type} (name option : String) (table : List (String × α)) (rows : List String) (word : String) :
    Except OptionFlaw α :=
  match named? table word with
  | some x => .ok x
  | none => .error (unnamed name option word rows, 1)

def timeStyle? (name word : String) : Except OptionFlaw TimeStyle :=
  match word.toList with
  | '+' :: cs =>
    match Text.splitAt '\n' cs with
    | [old, recent] => .ok ⟨String.ofList recent, String.ofList old⟩
    | _ => .ok ⟨String.ofList cs, String.ofList cs⟩
  | cs =>
    let cs := if "posix-".toList.isPrefixOf cs then cs.drop 6 else cs
    match named? timeStyles (String.ofList cs) with
    | some s => .ok s
    | none =>
      .error ("invalid argument " ++ quoteText word ++ " for 'time style'\nValid arguments are:\n" ++
        String.join (timeStyles.map fun s => "  - [posix-]" ++ s.1 ++ "\n") ++
        "  - +FORMAT (e.g., +%H:%M) for a 'date'-style format\n" ++ helpHint name, 2)

def addWord (name : String) (c : Catalog) (letter : Char) (word : String) : Except OptionFlaw Catalog := do
  let quoted {α : Type} (table : List (String × α)) : List String := table.map fun e => quoteText e.1
  if letter = hideOption then return { c with hidden := c.hidden ++ [word] }
  if letter = orderOption then return { c with order := some (← choice name "sort" orders (quoted orders) word) }
  if letter = timeOption then
    let _ ← choice name "time" times timeRows word
    return { c with timed := true }
  if letter = layoutOption then
    let rows := ["'verbose', 'long'", "'commas'", "'horizontal', 'across'", "'vertical'", "'single-column'"]
    return { c with layout := some (← choice name "format" layouts rows word) }
  if letter = indicatorOption then
    return { c with indicator := ← choice name "indicator-style" indicators (quoted indicators) word }
  if letter = styleOption then return { c with style := ← choice name "quoting-style" styles (quoted styles) word }
  if letter = timeStyleOption then return { c with time := ← timeStyle? name word }
  if letter = blockOption then return { c with sizes := some (← unit? word) }
  if letter = classifyOption then
    let always ← if word = "" then pure true else choice name "classify" occasions occasionRows word
    return if always then { c with indicator := .all } else c
  if letter = colorOption then
    let _ ← if word = "" then pure true else choice name "color" occasions occasionRows word
    return c
  if letter = linkOption then
    let _ ← if word = "" then pure true else choice name "hyperlink" occasions occasionRows word
    return c
  match letter with
  | 'I' => return { c with ignored := c.ignored ++ [word] }
  | 'w' =>
    match Text.Numeral.digits? 10 word.toList with
    | some n => return { c with width := n }
    | none => throw ("invalid line width: " ++ quoteText word, 2)
  | _ =>
    match Text.Numeral.digits? 10 word.toList with
    | some n => return { c with tab := n }
    | none => throw ("invalid tab size: " ++ quoteText word, 2)

def addLetter (c : Catalog) (letter : Char) : Catalog :=
  match letter with
  | 'a' => { c with dots := .all }
  | 'A' => { c with dots := .shown }
  | 'b' => { c with style := .escape }
  | 'B' => { c with ignored := c.ignored ++ ["*~", ".*~"] }
  | 'c' => { c with timed := true }
  | 'u' => { c with timed := true }
  | 'C' => { c with layout := some .down }
  | 'd' => { c with foldersThemselves := true }
  | 'f' =>
    { c with
      dots := .all, order := some .none, blocks := false
      layout := if c.layout = some .long then none else c.layout }
  | 'F' => { c with indicator := .all }
  | 'g' => { c with layout := some .long, owner := false }
  | 'G' => { c with group := false }
  | 'h' => { c with sizes := some (.human 1024) }
  | 'H' => { c with following := some .arguments }
  | 'i' => { c with numbers := true }
  | 'k' => { c with kilobytes := true }
  | 'l' => { c with layout := some .long }
  | 'L' => { c with following := some .always }
  | 'm' => { c with layout := some .commas }
  | 'n' => { c with layout := some .long, numeric := true }
  | 'N' => { c with style := .literal }
  | 'o' => { c with layout := some .long, group := false }
  | 'p' => { c with indicator := .folders }
  | 'q' => { c with marksUnprinted := true }
  | 'Q' => { c with style := .text }
  | 'r' => { c with reversed := true }
  | 'R' => { c with recursive := true }
  | 's' => { c with blocks := true }
  | 'S' => { c with order := some .size }
  | 't' => { c with order := some .time }
  | 'U' => { c with order := some .none }
  | 'v' => { c with order := some .version }
  | 'x' => { c with layout := some .across }
  | 'X' => { c with order := some .extension }
  | 'Z' => { c with context := true }
  | '1' => if c.layout = some .long then c else { c with layout := some .single }
  | letter =>
    if letter = fullTimeOption then
      { c with layout := some .long, time := (timeStyles.lookup "full-iso").getD {} }
    else if letter = decimalOption then { c with sizes := some (.human 1000) }
    else if letter = authorOption then { c with author := true }
    else if letter = foldersFirstOption then { c with foldersFirst := true }
    else if letter = kindsOption then { c with indicator := .kinds }
    else if letter = unprintedOption then { c with marksUnprinted := false }
    else if letter = followFoldersOption then { c with following := some .argumentFolders }
    else if letter = zeroOption then
      { c with
        finish := "\x00", marksUnprinted := false, style := .literal
        layout := if c.layout = some .long then c.layout else some .single }
    else c

def ofOptions (name : String) (options : List (Char × String)) : Except OptionFlaw Catalog :=
  options.foldlM (fun c (letter, word) =>
    if grammar.valued.toList.contains letter || grammar.optional.toList.contains letter then
      c.addWord name letter word
    else .ok (c.addLetter letter)) {}

end Catalog

end KernelForge.Tool
