import KernelForge.Host.Shell.Pattern
import KernelForge.Host.Tool.Sorting
import KernelForge.Text.Regex

/-!
Looking for lines that match.
-/
namespace KernelForge.Tool

open Shell (State)
open Text (Regex)

/-! ### Lines that match -/

structure Query where
  patterns : List Regex
  folded : Bool := false
  whole : Bool := false
  words : Bool := false

namespace Query

def matchAt? (q : Query) (s : Regex.Subject) (i : Nat) : Option Regex.Match :=
  let all := q.patterns.flatMap fun r => Regex.ends s r (i, [])
  let allowed := all.filter fun e =>
    (!q.whole || (i = 0 && e.1 = s.text.size)) && (!q.words || (!s.wordBefore i && !s.wordAfter e.1))
  allowed.foldl (fun (best : Option Regex.Match) e =>
    match best with
    | some b => if b.stop < e.1 then some ⟨i, e.1, e.2⟩ else some b
    | none => some ⟨i, e.1, e.2⟩) none

def find? (q : Query) (s : Regex.Subject) (start : Nat) : Option Regex.Match :=
  (List.range (s.text.size + 1 - start)).findSome? fun k => q.matchAt? s (start + k)

def subject (q : Query) (line : Line) : Regex.Subject :=
  { text := (line.map UInt8.toNat).toArray, folded := q.folded }

def accepts (q : Query) (line : Line) : Bool := (q.find? (q.subject line) 0).isSome

def allIn (q : Query) (line : Line) : List (Nat × Line) :=
  let s := q.subject line
  let rec go : (fuel start : Nat) → List (Nat × Line)
    | 0, _ => []
    | fuel + 1, start =>
      match q.find? s start with
      | none => []
      | some m =>
        if m.stop = m.start then (if line.length ≤ m.start then [] else go fuel (m.start + 1))
        else (m.start, (line.take m.stop).drop m.start) :: go fuel m.stop
  go (line.length + 2) 0

end Query

def literally (text : List Char) : Regex :=
  text.foldr (fun c r => .both (.character c.toNat) r) .nothing

/-- Operators of an extended expression that have nothing to repeat, which is only warned of. -/
def startWarnings : (fuel : Nat) → (first : Bool) → List Char → List String
  | 0, _, _ => []
  | _, _, [] => []
  | fuel + 1, first, c :: cs =>
    let idle (what : String) : List String := if first then [what ++ " at start of expression"] else []
    match c with
    | '\\' => startWarnings fuel false (cs.drop 1)
    | '[' =>
      let inner := match cs with
        | '^' :: rest => rest
        | rest => rest
      match Regex.Reader.bracketItems (inner.length + 1) true inner with
      | .ok (_, rest) => startWarnings fuel false rest
      | .error _ => []
    | '(' => startWarnings fuel true cs
    | '|' => startWarnings fuel true cs
    | '^' => startWarnings fuel first cs
    | '$' => startWarnings fuel first cs
    | '\x7b' =>
      match Regex.Reader.interval? { extended := true, lenient := true } cs with
      | .ok (some (_, _, rest)) => idle "\x7b...\x7d" ++ startWarnings fuel false rest
      | _ => startWarnings fuel false cs
    | c =>
      if c ∈ ['*', '+', '?'] then idle (String.ofList [c]) ++ startWarnings fuel first cs
      else startWarnings fuel false cs

structure Numbered where
  number : Nat
  offset : Nat
  line : Line

/-- How a file is shown that was looked through. -/
structure Report where
  options : Arguments
  named : Bool
  path : String
  before : Nat
  after : Nat
  gap : Option String

namespace Report

def front (r : Report) (mark : String) (l : Numbered) (offset : Nat) : Line :=
  let parts := (if r.named then [r.path] else []) ++
    (if r.options.has 'n' then [Text.Numeral.text l.number] else []) ++
    (if r.options.has 'b' then [Text.Numeral.text offset] else [])
  let tab := if r.options.has 'T' && !parts.isEmpty && !l.line.isEmpty then "\t" else ""
  (Text.Octets.toBytes (String.join (parts.map (· ++ mark)) ++ tab)).data.toList

/-- The lines to show, each with whether it was selected. Lines around a selected one are shown with it, and
a gap where lines are left out; `used` is whether lines of other files were shown before. -/
def lines (r : Report) (q : Query) (all : List Numbered) (selected : List Nat) (finish : UInt8) (used : Bool) :
    List Line :=
  let hasContext := 0 < r.before || 0 < r.after || r.options.has 'A' || r.options.has 'B' || r.options.has 'C'
  let isNear (n : Nat) : Bool := selected.any fun s => s ≤ n + r.before && n ≤ s + r.after
  let shown := if hasContext then all.filter fun l => isNear l.number
    else all.filter fun l => selected.contains l.number
  (shown.foldl (fun (out, last) l =>
    let isSelected := selected.contains l.number
    let isApart := if last = 0 then used else last + 1 < l.number
    let gap : List Line := match r.gap with
      | some text => if hasContext && isApart then [(Text.Octets.toBytes (text ++ "\n")).data.toList] else []
      | none => []
    let body := if r.options.has 'o' then
        if isSelected && !r.options.has 'v' then
          (q.allIn l.line).map fun m => r.front ":" l (l.offset + m.1) ++ m.2 ++ [finish]
        else []
      else [r.front (if isSelected then ":" else "-") l l.offset ++ l.line ++ [finish]]
    (out ++ gap ++ body, l.number)) (([] : List Line), 0)).1

end Report

structure Tally where
  found : Bool := false
  used : Bool := false
  failed : Bool := false

structure Plan where
  options : Arguments
  query : Query
  named : Bool
  before : Nat
  after : Nat
  limit : Option Nat
  gap : Option String
  label : String
  binary : String

def Plan.shown (p : Plan) (path : String) : String := if path = "-" then p.label else path

def searchFile (p : Plan) (path : String) (bytes : ByteArray) (st : State) (t : Tally) : State × Tally :=
  let a := p.options
  let finish : UInt8 := if a.has 'z' then 0 else 10
  let all := ((linesOf bytes finish).foldl (fun (out, n, offset) l =>
    let body := if l.getLast? = some finish then l.dropLast else l
    (({ number := n, offset, line := body } : Numbered) :: out, n + 1, offset + l.length))
    (([] : List Numbered), 1, 0)).1.reverse
  let selected := (all.filter fun l => p.query.accepts l.line != a.has 'v').map Numbered.number
  let selected := match p.limit with
    | some n => selected.take n
    | none => selected
  let found := !selected.isEmpty
  -- What comes after the last line that may be selected is left to others.
  let used := match p.limit, selected.getLast?.bind fun n => all.find? fun l => l.number = n with
    | some n, some l => if n = selected.length then min bytes.size (l.offset + l.line.length + 1) else bytes.size
    | _, _ => bytes.size
  let st := if path = "-" && !a.has 'q' then st.giveBack 0 (bytes.size - used) else st
  let shown := p.shown path
  let binary := p.binary ≠ "text" && !a.has 'z' && bytes.data.contains 0
  let after : Tally := { t with found := t.found || found }
  if a.has 'q' then (st, after)
  else if binary && p.binary = "without-match" then (st, t)
  else if a.has 'l' then (if found then st.print (shown ++ (if a.has 'Z' then "\x00" else "\n")) else st, after)
  else if a.has 'L' then (if found then st else st.print (shown ++ (if a.has 'Z' then "\x00" else "\n")), after)
  else if a.has 'c' then
    (st.print ((if p.named then shown ++ ":" else "") ++ Text.Numeral.text selected.length ++ "\n"), after)
  else if binary then
    (if found then st.print ("grep: " ++ shown ++ ": binary file matches\n") else st, after)
  else
    let r : Report :=
      { options := a, named := p.named, path := shown, before := p.before, after := p.after, gap := p.gap }
    (st.write 1 (ofBytes (r.lines p.query all selected finish t.used).flatten),
      { after with used := t.used || found })

def filesBelow (deep : Bool) (st : State) (path : String) : List String :=
  match st.walk path with
  | .ok (.folder id entries) =>
    if deep then
      (pathsBelow path (.folder id entries)).filterMap fun (p, t) =>
        match t with
        | .file _ => some p
        | _ => none
    else [path]
  | _ => [path]

def grepOptions : List (String × Char) :=
  [("include", Char.ofNat 3), ("exclude", Char.ofNat 4), ("exclude-dir", Char.ofNat 5), ("label", Char.ofNat 6),
    ("line-buffered", Char.ofNat 7), ("binary-files", Char.ofNat 8), ("no-ignore-case", Char.ofNat 14),
    ("no-group-separator", Char.ofNat 15), ("group-separator", Char.ofNat 16)]

def grepFlaw? (usage : String) (a : Arguments) : Option (String × Nat) :=
  a.options.findSome? fun (letter, value) =>
    let isNumber := (Text.Numeral.digits? 10 value.toList).isSome
    match letter with
    | 'm' => if isNumber then none else some ("invalid max count", 2)
    | 'd' =>
      if value ∈ ["read", "recurse", "skip"] then none
      else some ("invalid argument " ++ quoteText value ++ " for '--directories'\nValid arguments are:\n" ++
        "  - 'read'\n  - 'recurse'\n  - 'skip'\n" ++ usage ++ "\n" ++ helpHint "grep", 1)
    | c =>
      if c ∈ ['A', 'B', 'C'] && !isNumber then some (value ++ ": invalid context length argument", 2) else none

def grep (fixed extended : Bool) (_ : String) (args : List String) (st : State) : State :=
  let usage := "Usage: grep [OPTION]... PATTERNS [FILE]..."
  let g : Grammar := {
    misuse := 2
    usage := "\n" ++ usage
    plain := "EFGPciILlnqsvwxyhHorRbazZTU\x07\x0e\x0f"
    valued := "efmABCdD\x03\x04\x05\x06\x08\x10"
    optional := "\x02"
    long := [("extended-regexp", 'E'), ("fixed-strings", 'F'), ("basic-regexp", 'G'), ("perl-regexp", 'P'),
      ("count", 'c'), ("ignore-case", 'i'), ("files-without-match", 'L'), ("files-with-matches", 'l'),
      ("line-number", 'n'), ("quiet", 'q'), ("silent", 'q'), ("no-messages", 's'), ("invert-match", 'v'),
      ("word-regexp", 'w'), ("line-regexp", 'x'), ("no-filename", 'h'), ("with-filename", 'H'),
      ("only-matching", 'o'), ("recursive", 'r'), ("dereference-recursive", 'R'), ("byte-offset", 'b'),
      ("text", 'a'), ("null-data", 'z'), ("null", 'Z'), ("initial-tab", 'T'), ("binary", 'U'), ("regexp", 'e'),
      ("file", 'f'), ("max-count", 'm'), ("after-context", 'A'), ("before-context", 'B'), ("context", 'C'),
      ("directories", 'd'), ("devices", 'D'), ("color", Char.ofNat 2), ("colour", Char.ofNat 2)] ++ grepOptions }
  let args := args.map fun s => match s.toList with
    | '-' :: d :: ds => if (d :: ds).all Char.isDigit then "-C" ++ String.ofList (d :: ds) else s
    | _ => s
  withArguments "grep" g args st fun a st =>
    let fail (st : State) (message : String) : State := st.protest ("grep: " ++ message) 2
    let given := (a.options.filter fun o => o.1 = 'e').map Prod.snd
    let (st, fromFiles, missing) := (a.options.filter fun o => o.1 = 'f').foldl (fun (st, texts, missing) o =>
      match contentOf o.2 st with
      | (st, .ok bytes) =>
        (st, texts ++ (linesOf bytes).map fun l => String.ofList (charsOf (withoutEnd l)), missing)
      | (st, .error fault) => (fail st (quoteIfNeeded o.2 ++ ": " ++ fault.reason), texts, true))
      (st, ([] : List String), false)
    let explicit := a.has 'e' || a.has 'f'
    let texts := given.flatMap (fun s => (Text.splitAt '\n' s.toList).map String.ofList) ++ fromFiles
    let (texts, operands) := if explicit then (texts, a.operands)
      else match a.operands with
        | p :: rest => ((Text.splitAt '\n' p.toList).map String.ofList, rest)
        | [] => ([], [])
    let kind := ((a.options.filter fun o => o.1 ∈ ['E', 'F', 'G', 'P']).getLast?).map Prod.fst
    let isFixed := kind = some 'F' || (kind.isNone && fixed)
    let isExtended := kind = some 'E' || kind = some 'P' || (kind.isNone && extended)
    let number (letter : Char) : Option Nat := (a.value? letter).bind fun s => Text.Numeral.digits? 10 s.toList
    match grepFlaw? usage a with
    | some (message, status) => st.protest ("grep: " ++ message) status
    | none =>
      if missing then st
      else if !explicit && a.operands.isEmpty then st.protest (usage ++ "\n" ++ helpHint "grep") 2
      else if !a.has 'L' && (number 'm' = some 0 || (texts = [""] && a.has 'v' && !a.has 'x' && !a.has 'w')) then
        st.done 1
      else
        let patterns := texts.mapM fun s =>
          if isFixed then Except.ok (literally s.toList)
          else Regex.parse { extended := isExtended, lenient := true, guarded := true } s
        match patterns with
        | .error e => fail st e
        | .ok patterns =>
          let st := if isExtended && kind ≠ some 'P' then
              (texts.flatMap fun s => startWarnings (s.length + 1) true s.toList).foldl
                (fun st w => (fail st ("warning: " ++ w)).done 0) st
            else st
          let folds := (a.options.filter fun o => o.1 ∈ ['i', 'y', Char.ofNat 14]).getLast?.map Prod.fst
          let q : Query := {
            patterns
            folded := folds.any (· ≠ Char.ofNat 14)
            whole := a.has 'x'
            words := a.has 'w' }
          let folders := (a.options.filter fun o => o.1 = 'd' || o.1 = 'r' || o.1 = 'R').getLast?
          let deep := folders.any fun o => o.1 ≠ 'd' || o.2 = "recurse"
          let skips := folders.any fun o => o.1 = 'd' && o.2 = "skip"
          let bare := deep && operands.isEmpty
          let operands := if bare then ["."] else if operands.isEmpty then ["-"] else operands
          let files := operands.flatMap (filesBelow deep st)
          let files := if bare then files.map fun p => String.ofList (p.toList.drop 2) else files
          let globs (letter : Nat) : List String := (a.options.filter fun o => o.1 = Char.ofNat letter).map Prod.snd
          let isLike (glob name : String) : Bool := Shell.Glob.accept (Shell.patternOfText glob) name.toList
          let isChosen (path : String) : Bool :=
            ((globs 3).isEmpty || (globs 3).any fun g => isLike g (lastName path)) &&
              !(globs 4).any (fun g => isLike g (lastName path)) &&
              !((Text.splitAt '/' path.toList).dropLast.any fun part =>
                (globs 5).any fun g => isLike g (String.ofList part))
          let files := files.filter isChosen
          let limit := number 'm'
          let around := number 'C'
          let gap := if a.has (Char.ofNat 15) then none else some ((a.value? (Char.ofNat 16)).getD "--")
          let binary := (a.options.filter fun o => o.1 = 'a' || o.1 = 'I' || o.1 = Char.ofNat 8).getLast?
          let plan : Plan := {
            options := a
            query := q
            named := !a.has 'h' && (a.has 'H' || 1 < operands.length || deep)
            before := ((number 'B').or around).getD 0
            after := ((number 'A').or around).getD 0
            limit, gap
            label := (a.value? (Char.ofNat 6)).getD "(standard input)"
            binary := match binary with
              | some ('a', _) => "text"
              | some ('I', _) => "without-match"
              | some (_, kind) => kind
              | none => "binary" }
          let quiet := a.has 'q' || a.has 'c' || a.has 'l' || a.has 'L' || limit = some 1 || limit = some 0
          let (st, t) := files.foldl (fun (st, (t : Tally)) path =>
            let report (st : State) (message : String) : State :=
              if a.has 's' then st else fail st (plan.shown path ++ ": " ++ message)
            if a.has 'q' && t.found then (st, t)
            else if !quiet && (ownOutput? st path).isSome then
              (report st "input file is also the output", { t with failed := true })
            else match contentOf path st with
              | (st, .ok bytes) => searchFile plan path bytes st t
              | (st, .error fault) =>
                if fault = .isFolder && skips then (st, t)
                else
                  let st := report st fault.reason
                  let t := { t with failed := true }
                  -- A file that was opened and could not be read has no lines.
                  if isOpened path fault then searchFile plan path .empty st t else (st, t))
            (st, ({} : Tally))
          if t.found && a.has 'q' then st.done 0
          else st.done (if t.failed then 2 else if t.found then 0 else 1)

end KernelForge.Tool
