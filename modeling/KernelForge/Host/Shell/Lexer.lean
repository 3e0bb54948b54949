import KernelForge.Host.Shell.Syntax
import KernelForge.Text.Numeral

/-!
The tokens of shell scripts, and the words among them.

A script is taken apart token by token, with at most one token given back. Reserved words are recognized and
aliases replaced where a command starts. Texts that follow redirections are read at the end of the line. How
commands inside of words are read is given from outside.
-/
namespace KernelForge.Shell

inductive Token where
  | word (w : Word)
  | keyword (s : String)
  | operator (s : String)
  | redirect (stream : Option Nat) (kind : String)

namespace Token

def newline : Token := .operator "\n"

def finish : Token := .operator ""

def inQuotes (s : String) : String := "\"" ++ s ++ "\""

def shown : Token → String
  | .word _ => "word"
  | .keyword s => inQuotes s
  | .operator "\n" => "newline"
  | .operator "" => "end of file"
  | .operator s => inQuotes s
  | .redirect .. => "redirection"

def isOperator (s : String) : Token → Bool
  | .operator o => o = s
  | _ => false

def isKeyword (s : String) : Token → Bool
  | .keyword k => k = s
  | _ => false

def endsList : Token → Bool
  | .operator s => s ∈ ["", ";;", ")"]
  | .keyword s => s ∈ ["elif", "else", "fi", "do", "done", "\x7d", "esac", "then"]
  | _ => false

end Token

def reservedWords : List String :=
  ["!", "\x7b", "\x7d", "case", "do", "done", "elif", "else", "esac", "fi", "for", "if", "in", "then",
   "until", "while"]

structure Pending where
  number : Nat
  mark : String
  literal : Bool
  indented : Bool

structure Expanding where
  name : String
  left : Nat
  goesOn : Bool

/-- What is left of a script, and what was read aside. -/
structure Source where
  rest : List Char
  line : Nat := 1
  pushed : Option Token := none
  pending : List Pending := []
  documents : List (Nat × Word) := []
  next : Nat := 0
  aliases : List (String × String) := []
  expanding : List Expanding := []
  ofFile : Bool := false
  inDocument : Bool := false
  inMark : Bool := false

structure Want where
  keywords : Bool := false
  across : Bool := false
  aliases : Bool := false

namespace Want

def word : Want := {}

def name : Want := { aliases := true }

def command : Want := { keywords := true, aliases := true }

def commandAcross : Want := { keywords := true, aliases := true, across := true }

end Want

abbrev Reader := StateT Source (Except SyntaxError)

namespace Reader

def fail {α : Type} (message : String) : Reader α := do
  throw ⟨(← get).line, "Syntax error: " ++ message⟩

def advance (n : Nat) : Reader Unit :=
  modify fun s => { s with rest := s.rest.drop n, line := s.line + (s.rest.take n).count '\n' }

def joinedWhile (isInside : Char → Bool) : List Char → List Char × Nat
  | '\\' :: '\n' :: rest =>
    let (cs, n) := joinedWhile isInside rest
    (cs, n + 1)
  | c :: rest =>
    if isInside c then
      let (cs, n) := joinedWhile isInside rest
      (c :: cs, n)
    else (c :: rest, 0)
  | [] => ([], 0)

def join (isInside : Char → Bool) : Reader Unit :=
  modify fun s =>
    let (rest, n) := joinedWhile isInside s.rest
    { s with rest, line := s.line + n }

def pass (n : Nat) : Reader Unit :=
  modify fun s => { s with rest := s.rest.drop n }

def push (t : Token) : Reader Unit :=
  modify fun s => { s with pushed := some t }

def unexpected {α : Type} (t : Token) (expected : Option Token) : Reader α :=
  match expected with
  | some e => fail (t.shown ++ " unexpected (expecting " ++ e.shown ++ ")")
  | none => fail (t.shown ++ " unexpected")

/-! ### Characters -/

def backquote : Char := Char.ofNat 0x60

def isGap (c : Char) : Bool := c = ' ' || c = '\t'

def isMeta (c : Char) : Bool :=
  isGap c || c = '\n' || c = ';' || c = '&' || c = '|' || c = '(' || c = ')' || c = '<' || c = '>'

def special? (c : Char) : Option Parameter :=
  if c = '#' then some .count
  else if c = '@' then some (.all false)
  else if c = '*' then some (.all true)
  else if c = '$' then some .process
  else if c = '?' then some .status
  else if c = '!' then some .background
  else if c = '-' then some .flags
  else none

def parameter? (long : Bool) (cs : List Char) : Option (Parameter × Nat) :=
  match cs with
  | [] => none
  | c :: _ =>
    if isNameStart c then
      let name := cs.takeWhile isNameChar
      some (.named (String.ofList name), name.length)
    else if c.isDigit then
      let digits := if long then cs.takeWhile Char.isDigit else [c]
      some (.positional ((Text.Numeral.digits? 10 digits).getD 0), digits.length)
    else (special? c).map fun p => (p, 1)

def adjustment? : List Char → Option (Option (Bool × Adjustment) × Nat)
  | '\x7d' :: _ => some (none, 0)
  | ':' :: '-' :: _ => some (some (false, .substitute), 2)
  | ':' :: '=' :: _ => some (some (false, .assign), 2)
  | ':' :: '?' :: _ => some (some (false, .demand), 2)
  | ':' :: '+' :: _ => some (some (false, .alternate), 2)
  | '-' :: _ => some (some (true, .substitute), 1)
  | '=' :: _ => some (some (true, .assign), 1)
  | '?' :: _ => some (some (true, .demand), 1)
  | '+' :: _ => some (some (true, .alternate), 1)
  | '#' :: '#' :: _ => some (some (true, .cutFront true), 2)
  | '#' :: _ => some (some (true, .cutFront false), 1)
  | '%' :: '%' :: _ => some (some (true, .cutBack true), 2)
  | '%' :: _ => some (some (true, .cutBack false), 1)
  | _ => none

def isCut : Adjustment → Bool
  | .cutFront _ => true
  | .cutBack _ => true
  | _ => false

def lengthOf? : List Char → Option (Parameter × Nat)
  | '#' :: c :: d :: rest =>
    if isNameChar c then (parameter? true (c :: d :: rest)).map fun p => (p.1, p.2 + 1)
    else if c ≠ '\x7d' && d = '\x7d' then (special? c).map fun p => (p, 2)
    else none
  | _ => none

def backquoted (quoted : Bool) : List Char → Option (List Char × Nat)
  | [] => none
  | '\\' :: '\n' :: rest => (backquoted quoted rest).map fun (cs, n) => (cs, n + 2)
  | '\\' :: c :: rest =>
    let bare := c = backquote || c = '\\' || c = '$' || (quoted && c = '"')
    (backquoted quoted rest).map fun (cs, n) => (if bare then c :: cs else '\\' :: c :: cs, n + 2)
  | c :: rest =>
    if c = backquote then some ([], 1)
    else (backquoted quoted rest).map fun (cs, n) => (c :: cs, n + 1)

def operator? : List Char → Option String
  | ';' :: ';' :: _ => some ";;"
  | '&' :: '&' :: _ => some "&&"
  | '|' :: '|' :: _ => some "||"
  | ';' :: _ => some ";"
  | '&' :: _ => some "&"
  | '|' :: _ => some "|"
  | '(' :: _ => some "("
  | ')' :: _ => some ")"
  | '\n' :: _ => some "\n"
  | [] => some ""
  | _ => none

def isOperatorChar (first : Option Char) (c : Char) : Bool :=
  match first with
  | some '<' => c ∈ ['<', '&', '>', '-']
  | some '>' => c ∈ ['>', '&', '|']
  | some d => if d.isDigit then c.isDigit || c ∈ ['<', '>', '&', '|', '-'] else c = d && c ∈ [';', '&', '|']
  | none => false

def redirection? : List Char → Option String
  | '<' :: '<' :: '-' :: _ => some "<<-"
  | '<' :: '<' :: _ => some "<<"
  | '<' :: '&' :: _ => some "<&"
  | '<' :: '>' :: _ => some "<>"
  | '<' :: _ => some "<"
  | '>' :: '>' :: _ => some ">>"
  | '>' :: '&' :: _ => some ">&"
  | '>' :: '|' :: _ => some ">|"
  | '>' :: _ => some ">"
  | _ => none

def skipped : List Char → Nat
  | '\\' :: '\n' :: rest => skipped rest + 2
  | '#' :: rest => (rest.takeWhile (· ≠ '\n')).length + 1
  | c :: rest => if isGap c then skipped rest + 1 else 0
  | [] => 0

/-- The lines of a text that follows a redirection, up to its mark, and the number of characters taken. A
line that is `joined` to the one before it is no mark. -/
def documentLines (p : Pending) : (fuel : Nat) → (joined : Bool) → List Char → List (List Char) × Nat
  | 0, _, _ => ([], 0)
  | fuel + 1, joined, cs =>
    if cs.isEmpty then ([], 0)
    else
      let raw := cs.takeWhile (· ≠ '\n')
      let line := if p.indented && !joined then raw.dropWhile (· = '\t') else raw
      let rest := cs.drop (raw.length + 1)
      let taken := min (raw.length + 1) cs.length
      if line = p.mark.toList && !joined then ([], taken)
      else
        let isOpen := !p.literal && (raw.reverse.takeWhile (· = '\\')).length % 2 = 1
        let (lines, n) := documentLines p fuel isOpen rest
        let line := if raw.length < cs.length then line ++ ['\n'] else line
        (line :: lines, n + taken)

/-! ### Words and tokens -/

def markOf (w : Word) : String × Bool :=
  w.foldl (fun (s, quoted) part =>
    match part with
    | .text t q => (s ++ t, quoted || q)
    | _ => (s, quoted)) ("", false)

def depthOf (cs : List Char) : Nat := 4 * cs.length + 16

section

variable (commands : Reader (Option Command))

def closing : Reader Token := do
  match (← get).pushed with
  | some t =>
    modify fun s => { s with pushed := none }
    return t
  | none => return .finish

def output : Reader Command := do
  let outer ← get
  modify fun s => { s with pending := [], inDocument := false }
  let c ← commands
  let t ← closing
  if t.isOperator ")" then
    modify fun s => { s with pending := outer.pending, inDocument := outer.inDocument }
    return c.getD .nothing
  else unexpected t (some (.operator ")"))

/-- Reads a backquoted substitution. Its lines are counted on their own, and what does not belong to its
commands is passed over. -/
def oldOutput (quoted : Bool) (w : Word) : Reader Word := do
  advance 1
  if (← get).inMark then return addChar w backquote quoted
  match backquoted quoted (← get).rest with
  | none =>
    advance (← get).rest.length
    fail "EOF in backquote substitution"
  | some (cs, n) =>
    let outer ← get
    modify fun s => { s with rest := cs, line := 1, pending := [], inDocument := false }
    let c ← commands
    let _ ← closing
    modify fun s => { s with
      rest := outer.rest
      line := outer.line
      pending := outer.pending
      inDocument := outer.inDocument }
    advance n
    return .output (c.getD .nothing) quoted :: w

mutual

/-- Reads an unquoted piece of a word; in braces, up to the closing one. -/
def bare : (fuel : Nat) → (braced : Bool) → Word → Reader Word
  | 0, _, _ => fail "too deep"
  | fuel + 1, braced, w => do
    match (← get).rest with
    | [] => if braced then fail "Missing '\x7d'" else return w
    | '\\' :: '\n' :: _ =>
      advance 2
      bare fuel braced w
    | '\\' :: c :: _ =>
      advance 2
      bare fuel braced (addChar w c true)
    | '\'' :: rest =>
      let s := rest.takeWhile (· ≠ '\'')
      if s.length = rest.length then
        advance (s.length + 1)
        fail "Unterminated quoted string"
      else
        advance (s.length + 2)
        bare fuel braced (.text (String.ofList s) true :: w)
    | '"' :: _ =>
      advance 1
      let w ← doubleQuoted fuel false false (.text "" true :: w)
      bare fuel braced w
    | '$' :: _ =>
      advance 1
      let w ← dollar fuel false w
      bare fuel braced w
    | c :: _ =>
      if c = backquote then
        let w ← oldOutput commands false w
        bare fuel braced w
      else if (braced && c = '\x7d') || (!braced && isMeta c) then return w
      else
        advance 1
        bare fuel braced (addChar w c false)

/-- Reads on in double quotes, up to the closing one or, in braces, up to the closing brace. Quotes in braces
(`inner`) keep a brace between them from closing. -/
def doubleQuoted : (fuel : Nat) → (braced inner : Bool) → Word → Reader Word
  | 0, _, _, _ => fail "too deep"
  | fuel + 1, braced, inner, w => do
    match (← get).rest with
    | [] => fail (if (← get).inDocument then "Missing '\x7d'" else "Unterminated quoted string")
    | '"' :: _ =>
      advance 1
      if braced then doubleQuoted fuel braced (!inner) w else return w
    | '\\' :: '\n' :: _ =>
      advance 2
      doubleQuoted fuel braced inner w
    | '\\' :: c :: _ =>
      advance 2
      if c = '$' || c = '"' || c = '\\' || c = backquote || (braced && c = '\x7d') then
        doubleQuoted fuel braced inner (addChar w c true)
      else doubleQuoted fuel braced inner (addChar (addChar w '\\' true) c true)
    | '$' :: _ =>
      advance 1
      let w ← dollar fuel true w
      doubleQuoted fuel braced inner w
    | c :: _ =>
      if c = backquote then
        let w ← oldOutput commands true w
        doubleQuoted fuel braced inner w
      else if braced && !inner && c = '\x7d' then return w
      else
        advance 1
        doubleQuoted fuel braced inner (addChar w c true)

def documentText : (fuel : Nat) → Word → Reader Word
  | 0, _ => fail "too deep"
  | fuel + 1, w => do
    match (← get).rest with
    | [] => return w
    | '\\' :: '\n' :: _ =>
      advance 2
      documentText fuel w
    | '\\' :: c :: _ =>
      advance 2
      if c = '$' || c = '\\' || c = backquote then documentText fuel (addChar w c true)
      else documentText fuel (addChar (addChar w '\\' true) c true)
    | '$' :: _ =>
      advance 1
      let w ← dollar fuel true w
      documentText fuel w
    | c :: _ =>
      if c = backquote then
        let w ← oldOutput commands true w
        documentText fuel w
      else
        advance 1
        documentText fuel (addChar w c true)

def expression : (fuel depth : Nat) → Word → Reader Word
  | 0, _, _ => fail "too deep"
  | fuel + 1, depth, w => do
    if (← get).rest.head? = some ')' then join (· = ')')
    match (← get).rest, depth with
    | [], _ => fail "Missing '))'"
    | ')' :: ')' :: _, 0 =>
      advance 2
      return w
    | '\\' :: '\n' :: _, _ =>
      advance 2
      expression fuel depth w
    | '\\' :: c :: _, _ =>
      advance 2
      if c = '$' || c = '"' || c = '\\' || c = backquote then expression fuel depth (addChar w c true)
      else expression fuel depth (addChar (addChar w '\\' true) c true)
    | '$' :: _, _ =>
      advance 1
      let w ← dollar fuel true w
      expression fuel depth w
    | c :: _, _ =>
      if c = backquote then
        let w ← oldOutput commands true w
        expression fuel depth w
      else
        advance 1
        expression fuel (if c = '(' then depth + 1 else if c = ')' then depth - 1 else depth)
          (addChar w c true)

def dollar : (fuel : Nat) → (quoted : Bool) → Word → Reader Word
  | 0, _, _ => fail "too deep"
  | fuel + 1, quoted, w => do
    if (← get).inMark then return addChar w '$' quoted
    join fun c => c = '(' || isNameChar c
    match (← get).rest with
    | '(' :: '(' :: _ =>
      advance 2
      let e ← expression fuel 0 []
      return .arithmetic e.reverse quoted :: w
    | '(' :: _ =>
      advance 1
      let c ← output commands
      return .output c quoted :: w
    | '\x7b' :: _ =>
      advance 1
      let part ← braces fuel quoted
      return part :: w
    | cs =>
      match parameter? false cs with
      | some (p, n) =>
        advance n
        return .parameter p quoted :: w
      | none => return addChar w '$' quoted

def braces : (fuel : Nat) → (quoted : Bool) → Reader Part
  | 0, _ => fail "too deep"
  | fuel + 1, quoted => do
    join fun c => isNameChar c || (special? c).isSome || c ∈ [':', '=', '+', '%']
    match lengthOf? (← get).rest with
    | some (p, n) =>
      advance n
      if (← get).rest.head? = some '\x7d' then
        advance 1
        return .length p quoted
      else malformed fuel quoted
    | none =>
      match parameter? true (← get).rest with
      | none =>
        if (← get).rest.head? ≠ some '\x7d' then pass 1
        malformed fuel quoted
      | some (p, n) =>
        advance n
        match adjustment? (← get).rest with
        | none =>
          pass (if (← get).rest.head? = some ':' then 2 else 1)
          malformed fuel quoted
        | some (none, _) =>
          advance 1
          return .parameter p quoted
        | some (some (nullable, adjustment), n) =>
          advance n
          let word ← if quoted && !isCut adjustment then doubleQuoted fuel true false [] else bare fuel true []
          advance 1
          return .adjusted p nullable adjustment word.reverse quoted

def malformed : (fuel : Nat) → (quoted : Bool) → Reader Part
  | 0, _ => fail "too deep"
  | fuel + 1, quoted => do
    let _ ← if quoted then doubleQuoted fuel true false [] else bare fuel true []
    advance 1
    return .malformed

end

def readDocuments : (fuel : Nat) → Reader Unit
  | 0 => return ()
  | fuel + 1 => do
    match (← get).pending with
    | [] => return ()
    | p :: more =>
      let (lines, n) := documentLines p ((← get).rest.length + 1) false (← get).rest
      let outer ← get
      modify fun s => { s with rest := lines.flatten, pending := [] }
      modify fun s => { s with inDocument := true }
      let w ← if p.literal then pure [.text (String.ofList lines.flatten) true]
        else documentText commands (depthOf lines.flatten) []
      modify fun s => { s with
        inDocument := outer.inDocument
        rest := outer.rest
        line := outer.line
        pending := more
        documents := (p.number, w.reverse) :: s.documents }
      advance n
      readDocuments fuel

def documentsHere : Reader Unit := do
  readDocuments commands ((← get).pending.length + 1)

def rawToken : Reader Token := do
  join (isOperatorChar (← get).rest.head?)
  let cs := (← get).rest
  match cs.take 1, redirection? (cs.drop 1), redirection? cs, operator? cs with
  | _, _, some kind, _ =>
    advance kind.length
    return .redirect none kind
  | _, _, _, some op =>
    advance op.length
    return .operator op
  | [c], some kind, none, none =>
    if c.isDigit then
      advance (kind.length + 1)
      return .redirect (some (c.toNat - '0'.toNat)) kind
    else return .word (← bare commands (depthOf cs) false []).reverse
  | _, _, _, _ => return .word (← bare commands (depthOf cs) false []).reverse

def nextToken : Reader (Token × Bool) := do
  match (← get).pushed with
  | some t =>
    modify fun s => { s with pushed := none }
    return (t, false)
  | none =>
    let before := (← get).rest.length
    advance (skipped (← get).rest)
    let start := (← get).rest.length
    let follows := (← get).expanding.any fun e => e.goesOn && start ≤ e.left && e.left < before
    return (← rawToken commands, follows)

def expandAlias (name : String) : Reader Bool := do
  let s ← get
  let expanding := s.expanding.filter fun e => e.left ≤ s.rest.length
  match s.aliases.lookup name with
  | none => return false
  | some text =>
    if expanding.any fun e => e.name = name then return false
    else
      let cs := text.toList
      let goesOn := (cs.getLast?.map isGap).getD false
      modify fun s => { s with
        rest := cs ++ s.rest
        expanding := if cs.isEmpty then expanding else ⟨name, s.rest.length, goesOn⟩ :: expanding }
      return true

def tokenWithin : (fuel : Nat) → Want → Reader Token
  | 0, _ => fail "too deep"
  | fuel + 1, want => do
    let (t, follows) ← nextToken commands
    match t with
    | .operator "\n" =>
      if want.across then
        documentsHere commands
        tokenWithin fuel want
      else return t
    | .word w =>
      match plain? w with
      | none => return t
      | some s =>
        if want.keywords && s ∈ reservedWords then return .keyword s
        else if want.aliases || follows then
          if ← expandAlias s then tokenWithin fuel want else return t
        else return t
    | _ => return t

def tokenWith (want : Want) : Reader Token := do
  let s ← get
  tokenWithin commands (s.rest.length + (s.aliases.map fun a => a.2.length + 1).sum + 2) want

end

end Reader

end KernelForge.Shell
