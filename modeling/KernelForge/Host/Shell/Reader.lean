import KernelForge.Host.Shell.Lexer

/-!
Reading shell scripts.

The grammar of commands over tokens. Every step inwards spends fuel, of which there is enough for every
script. A script is read line by line, so what stands before a line that cannot be read is run all the same,
and what a line does to the aliases shows in the next.
-/
namespace KernelForge.Shell

namespace Reader

mutual

def token : (fuel : Nat) → Want → Reader Token
  | 0, _ => fail "too deep"
  | fuel + 1, want => tokenWith (list fuel false true none) want

def documents : (fuel : Nat) → Reader Unit
  | 0 => fail "too deep"
  | fuel + 1 => documentsHere (list fuel false true none)

/-- Reads commands. With `single`, up to the end of the line; else up to a token that ends a list. A list that
may be empty can end at once. -/
def list : (fuel : Nat) → (single mayEnd : Bool) → Option Command → Reader (Option Command)
  | 0, _, _, _ => fail "too deep"
  | fuel + 1, single, mayEnd, before => do
    let t ← token fuel (if single then .command else .commandAcross)
    if t.isOperator "\n" then
      documents fuel
      return before
    else if t.isOperator "" then
      documents fuel
      push t
      return before
    else
      push t
      if mayEnd && t.endsList && !single then return before
      else
        let c ← andOr fuel
        let t ← token fuel .word
        let c := if t.isOperator "&" then .detach c else c
        let both := match before with
          | none => c
          | some b => .sequence b c
        if t.isOperator "" then
          documents fuel
          push t
          return some both
        else if t.isOperator "\n" then
          push t
          list fuel single true (some both)
        else if t.isOperator "&" || t.isOperator ";" then list fuel single true (some both)
        else if single then unexpected t none
        else
          push t
          return some both

def andOr : (fuel : Nat) → Reader Command
  | 0 => fail "too deep"
  | fuel + 1 => do
    let first ← pipeline fuel false
    andOrMore fuel first

def andOrMore : (fuel : Nat) → Command → Reader Command
  | 0, _ => fail "too deep"
  | fuel + 1, first => do
    let t ← token fuel .word
    if t.isOperator "&&" then
      let second ← pipeline fuel true
      andOrMore fuel (.both first second)
    else if t.isOperator "||" then
      let second ← pipeline fuel true
      andOrMore fuel (.either first second)
    else
      push t
      return first

def pipeline : (fuel : Nat) → (across : Bool) → Reader Command
  | 0, _ => fail "too deep"
  | fuel + 1, across => do
    let t ← token fuel (if across then .commandAcross else .command)
    if t.isKeyword "!" then
      let first ← command fuel false
      return .negate (← pipelineMore fuel first)
    else
      push t
      let first ← command fuel false
      pipelineMore fuel first

def pipelineMore : (fuel : Nat) → Command → Reader Command
  | 0, _ => fail "too deep"
  | fuel + 1, first => do
    let t ← token fuel .word
    if t.isOperator "|" then
      let second ← command fuel true
      pipelineMore fuel (.pipe first second)
    else
      push t
      return first

def expectKeyword : (fuel : Nat) → (across : Bool) → String → Reader Unit
  | 0, _, _ => fail "too deep"
  | fuel + 1, across, s => do
    let t ← token fuel (if across then .commandAcross else .word)
    if t.isKeyword s then return () else unexpected t (some (.keyword s))

def command : (fuel : Nat) → (across : Bool) → Reader Command
  | 0, _ => fail "too deep"
  | fuel + 1, across => do
    let t ← token fuel (if across then .commandAcross else .command)
    let line := (← get).line
    match t with
    | .keyword "if" => redirected fuel line (← branch fuel)
    | .keyword "while" => redirected fuel line (← loop fuel true)
    | .keyword "until" => redirected fuel line (← loop fuel false)
    | .keyword "for" => redirected fuel line (← forEach fuel line)
    | .keyword "case" =>
      let t ← token fuel .word
      match t with
      | .word w =>
        expectKeyword fuel true "in"
        redirected fuel line (.choose line w (← clauses fuel))
      | _ => unexpected t (some (.word []))
    | .operator "(" =>
      let body ← list fuel false false none
      let t ← token fuel .word
      if t.isOperator ")" then
        let rs ← redirects fuel .command
        return .group line true (body.getD .nothing) rs
      else unexpected t (some (.operator ")"))
    | .keyword "\x7b" =>
      let body ← list fuel false false none
      expectKeyword fuel false "\x7d"
      redirected fuel line (body.getD .nothing)
    | .word _ =>
      push t
      simple fuel line [] [] []
    | .redirect .. =>
      push t
      simple fuel line [] [] []
    | t => unexpected t none

def redirected : (fuel line : Nat) → Command → Reader Command
  | 0, _, _ => fail "too deep"
  | fuel + 1, line, c => do
    let rs ← redirects fuel .command
    return match rs, c with
      | [], c => c
      | rs, .group line true body _ => .group line true body rs
      | rs, c => .group line false c rs

def redirects : (fuel : Nat) → (want : Want) → Reader (List Redirect)
  | 0, _ => fail "too deep"
  | fuel + 1, want => do
    let t ← token fuel want
    match t with
    | .redirect stream kind =>
      let r ← redirect fuel stream kind
      return r :: (← redirects fuel .word)
    | _ =>
      push t
      return []

def redirect : (fuel : Nat) → Option Nat → String → Reader Redirect
  | 0, _, _ => fail "too deep"
  | fuel + 1, stream, kind => do
    modify fun s => { s with inMark := kind = "<<" || kind = "<<-" }
    let t ← token fuel .word
    modify fun s => { s with inMark := false }
    match t with
    | .word w =>
      let into := stream.getD 1
      let outOf := stream.getD 0
      match kind with
      | "<" => return .file outOf .read w
      | "<>" => return .file outOf .both w
      | ">>" => return .file into .append w
      | ">&" => return .same into w
      | "<&" => return .same outOf w
      | "<<" => document outOf w false
      | "<<-" => document outOf w true
      | ">|" => return .file into .force w
      | _ => return .file into .write w
    | t => unexpected t none

def document (stream : Nat) (mark : Word) (indented : Bool) : Reader Redirect := do
  let number := (← get).next
  let (mark, literal) := markOf mark
  modify fun s => { s with
    next := number + 1
    pending := s.pending ++ [⟨number, mark, literal, indented⟩] }
  return .document stream number

def simple : (fuel line : Nat) → List (String × Word) → List Word → List Redirect → Reader Command
  | 0, _, _, _, _ => fail "too deep"
  | fuel + 1, line, assignments, words, rs => do
    let t ← token fuel (if words.isEmpty then .name else .word)
    match t with
    | .word w =>
      match words, assignment? w with
      | [], some a => simple fuel line (a :: assignments) [] rs
      | _, _ => simple fuel line assignments (w :: words) rs
    | .redirect stream kind =>
      let r ← redirect fuel stream kind
      simple fuel line assignments words (r :: rs)
    | t =>
      match t.isOperator "(" && assignments.isEmpty && rs.isEmpty, words with
      | true, [w] => define fuel w
      | _, _ =>
        push t
        return .simple line assignments.reverse words.reverse rs.reverse

def define : (fuel : Nat) → Word → Reader Command
  | 0, _ => fail "too deep"
  | fuel + 1, w => do
    let t ← token fuel .word
    if t.isOperator ")" then
      match plain? w with
      | some name =>
        if isName name.toList && name ∉ specialCommands then return .define name (← command fuel true)
        else fail "Bad function name"
      | none => fail "Bad function name"
    else unexpected t (some (.operator ")"))

def branch : (fuel : Nat) → Reader Command
  | 0 => fail "too deep"
  | fuel + 1 => do
    let condition ← list fuel false false none
    expectKeyword fuel false "then"
    let yes ← list fuel false false none
    let t ← token fuel .word
    match t with
    | .keyword "elif" => return .branch (condition.getD .nothing) (yes.getD .nothing) (← branch fuel)
    | .keyword "else" =>
      let no ← list fuel false false none
      expectKeyword fuel false "fi"
      return .branch (condition.getD .nothing) (yes.getD .nothing) (no.getD .nothing)
    | .keyword "fi" => return .branch (condition.getD .nothing) (yes.getD .nothing) .nothing
    | t => unexpected t (some (.keyword "fi"))

def loop : (fuel : Nat) → (wanted : Bool) → Reader Command
  | 0, _ => fail "too deep"
  | fuel + 1, wanted => do
    let condition ← list fuel false false none
    expectKeyword fuel false "do"
    let body ← list fuel false false none
    expectKeyword fuel false "done"
    return .loop wanted (condition.getD .nothing) (body.getD .nothing)

def loopWords : (fuel : Nat) → Reader (List Word)
  | 0 => fail "too deep"
  | fuel + 1 => do
    let t ← token fuel .word
    match t with
    | .word w => return w :: (← loopWords fuel)
    | t =>
      if t.isOperator "\n" || t.isOperator ";" then
        push t
        return []
      else unexpected t none

def forEach : (fuel line : Nat) → Reader Command
  | 0, _ => fail "too deep"
  | fuel + 1, line => do
    let t ← token fuel .word
    let name ← match t with
      | .word w => pure ((plain? w).filter fun s => isName s.toList)
      | _ => pure none
    match name with
    | none => fail "Bad for loop variable"
    | some name =>
      let t ← token fuel .commandAcross
      let words ← if t.isKeyword "in" then do
          let words ← loopWords fuel
          let _ ← token fuel .word
          pure (some words)
        else do
          if t.isOperator ";" then pure () else push t
          pure none
      expectKeyword fuel true "do"
      let body ← list fuel false false none
      expectKeyword fuel false "done"
      return .forEach line name words (body.getD .nothing)

def clauses : (fuel : Nat) → Reader (List (List Word × Command))
  | 0 => fail "too deep"
  | fuel + 1 => do
    let t ← token fuel { keywords := true, across := true }
    if t.isKeyword "esac" then return []
    else
      let t ← if t.isOperator "(" then token fuel .word else pure t
      let ps ← patterns fuel t
      let body ← list fuel false true none
      let clause := (ps, body.getD .nothing)
      let t ← token fuel .commandAcross
      if t.isKeyword "esac" then return [clause]
      else if t.isOperator ";;" then return clause :: (← clauses fuel)
      else unexpected t (some (.operator ";;"))

def patterns : (fuel : Nat) → Token → Reader (List Word)
  | 0, _ => fail "too deep"
  | fuel + 1, t => do
    let w : Word ← match t with
      | .word w => pure w
      | .keyword s => pure [.text s false]
      | _ => pure []
    let t ← token fuel .word
    if t.isOperator "|" then
      let t ← token fuel .word
      return w :: (← patterns fuel t)
    else if t.isOperator ")" then return [w]
    else unexpected t (some (.operator ")"))

end

def depthIn (s : Source) : Nat :=
  24 * ((s.rest.length + 1) * ((s.aliases.map fun a => a.2.length).sum + 1)) + 64

def line (s : Source) : Except SyntaxError (Option Command × Source) :=
  (list (depthIn s) true false none).run s

def text (s : Source) : Except SyntaxError Word :=
  (·.1.reverse) <$> (documentText (list (depthIn s) false true none) (depthOf s.rest) []).run s

end Reader

namespace Source

def ofText (text : String) : Source := { rest := text.toList }

def isOver (s : Source) : Bool :=
  match s.pushed with
  | some (.operator "") => true
  | _ => false

end Source

end KernelForge.Shell
