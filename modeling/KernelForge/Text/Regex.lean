import KernelForge.Text.Numeral

/-!
Regular expressions, in the basic and in the extended form.

An expression is read into a tree. `ends` tells where a match that begins at a place can end, each place
once, with what the groups held on the way; `find?` takes the leftmost match, and of those the longest.
Characters are bytes.
-/
namespace KernelForge.Text

inductive BracketItem where
  | range (first last : Nat)
  | named (isMember : Nat → Bool)

inductive Anchor where
  | lineStart
  | lineEnd
  | textStart
  | textEnd
  | wordStart
  | wordEnd
  | wordEdge
  | notWordEdge
deriving DecidableEq, Repr

inductive Regex where
  | nothing
  | character (c : Nat)
  | any
  | bracket (negated : Bool) (items : List BracketItem)
  | anchor (a : Anchor)
  | group (n : Nat) (inner : Regex)
  | again (n : Nat)
  | both (first second : Regex)
  | either (first second : Regex)
  | many (inner : Regex) (least : Nat) (most : Option Nat)

namespace Regex

/-! ### Classes of characters -/

def isDigit (n : Nat) : Bool := 48 ≤ n && n ≤ 57
def isUpper (n : Nat) : Bool := 65 ≤ n && n ≤ 90
def isLower (n : Nat) : Bool := 97 ≤ n && n ≤ 122
def isLetter (n : Nat) : Bool := isUpper n || isLower n
def isSpace (n : Nat) : Bool := n = 32 || (9 ≤ n && n ≤ 13)

def isWordChar (n : Nat) : Bool := isLetter n || isDigit n || n = 95

def class? (name : String) : Option (Nat → Bool) :=
  match name with
  | "alnum" => some fun n => isLetter n || isDigit n
  | "alpha" => some isLetter
  | "blank" => some fun n => n = 32 || n = 9
  | "cntrl" => some fun n => n < 32 || n = 127
  | "digit" => some isDigit
  | "graph" => some fun n => 33 ≤ n && n ≤ 126
  | "lower" => some isLower
  | "print" => some fun n => 32 ≤ n && n ≤ 126
  | "punct" => some fun n => 33 ≤ n && n ≤ 126 && !(isLetter n || isDigit n)
  | "space" => some isSpace
  | "upper" => some isUpper
  | "xdigit" => some fun n => isDigit n || (65 ≤ n && n ≤ 70) || (97 ≤ n && n ≤ 102)
  | _ => none

def otherCase (n : Nat) : Nat := if isUpper n then n + 32 else if isLower n then n - 32 else n

def BracketItem.holds (n : Nat) : BracketItem → Bool
  | .range first last => first ≤ n && n ≤ last
  | .named isMember => isMember n

/-! ### Reading -/

structure Dialect where
  extended : Bool := false
  /-- A closing parenthesis that closes nothing is a character, and so is a brace that starts no repetition. -/
  lenient : Bool := false
  /-- A repetition has to repeat something: neither nothing, nor a place, nor in basic ones a repetition. -/
  strict : Bool := false
  /-- A bracket that looks like the name of a class is refused. -/
  guarded : Bool := false
deriving DecidableEq, Repr

/-- What is left to read, and how many groups were opened. -/
structure Reading where
  rest : List Char
  groups : Nat := 0
  closed : List Nat := []

abbrev ReadM := StateT Reading (Except String)

namespace Reader

def unmatchedBracket : String := "Unmatched [, [^, [:, [., or [="

def collating (close : Char) (cs : List Char) : Option (List Char × List Char) :=
  let rec go : List Char → List Char → Option (List Char × List Char)
    | _, [] => none
    | _, [_] => none
    | before, a :: b :: rest =>
      if a = close && b = ']' then some (before.reverse, rest) else go (a :: before) (b :: rest)
  go [] cs

def bracketItems : (fuel : Nat) → (first : Bool) → List Char → Except String (List BracketItem × List Char)
  | 0, _, _ => .error unmatchedBracket
  | _, _, [] => .error unmatchedBracket
  | fuel + 1, first, c :: cs =>
    if c = ']' && !first then .ok ([], cs)
    else do
      let single (c : Char) (cs : List Char) : Except String (Nat × List Char) :=
        match c, cs with
        | '[', '.' :: more =>
          match collating '.' more with
          | some ([c], rest) => .ok (c.toNat, rest)
          | some _ => .error "Invalid collation character"
          | none => .error unmatchedBracket
        | '[', '=' :: more =>
          match collating '=' more with
          | some ([c], rest) => .ok (c.toNat, rest)
          | some _ => .error "Invalid collation character"
          | none => .error unmatchedBracket
        | c, cs => .ok (c.toNat, cs)
      match c, cs with
      | '[', ':' :: more =>
        match collating ':' more with
        | none => throw unmatchedBracket
        | some (name, rest) =>
          match class? (String.ofList name) with
          | none => throw "Invalid character class name"
          | some isMember =>
            let (items, rest) ← bracketItems fuel false rest
            return (.named isMember :: items, rest)
      | c, cs =>
        let (low, cs) ← single c cs
        match cs with
        | '-' :: d :: more =>
          if d = ']' then
            let (items, rest) ← bracketItems fuel false cs
            return (.range low low :: items, rest)
          else
            let (high, rest) ← single d more
            let chained := match rest with
              | '-' :: c :: _ => c ≠ ']'
              | _ => false
            if high < low || chained then throw "Invalid range end"
            let (items, rest) ← bracketItems fuel false rest
            return (.range low high :: items, rest)
        | cs =>
          let (items, rest) ← bracketItems fuel false cs
          return (.range low low :: items, rest)

def unmatchedBrace : String := "Unmatched \\\x7b"
def invalidBrace : String := "Invalid content of \\\x7b\\\x7d"
def nothingRepeated : String := "Invalid preceding regular expression"
def misplacedClass : String := "character class syntax is [[:space:]], not [:space:]"

inductive NumberEnd where
  | close
  | comma
  | missing
deriving DecidableEq

/-- Splits what stands for a number of a repetition off the rest. -/
def intervalNumber (extended : Bool) : List Char → List Char × NumberEnd × List Char
  | [] => ([], .missing, [])
  | ',' :: cs => ([], .comma, cs)
  | '\\' :: '\x7d' :: cs =>
    if extended then
      let (taken, stop, rest) := intervalNumber extended cs
      ('\\' :: '\x7d' :: taken, stop, rest)
    else ([], .close, cs)
  | c :: cs =>
    if extended && c = '\x7d' then ([], .close, cs)
    else
      let (taken, stop, rest) := intervalNumber extended cs
      (c :: taken, stop, rest)

/-- Reads numbers for a repetition up to its end: the least, the most, and the rest. A lenient dialect takes
what is none for characters. -/
def interval? (d : Dialect) (cs : List Char) : Except String (Option (Nat × Option Nat × List Char)) :=
  let invalid (e : String) : Except String (Option (Nat × Option Nat × List Char)) :=
    if d.extended && d.lenient then .ok none else .error e
  let within (low : Nat) (high : Option Nat) (rest : List Char) :
      Except String (Option (Nat × Option Nat × List Char)) :=
    if high.any (· < low) then .error invalidBrace
    else if 32767 < high.getD low then .error "Regular expression too big"
    else .ok (some (low, high, rest))
  match intervalNumber d.extended cs with
  | (_, .missing, _) => invalid unmatchedBrace
  | (first, .close, rest) =>
    if first.isEmpty then .error invalidBrace
    else match Numeral.digits? 10 first with
      | some n => within n (some n) rest
      | none => invalid invalidBrace
  | (first, .comma, rest) =>
    if !first.all Char.isDigit then invalid invalidBrace
    else
      let low := (Numeral.digits? 10 first).getD 0
      match intervalNumber d.extended rest with
      | (_, .missing, _) => invalid unmatchedBrace
      | (second, stop, rest) =>
        if !second.all Char.isDigit then invalid invalidBrace
        else if stop = .comma then .error invalidBrace
        else within low (Numeral.digits? 10 second) rest

/-- The place or the class that a letter after a backslash means. -/
def escaped? (c : Char) : Option Regex :=
  match c with
  | 'w' => some (.bracket false [.named isWordChar])
  | 'W' => some (.bracket true [.named isWordChar])
  | 's' => some (.bracket false [.named isSpace])
  | 'S' => some (.bracket true [.named isSpace])
  | 'b' => some (.anchor .wordEdge)
  | 'B' => some (.anchor .notWordEdge)
  | '<' => some (.anchor .wordStart)
  | '>' => some (.anchor .wordEnd)
  | '\'' => some (.anchor .textEnd)
  | c => if c = Char.ofNat 0x60 then some (.anchor .textStart) else none

/-- Whether an expression ends here, or a group or an alternative does. -/
def atEnd (d : Dialect) (depth : Nat) (cs : List Char) : Bool :=
  match cs with
  | [] => true
  | '\\' :: c :: _ => !d.extended && (c = '|' || (c = ')'))
  | c :: _ => d.extended && (c = '|' || (c = ')' && (0 < depth || !d.lenient)))

def repeated (d : Dialect) : (fuel : Nat) → Regex → ReadM Regex
  | 0, r => return r
  | fuel + 1, r => do
    let s ← get
    let more (least : Nat) (most : Option Nat) (rest : List Char) : ReadM Regex := do
      set { s with rest }
      let isRepeated := match rest with
        | '*' :: _ => true
        | '\\' :: '\x7b' :: _ => true
        | _ => false
      if d.strict && !d.extended && isRepeated then throw nothingRepeated
      repeated d fuel (.many r least most)
    match s.rest with
    | '*' :: rest => more 0 none rest
    | '+' :: rest => if d.extended then more 1 none rest else return r
    | '?' :: rest => if d.extended then more 0 (some 1) rest else return r
    | '\x7b' :: rest =>
      if !d.extended then return r
      else match interval? d rest with
        | .error e => throw e
        | .ok (some (least, most, rest)) => more least most rest
        | .ok none => return r
    | '\\' :: '+' :: rest => if d.extended then return r else more 1 none rest
    | '\\' :: '?' :: rest => if d.extended then return r else more 0 (some 1) rest
    | '\\' :: '\x7b' :: rest =>
      if d.extended then return r
      else match interval? d rest with
        | .error e => throw e
        | .ok (some (least, most, rest)) => more least most rest
        | .ok none => return r
    | _ => return r

mutual

def alternatives (d : Dialect) : (fuel depth : Nat) → ReadM Regex
  | 0, _ => throw "Regular expression too big"
  | fuel + 1, depth => do
    let first ← sequence d fuel depth true
    let s ← get
    match d.extended, s.rest with
    | true, '|' :: rest =>
      set { s with rest }
      return .either first (← alternatives d fuel depth)
    | false, '\\' :: '|' :: rest =>
      set { s with rest }
      return .either first (← alternatives d fuel depth)
    | _, _ => return first

def sequence (d : Dialect) : (fuel depth : Nat) → (first : Bool) → ReadM Regex
  | 0, _, _ => throw "Regular expression too big"
  | fuel + 1, depth, first => do
    let s ← get
    if atEnd d depth s.rest then return .nothing
    else
      let (r, mayRepeat) ← atom d fuel depth first
      let r ← if mayRepeat then repeated d fuel r else pure r
      let stillFirst := match r with
        | .anchor .lineStart => first || d.strict
        | .anchor .lineEnd => (first && d.extended) || d.strict
        | .anchor _ => d.strict
        | .nothing => first && d.extended
        | _ => false
      return .both r (← sequence d fuel depth stillFirst)

def atom (d : Dialect) : (fuel depth : Nat) → (first : Bool) → ReadM (Regex × Bool)
  | 0, _, _ => throw "Regular expression too big"
  | fuel + 1, depth, first => do
    let s ← get
    let take (rest : List Char) (r : Regex) (mayRepeat : Bool) : ReadM (Regex × Bool) := do
      set { s with rest }
      return (r, mayRepeat)
    let group (rest : List Char) : ReadM (Regex × Bool) := do
      let n := s.groups + 1
      set { s with rest, groups := n }
      let inner ← alternatives d fuel (depth + 1)
      let after ← get
      match d.extended, after.rest with
      | true, ')' :: rest =>
        set { after with rest, closed := n :: after.closed }
        return (.group n inner, true)
      | false, '\\' :: ')' :: rest =>
        set { after with rest, closed := n :: after.closed }
        return (.group n inner, true)
      | _, _ => throw "Unmatched ( or \\("
    -- An operator at the start repeats nothing.
    let operator (c : Char) (rest : List Char) : ReadM (Regex × Bool) :=
      if !(d.extended && first) then take rest (.character c.toNat) true
      else if d.lenient then take rest .nothing false
      else throw nothingRepeated
    match s.rest with
    | [] => return (.nothing, false)
    | '.' :: rest => take rest .any true
    | '[' :: rest =>
      let (negated, rest) := match rest with
        | '^' :: rest => (true, rest)
        | rest => (false, rest)
      match bracketItems (rest.length + 1) true rest with
      | .error e => throw (if rest.isEmpty then "Invalid regular expression" else e)
      | .ok (items, after) =>
        let inner := rest.take (rest.length - after.length - 1)
        if d.guarded && 2 < inner.length && inner.head? = some ':' && inner.getLast? = some ':' then
          throw misplacedClass
        take after (.bracket negated items) true
    | '^' :: rest =>
      if d.extended || first then take rest (.anchor .lineStart) (d.extended && !d.strict && !first)
      else take rest (.character 94) true
    | '$' :: rest =>
      if d.extended || atEnd d depth rest then take rest (.anchor .lineEnd) (d.extended && !d.strict)
      else take rest (.character 36) true
    | '*' :: rest => operator '*' rest
    | '(' :: rest => if d.extended then group rest else take rest (.character 40) true
    | '+' :: rest => operator '+' rest
    | '?' :: rest => operator '?' rest
    | '\x7b' :: rest =>
      if d.extended && first then
        if !d.lenient then throw nothingRepeated
        match interval? d rest with
        | .error e => throw e
        | .ok (some (_, _, rest)) => take rest .nothing true
        | .ok none => take rest (.character 123) true
      else take rest (.character 123) true
    | ['\\'] => throw "Trailing backslash"
    | '\\' :: c :: rest =>
      if c = '(' && !d.extended then group rest
      else if c.isDigit && c ≠ '0' then
        let n := c.toNat - '0'.toNat
        if n ∈ s.closed then take rest (.again n) true else throw "Invalid back reference"
      else if c = '\x7b' && !d.extended then
        if first && !d.strict then take rest (.character 123) true else throw nothingRepeated
      else match escaped? c with
        | some (.anchor a) => take rest (.anchor a) (!d.strict)
        | some r => take rest r true
        | none => take rest (.character (if c = 'n' then 10 else c.toNat)) true
    | c :: rest => take rest (.character c.toNat) true

end

end Reader

def parse (d : Dialect) (s : String) : Except String Regex :=
  match (Reader.alternatives d (4 * s.length + 8) 0).run { rest := s.toList } with
  | .error e => .error e
  | .ok (r, s) =>
    match s.rest with
    | [] => .ok r
    | _ => .error "Unmatched ) or \\)"

/-! ### Matching -/

/-- What groups hold: where they start and end. -/
abbrev Captures := List (Nat × Nat × Nat)

/-- Where a match can end, each place once, and what the groups hold then. -/
abbrev Ends := List (Nat × Captures)

/-- Keeps the first of those that end at the same place. -/
def distinct (es : Ends) : Ends :=
  es.foldr (fun e rest => e :: rest.filter fun r => r.1 ≠ e.1) []

/-- A text in which an expression is looked for. The start of the text may not be that of a line. -/
structure Subject where
  text : Array Nat
  folded : Bool := false
  startsLine : Bool := true
  /-- Whether ends of lines in the text are told apart from other characters. -/
  lined : Bool := false

namespace Subject

def newline : Nat := 10

def wordBefore (s : Subject) (i : Nat) : Bool := 0 < i && (s.text[i - 1]?).any isWordChar

def wordAfter (s : Subject) (i : Nat) : Bool := (s.text[i]?).any isWordChar

def holdsAt (s : Subject) (i : Nat) : Anchor → Bool
  | .lineStart => (i = 0 && s.startsLine) || (s.lined && 0 < i && s.text[i - 1]? = some newline)
  | .lineEnd => i = s.text.size || (s.lined && s.text[i]? = some newline)
  | .textStart => i = 0 && s.startsLine
  | .textEnd => i = s.text.size
  | .wordStart => !s.wordBefore i && s.wordAfter i
  | .wordEnd => s.wordBefore i && !s.wordAfter i
  | .wordEdge => s.wordBefore i != s.wordAfter i
  | .notWordEdge => s.wordBefore i == s.wordAfter i

def same (s : Subject) (a b : Nat) : Bool := a = b || (s.folded && otherCase a = b)

/-- Whether the text has again at a place what it has between two others. -/
def repeatsAt (s : Subject) (start stop i : Nat) : Bool :=
  (List.range (stop - start)).all fun k =>
    match s.text[start + k]?, s.text[i + k]? with
    | some a, some b => s.same a b
    | _, _ => false

end Subject

/-- Repeats something from places that were reached, so often at least and at most. Once it has been
repeated often enough, only new places are gone on from. -/
def rounds (step : Nat × Captures → Ends) (most : Option Nat) :
    (fuel : Nat) → (least : Nat) → (count : Nat) → (frontier reached : Ends) → Ends
  | 0, _, _, _, reached => reached
  | fuel + 1, least, count, frontier, reached =>
    let reached := if least ≤ count then distinct (reached ++ frontier) else reached
    if frontier.isEmpty || most = some count then reached
    else
      let next := distinct (frontier.flatMap step)
      let next := if least ≤ count then next.filter fun e => !reached.any fun r => r.1 = e.1 else next
      rounds step most fuel least (count + 1) next reached

def ends (s : Subject) : Regex → Nat × Captures → Ends
  | nothing, (i, caps) => [(i, caps)]
  | character c, (i, caps) =>
    match s.text[i]? with
    | some n => if s.same n c then [(i + 1, caps)] else []
    | none => []
  | any, (i, caps) =>
    if i < s.text.size && !(s.lined && s.text[i]? = some Subject.newline) then [(i + 1, caps)] else []
  | bracket negated items, (i, caps) =>
    match s.text[i]? with
    | some n =>
      let isIn := items.any (BracketItem.holds n) || (s.folded && items.any (BracketItem.holds (otherCase n)))
      if isIn != negated && !(negated && s.lined && n = Subject.newline) then [(i + 1, caps)] else []
    | none => []
  | anchor a, (i, caps) => if s.holdsAt i a then [(i, caps)] else []
  | group n inner, (i, caps) =>
    (ends s inner (i, caps)).map fun e => (e.1, (n, i, e.1) :: e.2.filter fun c => c.1 ≠ n)
  | again n, (i, caps) =>
    match caps.lookup n with
    | some (start, stop) => if s.repeatsAt start stop i then [(i + (stop - start), caps)] else []
    | none => []
  | both first second, start => distinct ((ends s first start).flatMap (ends s second))
  | either first second, start => distinct (ends s first start ++ ends s second start)
  | many inner least most, start =>
    let fuel := s.text.size + least + 2
    let all := rounds (ends s inner) most fuel least 0 [start] []
    all.mergeSort fun a b => b.1 ≤ a.1

structure Match where
  start : Nat
  stop : Nat
  groups : Captures

def matchAt? (r : Regex) (s : Subject) (i : Nat) : Option Match :=
  (ends s r (i, [])).foldl (fun (best : Option Match) e =>
    match best with
    | some b => if b.stop < e.1 then some ⟨i, e.1, e.2⟩ else some b
    | none => some ⟨i, e.1, e.2⟩) none

/-- The leftmost match from a place on, and of those that start there the longest. -/
def find? (r : Regex) (s : Subject) (start : Nat) : Option Match :=
  (List.range (s.text.size + 1 - start)).findSome? fun k => matchAt? r s (start + k)

end Regex

end KernelForge.Text
