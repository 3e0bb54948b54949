import KernelForge.Host.Shell.Arithmetic
import KernelForge.Host.Shell.State

/-!
Conditions: what `test` says about texts, numbers and files.

The words of a condition are read from the left. Whether a word is an operator depends on the words after it,
and a condition of three words whose middle one is an operator compares the other two.
-/
namespace KernelForge.Shell.Condition

inductive Sign where
  | operand
  | finish
  | not
  | opening
  | closing
  | both
  | either
  | about (op : String)
  | between (op : String)
deriving DecidableEq, Repr

def unary : List String :=
  ["-b", "-c", "-d", "-e", "-f", "-g", "-G", "-h", "-k", "-L", "-n", "-O", "-p", "-r", "-s", "-S", "-t", "-u",
   "-w", "-x", "-z"]

def binary : List String :=
  ["=", "!=", "<", ">", "-eq", "-ne", "-gt", "-ge", "-lt", "-le", "-nt", "-ot", "-ef"]

inductive Flaw where
  | illegalNumber (s : String)
  | argumentExpected (op : String)
  | unclosed
  | unexpected (s next : String)
deriving DecidableEq, Repr

def Flaw.message : Flaw → String
  | .illegalNumber s => "Illegal number: " ++ s
  | .argumentExpected op => op ++ ": argument expected"
  | .unclosed => "closing paren expected"
  | .unexpected s _ => (if s = "" then "" else s ++ ": ") ++ "unexpected operator"

def standsAlone : List String → Bool
  | [] => true
  | [_] => false
  | s :: _ => s ∈ binary

def signOf : List String → Sign
  | [] => .finish
  | s :: rest =>
    if s ∈ unary then (if standsAlone rest then .operand else .about s)
    else if s ∈ binary then .between s
    else match s with
      | "!" => .not
      | "-a" => .both
      | "-o" => .either
      | "(" => if rest.isEmpty then .operand else .opening
      | ")" => .closing
      | _ => .operand

def isLink (st : State) (path : String) : Bool :=
  match st.walkName path with
  | .ok (.link _) => true
  | _ => false

def aboutNode (node : Node) (op : String) : Bool :=
  match op with
  | "-f" => node.kind = .regular
  | "-s" => node.content.size ≠ 0
  | "-x" => node.isExecutable
  | "-p" => node.kind = .pipe
  | "-c" =>
    match node.kind with
    | .device _ => true
    | _ => false
  | _ => op ∈ ["-e", "-r", "-w", "-O", "-G"]

def aboutFile (st : State) (op path : String) : Bool :=
  if op = "-h" || op = "-L" then isLink st path
  else match st.walk path with
    | .error _ => false
    | .ok (.folder id _) =>
      match op with
      | "-u" => (st.disk.node id).mode &&& 0o4000 ≠ 0
      | "-g" => (st.disk.node id).mode &&& 0o2000 ≠ 0
      | "-k" => (st.disk.node id).mode &&& 0o1000 ≠ 0
      | _ => op ∈ ["-d", "-e", "-r", "-w", "-x", "-s", "-O", "-G"]
    | .ok (.file id) =>
      match op with
      | "-u" => (st.disk.node id).mode &&& 0o4000 ≠ 0
      | "-g" => (st.disk.node id).mode &&& 0o2000 ≠ 0
      | "-k" => (st.disk.node id).mode &&& 0o1000 ≠ 0
      | _ => aboutNode (st.disk.node id) op
    | .ok (.link _) => false

def numberAt? (st : State) (path : String) : Option Nat :=
  match st.walk path with
  | .ok (.file id) => some id
  | .ok (.folder id _) => some id
  | _ => none

def timeAt? (st : State) (path : String) : Option Int :=
  (numberAt? st path).map fun id => (st.disk.node id).modified

def compareNumbers (op : String) (a b : Int64) : Bool :=
  match op with
  | "-eq" => a = b
  | "-ne" => a ≠ b
  | "-gt" => b < a
  | "-ge" => b ≤ a
  | "-lt" => a < b
  | _ => a ≤ b

def numberOf (s : String) : Except Flaw Int64 :=
  let cs := (s.toList.dropWhile Char.isWhitespace).reverse.dropWhile Char.isWhitespace
  let (negative, digits) := match cs.reverse with
    | '-' :: digits => (true, digits)
    | '+' :: digits => (false, digits)
    | digits => (false, digits)
  match Text.Numeral.digits? 10 digits with
  | some n =>
    if n < 2 ^ 63 || (negative && n = 2 ^ 63) then .ok (Int64.ofInt (if negative then -n else n))
    else .error (.illegalNumber s)
  | none => .error (.illegalNumber s)

def compare (st : State) (a op b : String) : Except Flaw Bool :=
  match op with
  | "=" => .ok (a = b)
  | "!=" => .ok (a ≠ b)
  | "<" => .ok (a < b)
  | ">" => .ok (b < a)
  | "-nt" =>
    match timeAt? st a, timeAt? st b with
    | some x, some y => .ok (y < x)
    | _, _ => .ok false
  | "-ot" =>
    match timeAt? st a, timeAt? st b with
    | some x, some y => .ok (x < y)
    | _, _ => .ok false
  | "-ef" =>
    match numberAt? st a, numberAt? st b with
    | some x, some y => .ok (x = y)
    | _, _ => .ok false
  | _ => do
    let x ← numberOf a
    let y ← numberOf b
    return compareNumbers op x y

section

variable (st : State)

mutual

def anyOf : (fuel : Nat) → Sign → List String → Except Flaw (Bool × List String)
  | 0, _, words => .ok (false, words)
  | fuel + 1, sign, words => do
    let (a, words) ← allOf fuel sign words
    if signOf words.tail = .either then
      let words := words.drop 2
      let (b, words) ← anyOf fuel (signOf words) words
      return (a || b, words)
    else return (a, words)

def allOf : (fuel : Nat) → Sign → List String → Except Flaw (Bool × List String)
  | 0, _, words => .ok (false, words)
  | fuel + 1, sign, words => do
    let (a, words) ← negated fuel sign words
    if signOf words.tail = .both then
      let words := words.drop 2
      let (b, words) ← allOf fuel (signOf words) words
      return (a && b, words)
    else return (a, words)

def negated : (fuel : Nat) → Sign → List String → Except Flaw (Bool × List String)
  | 0, _, words => .ok (false, words)
  | fuel + 1, sign, words =>
    if sign = .not then do
      let next := signOf words.tail
      let (a, words) ← negated fuel next (if next = .finish then words else words.tail)
      return (!a, words)
    else primary fuel sign words

def primary : (fuel : Nat) → Sign → List String → Except Flaw (Bool × List String)
  | 0, _, words => .ok (false, words)
  | fuel + 1, sign, words =>
    match sign with
    | .finish => .ok (false, words)
    | .opening => do
      let words := words.tail
      if signOf words = .closing then return (false, words)
      else
        let (a, words) ← anyOf fuel (signOf words) words
        if signOf words.tail = .closing then return (a, words.tail) else .error .unclosed
    | .about op =>
      match words.tail with
      | [] => .error (.argumentExpected op)
      | s :: rest =>
        match op with
        | "-z" => .ok (s = "", s :: rest)
        | "-n" => .ok (s ≠ "", s :: rest)
        | "-t" => do
          let _ ← numberOf s
          return (false, s :: rest)
        | _ => .ok (aboutFile st op s, s :: rest)
    | _ =>
      match words with
      | [] => .ok (false, [])
      | a :: rest =>
        match signOf rest, rest.tail with
        | .between op, b :: more => do
          let holds ← compare st a op b
          return (holds, b :: more)
        | .between op, [] => .error (.argumentExpected op)
        | _, _ => .ok (a ≠ "", words)

end

def whole (sign : Sign) (words : List String) : Except Flaw Bool := do
  let (holds, rest) ← anyOf st (4 * words.length + 8) sign words
  match rest with
  | a :: b :: _ => .error (.unexpected a b)
  | _ => return holds

/-- Evaluates a condition of any number of words. For who negates only `once`, a second sign before three words
changes nothing. -/
def eval (once : Bool) : List String → Except Flaw Bool
  | [] => .ok false
  | words =>
    match words with
    | [a, op, b] =>
      if op ∈ binary then whole st .operand words
      else if a = "(" && b = ")" then whole st (signOf [op]) [op]
      else if a = "!" then (eval once [op, b]).map not
      else whole st (signOf words) words
    | [a, b, c, d] =>
      if a = "(" && d = ")" then whole st (signOf [b, c]) [b, c]
      else if a = "!" && b = "!" && once && c ∉ binary then (eval once [c, d]).map not
      else if a = "!" then (eval once [b, c, d]).map not
      else whole st (signOf words) words
    | words => whole st (signOf words) words

end

end KernelForge.Shell.Condition
