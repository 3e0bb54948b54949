import KernelForge.Host.Shell.Syntax
import KernelForge.Text.Numeral

/-!
Arithmetic of shells: signed 64-bit integers, variables, and the operators of C without increments.

An expression is read into a tree and then evaluated, which may give variables new values. Where it cannot
be read on, the tree has a broken end, so that evaluation fails there unless it fails before.
-/
namespace KernelForge.Shell.Arithmetic

inductive Expr where
  | number (n : Int64)
  | named (name : String)
  | unary (op : String) (e : Expr)
  | binary (op : String) (a b : Expr)
  | choice (condition yes no : Expr)
  | assign (name op : String) (e : Expr)
  | broken (message : String)
  | cut (before : Expr) (message : String)
deriving Repr

inductive Token where
  | number (n : Int64)
  | name (s : String)
  | operator (s : String)
deriving DecidableEq, Repr

def operators : List String :=
  ["<<=", ">>=", "&&", "||", "==", "!=", "<=", ">=", "<<", ">>", "+=", "-=", "*=", "/=", "%=", "&=", "|=",
   "^=", "+", "-", "*", "/", "%", "<", ">", "=", "!", "~", "&", "|", "^", "?", ":", "(", ")"]

def largest : Nat := 2 ^ 63 - 1

def numeral (cs : List Char) : Nat × Nat :=
  let (base, skip) := match cs with
    | '0' :: 'x' :: c :: _ => if (Text.Numeral.digit? 16 c).isSome then (16, 2) else (8, 0)
    | '0' :: 'X' :: c :: _ => if (Text.Numeral.digit? 16 c).isSome then (16, 2) else (8, 0)
    | '0' :: _ => (8, 0)
    | _ => (10, 0)
  let digits := (cs.drop skip).takeWhile fun c => (Text.Numeral.digit? base c).isSome
  ((Text.Numeral.digits? base digits).getD 0, skip + digits.length)

def number (cs : List Char) : Int64 × Nat :=
  let (n, taken) := numeral cs
  (Int64.ofNat (min largest n), taken)

def tokens : (fuel : Nat) → List Char → List Token
  | 0, _ => []
  | _, [] => []
  | fuel + 1, c :: rest =>
    let cs := c :: rest
    if c = ' ' || c = '\t' || c = '\n' then tokens fuel rest
    else if c.isDigit then
      let (n, taken) := number cs
      .number n :: tokens fuel (cs.drop taken)
    else if isNameStart c then
      let name := cs.takeWhile isNameChar
      .name (String.ofList name) :: tokens fuel (cs.drop name.length)
    else match operators.find? fun op => op.toList.isPrefixOf cs with
      | some op => .operator op :: tokens fuel (cs.drop op.length)
      | none => .operator (String.singleton c) :: tokens fuel rest

/-! ### Reading -/

def levels : List (List String) :=
  [["||"], ["&&"], ["|"], ["^"], ["&"], ["==", "!="], ["<", "<=", ">", ">="], ["<<", ">>"], ["+", "-"],
   ["*", "/", "%"]]

def assignments : List String := ["=", "+=", "-=", "*=", "/=", "%=", "&=", "|=", "^=", "<<=", ">>="]

mutual

def assignment : (fuel : Nat) → List Token → Expr × List Token
  | 0, _ => (.broken "too deep", [])
  | fuel + 1, ts =>
    match ts with
    | .name x :: .operator op :: rest =>
      if op ∈ assignments then
        let (e, rest) := assignment fuel rest
        (.assign x (String.ofList op.toList.dropLast) e, rest)
      else choice fuel ts
    | _ => choice fuel ts

def choice : (fuel : Nat) → List Token → Expr × List Token
  | 0, _ => (.broken "too deep", [])
  | fuel + 1, ts =>
    let (condition, rest) := operand fuel levels ts
    match rest with
    | .operator "?" :: rest =>
      let (yes, rest) := assignment fuel rest
      match rest with
      | .operator ":" :: rest =>
        let (no, rest) := choice fuel rest
        (.choice condition yes no, rest)
      | _ => (.choice condition yes (.broken "expecting ':'"), [])
    | _ => (condition, rest)

def operand : (fuel : Nat) → List (List String) → List Token → Expr × List Token
  | 0, _, _ => (.broken "too deep", [])
  | fuel + 1, [], ts => primary fuel ts
  | fuel + 1, ops :: above, ts =>
    let (first, rest) := operand fuel above ts
    operandMore fuel ops above first rest

def operandMore : (fuel : Nat) → List String → List (List String) → Expr → List Token → Expr × List Token
  | 0, _, _, _, _ => (.broken "too deep", [])
  | fuel + 1, ops, above, first, ts =>
    match ts with
    | .operator op :: rest =>
      if op ∈ ops then
        let (second, rest) := operand fuel above rest
        operandMore fuel ops above (.binary op first second) rest
      else (first, ts)
    | _ => (first, ts)

def primary : (fuel : Nat) → List Token → Expr × List Token
  | 0, _ => (.broken "too deep", [])
  | fuel + 1, ts =>
    match ts with
    | .number n :: rest => (.number n, rest)
    | .name x :: rest => (.named x, rest)
    | .operator "(" :: rest =>
      let (e, rest) := assignment fuel rest
      match rest with
      | .operator ")" :: rest => (e, rest)
      | _ => (.cut e "expecting ')'", [])
    | .operator op :: rest =>
      if op ∈ ["+", "-", "!", "~"] then
        let (e, rest) := primary fuel rest
        (.unary op e, rest)
      else (.broken "expecting primary", [])
    | [] => (.broken "expecting primary", [])

end

def parse (s : String) : Expr :=
  let ts := tokens (s.length + 1) s.toList
  let (e, rest) := assignment (32 * ts.length + 64) ts
  if rest.isEmpty then e else .cut e "expecting EOF"

def Expr.fault? : Expr → Option String
  | .number _ => none
  | .named _ => none
  | .unary _ e => e.fault?
  | .binary _ a b => a.fault? <|> b.fault?
  | .choice c a b => c.fault? <|> a.fault? <|> b.fault?
  | .assign _ _ e => e.fault?
  | .broken message => some message
  | .cut e message => e.fault? <|> some message

/-! ### Evaluating -/

abbrev Env := List (String × String)

def truth (b : Bool) : Int64 := if b then 1 else 0

def apply (op : String) (a b : Int64) : Except String Int64 :=
  match op with
  | "+" => .ok (a + b)
  | "-" => .ok (a - b)
  | "*" => .ok (a * b)
  | "/" => if b = 0 then .error "division by zero" else .ok (a / b)
  | "%" => if b = 0 then .error "division by zero" else .ok (a % b)
  | "<<" => .ok (a <<< b)
  | ">>" => .ok (a >>> b)
  | "<" => .ok (truth (a < b))
  | "<=" => .ok (truth (a ≤ b))
  | ">" => .ok (truth (b < a))
  | ">=" => .ok (truth (b ≤ a))
  | "==" => .ok (truth (a = b))
  | "!=" => .ok (truth (a ≠ b))
  | "&" => .ok (a &&& b)
  | "^" => .ok (a ^^^ b)
  | "|" => .ok (a ||| b)
  | _ => .ok b

def numberOf? (s : String) : Option Int64 :=
  let cs := s.toList.dropWhile fun c => c = ' ' || c = '\t' || c = '\n'
  let (negative, cs) := match cs with
    | '-' :: cs => (true, cs)
    | '+' :: cs => (false, cs)
    | cs => (false, cs)
  let (n, taken) := numeral cs
  let rest := (cs.drop taken).dropWhile fun c => c = ' ' || c = '\t' || c = '\n'
  let inRange := if negative then n ≤ largest + 1 else n ≤ largest
  if rest.isEmpty && (taken ≠ 0 || s = "") && inRange then some (Int64.ofInt (if negative then -n else n)) else none

inductive Failure where
  | expression (message : String)
  | value (text : String)

def skip (e : Expr) : Except Failure Unit :=
  match e.fault? with
  | some message => .error (.expression message)
  | none => .ok ()

def eval (lookup : String → Option String) : Expr → Env → Except Failure (Int64 × Env)
  | .number n, env => .ok (n, env)
  | .named x, env => do
    let n ← value x env
    return (n, env)
  | .unary op e, env => do
    let (n, env) ← eval lookup e env
    let n := match op with
      | "-" => 0 - n
      | "!" => truth (n = 0)
      | "~" => ~~~n
      | _ => n
    return (n, env)
  | .binary "&&" a b, env => do
    let (x, env) ← eval lookup a env
    if x = 0 then
      skip b
      return (0, env)
    else
      let (y, env) ← eval lookup b env
      return (truth (y ≠ 0), env)
  | .binary "||" a b, env => do
    let (x, env) ← eval lookup a env
    if x ≠ 0 then
      skip b
      return (1, env)
    else
      let (y, env) ← eval lookup b env
      return (truth (y ≠ 0), env)
  | .binary op a b, env => do
    let (x, env) ← eval lookup a env
    let (y, env) ← eval lookup b env
    let n ← (apply op x y).mapError .expression
    return (n, env)
  | .choice c a b, env => do
    let (x, env) ← eval lookup c env
    if x ≠ 0 then
      let result ← eval lookup a env
      skip b
      return result
    else
      skip a
      eval lookup b env
  | .broken message, _ => .error (.expression message)
  | .cut e message, env => do
    let _ ← eval lookup e env
    .error (.expression message)
  | .assign name op e, env => do
    let (y, env) ← eval lookup e env
    if op = "" then return (y, (name, Text.Numeral.signedText y.toInt) :: env)
    else
      let x ← value name env
      let n ← (apply op x y).mapError .expression
      return (n, (name, Text.Numeral.signedText n.toInt) :: env)
where
  value (x : String) (env : Env) : Except Failure Int64 :=
    let text := match env.find? fun v => v.1 = x with
      | some v => some v.2
      | none => lookup x
    match text with
    | none => .ok 0
    | some s =>
      match numberOf? s with
      | some n => .ok n
      | none => .error (.value s)

end KernelForge.Shell.Arithmetic
