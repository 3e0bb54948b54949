import KernelForge.Host.Shell.Format
import KernelForge.Host.Tool.Streams

/-!
Tools that wait, repeat their arguments and tell where they run.
-/
namespace KernelForge.Tool

open Shell (State)

/-! ### Numbers -/

structure Fixed where
  value : Int
  places : Nat := 0

namespace Fixed

def read? (s : String) : Option Fixed :=
  let cs := s.toList.dropWhile Char.isWhitespace
  let (negative, cs) := match cs with
    | '-' :: cs => (true, cs)
    | '+' :: cs => (false, cs)
    | cs => (false, cs)
  let whole := cs.takeWhile Char.isDigit
  let rest := cs.drop whole.length
  let (part, rest) := match rest with
    | '.' :: more =>
      let digits := more.takeWhile Char.isDigit
      (digits, more.drop digits.length)
    | rest => ([], rest)
  let exponent : Option Int := match rest with
    | [] => some 0
    | e :: more =>
      if e = 'e' || e = 'E' then
        match more with
        | '-' :: ds => (Text.Numeral.digits? 10 ds).map fun n => -(n : Int)
        | '+' :: ds => (Text.Numeral.digits? 10 ds).map fun n => (n : Int)
        | ds => (Text.Numeral.digits? 10 ds).map fun n => (n : Int)
      else none
  match Text.Numeral.digits? 10 (whole ++ part), exponent with
  | some n, some e =>
    let places : Int := (part.length : Int) - e
    if n = 0 || e < -limit then some { value := 0, places := if e < -limit then 0 else places.toNat }
    else if limit < e then none
    else
      let n := n * 10 ^ (-places).toNat
      some { value := if negative then -(n : Int) else n, places := places.toNat }
  | _, _ => hexadecimal? s
where
  limit : Int := 4932
  hexadecimal? (s : String) : Option Fixed :=
    match Text.Real.read s.toList with
    | (.finite negative num 1, used) =>
      if 0 < used && used = s.length then some { value := if negative then -(num : Int) else num } else none
    | _ => none

def scaled (f : Fixed) (places : Nat) : Int := f.value * 10 ^ (places - f.places)

def text (value : Int) (places : Nat) : String :=
  (if value < 0 then "-" else "") ++ Text.Real.fixed places value.natAbs (10 ^ places) false

end Fixed

/-! ### Time -/

def interval? (s : String) : Option Int :=
  let unit (c : Char) : Option Int :=
    match c with
    | 's' => some 1
    | 'm' => some 60
    | 'h' => some 3600
    | 'd' => some 86400
    | _ => none
  let cs := s.toList
  let (body, factor) := match cs.getLast?.bind unit with
    | some f => (cs.dropLast, f)
    | none => (cs, 1)
  match Fixed.read? (String.ofList body) with
  | some f => if f.value < 0 then none else some (f.value * 1000 * factor / 10 ^ f.places)
  | none => if String.ofList body = "inf" || String.ofList body = "infinity" then some (10 ^ 12) else none

def sleep (name : String) (args : List String) (st : State) : State :=
  withArguments name {} args st fun a st =>
    if a.operands.isEmpty then misused name "missing operand" 1 st
    else match a.operands.filter fun s => (interval? s).isNone with
      | [] =>
        -- Some time always passes.
        st.pass (max 1 ((a.operands.filterMap interval?).foldl (· + ·) 0))
      | wrong =>
        let complaints := wrong.map fun s => "invalid time interval " ++ quoteText s
        misused name (("\n" ++ name ++ ": ").intercalate complaints) 1 st

/-! ### Repeating arguments -/

def echoEscapes : (fuel : Nat) → List Char → List Char × Bool
  | 0, cs => (cs, false)
  | _, [] => ([], false)
  | fuel + 1, '\\' :: c :: rest =>
    let go (shown : List Char) (rest : List Char) : List Char × Bool :=
      let (more, stopped) := echoEscapes fuel rest
      (shown ++ more, stopped)
    let number (base limit : Nat) (cs : List Char) (otherwise : List Char) : List Char × Bool :=
      let digits := (cs.take limit).takeWhile fun d => (Text.Numeral.digit? base d).isSome
      match Text.Numeral.digits? base digits with
      | some n => go [Char.ofNat (n % 256)] (cs.drop digits.length)
      | none => go otherwise cs
    match c with
    | 'a' => go [Char.ofNat 7] rest
    | 'b' => go [Char.ofNat 8] rest
    | 'c' => ([], true)
    | 'e' => go [Char.ofNat 27] rest
    | 'f' => go [Char.ofNat 12] rest
    | 'n' => go ['\n'] rest
    | 'r' => go [Char.ofNat 13] rest
    | 't' => go ['\t'] rest
    | 'v' => go [Char.ofNat 11] rest
    | '\\' => go ['\\'] rest
    | '0' => number 8 3 rest [Char.ofNat 0]
    | 'x' => number 16 2 rest ['\\', 'x']
    | c =>
      if (Text.Numeral.digit? 8 c).isSome then number 8 3 (c :: rest) [] else go ['\\', c] rest
  | fuel + 1, c :: rest =>
    let (more, stopped) := echoEscapes fuel rest
    (c :: more, stopped)

def echo (_ : String) (args : List String) (st : State) : State :=
  let isOption (s : String) : Bool :=
    match s.toList with
    | '-' :: c :: cs => (c :: cs).all fun c => c ∈ ['n', 'e', 'E']
    | _ => false
  let options := args.takeWhile isOption
  let letters := options.flatMap fun o => o.toList.drop 1
  let escapes := (letters.filter fun c => c = 'e' || c = 'E').getLast? = some 'e'
  let line := (" ".intercalate (args.drop options.length)).toList
  let (shown, stopped) := if escapes then echoEscapes (line.length + 1) line else (line, false)
  (st.print (String.ofList shown ++ (if stopped || letters.contains 'n' then "" else "\n"))).done 0

/-! ### Where a tool runs -/

def printenv (name : String) (args : List String) (st : State) : State :=
  withArguments name { ordered := true, misuse := 2, plain := "0", long := [("null", '0')] } args st fun a st =>
    let finish := if a.has '0' then "\x00" else "\n"
    let env := st.environment
    match a.operands with
    | [] => st.print (String.join (env.map fun (n, v) => n ++ "=" ++ v ++ finish))
    | names => each names st fun n st =>
      match env.lookup n with
      | some v => st.print (v ++ finish)
      | none => st.done 1

def pwd (name : String) (args : List String) (st : State) : State :=
  let g : Grammar := { plain := "LP", long := [("logical", 'L'), ("physical", 'P')] }
  withArguments name g args st fun a st =>
    let logical := (st.environment.lookup "PWD").filter fun p =>
      a.has 'L' && (match st.walk p with
        | .ok t => numberOf? t = some st.folder
        | .error _ => false)
    let st := if a.operands.isEmpty then st else
      (complain name "ignoring non-option arguments" st).done 0
    match logical <|> st.here?.map Shell.pathText with
    | some path => st.print (path ++ "\n")
    | none => complain name "couldn't find directory entry in '..' with matching i-node" st

end KernelForge.Tool
