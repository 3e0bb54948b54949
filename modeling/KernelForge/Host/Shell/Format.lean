import KernelForge.Text.Octets
import KernelForge.Text.Real

/-!
Escapes and formats, as `echo` and `printf` of a shell have them.

A format is printed once for every batch of arguments that it uses up. A directive that gets no argument takes
an empty one, or zero.
-/
namespace KernelForge.Shell.Format

def bytesOf (s : String) : List UInt8 := (Text.Octets.toBytes s).data.toList

/-! ### Escapes -/

def octal (limit : Nat) (cs : List Char) : Nat × List Char :=
  let digits := (cs.take limit).takeWhile fun c => '0' ≤ c && c ≤ '7'
  ((Text.Numeral.digits? 8 digits).getD 0, cs.drop digits.length)

def letter? (c : Char) : Option UInt8 :=
  match c with
  | 'a' => some 7
  | 'b' => some 8
  | 't' => some 9
  | 'n' => some 10
  | 'v' => some 11
  | 'f' => some 12
  | 'r' => some 13
  | 'e' => some 27
  | '\\' => some 92
  | _ => none

def escape (cs : List Char) : UInt8 × List Char :=
  match cs with
  | [] => (92, [])
  | c :: rest =>
    match letter? c with
    | some b => (b, rest)
    | none =>
      if '0' ≤ c && c ≤ '7' then
        let (n, rest) := octal 3 cs
        (n.toUInt8, rest)
      else (92, cs)

def unescape : (fuel : Nat) → List Char → List UInt8 × Bool
  | 0, _ => ([], false)
  | _, [] => ([], false)
  | _, '\\' :: 'c' :: _ => ([], true)
  | fuel + 1, '\\' :: '0' :: rest =>
    let (n, rest) := octal 3 rest
    let (bytes, stop) := unescape fuel rest
    (n.toUInt8 :: bytes, stop)
  | fuel + 1, '\\' :: rest =>
    let (b, rest) := escape rest
    let (bytes, stop) := unescape fuel rest
    (b :: bytes, stop)
  | fuel + 1, c :: rest =>
    let (bytes, stop) := unescape fuel rest
    (bytesOf (String.singleton c) ++ bytes, stop)

def echo (args : List String) : List UInt8 :=
  let (args, finish) := match args with
    | "-n" :: rest => (rest, ([] : List UInt8))
    | _ => (args, [10])
  let line := " ".intercalate args
  match unescape (line.length + 1) line.toList with
  | (bytes, true) => bytes
  | (bytes, false) => bytes ++ finish

/-! ### Directives -/

structure Layout where
  left : Bool := false
  plus : Bool := false
  space : Bool := false
  zero : Bool := false
  alternate : Bool := false
  width : Nat := 0
  precision : Option Nat := none

namespace Layout

def flag (l : Layout) (c : Char) : Layout :=
  match c with
  | '-' => { l with left := true }
  | '+' => { l with plus := true }
  | ' ' => { l with space := true }
  | '0' => { l with zero := true }
  | _ => { l with alternate := true }

def pad (l : Layout) (bytes : List UInt8) : List UInt8 :=
  let blanks := List.replicate (l.width - bytes.length) (32 : UInt8)
  if l.left then bytes ++ blanks else blanks ++ bytes

def text (l : Layout) (bytes : List UInt8) : List UInt8 :=
  l.pad (match l.precision with
    | some n => bytes.take n
    | none => bytes)

/-- Digits of a base with what stands before them. Zeros fill the precision, or the width if there is none. -/
def number (l : Layout) (base : Nat) (sign digits : String) : List UInt8 :=
  let least := match l.precision with
    | some n => n
    | none => if l.zero && !l.left then l.width - sign.length else 0
  let digits := if l.precision = some 0 && digits = "0" then (if l.alternate && base = 8 then "0" else "")
    else digits
  let zeros := String.ofList (List.replicate (least - digits.length) '0')
  l.pad (bytesOf (sign ++ zeros ++ digits))

def sign (l : Layout) (negative : Bool) : String :=
  if negative then "-" else if l.plus then "+" else if l.space then " " else ""

def real (l : Layout) (width : Text.Real.Width) (c : Char) (value : Text.Real) : List UInt8 :=
  let sign := l.sign value.isNegative
  let places := l.precision.getD 6
  let mark := if c.isUpper then 'E' else 'e'
  let word (s : String) : List UInt8 := l.pad (bytesOf (sign ++ if c.isUpper then s.map Char.toUpper else s))
  match value with
  | .infinite _ => word "inf"
  | .undefined _ => word "nan"
  | .finite _ num den =>
    let body := match c.toLower with
      | 'a' => width.groups l.precision num den l.alternate 'p'
      | 'f' => Text.Real.fixed places num den l.alternate
      | 'e' => Text.Real.scientific places num den l.alternate mark
      | _ => Text.Real.general places num den l.alternate mark
    let before := if c = 'a' then sign ++ "0x" else if c = 'A' then sign ++ "0X" else sign
    let body := if c = 'A' then body.map Char.toUpper else body
    let zeros := if l.zero && !l.left then l.width - before.length - body.length else 0
    l.pad (bytesOf (before ++ String.ofList (List.replicate zeros '0') ++ body))

end Layout

inductive Doubt where
  | notNumber
  | notWhole
  | outOfRange
deriving DecidableEq, Repr

def Doubt.message : Doubt → String
  | .notNumber => "expected numeric value"
  | .notWhole => "not completely converted"
  | .outOfRange => "Numerical result out of range"

def numberOf (signed : Bool) (s : String) : Int × Option Doubt :=
  let cs := s.toList.dropWhile fun c => c = ' ' || ('\t' ≤ c && c ≤ '\x0d')
  match s.toList with
  | '"' :: rest => (((rest.head?.map Char.toNat).getD 0 : Nat), none)
  | '\'' :: rest => (((rest.head?.map Char.toNat).getD 0 : Nat), none)
  | _ =>
    let (negative, cs) := match cs with
      | '-' :: cs => (true, cs)
      | '+' :: cs => (false, cs)
      | cs => (false, cs)
    let isDigit (base : Nat) (c : Char) : Bool := (Text.Numeral.digit? base c).isSome
    let (base, digits) := match cs with
      | '0' :: x :: c :: rest =>
        if (x = 'x' || x = 'X') && isDigit 16 c then (16, c :: rest) else (8, cs)
      | '0' :: _ => (8, cs)
      | _ => (10, cs)
    let taken := digits.takeWhile (isDigit base)
    let rest := digits.drop taken.length
    let n : Int := ((Text.Numeral.digits? base taken).getD 0 : Nat)
    let n := if negative then -n else n
    let low : Int := if signed then -(2 ^ 63) else -(2 ^ 64 - 1)
    let high : Int := if signed then 2 ^ 63 - 1 else 2 ^ 64 - 1
    if taken.isEmpty && s ≠ "" then (0, some .notNumber)
    else
      let clipped := if high < n then high else if n < low then (if signed then low else high) else n
      if !rest.isEmpty then (clipped, some .notWhole)
      else if clipped ≠ n then (clipped, some .outOfRange)
      else (n, none)

def realOf (width : Text.Real.Width) (s : String) : Text.Real × Option Doubt :=
  match s.toList with
  | '"' :: rest => (.ofNat ((rest.head?.map Char.toNat).getD 0), none)
  | '\'' :: rest => (.ofNat ((rest.head?.map Char.toNat).getD 0), none)
  | cs =>
    let (exact, used) := Text.Real.read cs
    let value := width.round exact
    if used < cs.length then (value, some (if used = 0 then .notNumber else .notWhole))
    else match exact, value with
      | .finite .., .infinite _ => (value, some .outOfRange)
      | _, _ => (value, if width.loses exact then some .outOfRange else none)

structure Printed where
  bytes : List UInt8 := []
  args : List String := []
  complaints : List (String × Doubt) := []
  stop : Bool := false
  failure : Option String := none

namespace Printed

def add (p : Printed) (bytes : List UInt8) : Printed := { p with bytes := p.bytes ++ bytes }

def ended (p : Printed) : Bool := p.stop || p.failure.isSome

def take (p : Printed) (signed : Bool) : Printed × Int :=
  let arg := p.args.headD ""
  let (n, doubt) := numberOf signed arg
  ({ p with args := p.args.tail, complaints := p.complaints ++ (doubt.toList.map fun d => (arg, d)) }, n)

/-- A size at the start of a text, and the rest. A star takes it from the arguments, of which 32 bits count. -/
def size (p : Printed) (cs : List Char) : Printed × Int × List Char :=
  match cs with
  | '*' :: cs =>
    let (p, n) := p.take true
    (p, Int.bmod n (2 ^ 32), cs)
  | cs =>
    let digits := cs.takeWhile Char.isDigit
    (p, ((Text.Numeral.digits? 10 digits).getD 0 : Nat), cs.drop digits.length)

def layout (p : Printed) (cs : List Char) : Printed × Layout × List Char :=
  let flags := cs.takeWhile fun c => c ∈ ['#', '-', '+', ' ', '0']
  let l := flags.foldl Layout.flag {}
  let (p, width, cs) := p.size (cs.drop flags.length)
  let l := { l with
    left := l.left || width < 0
    width := width.natAbs }
  match cs with
  | '.' :: cs =>
    let (p, precision, cs) := p.size cs
    (p, { l with precision := if precision < 0 then none else some precision.toNat }, cs)
  | cs => (p, l, cs)

def number (p : Printed) (l : Layout) (c : Char) : Printed :=
  let signed := c = 'd' || c = 'i'
  let (p, n) := p.take signed
  if signed then
    p.add (l.number 10 (l.sign (n < 0)) (Text.Numeral.text n.natAbs))
  else
    let m := (n % 2 ^ 64).toNat
    let base := if c = 'o' then 8 else if c = 'u' then 10 else 16
    let digits := String.ofList (Nat.toDigits base m)
    let digits := if c = 'X' then digits.map Char.toUpper else digits
    let mark := if l.alternate && m ≠ 0 then
        (if c = 'x' then "0x" else if c = 'X' then "0X" else "") else ""
    let digits := if l.alternate && c = 'o' && m ≠ 0 then "0" ++ digits else digits
    p.add (l.number base mark digits)

def real (p : Printed) (width : Text.Real.Width) (l : Layout) (c : Char) : Printed :=
  let arg := p.args.headD ""
  let (value, complaint) := realOf width arg
  { p with
    args := p.args.tail
    complaints := p.complaints ++ (complaint.toList.map fun d => (arg, d)) }.add (l.real width c value)

def directive (p : Printed) (width : Text.Real.Width) (l : Layout) (c : Char) (whole : List Char) : Printed :=
  let arg := p.args.headD ""
  if c = 's' then { p with args := p.args.tail }.add (l.text (bytesOf arg))
  else if c = 'c' then { p with args := p.args.tail }.add (l.pad [(bytesOf arg).headD 0])
  else if c = 'b' then
    let (bytes, stop) := unescape (arg.length + 1) arg.toList
    { p with args := p.args.tail, stop }.add (l.text bytes)
  else if c ∈ ['d', 'i', 'o', 'u', 'x', 'X'] then p.number l c
  else if c ∈ ['a', 'A', 'e', 'E', 'f', 'F', 'g', 'G'] then p.real width l c
  else { p with failure := some (String.ofList whole ++ ": invalid directive") }

end Printed

def once (width : Text.Real.Width) : (fuel : Nat) → List Char → Printed → Printed
  | 0, _, p => p
  | _, [], p => p
  | fuel + 1, '\\' :: rest, p =>
    let (b, rest) := escape rest
    once width fuel rest (p.add [b])
  | fuel + 1, '%' :: '%' :: rest, p => once width fuel rest (p.add [37])
  | fuel + 1, '%' :: rest, p =>
    let (p, l, after) := p.layout rest
    match after with
    | [] => { p with failure := some "missing format character" }
    | c :: more =>
      let p := p.directive width l c ('%' :: rest.take (rest.length - more.length))
      if p.ended then p else once width fuel more p
  | fuel + 1, c :: rest, p => once width fuel rest (p.add (bytesOf (String.singleton c)))

def repeatedly (width : Text.Real.Width) (format : List Char) : (fuel : Nat) → Printed → Printed
  | 0, p => p
  | fuel + 1, p =>
    let printed := once width (format.length + 1) format p
    if printed.ended || printed.args.isEmpty || printed.args.length = p.args.length then printed
    else repeatedly width format fuel printed

def print (width : Text.Real.Width) (format : String) (args : List String) : Printed :=
  repeatedly width format.toList (args.length + 1) { args }

end KernelForge.Shell.Format
