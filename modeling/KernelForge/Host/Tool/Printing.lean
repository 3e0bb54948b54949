import KernelForge.Host.Shell.Format
import KernelForge.Host.Tool.Arguments

/-!
Printing by a format, as a program does it. It knows more escapes than a shell does, and what is wrong with
an argument is told before the argument is printed.
-/
namespace KernelForge.Tool

open Shell (State Format.Layout)
open Shell.Format (bytesOf numberOf realOf Doubt)

structure Printing where
  state : State
  args : List String
  ended : Bool := false

namespace Printing

def put (p : Printing) (bytes : List UInt8) : Printing := { p with state := p.state.write 1 ⟨bytes.toArray⟩ }

def fail (p : Printing) (name message : String) : Printing :=
  { p with state := complain name message p.state, ended := true }

def shift (p : Printing) : Printing := { p with args := p.args.tail }

def doubt (p : Printing) (name arg : String) (d : Option Doubt) : Printing :=
  match d with
  | some d =>
    { p with state := complain name (quoteText arg ++ ": " ++ match d with
      | .notNumber => "expected a numeric value"
      | .notWhole => "value not completely converted"
      | .outOfRange => d.message) p.state }
  | none =>
    match arg.toList with
    | q :: _ :: c :: more =>
      if q = '\'' || q = '"' then
        { p with state := (complain name ("warning: " ++ String.ofList (c :: more) ++
          ": character(s) following character constant have been ignored") p.state).done p.state.status }
      else p
    | _ => p

def whole (p : Printing) (name : String) (signed : Bool) : Printing × Int :=
  let arg := p.args.headD ""
  let (n, d) := if arg = "'" || arg = "\"" then (0, some .notNumber) else numberOf signed arg
  (p.shift.doubt name arg d, n)

/-! ### Escapes -/

def escape (p : Printing) (name : String) (zero : Bool) (cs : List Char) : Printing × List Char :=
  match cs with
  | [] => (p.put [92], [])
  | 'x' :: rest =>
    let digits := (rest.take 2).takeWhile fun c => (Text.Numeral.digit? 16 c).isSome
    if digits.isEmpty then (p.fail name "missing hexadecimal number in escape", rest)
    else (p.put [UInt8.ofNat ((Text.Numeral.digits? 16 digits).getD 0)], rest.drop digits.length)
  | 'c' :: rest => ({ p with ended := true }, rest)
  | '"' :: rest => (p.put [34], rest)
  | c :: rest =>
    if '0' ≤ c && c ≤ '7' then
      let (n, rest) := Shell.Format.octal 3 (if zero && c = '0' then rest else c :: rest)
      (p.put [n.toUInt8], rest)
    else match Shell.Format.letter? c with
      | some b => (p.put [b], rest)
      | none => (p.put (92 :: bytesOf (String.singleton c)), rest)

def escaped (name : String) : (fuel : Nat) → List Char → Printing → Printing
  | 0, _, p => p
  | _, [], p => p
  | fuel + 1, '\\' :: rest, p =>
    let (p, rest) := p.escape name true rest
    if p.ended then p else escaped name fuel rest p
  | fuel + 1, c :: rest, p => escaped name fuel rest (p.put (bytesOf (String.singleton c)))

/-! ### Directives -/

def allows (flags : List Char) (hasPrecision : Bool) (c : Char) : Bool :=
  "aAcdeEfFgGiosuxX".toList.contains c &&
    !(flags.contains '\'' && "aAceEosxX".toList.contains c) &&
    !(flags.contains '#' && "cdisu".toList.contains c) &&
    !(flags.contains '0' && "cs".toList.contains c) &&
    !(hasPrecision && c = 'c')

def extent (p : Printing) (name : String) (cs : List Char) : Printing × Int × List Char :=
  match cs with
  | '*' :: cs =>
    if p.args.isEmpty then (p, 0, cs)
    else
      let (p, n) := p.whole name true
      (p, n, cs)
  | cs =>
    let digits := cs.takeWhile Char.isDigit
    (p, ((Text.Numeral.digits? 10 digits).getD 0 : Nat), cs.drop digits.length)

def convert (p : Printing) (name : String) (l : Format.Layout) (c : Char) : Printing :=
  let arg := p.args.headD ""
  if c = 's' then p.shift.put (l.text (bytesOf arg))
  else if c = 'c' then p.shift.put (l.pad [(bytesOf arg).headD 0])
  else if c = 'd' || c = 'i' then
    let (p, n) := p.whole name true
    p.put (l.number 10 (l.sign (n < 0)) (Text.Numeral.text n.natAbs))
  else if c ∈ ['o', 'u', 'x', 'X'] then
    let (p, n) := p.whole name false
    let m := (n % 2 ^ 64).toNat
    let base := if c = 'o' then 8 else if c = 'u' then 10 else 16
    let digits := String.ofList (Nat.toDigits base m)
    let digits := if c = 'X' then digits.map Char.toUpper else digits
    let mark := if l.alternate && m ≠ 0 then
        (if c = 'x' then "0x" else if c = 'X' then "0X" else "") else ""
    let digits := if l.alternate && c = 'o' && m ≠ 0 then "0" ++ digits else digits
    p.put (l.number base mark digits)
  else
    let (value, d) := realOf Text.Real.extended arg
    (p.shift.doubt name arg d).put (l.real Text.Real.extended c value)

def directive (p : Printing) (name : String) (cs : List Char) : Printing × List Char :=
  match cs with
  | '%' :: rest => (p.put [37], rest)
  | 'b' :: rest =>
    let arg := p.args.headD ""
    (escaped name (arg.length + 1) arg.toList p.shift, rest)
  | 'q' :: rest => (if p.args.isEmpty then p else p.shift.put (bytesOf (quoteIfNeeded (p.args.headD ""))), rest)
  | cs =>
    let flags := cs.takeWhile fun c => c ∈ ['\'', '-', '+', ' ', '#', '0']
    let l := (flags.filter (· ≠ '\'')).foldl Format.Layout.flag {}
    let (p, width, rest) := p.extent name (cs.drop flags.length)
    let l := { l with left := l.left || width < 0, width := width.natAbs }
    let (p, l, rest, hasPrecision) := match rest with
      | '.' :: rest =>
        let (p, n, rest) := p.extent name rest
        (p, { l with precision := if n < 0 then none else some n.toNat }, rest, true)
      | rest => (p, l, rest, false)
    let rest := rest.dropWhile fun c => c ∈ ['l', 'L', 'h', 'j', 't', 'z']
    let flaw (more : List Char) : String :=
      "%" ++ String.ofList (cs.take (cs.length - more.length)) ++ ": invalid conversion specification"
    match rest with
    | [] => (p.fail name (flaw []), [])
    | c :: more =>
      if allows flags hasPrecision c then (p.convert name l c, more) else (p.fail name (flaw more), more)

def once (name : String) : (fuel : Nat) → List Char → Printing → Printing
  | 0, _, p => p
  | _, [], p => p
  | fuel + 1, c :: rest, p =>
    let (p, rest) :=
      if c = '%' then p.directive name rest
      else if c = '\\' then p.escape name false rest
      else (p.put (bytesOf (String.singleton c)), rest)
    if p.ended then p else once name fuel rest p

def repeatedly (name format : String) : (fuel : Nat) → Printing → Printing
  | 0, p => p
  | fuel + 1, p =>
    let after := once name (format.length + 1) format.toList p
    if after.ended || after.args.isEmpty || after.args.length = p.args.length then after
    else repeatedly name format fuel after

end Printing

def printf (name : String) (args : List String) (st : State) : State :=
  match if args.head? = some "--" then args.tail else args with
  | [] => misused name "missing operand" 1 st
  | format :: args =>
    let p := Printing.repeatedly name format (args.length + 1) { state := st.done 0, args }
    match p.ended, p.args with
    | false, arg :: _ =>
      (complain name ("warning: ignoring excess arguments, starting with " ++ quoteText arg) p.state).done
        p.state.status
    | _, _ => p.state

end KernelForge.Tool
