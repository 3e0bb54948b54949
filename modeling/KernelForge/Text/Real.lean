import KernelForge.Text.Numeral

/-!
Numbers with a fraction: reading them, rounding them to so many binary digits, and writing them in decimals.

A finite number is a sign and a ratio of natural numbers, so nothing is lost before it is rounded. Rounding
goes to the nearest number, and from the middle to the even one.
-/
namespace KernelForge.Text

inductive Real where
  | finite (negative : Bool) (num den : Nat)
  | infinite (negative : Bool)
  | undefined (negative : Bool)
deriving DecidableEq, Repr

namespace Real

def ofNat (n : Nat) : Real := .finite false n 1

def ofInt (n : Int) : Real := .finite (n < 0) n.natAbs 1

def isUndefined : Real → Bool
  | .undefined _ => true
  | _ => false

/-- Compares two numbers; what is none is equal to everything. -/
def order : Real → Real → Ordering
  | .finite na a p, .finite nb b q =>
    let x : Int := if na then -(a * q : Nat) else (a * q : Nat)
    let y : Int := if nb then -(b * p : Nat) else (b * p : Nat)
    compare x y
  | .infinite na, .infinite nb => compare (!na) (!nb)
  | .infinite na, .finite .. => if na then .lt else .gt
  | .finite .., .infinite nb => if nb then .gt else .lt
  | _, _ => .eq

def isNegative : Real → Bool
  | .finite negative _ _ => negative
  | .infinite negative => negative
  | .undefined negative => negative

/-! ### Rounding -/

/-- The whole number nearest to a ratio; of two, the even one. -/
def roundDiv (num den : Nat) : Nat :=
  let q := num / den
  let r := num % den
  if 2 * r < den then q else if den < 2 * r then q + 1 else q + q % 2

def scaled (base num den : Nat) (power : Int) : Nat × Nat :=
  if 0 ≤ power then (num * base ^ power.toNat, den) else (num, den * base ^ power.natAbs)

/-- Binary numbers of a kind: how many digits they have, the exponent of the smallest one, the exponent that
is too large, and how many digits stand before the point when they are written in groups of four. -/
structure Width where
  digits : Nat
  least : Int
  limit : Int
  ahead : Nat

def double : Width := ⟨53, -1074, 1024, 1⟩

def extended : Width := ⟨64, -16445, 16384, 4⟩

def Width.round (w : Width) : Real → Real
  | .finite negative num den =>
    if num = 0 || den = 0 then .finite negative 0 1
    else
      let guess : Int := (num.log2 : Int) - den.log2
      let (n, d) := scaled 2 num den (-guess)
      let top := if d ≤ n then guess else guess - 1
      let unit := max (top - w.digits + 1) w.least
      let (n, d) := scaled 2 num den (-unit)
      let (n, d) := scaled 2 (roundDiv n d) 1 unit
      if d * 2 ^ w.limit.toNat ≤ n then .infinite negative else .finite negative n d
  | r => r

/-- Whether a number is so small that those of a kind near it have fewer digits, and it is none of them. -/
def Width.loses (w : Width) : Real → Bool
  | .finite negative num den =>
    let (n, d) := scaled 2 num den (1 - w.least - w.digits)
    num ≠ 0 && den ≠ 0 && n < d && (w.round (.finite negative num den)).order (.finite negative num den) ≠ .eq
  | _ => false

/-! ### Writing -/

def lowDigits (count n : Nat) : String :=
  let ds := Numeral.decimal (n % 10 ^ count)
  String.ofList (List.replicate (count - ds.length) '0' ++ ds)

/-- A ratio with so many decimals. -/
def fixed (places num den : Nat) (point : Bool) : String :=
  let n := roundDiv (num * 10 ^ places) den
  let whole := Numeral.text (n / 10 ^ places)
  if places = 0 then (if point then whole ++ "." else whole) else whole ++ "." ++ lowDigits places n

/-- The exponent of the highest decimal digit of a ratio that is not zero. -/
def magnitude (num den : Nat) : Int :=
  let guess : Int := ((Numeral.decimal num).length : Int) - (Numeral.decimal den).length
  let (n, d) := scaled 10 num den (-guess)
  if d ≤ n then guess else guess - 1

/-- A ratio as a number of `places + 1` digits and the exponent of the first of them. -/
def normalized (places num den : Nat) : Nat × Int :=
  if num = 0 then (0, 0)
  else
    let x := magnitude num den
    let (n, d) := scaled 10 num den ((places : Int) - x)
    let n := roundDiv n d
    if 10 ^ (places + 1) ≤ n then (n / 10, x + 1) else (n, x)

def exponentText (mark : Char) (x : Int) : String :=
  let ds := Numeral.text x.natAbs
  String.singleton mark ++ (if x < 0 then "-" else "+") ++ (if ds.length < 2 then "0" ++ ds else ds)

/-- A ratio with one digit before the point and an exponent. -/
def scientific (places num den : Nat) (point : Bool) (mark : Char) : String :=
  let (n, x) := normalized places num den
  let first := Numeral.text (n / 10 ^ places)
  let body := if places = 0 then (if point then first ++ "." else first) else first ++ "." ++ lowDigits places n
  body ++ exponentText mark x

/-- A number of a kind in groups of four binary digits, without zeros at the end unless so many groups are
asked for, and an exponent of two. -/
def Width.groups (w : Width) (places : Option Nat) (num den : Nat) (point : Bool) (mark : Char) : String :=
  let guess : Int := (num.log2 : Int) - den.log2
  let (n, d) := scaled 2 num den (-guess)
  let top := if d ≤ n then guess else guess - 1
  let x : Int := if num = 0 then 0 else max (top - w.ahead + 1) (w.least + w.digits - w.ahead)
  let count := places.getD ((w.digits - w.ahead + 3) / 4)
  let (n, d) := scaled 2 num den (4 * (count : Int) - x)
  let n := roundDiv n d
  let ds := Nat.toDigits 16 (n % 16 ^ count)
  let tail := List.replicate (count - ds.length) '0' ++ ds
  let tail := if count = 0 then []
    else if places.isSome then tail
    else (tail.reverse.dropWhile (· = '0')).reverse
  let before := String.ofList (Nat.toDigits 16 (n / 16 ^ count))
  before ++ (if tail.isEmpty && !point then "" else ".") ++ String.ofList tail ++ String.singleton mark ++
    (if x < 0 then "-" else "+") ++ Numeral.text x.natAbs

/-- A text without zeros at the end of its decimals, and without a point that nothing follows. -/
def withoutZeros (s : String) : String :=
  if s.toList.contains '.' then
    let cs := s.toList.reverse.dropWhile (· = '0')
    String.ofList (match cs with
      | '.' :: rest => rest
      | cs => cs).reverse
  else s

/-- A ratio in so many digits, with an exponent if it is small or large for them. -/
def general (digits num den : Nat) (keep : Bool) (mark : Char) : String :=
  let digits := max digits 1
  let (_, x) := normalized (digits - 1) num den
  if -4 ≤ x && x < (digits : Int) then
    let s := fixed ((digits : Int) - 1 - x).toNat num den keep
    if keep then s else withoutZeros s
  else
    let s := scientific (digits - 1) num den keep mark
    if keep then s
    else
      let body := s.toList.takeWhile (· ≠ mark)
      withoutZeros (String.ofList body) ++ String.ofList (s.toList.drop body.length)

/-! ### Reading -/

/-- The digits of a base at the start of a text, as a number and how many they are. -/
def digitsIn (base : Nat) (cs : List Char) : Nat × Nat :=
  let ds := cs.takeWhile fun c => (Numeral.digit? base c).isSome
  ((Numeral.digits? base ds).getD 0, ds.length)

/-- The exponent after a mark, and how many characters it takes with the mark. -/
def exponentIn (mark : Char) (cs : List Char) : Int × Nat :=
  match cs with
  | c :: rest =>
    if c.toLower ≠ mark then (0, 0)
    else
      let (negative, signs) := match rest with
        | '-' :: _ => (true, 1)
        | '+' :: _ => (false, 1)
        | _ => (false, 0)
      let (n, count) := digitsIn 10 (rest.drop signs)
      let n : Int := (min n 100000 : Nat)
      if count = 0 then (0, 0) else (if negative then -n else n, count + signs + 1)
  | [] => (0, 0)

/-- Digits with a point among them and an exponent after them, in a base whose exponents are powers of
`power`. -/
def ratioIn (base power : Nat) (step : Nat) (mark : Char) (cs : List Char) : (Nat × Nat) × Nat :=
  let (whole, n) := digitsIn base cs
  let (part, m, points) := match cs.drop n with
    | '.' :: rest =>
      let (part, m) := digitsIn base rest
      (part, m, 1)
    | _ => (0, 0, 0)
  if n + m = 0 then ((0, 1), 0)
  else
    let used := n + m + points
    let (x, more) := exponentIn mark (cs.drop used)
    let mantissa := whole * base ^ m + part
    (if mantissa = 0 then (0, 1) else scaled power mantissa 1 (x - (step * m : Nat)), used + more)

/-- The number at the start of a text, and how many characters it takes; none if there is no number. -/
def read (cs : List Char) : Real × Nat :=
  let blanks := (cs.takeWhile fun c => c = ' ' || ('\t' ≤ c && c ≤ '\x0d')).length
  let (negative, signs) := match cs.drop blanks with
    | '-' :: _ => (true, 1)
    | '+' :: _ => (false, 1)
    | _ => (false, 0)
  let body := cs.drop (blanks + signs)
  let before := blanks + signs
  let starts (word : String) : Bool := word.toList.isPrefixOf (body.map Char.toLower)
  if starts "infinity" then (.infinite negative, before + 8)
  else if starts "inf" then (.infinite negative, before + 3)
  else if starts "nan" then (.undefined negative, before + 3)
  else
    let hex := if starts "0x" then ratioIn 16 2 4 'p' (body.drop 2) else ((0, 1), 0)
    let ((num, den), used) := if 0 < hex.2 then (hex.1, hex.2 + 2) else ratioIn 10 10 1 'e' body
    if used = 0 then (.finite false 0 1, 0) else (.finite negative num den, before + used)

end Real

end KernelForge.Text
