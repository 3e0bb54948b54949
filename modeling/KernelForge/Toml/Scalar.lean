import KernelForge.Text.Numeral

/-!
Numbers and dates of a TOML text.

Each recognizer takes the characters from a place on and gives those after the longest match of its form,
or `none` if there is no match.
-/
namespace KernelForge.Toml.Scalar

/-- The rest after a row of digits in which single underscores may stand between two digits. -/
def digitTail (isDigit : Char → Bool) : List Char → Option (List Char)
  | '_' :: c :: rest => if isDigit c then digitTail isDigit rest else none
  | '_' :: [] => none
  | c :: rest => if isDigit c then digitTail isDigit rest else some (c :: rest)
  | [] => some []

def digits (isDigit : Char → Bool) : List Char → Option (List Char)
  | c :: rest => if isDigit c then digitTail isDigit rest else none
  | [] => none

def dropSign : List Char → List Char
  | '+' :: rest => rest
  | '-' :: rest => rest
  | cs => cs

/-- A decimal integer with an optional sign and without leading zeros. -/
def decimal (cs : List Char) : Option (List Char) :=
  match dropSign cs with
  | '0' :: rest => some rest
  | rest => digits Char.isDigit rest

def isHexDigit (c : Char) : Bool := (Text.Numeral.digit? 16 c).isSome

def isOctalDigit (c : Char) : Bool := (Text.Numeral.digit? 8 c).isSome

def isBinaryDigit (c : Char) : Bool := (Text.Numeral.digit? 2 c).isSome

/-- The characters of a match, given the rest after it. -/
def matched (cs rest : List Char) : List Char :=
  cs.take (cs.length - rest.length)

/-- The value of digits with underscores among them. -/
def value (base : Nat) (lexeme : List Char) : Nat :=
  (Text.Numeral.digits? base (lexeme.filter (· ≠ '_'))).getD 0

def isNegative (lexeme : List Char) : Bool := lexeme.head? == some '-'

def inRange (n : Int) : Bool := -(2 : Int) ^ 63 ≤ n && n < (2 : Int) ^ 63

def integer? (cs : List Char) : Option (Int × List Char) :=
  let based (base : Nat) (isDigit : Char → Bool) (body : List Char) : Option (Int × List Char) := do
    let rest ← digits isDigit body
    return (value base (matched body rest), rest)
  let result := match cs with
    | '0' :: 'x' :: body => based 16 isHexDigit body
    | '0' :: 'o' :: body => based 8 isOctalDigit body
    | '0' :: 'b' :: body => based 2 isBinaryDigit body
    | _ => do
      let rest ← decimal cs
      let n : Int := value 10 (dropSign (matched cs rest))
      return (if isNegative cs then -n else n, rest)
  result.filter fun r => inRange r.1

/-! ### Floating-point numbers -/

def fraction : List Char → Option (List Char)
  | '.' :: rest => digits Char.isDigit rest
  | _ => none

def exponent : List Char → Option (List Char)
  | 'e' :: rest => digits Char.isDigit (dropSign rest)
  | 'E' :: rest => digits Char.isDigit (dropSign rest)
  | _ => none

/-- Whether `mantissa * 10 ^ exponent` is too large for a double: at least the number halfway between the
largest double and the next power of two. -/
def overflows (mantissa : Nat) (exponent : Int) : Bool :=
  let bound := 2 ^ 1024 - 2 ^ 970
  let magnitude : Int := (Text.Numeral.decimal mantissa).length + exponent
  if mantissa = 0 then false
  else if 320 < magnitude then true
  else if magnitude < 300 then false
  else if 0 ≤ exponent then bound ≤ mantissa * 10 ^ exponent.toNat
  else bound * 10 ^ (-exponent).toNat ≤ mantissa

/-- Whether a number without sign, with its parts given, is finite as a double. -/
def isFinite (whole afterPoint afterMark : List Char) : Bool :=
  let fractionDigits := afterPoint.filter (· ≠ '_')
  let mantissa := value 10 (whole ++ fractionDigits)
  let e : Int := value 10 (dropSign afterMark)
  let e := if isNegative afterMark then -e else e
  !overflows mantissa (e - fractionDigits.length)

/-- A number with a fraction or an exponent: its lexeme and the rest. A positive one has to be finite. -/
def float? (cs : List Char) : Option (List Char × List Char) := do
  let afterWhole ← decimal cs
  let (afterFraction, rest) ←
    match exponent afterWhole with
    | some rest => some (afterWhole, rest)
    | none => (fraction afterWhole).map fun rest => (rest, (exponent rest).getD rest)
  let whole := dropSign (matched cs afterWhole)
  let finite := isFinite whole ((matched afterWhole afterFraction).drop 1)
    ((matched afterFraction rest).drop 1)
  if isNegative cs || finite then some (matched cs rest, rest) else none

/-- Infinity or not-a-number, with an optional sign. -/
def special? (cs : List Char) : Option (List Char × List Char) :=
  match dropSign cs with
  | 'i' :: 'n' :: 'f' :: rest => some (matched cs rest, rest)
  | 'n' :: 'a' :: 'n' :: rest => some (matched cs rest, rest)
  | _ => none

/-! ### Dates and times -/

def twoDigits? (low high : Nat) : List Char → Option (Nat × List Char)
  | a :: b :: rest =>
    match Text.Numeral.digits? 10 [a, b] with
    | some n => if low ≤ n && n ≤ high then some (n, rest) else none
    | none => none
  | _ => none

def expect (c : Char) : List Char → Option (List Char)
  | d :: rest => if c = d then some rest else none
  | [] => none

def daysIn (year month : Nat) : Nat :=
  if month = 2 then
    if year % 4 = 0 && (year % 100 ≠ 0 || year % 400 = 0) then 29 else 28
  else if month ∈ [4, 6, 9, 11] then 30
  else 31

def date : List Char → Option (List Char)
  | a :: b :: c :: d :: rest => do
    let year ← Text.Numeral.digits? 10 [a, b, c, d]
    let (month, rest) ← twoDigits? 1 12 (← expect '-' rest)
    let (day, rest) ← twoDigits? 1 31 (← expect '-' rest)
    if day ≤ daysIn year month then some rest else none
  | _ => none

def secondFraction : List Char → Option (List Char)
  | '.' :: rest =>
    if (rest.takeWhile Char.isDigit).isEmpty then none else some (rest.dropWhile Char.isDigit)
  | _ => none

def time (cs : List Char) : Option (List Char) := do
  let (_, rest) ← twoDigits? 0 23 cs
  let (_, rest) ← twoDigits? 0 59 (← expect ':' rest)
  let (_, rest) ← twoDigits? 0 60 (← expect ':' rest)
  return (secondFraction rest).getD rest

/-- The distance of a local time from universal time. -/
def offset : List Char → Option (List Char)
  | 'Z' :: rest => some rest
  | 'z' :: rest => some rest
  | c :: rest => do
    if c = '+' || c = '-' then
      let (_, rest) ← twoDigits? 0 23 rest
      let (_, rest) ← twoDigits? 0 59 (← expect ':' rest)
      return rest
    else none
  | [] => none

def timeAfterDate : List Char → Option (List Char)
  | c :: rest => do
    if c = 'T' || c = 't' || c = ' ' then
      let rest ← time rest
      return (offset rest).getD rest
    else none
  | [] => none

def dateTime? (cs : List Char) : Option (List Char × List Char) :=
  match date cs with
  | some rest =>
    let rest := (timeAfterDate rest).getD rest
    some (matched cs rest, rest)
  | none =>
    match time cs with
    | some rest => some (matched cs rest, rest)
    | none => none

end KernelForge.Toml.Scalar
