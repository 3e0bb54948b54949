/-!
Unsigned numerals: digits in a base, with at most one plus sign before them and no other character.
Values are bounded by the caller.
-/
namespace KernelForge.Text.Numeral

/-- A power of numbers is the one of the core library, whatever else a module imports. -/
@[default_instance 10002]
instance (priority := 10001) power : Pow Nat Nat := instPowNat

@[inherit_doc power, default_instance 10001]
instance (priority := 10001) signedPower : Pow Int Nat := instPowNat

/-- So is the zero that a sum of numbers starts with. -/
instance (priority := 10001) zero : Zero Nat := Zero.ofOfNat0

/-- The value of a digit in a base up to sixteen; letters count in either case. -/
def digit? (base : Nat) (c : Char) : Option Nat :=
  let value :=
    if '0' ≤ c ∧ c ≤ '9' then some (c.toNat - '0'.toNat)
    else if 'a' ≤ c ∧ c ≤ 'f' then some (c.toNat - 'a'.toNat + 10)
    else if 'A' ≤ c ∧ c ≤ 'F' then some (c.toNat - 'A'.toNat + 10)
    else none
  value.filter (· < base)

def readFrom (base : Nat) : Nat → List Char → Option Nat
  | acc, [] => some acc
  | acc, c :: rest =>
    match digit? base c with
    | some d => readFrom base (acc * base + d) rest
    | none => none

def digits? (base : Nat) : List Char → Option Nat
  | [] => none
  | cs => readFrom base 0 cs

/-- The value of a numeral, with or without a plus sign, if it is below `limit`. -/
def read? (base limit : Nat) : List Char → Option Nat
  | '+' :: rest => (digits? base rest).filter (· < limit)
  | cs => (digits? base cs).filter (· < limit)

def word64? (cs : List Char) : Option UInt64 :=
  (read? 10 UInt64.size cs).map UInt64.ofNat

/-- The decimal digits of a number, without leading zeros. -/
def decimal (n : Nat) : List Char :=
  Nat.toDigits 10 n

def text (n : Nat) : String :=
  String.ofList (decimal n)

/-- The decimal text of an integer, with a minus sign before a negative one. -/
def signedText (n : Int) : String :=
  match n with
  | .ofNat m => text m
  | .negSucc m => "-" ++ text (m + 1)

/-- The digit of a value below sixteen, in small letters. -/
def hexDigit (n : Nat) : Char :=
  if n < 10 then Char.ofNat ('0'.toNat + n) else Char.ofNat ('a'.toNat + (n - 10))

/-- The lowest `width` hexadecimal digits of a number, most significant first. -/
def hex : (width : Nat) → (n : Nat) → List Char
  | 0, _ => []
  | width + 1, n => hex width (n / 16) ++ [hexDigit (n % 16)]

end KernelForge.Text.Numeral
