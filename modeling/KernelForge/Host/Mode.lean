import KernelForge.Text.Numeral

/-!
Permissions of files: nine bits for three classes of users, and three special ones above them.
-/
namespace KernelForge.Mode

def spread (bits : Nat) : Nat := bits * 0o111

/-- The letters of three permission bits, without those that are missing. -/
def letters (bits : Nat) : String :=
  (if bits &&& 4 ≠ 0 then "r" else "") ++ (if bits &&& 2 ≠ 0 then "w" else "") ++
    (if bits &&& 1 ≠ 0 then "x" else "")

/-- All permissions as nine letters, with dashes for those that are missing. -/
def text (mode : Nat) : String :=
  let bit (n : Nat) : Bool := mode / 2 ^ n % 2 = 1
  let letter (n : Nat) (c : Char) : Char := if bit n then c else '-'
  let last (n special : Nat) (both alone : Char) : Char :=
    if bit special then (if bit n then both else alone) else letter n 'x'
  String.ofList [letter 8 'r', letter 7 'w', last 6 11 's' 'S', letter 5 'r', letter 4 'w', last 3 10 's' 'S',
    letter 2 'r', letter 1 'w', last 0 9 't' 'T']

def digits (mode : Nat) : String :=
  String.ofList ((Nat.toDigits 8 (mode % 4096 + 4096)).drop 1)

def classBits : Char → Nat
  | 'u' => 0o4700
  | 'g' => 0o2070
  | 'o' => 0o1007
  | _ => 0o7777

/-- What a change names: new bits, and those that are meant even if they are special bits of a folder. -/
structure Change where
  /-- The bits of the classes that the change is for, or none if it is for nobody in particular. -/
  affected : Nat
  bits : Nat
  mentioned : Nat

/-- A mode after a change. `mask` holds the bits that a change for nobody in particular leaves alone. A
folder keeps special bits that are not mentioned. -/
def Change.apply (c : Change) (sign : Char) (mask : Nat) (folder : Bool) (mode : Nat) : Nat :=
  let kept := if folder then 0o6000 &&& (0o7777 ^^^ c.mentioned) else 0
  let bits := c.bits &&& (if c.affected = 0 then 0o7777 ^^^ mask else c.affected) &&& (0o7777 ^^^ kept)
  match sign with
  | '+' => mode ||| bits
  | '-' => mode &&& (0o7777 ^^^ bits)
  | _ => (mode &&& ((if c.affected = 0 then 0 else 0o7777 ^^^ c.affected) ||| kept)) ||| bits

/-- What stands after the sign of a change: the change, and what follows it. -/
def change (affected : Nat) (folder : Bool) (mode : Nat) (cs : List Char) : Change × List Char :=
  let like (bits : Nat) (rest : List Char) : Change × List Char :=
    ({ affected, bits := spread bits, mentioned := 0 }, rest)
  match cs with
  | 'u' :: rest => like (mode / 64 % 8) rest
  | 'g' :: rest => like (mode / 8 % 8) rest
  | 'o' :: rest => like (mode % 8) rest
  | cs =>
    let letters := cs.takeWhile fun c => c ∈ ['r', 'w', 'x', 'X', 's', 't']
    let bits := letters.foldl (fun bits c => bits ||| match c with
      | 'r' => 0o444
      | 'w' => 0o222
      | 'x' => 0o111
      | 'X' => if folder || mode &&& 0o111 ≠ 0 then 0o111 else 0
      | 's' => 0o6000
      | _ => 0o1000) 0
    ({ affected, bits, mentioned := if affected = 0 then bits else affected &&& bits }, cs.drop letters.length)

/-- A mode after changes in symbols, such as `u+x,go=r`. -/
def change? (mask : Nat) (folder : Bool) : (fuel mode : Nat) → List Char → Option Nat
  | 0, _, _ => none
  | fuel + 1, mode, cs =>
    let who := cs.takeWhile fun c => c ∈ ['u', 'g', 'o', 'a']
    actions (who.foldl (fun bits c => bits ||| classBits c) 0) fuel mode (cs.drop who.length)
where
  actions (affected : Nat) : Nat → Nat → List Char → Option Nat
    | 0, _, _ => none
    | _, _, [] => none
    | fuel + 1, mode, sign :: rest =>
      if sign ∉ ['+', '-', '='] then none
      else
        let digits := rest.takeWhile fun c => '0' ≤ c && c < '8'
        match Text.Numeral.digits? 8 digits with
        | some n =>
          let more := rest.drop digits.length
          let mode := { affected := 0o7777, bits := n, mentioned := 0o7777 : Change }.apply sign mask folder mode
          if 0o7777 < n || affected ≠ 0 then none
          else match more with
            | [] => some mode
            | ',' :: more => change? mask folder fuel mode more
            | _ => none
        | none =>
          let (c, rest) := change affected folder mode rest
          let mode := c.apply sign mask folder mode
          match rest with
          | [] => some mode
          | ',' :: more => change? mask folder fuel mode more
          | more => actions affected fuel mode more

/-- A mode that is given by octal digits or by changes. Of the special bits of a folder, fewer than five digits
mention only those that they set. -/
def changed? (s : String) (mask : Nat) (folder : Bool) (mode : Nat) : Option Nat :=
  match Text.Numeral.digits? 8 s.toList with
  | some n =>
    let mentioned := if s.length < 5 then (n &&& 0o7000) ||| 0o777 else 0o7777
    if n < 4096 then some ({ affected := 0o7777, bits := n, mentioned : Change }.apply '=' mask folder mode)
      else none
  | none => change? mask folder (2 * s.length + 2) mode s.toList

end KernelForge.Mode
