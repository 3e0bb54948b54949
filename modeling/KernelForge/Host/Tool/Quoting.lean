import KernelForge.Text.Numeral

/-!
Names in messages.

A name is shown in a way in which a shell would read it back: in quotes, and what cannot be printed as an
escape.
-/
namespace KernelForge.Tool

def escapeLetter? (c : Char) : Option Char :=
  match c.toNat with
  | 7 => some 'a'
  | 8 => some 'b'
  | 9 => some 't'
  | 10 => some 'n'
  | 11 => some 'v'
  | 12 => some 'f'
  | 13 => some 'r'
  | _ => none

def isPrinted (c : Char) : Bool := ' ' ≤ c && c ≤ '~'

def escape (c : Char) : String :=
  match escapeLetter? c with
  | some letter => String.ofList ['\\', letter]
  | none => "\\" ++ String.ofList ((Nat.toDigits 8 (c.toNat + 512)).drop 1)

def isTame (c : Char) : Bool := c.isAlphanum || c ∈ ['%', '+', ',', '-', '.', '/', ':', ']', '_', ' ', '\'']

def singleQuoted : (escaping : Bool) → List Char → String
  | _, [] => ""
  | escaping, c :: cs =>
    if isPrinted c then
      let shown := if c = '\'' then "'\\''" else String.singleton c
      (if escaping then "''" else "") ++ shown ++ singleQuoted false cs
    else (if escaping then "" else "'$'") ++ escape c ++ singleQuoted true cs

def quote (s : String) : String :=
  let cs := s.toList
  if cs.contains '\'' && cs.all isTame then "\"" ++ s ++ "\"" else "'" ++ singleQuoted false cs ++ "'"

def quoteIfNeeded (s : String) : String :=
  let isSafe (c : Char) : Bool :=
    c.isAlphanum || c ∈ ['-', '_', '.', '/', ',', '+', ':', '@', '%', ']', '~', '#', '\x7b', '\x7d']
  let starts := match s.toList with
    | ['\x7b'] => true
    | ['\x7d'] => true
    | c :: _ => c = '~' || c = '#'
    | [] => true
  if !starts && s.toList.all isSafe then s else quote s

def quoteText (s : String) : String :=
  "'" ++ String.join (s.toList.map fun c =>
    if c = '\'' || c = '\\' then String.ofList ['\\', c]
    else if isPrinted c then String.singleton c
    else escape c) ++ "'"

end KernelForge.Tool
