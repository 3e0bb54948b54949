import KernelForge.Text.Numeral

/-!
The tokens of a JSON text.

`Token.scan` cuts a text into tokens with one pass over its characters, and `Token.chars` writes a token.
A string whose escapes name an unpaired surrogate denotes no text: it is a token all the same, without
content, because only a reader that needs the content has to refuse it.
-/
namespace KernelForge.Json

inductive Token where
  | openBrace
  | closeBrace
  | openBracket
  | closeBracket
  | colon
  | comma
  | null
  | bool (value : Bool)
  | number (lexeme : List Char)
  | text (content : Option String)
deriving DecidableEq, Repr, Inhabited

namespace Token

/-! ### Number lexemes -/

/-- Splits off a non-empty row of decimal digits. -/
def digitRow (cs : List Char) : Option (List Char) :=
  if (cs.takeWhile Char.isDigit).isEmpty then none else some (cs.dropWhile Char.isDigit)

/-- The part of a number after its integer digits and before its exponent. -/
def dropFraction : List Char → Option (List Char)
  | '.' :: rest => digitRow rest
  | cs => some cs

def dropExponent : List Char → Option (List Char)
  | [] => some []
  | c :: rest =>
    if c = 'e' ∨ c = 'E' then
      match rest with
      | '+' :: digits => digitRow digits
      | '-' :: digits => digitRow digits
      | digits => digitRow digits
    else some (c :: rest)

/-- The integer digits of a number: a single zero, or a row that does not start with one. -/
def dropInteger : List Char → Option (List Char)
  | '0' :: rest => some rest
  | cs => digitRow cs

/-- Whether a row of characters is a number: integer digits with an optional minus sign, then an optional
fraction, then an optional exponent. -/
def isNumber (cs : List Char) : Bool :=
  let unsigned := match cs with
    | '-' :: rest => rest
    | _ => cs
  ((dropInteger unsigned).bind dropFraction).bind dropExponent == some []

/-! ### Scanning -/

/-- Where a scan stands between two characters. The characters of an unfinished token are held in
reverse; the content of a string is lost once a surrogate stays unpaired. -/
inductive Cursor where
  | between
  | inWord (letters : List Char)
  | inNumber (lexeme : List Char)
  | inText (content : Option (List Char)) (high : Option Nat)
  | inEscape (content : Option (List Char)) (high : Option Nat)
  | inCode (content : Option (List Char)) (high : Option Nat) (value digits : Nat)
deriving DecidableEq, Repr

def isSpace (c : Char) : Bool :=
  c = ' ' || c = '\t' || c = '\n' || c = '\r'

def isNumberChar (c : Char) : Bool :=
  c.isDigit || c = '-' || c = '+' || c = '.' || c = 'e' || c = 'E'

def ofWord? (letters : List Char) : Option Token :=
  if letters = ['n', 'u', 'l', 'l'] then some .null
  else if letters = ['t', 'r', 'u', 'e'] then some (.bool true)
  else if letters = ['f', 'a', 'l', 's', 'e'] then some (.bool false)
  else none

def start (tokens : List Token) (c : Char) : Option (Cursor × List Token) :=
  if isSpace c then some (.between, tokens)
  else if c = '\x7b' then some (.between, .openBrace :: tokens)
  else if c = '\x7d' then some (.between, .closeBrace :: tokens)
  else if c = '[' then some (.between, .openBracket :: tokens)
  else if c = ']' then some (.between, .closeBracket :: tokens)
  else if c = ':' then some (.between, .colon :: tokens)
  else if c = ',' then some (.between, .comma :: tokens)
  else if c = '"' then some (.inText (some []) none, tokens)
  else if c.isDigit || c = '-' then some (.inNumber [c], tokens)
  else if c.isLower then some (.inWord [c], tokens)
  else none

/-- The content after one more character; an unpaired high surrogate before it loses the content. -/
def extend (content : Option (List Char)) (high : Option Nat) (c : Char) : Option (List Char) :=
  match high with
  | some _ => none
  | none => content.map (c :: ·)

/-- What the letter after a backslash stands for. -/
def escapeLetter? (c : Char) : Option Char :=
  if c = '"' then some '"'
  else if c = '\\' then some '\\'
  else if c = '/' then some '/'
  else if c = 'b' then some (Char.ofNat 0x08)
  else if c = 'f' then some (Char.ofNat 0x0C)
  else if c = 'n' then some '\n'
  else if c = 'r' then some '\r'
  else if c = 't' then some '\t'
  else none

/-- The content after an escaped code unit, and the high surrogate it leaves open. -/
def takeUnit (content : Option (List Char)) (high : Option Nat) (unit : Nat) :
    Option (List Char) × Option Nat :=
  if 0xD800 ≤ unit ∧ unit < 0xDC00 then
    match high with
    | some _ => (none, none)
    | none => (content, some unit)
  else if 0xDC00 ≤ unit ∧ unit < 0xE000 then
    match high with
    | some h => (content.map (Char.ofNat (0x10000 + (h - 0xD800) * 0x400 + (unit - 0xDC00)) :: ·), none)
    | none => (none, none)
  else (extend content high (Char.ofNat unit), none)

def close (content : Option (List Char)) (high : Option Nat) : Option String :=
  match high with
  | some _ => none
  | none => content.map fun cs => String.ofList cs.reverse

/-- Moves a scan over one character. Finished tokens are held in reverse. -/
def advance (tokens : List Token) (cursor : Cursor) (c : Char) : Option (Cursor × List Token) :=
  match cursor with
  | .between => start tokens c
  | .inWord letters =>
    if c.isLower then some (.inWord (c :: letters), tokens)
    else (ofWord? letters.reverse).bind fun t => start (t :: tokens) c
  | .inNumber lexeme =>
    if isNumberChar c then some (.inNumber (c :: lexeme), tokens)
    else if isNumber lexeme.reverse then start (.number lexeme.reverse :: tokens) c
    else none
  | .inText content high =>
    if c = '"' then some (.between, .text (close content high) :: tokens)
    else if c = '\\' then some (.inEscape content high, tokens)
    else if c.toNat < 0x20 then none
    else some (.inText (extend content high c) none, tokens)
  | .inEscape content high =>
    if c = 'u' then some (.inCode content high 0 0, tokens)
    else (escapeLetter? c).map fun e => (.inText (extend content high e) none, tokens)
  | .inCode content high value digits =>
    (Text.Numeral.digit? 16 c).map fun d =>
      if digits < 3 then (.inCode content high (value * 16 + d) (digits + 1), tokens)
      else
        let (content, high) := takeUnit content high (value * 16 + d)
        (.inText content high, tokens)

/-- The tokens of a text that ends here, in order. -/
def finish (tokens : List Token) (cursor : Cursor) : Option (List Token) :=
  match cursor with
  | .between => some tokens.reverse
  | .inWord letters => (ofWord? letters.reverse).map fun t => (t :: tokens).reverse
  | .inNumber lexeme =>
    if isNumber lexeme.reverse then some (Token.number lexeme.reverse :: tokens).reverse else none
  | _ => none

def scanFrom (tokens : List Token) (cursor : Cursor) : List Char → Option (List Token)
  | [] => finish tokens cursor
  | c :: rest =>
    match advance tokens cursor c with
    | some (cursor, tokens) => scanFrom tokens cursor rest
    | none => none

/-- The tokens of a text, or `none` if some part of it is no token. -/
def scan (cs : List Char) : Option (List Token) :=
  scanFrom [] .between cs

/-! ### Writing -/

/-- A character inside a string. Quotes, backslashes and control characters are escaped. -/
def quoteChar (c : Char) : List Char :=
  if c = '"' then ['\\', '"']
  else if c = '\\' then ['\\', '\\']
  else if c.toNat = 0x08 then ['\\', 'b']
  else if c.toNat = 0x0C then ['\\', 'f']
  else if c = '\n' then ['\\', 'n']
  else if c = '\r' then ['\\', 'r']
  else if c = '\t' then ['\\', 't']
  else if c.toNat < 0x20 then '\\' :: 'u' :: Text.Numeral.hex 4 c.toNat
  else [c]

/-- A string in quotes. One without content is written as the unpaired surrogate it could be. -/
def quote : Option String → List Char
  | some s => '"' :: (s.toList.flatMap quoteChar ++ ['"'])
  | none => ['"', '\\', 'u', 'd', '8', '0', '0', '"']

def chars : Token → List Char
  | openBrace => ['\x7b']
  | closeBrace => ['\x7d']
  | openBracket => ['[']
  | closeBracket => [']']
  | colon => [':']
  | comma => [',']
  | null => ['n', 'u', 'l', 'l']
  | bool true => ['t', 'r', 'u', 'e']
  | bool false => ['f', 'a', 'l', 's', 'e']
  | number lexeme => lexeme
  | text content => quote content

end Token

end KernelForge.Json
