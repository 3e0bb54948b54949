import KernelForge.Text.Numeral

/-!
Strings of a TOML text: basic strings, in which a backslash starts an escape, and literal strings, in which
nothing does; each on one line, or over several between three quotes.

Each reader starts after the opening quotes and gives the content and the rest after the closing ones.
-/
namespace KernelForge.Toml.Quoted

/-- Whether a character may stand in a text as it is: no control character but the tab. -/
def isPlain (c : Char) : Bool :=
  c = '\t' || (0x20 ≤ c.toNat && c.toNat ≠ 0x7F)

/-- The character of a code point given by its digits. -/
def codePoint? (digits : List Char) : Option Char :=
  match Text.Numeral.digits? 16 digits with
  | some n => if n.isValidChar then some (Char.ofNat n) else none
  | none => none

def escapeLetter? (c : Char) : Option Char :=
  if c = 'b' then some (Char.ofNat 0x08)
  else if c = 't' then some '\t'
  else if c = 'n' then some '\n'
  else if c = 'f' then some (Char.ofNat 0x0C)
  else if c = 'r' then some '\r'
  else if c = '"' then some '"'
  else if c = '\\' then some '\\'
  else none

/-- The rest of a basic string; `acc` holds its content so far in reverse. -/
def basic (acc : List Char) : List Char → Option (String × List Char)
  | [] => none
  | '"' :: rest => some (String.ofList acc.reverse, rest)
  | '\\' :: 'u' :: a :: b :: c :: d :: rest =>
    match codePoint? [a, b, c, d] with
    | some x => basic (x :: acc) rest
    | none => none
  | '\\' :: 'U' :: a :: b :: c :: d :: e :: f :: g :: h :: rest =>
    match codePoint? [a, b, c, d, e, f, g, h] with
    | some x => basic (x :: acc) rest
    | none => none
  | '\\' :: c :: rest =>
    match escapeLetter? c with
    | some x => basic (x :: acc) rest
    | none => none
  | c :: rest => if isPlain c && c ≠ '\\' then basic (c :: acc) rest else none

def literal (acc : List Char) : List Char → Option (String × List Char)
  | [] => none
  | '\'' :: rest => some (String.ofList acc.reverse, rest)
  | c :: rest => if isPlain c then literal (c :: acc) rest else none

def dropBreak : List Char → List Char
  | '\n' :: rest => rest
  | '\r' :: '\n' :: rest => rest
  | cs => cs

/-- Whether nothing but blanks stands before the end of the line. -/
def endsLine (cs : List Char) : Bool :=
  match cs.dropWhile fun c => c = ' ' || c = '\t' with
  | '\n' :: _ => true
  | '\r' :: '\n' :: _ => true
  | _ => false

/-- Closes a string of several lines at a row of three to five quotes: all but three belong to it. -/
def closeAt (quote : Char) (acc : List Char) (cs : List Char) : Option (String × List Char) :=
  let row := cs.takeWhile (· = quote)
  if row.length ≤ 5 then
    some (String.ofList ((row.drop 3).reverse ++ acc).reverse, cs.drop row.length)
  else none

/-- The rest of a basic string of several lines. A backslash at the end of a line takes the line break and
the blanks after it out of the content: `folding` says that such blanks are being passed over. -/
def basicLines (acc : List Char) (folding : Bool) : List Char → Option (String × List Char)
  | [] => none
  | '"' :: '"' :: '"' :: rest => closeAt '"' acc ('"' :: '"' :: '"' :: rest)
  | '\r' :: '\n' :: rest =>
    if folding then basicLines acc true rest else basicLines ('\n' :: acc) false rest
  | '\\' :: 'u' :: a :: b :: c :: d :: rest =>
    match codePoint? [a, b, c, d] with
    | some x => basicLines (x :: acc) false rest
    | none => none
  | '\\' :: 'U' :: a :: b :: c :: d :: e :: f :: g :: h :: rest =>
    match codePoint? [a, b, c, d, e, f, g, h] with
    | some x => basicLines (x :: acc) false rest
    | none => none
  | '\\' :: c :: rest =>
    match escapeLetter? c with
    | some x => basicLines (x :: acc) false rest
    | none => if endsLine (c :: rest) then basicLines acc true (c :: rest) else none
  | c :: rest =>
    if c = '\n' then (if folding then basicLines acc true rest else basicLines ('\n' :: acc) false rest)
    else if folding && (c = ' ' || c = '\t') then basicLines acc true rest
    else if isPlain c && c ≠ '\\' then basicLines (c :: acc) false rest
    else none

def literalLines (acc : List Char) : List Char → Option (String × List Char)
  | [] => none
  | '\'' :: '\'' :: '\'' :: rest => closeAt '\'' acc ('\'' :: '\'' :: '\'' :: rest)
  | '\r' :: '\n' :: rest => literalLines ('\n' :: acc) rest
  | c :: rest => if c = '\n' || isPlain c then literalLines (c :: acc) rest else none

def line? : List Char → Option (String × List Char)
  | '"' :: rest => basic [] rest
  | '\'' :: rest => literal [] rest
  | _ => none

def string? : List Char → Option (String × List Char)
  | '"' :: '"' :: '"' :: rest => basicLines [] false (dropBreak rest)
  | '\'' :: '\'' :: '\'' :: rest => literalLines [] (dropBreak rest)
  | cs => line? cs

end KernelForge.Toml.Quoted
