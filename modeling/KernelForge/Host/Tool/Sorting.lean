import KernelForge.Host.Tool.Streams
import KernelForge.Text.Real

/-!
Sorting lines.
-/
namespace KernelForge.Tool

open Shell (State)

abbrev Line := List UInt8

def isBlankByte (b : UInt8) : Bool := b = 32 || b = 9

def upperByte (b : UInt8) : UInt8 := if 97 ≤ b && b ≤ 122 then b - 32 else b

def isDigitByte (b : UInt8) : Bool := 48 ≤ b && b ≤ 57

def isLetterByte (b : UInt8) : Bool := (65 ≤ b && b ≤ 90) || (97 ≤ b && b ≤ 122)

/-! ### Keys -/

structure Order where
  letters : List Char := []

namespace Order

def has (o : Order) (c : Char) : Bool := o.letters.contains c

def numberAt (line : Line) : Bool × Line × Line × Line :=
  let line := line.dropWhile isBlankByte
  let (negative, line) := match line with
    | 45 :: rest => (true, rest)
    | line => (false, line)
  let whole := line.takeWhile isDigitByte
  let rest := line.drop whole.length
  let (part, rest) := match rest with
    | 46 :: more =>
      let digits := more.takeWhile isDigitByte
      (digits, more.drop digits.length)
    | rest => ([], rest)
  (negative, whole.dropWhile (· = 48), (part.reverse.dropWhile (· = 48)).reverse, rest)

def compareNumbers (a b : Line) : Ordering :=
  let (na, wa, pa, _) := numberAt a
  let (nb, wb, pb, _) := numberAt b
  let zeroA := wa.isEmpty && pa.isEmpty
  let zeroB := wb.isEmpty && pb.isEmpty
  let na := na && !zeroA
  let nb := nb && !zeroB
  let size := ((compare wa.length wb.length).then (compare wa wb)).then (compare pa pb)
  match na, nb with
  | false, false => size
  | true, true => size.swap
  | true, false => .lt
  | false, true => .gt

def suffixPlace (line : Line) : Nat :=
  let (_, _, _, rest) := numberAt line
  match rest with
  | 75 :: _ => 1
  | 107 :: _ => 1
  | 77 :: _ => 2
  | 71 :: _ => 3
  | 84 :: _ => 4
  | 80 :: _ => 5
  | 69 :: _ => 6
  | _ => 0

def compareVersions : (fuel : Nat) → Line → Line → Ordering
  | 0, _, _ => .eq
  | _, [], [] => .eq
  | fuel + 1, a, b =>
    let rank (c : UInt8) : Nat :=
      if c = 126 then 0 else if isLetterByte c then c.toNat + 2 else c.toNat + 258
    let wordA := a.takeWhile fun c => !isDigitByte c
    let wordB := b.takeWhile fun c => !isDigitByte c
    let ranks (w : Line) : List Nat := w.map rank ++ [1]
    match compare (ranks wordA) (ranks wordB) with
    | .eq =>
      let a := a.drop wordA.length
      let b := b.drop wordB.length
      let numA := a.takeWhile isDigitByte
      let numB := b.takeWhile isDigitByte
      let valueA := numA.dropWhile (· = 48)
      let valueB := numB.dropWhile (· = 48)
      match (compare valueA.length valueB.length).then (compare valueA valueB) with
      | .eq => compareVersions fuel (a.drop numA.length) (b.drop numB.length)
      | other => other
    | other => other

def realPlace (line : Line) : Nat × Text.Real :=
  let cs := (line.dropWhile isBlankByte).map fun b => Char.ofNat b.toNat
  match Text.Real.read cs with
  | (r, length) => if length = 0 then (0, .ofNat 0) else if r.isUndefined then (1, r) else (2, r)

def compareReals (a b : Line) : Ordering :=
  let (pa, ra) := realPlace a
  let (pb, rb) := realPlace b
  (compare pa pb).then (if pa = 2 then ra.order rb else .eq)

def monthOf (line : Line) : Nat :=
  let word := String.ofList (((line.dropWhile isBlankByte).take 3).map fun b => Char.ofNat (upperByte b).toNat)
  let months := ["JAN", "FEB", "MAR", "APR", "MAY", "JUN", "JUL", "AUG", "SEP", "OCT", "NOV", "DEC"]
  ((months.findIdx? (· = word)).map (· + 1)).getD 0

def shown (o : Order) (key : Line) : Line :=
  let key := if o.has 'd' then key.filter fun b => isBlankByte b || isLetterByte b || isDigitByte b else key
  let key := if o.has 'i' then key.filter fun b => 32 ≤ b && b ≤ 126 else key
  if o.has 'f' then key.map upperByte else key

def compareKeys (o : Order) (a b : Line) : Ordering :=
  let result :=
    if o.has 'n' then compareNumbers a b
    else if o.has 'g' then compareReals a b
    else if o.has 'M' then compare (monthOf a) (monthOf b)
    else if o.has 'h' then
      let sign (l : Line) : Int :=
        let (negative, whole, part, _) := numberAt l
        let place : Int := if whole.isEmpty && part.isEmpty then 0 else suffixPlace l
        if negative then -place else place
      (compare (sign a) (sign b)).then (compareNumbers a b)
    else if o.has 'V' then compareVersions (a.length + b.length + 2) a b
    else compare (o.shown a) (o.shown b)
  if o.has 'r' then result.swap else result

def clash? (o : Order) : Option String :=
  let ways := (['n', 'g', 'h', 'M'].filter o.has).length +
    (if o.has 'V' || o.has 'R' || o.has 'd' || o.has 'i' then 1 else 0)
  if ways ≤ 1 then none
  else
    let all := ['d', 'f', 'g', 'h', 'i', 'M', 'n', 'R', 'V']
    some (String.ofList (all.filter fun c => o.has c && !(c = 'i' && o.has 'd')))

end Order

structure Position where
  field : Nat
  character : Nat := 0
  skipsBlanks : Bool := false

structure Key where
  start : Position
  stop : Option Position := none
  order : Order := {}

def behindFields (separator : Option UInt8) : Nat → Line → Line
  | 0, line => line
  | n + 1, line =>
    match separator with
    | some c =>
      match line.dropWhile (· ≠ c) with
      | [] => []
      | _ :: rest => behindFields separator n rest
    | none => behindFields separator n ((line.dropWhile isBlankByte).dropWhile fun b => !isBlankByte b)

def fromField (separator : Option UInt8) (n : Nat) (line : Line) : Line :=
  behindFields separator (min n (line.length + 1)) line

def Key.cut (k : Key) (separator : Option UInt8) (line : Line) : Line :=
  let begins := fromField separator k.start.field line
  let begins := if k.start.skipsBlanks then begins.dropWhile isBlankByte else begins
  let begins := begins.drop k.start.character
  match k.stop with
  | none => begins
  | some p =>
    let rest := fromField separator p.field line
    let rest :=
      if p.character = 0 then
        match separator with
        | some c => rest.dropWhile (· ≠ c)
        | none => (rest.dropWhile isBlankByte).dropWhile fun b => !isBlankByte b
      else
        let rest := if p.skipsBlanks then rest.dropWhile isBlankByte else rest
        rest.drop p.character
    begins.take (begins.length - rest.length)

def orderLetters : List Char := ['b', 'd', 'f', 'g', 'h', 'i', 'M', 'n', 'R', 'r', 'V']

/-- Reads a key, such as `2.1n,3`. -/
def key? (s : String) : Except String Key :=
  let number (cs : List Char) : Option (Nat × List Char) :=
    let digits := cs.takeWhile Char.isDigit
    (Text.Numeral.digits? 10 digits).map fun n => (n, cs.drop digits.length)
  let inside (cs : List Char) : Except String (Nat × List Char) :=
    match cs with
    | '.' :: more =>
      match number more with
      | some (n, rest) => .ok (n, rest)
      | none => .error ("invalid number after '.': invalid count at start of " ++ quoteText (String.ofList more))
    | cs => .ok (0, cs)
  match number s.toList with
  | none => .error ("invalid number at field start: invalid count at start of " ++ quoteText s)
  | some (0, _) => .error ("field number is zero: invalid field specification " ++ quoteText s)
  | some (field, rest) => do
    let (character, rest') ← inside rest
    if rest.head? = some '.' && character = 0 then
      throw ("character offset is zero: invalid field specification " ++ quoteText s)
    let flags := rest'.takeWhile fun c => c ∈ orderLetters
    let start : Position := {
      field := field - 1
      character := character - 1
      skipsBlanks := flags.contains 'b' }
    match rest'.drop flags.length with
    | [] => return { start, order := ⟨flags.filter (· ≠ 'b')⟩ }
    | ',' :: more =>
      match number more with
      | none => throw ("invalid number after ',': invalid count at start of " ++ quoteText (String.ofList more))
      | some (0, _) => throw ("field number is zero: invalid field specification " ++ quoteText s)
      | some (last, rest) =>
        let (character, rest) ← inside rest
        let flags' := rest.takeWhile fun c => c ∈ orderLetters
        if flags'.length < rest.length then
          throw ("stray character in field spec: invalid field specification " ++ quoteText s)
        return {
          start
          stop := some { field := last - 1, character, skipsBlanks := flags'.contains 'b' }
          order := ⟨(flags ++ flags').filter (· ≠ 'b')⟩ }
    | _ => throw ("stray character in field spec: invalid field specification " ++ quoteText s)

def Key.settled (k : Key) (order : Order) : Key :=
  if !k.order.letters.isEmpty || k.start.skipsBlanks then k
  else
    let general : Order := ⟨order.letters.filter (· ≠ 'b')⟩
    if order.has 'b' then
      { start := { k.start with skipsBlanks := true }
        stop := k.stop.map fun p => { p with skipsBlanks := true }
        order := general }
    else { k with order := general }

def compareLines (keys : List Key) (order : Order) (separator : Option UInt8) (a b : Line) : Ordering :=
  match keys with
  | [] =>
    let general : Order := ⟨order.letters.filter (· ≠ 'b')⟩
    let trim (l : Line) : Line := if order.has 'b' then l.dropWhile isBlankByte else l
    general.compareKeys (trim a) (trim b)
  | keys => keys.foldl (fun result k =>
    result.then (k.order.compareKeys (k.cut separator a) (k.cut separator b))) .eq

def separator? (s : String) : Except String UInt8 :=
  match s.toList with
  | [c] => .ok (UInt8.ofNat c.toNat)
  | ['\\', '0'] => .ok 0
  | [] => .error "empty tab"
  | cs => .error ("multi-character tab " ++ quoteText (String.ofList cs))

/-- A key that is given by how many fields and characters stand before it, such as `+1.2n`, and by an end of
the same kind. -/
def oldKey? (start : List Char) (stop : Option (List Char)) : Option String :=
  let split (cs : List Char) : Option (Nat × Nat × List Char) :=
    let digits := cs.takeWhile Char.isDigit
    let rest := cs.drop digits.length
    let inner := match rest with
      | '.' :: more => more.takeWhile Char.isDigit
      | _ => []
    let rest := if rest.head? = some '.' then rest.drop (inner.length + 1) else rest
    match Text.Numeral.digits? 10 digits with
    | some n =>
      if rest.all (· ∈ orderLetters) then some (n, (Text.Numeral.digits? 10 inner).getD 0, rest) else none
    | none => none
  let position (field character : Nat) : String :=
    Text.Numeral.text field ++ (if character = 0 then "" else "." ++ Text.Numeral.text character)
  match split start, stop.map split with
  | some (field, character, flags), none => some (position (field + 1) (character + 1) ++ String.ofList flags)
  | some (field, character, flags), some (some (last, place, flags')) =>
    some (position (field + 1) (character + 1) ++ String.ofList flags ++ "," ++
      (if place = 0 then position last 0 else position (last + 1) place) ++ String.ofList flags')
  | _, _ => none

def withNewKeys : List String → List String
  | [] => []
  | [arg] => inNewKind arg
  | arg :: next :: rest =>
    match arg.toList, next.toList with
    | ['-', '-'], _ => arg :: next :: rest
    | '+' :: start, '-' :: d :: stop =>
      match d.isDigit, oldKey? start (some (d :: stop)) with
      | true, some key => "-k" :: key :: withNewKeys rest
      | true, none => arg :: withNewKeys (next :: rest)
      | false, _ => inNewKind arg ++ withNewKeys (next :: rest)
    | _, _ => inNewKind arg ++ withNewKeys (next :: rest)
where
  inNewKind (arg : String) : List String :=
    match arg.toList with
    | '+' :: start =>
      match oldKey? start none with
      | some key => ["-k", key]
      | none => [arg]
    | _ => [arg]

def orderNames : List (String × Char) :=
  [("general-numeric", 'g'), ("human-numeric", 'h'), ("month", 'M'), ("numeric", 'n'), ("random", 'R'),
    ("version", 'V')]

def checkOption : Char := Char.ofNat 3
def sortOption : Char := Char.ofNat 4
def parallelOption : Char := Char.ofNat 5
def batchOption : Char := Char.ofNat 6
def ignoredOption : Char := Char.ofNat 7

/-- Options with the letters that those by name stand for. What is wrong with one of them is told before
what is wrong with a later one. -/
def sortOptions (name : String) : (tab : Option UInt8) → (check : Option Char) → List (Char × String) →
    Except (String × Nat) (List (Char × String))
  | _, _, [] => .ok []
  | tab, check, (letter, value) :: rest =>
    let fail (message : String) : Except (String × Nat) (List (Char × String)) := .error (message, 2)
    let keep (option : Char × String) : Except (String × Nat) (List (Char × String)) :=
      (sortOptions name tab check rest).map (option :: ·)
    let checks (c : Char) : Except (String × Nat) (List (Char × String)) :=
      if check.any (· ≠ c) then fail "options '-cC' are incompatible"
      else (sortOptions name tab (some c) rest).map ((c, "") :: ·)
    if letter = 'k' then
      match key? value with
      | .ok _ => keep (letter, value)
      | .error e => fail e
    else if letter = 't' then
      match separator? value with
      | .ok b =>
        if tab.any (· ≠ b) then fail "incompatible tabs"
        else (sortOptions name (some b) check rest).map ((letter, value) :: ·)
      | .error e => fail e
    else if letter = 'S' then
      let digits := value.toList.takeWhile Char.isDigit
      let unit := value.toList.drop digits.length
      if digits.isEmpty || !(unit.isEmpty || unit.length = 1 && unit.all (· ∈ "bkKmMgGtTPEZY%".toList)) then
        fail ("invalid -S argument " ++ quoteText value)
      else keep (letter, value)
    else if letter = parallelOption || letter = batchOption then
      let option := if letter = parallelOption then "--parallel" else "--batch-size"
      match Text.Numeral.digits? 10 value.toList with
      | none => fail ("invalid " ++ option ++ " argument " ++ quoteText value)
      | some n =>
        if letter = batchOption && n < 2 then
          fail ("invalid --batch-size argument " ++ quoteText value ++ "\n" ++ name ++
            ": minimum --batch-size argument is '2'")
        else keep (letter, value)
    else if letter = sortOption then
      match named? orderNames value with
      | some c => keep (c, "")
      | none => .error (unnamed name "sort" value (orderNames.map fun e => quoteText e.1), 1)
    else if letter = checkOption then
      match named? [("", 'c'), ("diagnose-first", 'c'), ("quiet", 'C'), ("silent", 'C')] value with
      | some c => checks c
      | none => .error (unnamed name "check" value ["'quiet', 'silent'", "'diagnose-first'"], 1)
    else if letter = 'c' || letter = 'C' then checks letter
    else keep (letter, value)

def mergeLines (le : Line → Line → Bool) (lists : List (List Line)) : List Line :=
  lists.foldl (fun all l => List.merge all l le) []

def sort (name : String) (args : List String) (st : State) : State :=
  let g : Grammar := {
    misuse := 2
    plain := "bdfghiMnRrVcCmsuz"
    valued := "oktST\x04\x05\x06\x07"
    optional := "\x03"
    long := [("reverse", 'r'), ("numeric-sort", 'n'), ("unique", 'u'), ("output", 'o'), ("stable", 's'),
      ("key", 'k'), ("field-separator", 't'), ("ignore-case", 'f'), ("ignore-leading-blanks", 'b'),
      ("dictionary-order", 'd'), ("human-numeric-sort", 'h'), ("version-sort", 'V'), ("merge", 'm'),
      ("check", checkOption), ("zero-terminated", 'z'), ("buffer-size", 'S'), ("temporary-directory", 'T'),
      ("general-numeric-sort", 'g'), ("month-sort", 'M'), ("random-sort", 'R'), ("ignore-nonprinting", 'i'),
      ("sort", sortOption), ("parallel", parallelOption), ("batch-size", batchOption),
      ("random-source", ignoredOption), ("compress-program", ignoredOption)] }
  let fail (st : State) (message : String) : State := st.protest (name ++ ": " ++ message) 2
  withArguments name g (withNewKeys args) st fun a st =>
    match sortOptions name none none a.options with
    | .error (message, status) => st.protest (name ++ ": " ++ message) status
    | .ok options =>
      let a := { a with options }
      let order : Order := ⟨orderLetters.filter a.has⟩
      let keys := (options.filter fun o => o.1 = 'k').filterMap fun o => (key? o.2).toOption
      let keys := keys.map fun k => k.settled order
      let separator := (a.value? 't').bind fun s => (separator? s).toOption
      let checks := a.has 'c' || a.has 'C'
      let checkLetter := if a.has 'C' then "C" else "c"
      let paths := sources a
      let clash := (if keys.isEmpty then [order] else keys.map Key.order).findSome? Order.clash?
      match clash, paths with
      | some letters, _ => fail st ("options '-" ++ letters ++ "' are incompatible")
      | none, _ :: second :: _ =>
        if checks then fail st ("extra operand " ++ quoteText second ++ " not allowed with -" ++ checkLetter)
        else sorted a keys order separator checks paths fail st
      | none, _ => sorted a keys order separator checks paths fail st
where
  sorted (a : Arguments) (keys : List Key) (order : Order) (separator : Option UInt8) (checks : Bool)
      (paths : List String) (fail : State → String → State) (st : State) : State :=
    let finish : UInt8 := if a.has 'z' then 0 else 10
    let unreadable := paths.findSome? fun path =>
      if path = "-" then none
      else match st.walk path with
        | .ok _ => none
        | .error fault => some (path, fault)
    if checks && a.has 'o' then
      fail st ("options '-" ++ (if a.has 'C' then "C" else "c") ++ "o' are incompatible")
    else match unreadable with
      | some (path, fault) =>
        fail st ((if checks then "open failed: " else "cannot read: ") ++ quoteIfNeeded path ++ ": " ++
          fault.reason)
      | none =>
        let target := (a.value? 'o').map fun path => (path, st.disk.write (st.route path) .empty st.fileMode)
        match target with
        | some (path, .error fault) => fail st ("open failed: " ++ path ++ ": " ++ fault.reason)
        | _ =>
          let (st, lists) := paths.foldl (fun (st, lists) path =>
            if st.status ≠ 0 then (st, lists)
            else match contentOf path st with
              | (st, .ok bytes) =>
                (st, lists ++ [(linesOf bytes finish).map fun l => if l.getLast? = some finish then
                  l.dropLast else l])
              | (st, .error fault) =>
                let trouble := if fault = .isFolder || checks || a.has 'm' then "read failed: " else "stat failed: "
                (fail st (trouble ++ quoteIfNeeded path ++ ": " ++ fault.reason), lists))
            (st, ([] : List (List Line)))
          let byKeys := compareLines keys order separator
          let whole (x y : Line) : Ordering :=
            match byKeys x y with
            | .eq =>
              if a.has 's' || a.has 'u' then .eq
              else if order.has 'r' then (compare x y).swap else compare x y
            | other => other
          let all := lists.flatten
          if st.status ≠ 0 then st
          else if checks then
            let wrong := (all.zip (all.drop 1)).findIdx? fun (x, y) =>
              whole x y = .gt || (a.has 'u' && byKeys x y = .eq)
            match wrong with
            | none => st
            | some i =>
              if a.has 'C' then st.done 1
              else st.protest (name ++ ": " ++ paths.headD "-" ++ ":" ++ Text.Numeral.text (i + 2) ++
                ": disorder: " ++ String.ofList (charsOf (all.getD (i + 1) []))) 1
          else
            let le (x y : Line) : Bool := whole x y ≠ .gt
            let ordered := if a.has 'm' then mergeLines le lists else all.mergeSort le
            let ordered := if a.has 'u' then
                (ordered.splitBy fun x y => byKeys x y = .eq).filterMap List.head?
              else ordered
            let bytes := ofBytes (ordered.flatMap fun l => l ++ [finish])
            match a.value? 'o' with
            | some path =>
              match st.disk.write (st.route path) bytes st.fileMode with
              | .ok disk => { st with disk }
              | .error fault => fail st ("open failed: " ++ path ++ ": " ++ fault.reason)
            | none => st.write 1 bytes

end KernelForge.Tool
