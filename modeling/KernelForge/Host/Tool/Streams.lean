import KernelForge.Host.Tool.Files

/-!
Tools that pass files on, whole or in part, and tools that count what is in them.
-/
namespace KernelForge.Tool

open Shell (State)

def contentOf (path : String) (st : State) : State × Except Fault ByteArray :=
  match if path = "-" then some 0 else State.streamAt? path with
  | some stream =>
    match if path = "-" then none else st.fileOf? stream with
    | some id => if (st.disk.node id).kind = .regular then (st, .ok (st.contentFrom id 0)) else st.drain stream
    | none => st.drain stream
  | none =>
    match st.walk path with
    | .ok (.file id) =>
      match (st.disk.node id).kind with
      | .pipe =>
        let st := st.await id
        ({ st with disk := st.disk.setContent id ByteArray.empty }, .ok (st.disk.content id))
      | _ => (st, .ok (st.contentFrom id 0))
    | .ok _ => (st, .error .isFolder)
    | .error fault => (st, .error fault)

def isOpened (path : String) (fault : Fault) : Bool := fault = .isFolder || path = "-"

def sourceName (path : String) : String := quote (if path = "-" then "standard input" else path)

def ownOutput? (st : State) (path : String) : Option Nat :=
  let source : Option (Nat × Nat) := match if path = "-" then some 0 else State.streamAt? path with
    | some stream => (st.fileOf? stream).map fun id =>
      (id, ((st.opening? stream).map Shell.Opening.position).getD 0)
    | none =>
      match st.walk path with
      | .ok (.file id) => some (id, 0)
      | _ => none
  match source with
  | some (id, position) =>
    if st.fileOf? 1 = some id && (st.disk.node id).kind = .regular then some ((st.disk.content id).size - position)
    else none
  | none => none

def isEndless (st : State) (path : String) : Bool :=
  match st.walk path with
  | .ok (.file id) => (st.disk.node id).kind = .device .zero
  | _ => false

def sources (a : Arguments) : List String := if a.operands.isEmpty then ["-"] else a.operands

def linesOf (bytes : ByteArray) (finish : UInt8 := 10) : List (List UInt8) :=
  let (lines, last) := bytes.data.foldl (fun (lines, line) b =>
    if b = finish then ((b :: line).reverse :: lines, []) else (lines, b :: line)) ([], [])
  if last.isEmpty then lines.reverse else (last.reverse :: lines).reverse

def ofBytes (bytes : List UInt8) : ByteArray := ⟨bytes.toArray⟩

def charsOf (bytes : List UInt8) : List Char := bytes.map fun b => Char.ofNat b.toNat

def withoutEnd (line : List UInt8) : List UInt8 :=
  if line.getLast? = some 10 then line.dropLast else line

def eachContent (name : String) (paths : List String) (st : State) (f : ByteArray → State → State) : State :=
  each paths st fun path st =>
    match contentOf path st with
    | (st, .ok bytes) => f bytes st
    | (st, .error fault) => complain name (quoteIfNeeded path ++ ": " ++ fault.reason) st

/-! ### Passing on -/

def visible (tabs : Bool) (b : UInt8) : List UInt8 :=
  let low (b : UInt8) : List UInt8 := if b < 32 then [94, b + 64] else if b = 127 then [94, 63] else [b]
  if b = 10 then [b]
  else if b = 9 then (if tabs then [94, 73] else [b])
  else if b < 128 then low b
  else [77, 45] ++ low (b - 128)

def column (width n : Nat) : String :=
  let digits := Text.Numeral.text n
  String.ofList (List.replicate (width - digits.length) ' ') ++ digits

def marked (a : Arguments) (lines : List (List UInt8)) : List UInt8 :=
  let has (s : String) : Bool := s.toList.any a.has
  let (out, _, _) := lines.foldl (fun (out, n, blanks) line =>
    let blank := line = [10]
    if a.has 's' && blank && 0 < blanks then (out, n, blanks + 1)
    else
      let numbered := if a.has 'b' then !blank else a.has 'n'
      let n := if numbered then n + 1 else n
      let front := if numbered then (column 6 n ++ "\t").toUTF8.data.toList else []
      let ended := line.getLast? = some 10
      let body := withoutEnd line
      let body := if has "vAet" then body.flatMap (visible (has "AtT"))
        else if has "AtT" then body.flatMap fun b => if b = 9 then [94, 73] else [b]
        else body
      let back := if ended then (if has "AEe" then [36, 10] else [10]) else []
      (out ++ [front ++ body ++ back], n, if blank then blanks + 1 else 0)) (([] : List (List UInt8)), 0, 0)
  out.flatten

def cat (name : String) (args : List String) (st : State) : State :=
  let g : Grammar := {
    plain := "nbsAETvetu"
    long := [("number", 'n'), ("number-nonblank", 'b'), ("squeeze-blank", 's'), ("show-all", 'A'),
      ("show-ends", 'E'), ("show-tabs", 'T'), ("show-nonprinting", 'v')] }
  withArguments name g args st fun a st =>
    let isPlain := a.options.all fun o => o.1 = 'u'
    if (st.opening? 1).isNone then complain name ("standard output: " ++ Fault.badStream.reason) st
    else
      -- What is shown of the files so far is the start of what is shown of all, and is put out file by file.
      let (st, _, _) := (sources a).foldl (fun (st, all, shown) path =>
        if 0 < (ownOutput? st path).getD 0 then
          (complain name (quoteIfNeeded path ++ ": input file is output file") st, all, shown)
        else match contentOf path st with
          | (st, .ok bytes) =>
            if isPlain then (st.write 1 bytes, all, shown)
            else
              let all := all ++ bytes
              let out := ofBytes (marked a (linesOf all))
              (st.write 1 (out.extract shown out.size), all, out.size)
          | (st, .error fault) => (complain name (quoteIfNeeded path ++ ": " ++ fault.reason) st, all, shown))
        (st, ByteArray.empty, 0)
      st

/-! ### Parts -/

def headNumber (cs : List Char) : Except Char (List String) :=
  let digits := cs.takeWhile Char.isDigit
  let letters := cs.drop digits.length
  match letters.find? fun c => c ∉ ['b', 'c', 'k', 'l', 'm', 'q', 'v', 'z'] with
  | some c => .error c
  | none =>
    let unit := match (letters.filter fun c => c ∈ ['b', 'c', 'k', 'l', 'm']).getLast? with
      | some 'b' => ["-c", String.ofList digits ++ "b"]
      | some 'k' => ["-c", String.ofList digits ++ "k"]
      | some 'm' => ["-c", String.ofList digits ++ "m"]
      | some 'c' => ["-c", String.ofList digits]
      | _ => ["-n", String.ofList digits]
    .ok (unit ++ (letters.filter fun c => c ∈ ['q', 'v', 'z']).map fun c => String.ofList ['-', c])

def tailNumber? (sign : Char) (cs : List Char) : Option (List String) :=
  let digits := cs.takeWhile Char.isDigit
  let letters := cs.drop digits.length
  let mark := if sign = '+' then "+" else ""
  let number := if digits.isEmpty then "10" else String.ofList digits
  let (unit, rest) := match letters with
    | 'b' :: rest => (["-c", mark ++ number ++ "b"], rest)
    | 'c' :: rest => (["-c", mark ++ number], rest)
    | 'l' :: rest => (["-n", mark ++ number], rest)
    | rest => (["-n", mark ++ number], rest)
  if rest = [] && !(sign = '-' && digits.isEmpty) then some unit
  else if rest = ['f'] && !digits.isEmpty then some (unit ++ ["-f"])
  else none

def isLonePlace : List String → Bool
  | [] => true
  | [next] => next = "--" || next = "-" || next.toList.head? ≠ some '-'
  | "--" :: rest => rest.length ≤ 1
  | _ => false

def spellNumber (fromEnd : Bool) (args : List String) : Except Char (List String) :=
  match args with
  | [] => .ok []
  | first :: rest =>
    match first.toList with
    | sign :: d :: ds =>
      if !fromEnd then
        if sign = '-' && d.isDigit then (headNumber (d :: ds)).map (· ++ rest) else .ok args
      else if (sign = '-' || sign = '+') && isLonePlace rest then
        .ok (((tailNumber? sign (d :: ds)).map (· ++ rest)).getD args)
      else .ok args
    | _ => .ok args

def strayNumber? : List String → Option Char
  | [] => none
  | "--" :: _ => none
  | arg :: rest =>
    match arg.toList with
    | '-' :: d :: _ => if d.isDigit then some d
      else strayNumber? (if arg ∈ ["-n", "-c", "-s"] then rest.drop 1 else rest)
    | _ => strayNumber? rest
termination_by args => args.length
decreasing_by all_goals (simp only [List.length_cons]; try split) <;> (try simp only [List.length_drop]) <;> omega

def cutOut (fromEnd : Bool) (unit : Char) (finish : UInt8) (sign : Option Char) (n : Nat) (bytes : ByteArray) :
    ByteArray :=
  let part (size : Nat) : Nat × Nat :=
    match fromEnd, sign with
    | false, some '-' => (0, size - n)
    | false, _ => (0, min n size)
    | true, some '+' => (min (n - 1) size, size)
    | true, _ => (size - n, size)
  if unit = 'c' then
    let (start, stop) := part bytes.size
    bytes.extract start stop
  else
    let lines := linesOf bytes finish
    let (start, stop) := part lines.length
    ofBytes ((lines.take stop).drop start).flatten

def blockSize : Nat := 8192

/-- The first part of the input stream. Of a file, no more is taken than that; of a pipe, whole blocks. -/
def takeFront (unit : Char) (finish : UInt8) (sign : Option Char) (n : Nat) (st : State) :
    State × Except Fault ByteArray :=
  match st.input 0 with
  | .error fault => ({ st with unread := st.unread || fault = .badStream }, .error fault)
  | .ok bytes =>
    let wanted := if unit = 'c' && sign.isNone && bytes.size = State.endless then ⟨Array.replicate n 0⟩
      else cutOut false unit finish sign n bytes
    let isFile := match (st.opening? 0).map Shell.Opening.target with
      | some (.file id) => (st.disk.node id).kind = .regular
      | _ => false
    let used := if isFile || unit = 'c' then wanted.size
      else min bytes.size ((wanted.size + blockSize - 1) / blockSize * blockSize)
    (st.consume 0 (if sign.isSome then bytes.size else used), .ok wanted)

def amount? (fromEnd : Bool) (unit : Char) (text : String) : Except String (Option Char × Nat) :=
  let (sign, digits) := match text.toList with
    | '-' :: cs => (some '-', cs)
    | '+' :: cs => (if fromEnd then some '+' else none, cs)
    | cs => (none, cs)
  let shown := quoteText (if sign.isSome && !fromEnd then String.ofList digits else text)
  let trouble := "invalid number of " ++ (if unit = 'n' then "lines" else "bytes") ++ ": " ++ shown
  match size? (String.ofList digits) with
  | none => .error trouble
  | some n => if n < 2 ^ 64 then .ok (sign, n) else .error (trouble ++ ": Value too large for defined data type")

def isSeconds (s : String) : Bool :=
  s.toList.any Char.isDigit && s.toList.all (fun c => c.isDigit || c = '.') && s.toList.count '.' ≤ 1

def portion (fromEnd : Bool) (name : String) (args : List String) (st : State) : State :=
  let g : Grammar := {
    plain := if fromEnd then "qvfFz\x04" else "qvz"
    valued := if fromEnd then "ncs\x03\x05" else "nc"
    long := [("lines", 'n'), ("bytes", 'c'), ("quiet", 'q'), ("silent", 'q'), ("verbose", 'v'),
      ("zero-terminated", 'z')] ++
      (if fromEnd then [("follow", 'f'), ("sleep-interval", 's'), ("pid", Char.ofNat 3), ("retry", Char.ofNat 4),
        ("max-unchanged-stats", Char.ofNat 5)] else []) }
  match spellNumber fromEnd args with
  | .error c => st.protest (name ++ ": invalid trailing option -- " ++ String.singleton c ++ "\n" ++
    helpHint name) 1
  | .ok args =>
    match strayNumber? args with
    | some d =>
      if fromEnd then complain name ("option used in invalid context -- " ++ String.singleton d) st
      else st.protest (name ++ ": invalid trailing option -- " ++ String.singleton d ++ "\n" ++ helpHint name) 1
    | none => withArguments name g args st fun a st =>
      let flaw := a.options.findSome? fun (letter, text) =>
        if letter = 'n' || letter = 'c' then
          match amount? fromEnd letter text with
          | .ok _ => none
          | .error e => some e
        else if letter = 's' && !isSeconds text then some ("invalid number of seconds: " ++ quoteText text)
        else none
      let (unit, text) := ((a.options.filter fun o => o.1 = 'n' || o.1 = 'c').getLast?).getD ('n', "10")
      match flaw, amount? fromEnd unit text with
      | some message, _ => complain name message st
      | none, .error message => complain name message st
      | none, .ok (sign, n) =>
        let follows := a.has 'f' || a.has 'F'
        let warn (letter : Nat) (message : String) (st : State) : State :=
          if a.has (Char.ofNat letter) && !follows then st.protest (name ++ ": warning: " ++ message) 0 else st
        let st := if fromEnd then
            warn 3 "PID ignored; --pid=PID is useful only when following"
              (warn 4 "--retry ignored; --retry is useful only when following" st)
          else st
        if fromEnd && n = 0 && sign ≠ some '+' && !follows then st
        else shownParts a unit sign n st
where
  shownParts (a : Arguments) (unit : Char) (sign : Option Char) (n : Nat) (st : State) : State :=
    let finish : UInt8 := if a.has 'z' then 0 else 10
    let shown := sources a
    let titled := match ((a.options.filter fun o => o.1 = 'q' || o.1 = 'v').getLast?).map Prod.fst with
      | some 'v' => true
      | some _ => false
      | none => 1 < shown.length
    let (st, _, _) := shown.foldl (fun (st, first, stopped) path =>
      if stopped then (st, first, stopped)
      else
        let title (st : State) : State :=
          if titled then
            st.print ((if first then "" else "\n") ++ "==> " ++
              (if path = "-" then "standard input" else path) ++ " <==\n")
          else st
        let (st, found) :=
          if path = "-" && !fromEnd then takeFront unit finish sign n st
          else
            let (st, found) := contentOf path st
            (st, found.map fun bytes =>
              if isEndless st path && unit = 'c' then ⟨Array.replicate n 0⟩
                else cutOut fromEnd unit finish sign n bytes)
        match found with
        | .ok bytes => ((title st).write 1 bytes, false, false)
        | .error fault =>
          if isOpened path fault then
            let trouble := if fromEnd && fault = .badStream then "cannot fstat " else "error reading "
            -- The end of a folder cannot be looked for.
            (complain name (trouble ++ sourceName path ++ ": " ++ fault.reason) (title st), false,
              fromEnd && unit = 'c' && fault = .isFolder && sign ≠ some '+')
          else (complain name ("cannot open " ++ quote path ++ " for reading: " ++ fault.reason) st, first, false))
      (st, true, false)
    st

/-! ### Counting -/

def countWords (bytes : ByteArray) : Nat :=
  let isGap (b : UInt8) : Bool := b = 32 || (9 ≤ b && b ≤ 13)
  (bytes.data.foldl (fun (n, inside) b =>
    if isGap b then (n, false)
    else if b < 32 || 126 < b then (n, inside)
    else (if inside then n else n + 1, true)) (0, false)).1

def widest (bytes : ByteArray) : Nat :=
  let (most, here) := bytes.data.foldl (fun (most, here) b =>
    if b = 10 || b = 13 || b = 12 then (max most here, 0)
    else if b = 9 then (most, here + 8 - here % 8)
    else if 32 ≤ b && b ≤ 126 then (most, here + 1)
    else (most, here)) (0, 0)
  max most here

def knownSize (path : String) (st : State) : Option (Option Nat) :=
  let ofFile (id : Nat) : Option Nat :=
    match (st.disk.node id).kind with
    | .pipe => none
    | .device _ => none
    | _ => some (st.disk.content id).size
  if path = "-" then
    match (st.opening? 0).map Shell.Opening.target with
    | some (.file id) => some (ofFile id)
    | some _ => some none
    | none => none
  else match st.walk path with
    | .ok (.file id) => some (ofFile id)
    | .ok _ => some none
    | .error _ => none

inductive TotalRow where
  | auto
  | always
  | only
  | never
deriving DecidableEq, Repr

def totalRows : List (String × TotalRow) :=
  [("auto", .auto), ("always", .always), ("only", .only), ("never", .never)]

def wc (name : String) (args : List String) (st : State) : State :=
  let totalOption := Char.ofNat 3
  let g : Grammar := {
    plain := "lwcmL"
    valued := "\x03"
    long := [("lines", 'l'), ("words", 'w'), ("bytes", 'c'), ("chars", 'm'), ("max-line-length", 'L'),
      ("total", totalOption)] }
  withArguments name g args st fun a st =>
    let wanted := ['l', 'w', 'm', 'c', 'L'].filter a.has
    let wanted := if wanted.isEmpty then ['l', 'w', 'c'] else wanted
    let count (bytes : ByteArray) (c : Char) : Nat :=
      match c with
      | 'l' => bytes.data.foldl (fun n b => if b = 10 then n + 1 else n) 0
      | 'w' => countWords bytes
      | 'L' => widest bytes
      | _ => bytes.size
    let words := (a.options.filter fun o => o.1 = totalOption).map Prod.snd
    match words.find? fun w => (named? totalRows w).isNone with
    | some word => complain name (unnamed name "total" word (totalRows.map fun r => quoteText r.1)) st
    | none =>
      let rule := (words.getLast?.bind (named? totalRows)).getD .auto
      let shown := sources a
      let sizes := shown.map fun path => knownSize path st
      let digits := (Text.Numeral.text ((sizes.map fun s => (s.getD none).getD 0).sum)).length
      let width :=
        if rule = .only || (shown.length = 1 && wanted.length = 1) then 1
        else if sizes.any fun s => s = some none then max 7 digits
        else digits
      let line (title : String) (counts : List Nat) : String :=
        " ".intercalate (counts.map (column width)) ++ (if title = "" then "" else " " ++ title) ++ "\n"
      let title (path : String) : String := if a.operands.isEmpty then "" else path
      let (st, rows) := shown.foldl (fun (st, rows) path =>
        if path = "" then (complain name "invalid zero-length file name" st, rows)
        else
          let (st, row) := match contentOf path st with
            | (st, .ok bytes) => (st, some (wanted.map (count bytes)))
            | (st, .error fault) =>
              let title := if a.operands.isEmpty then sourceName path else quoteIfNeeded path
              (complain name (title ++ ": " ++ fault.reason) st,
                if isOpened path fault then some (wanted.map fun _ => 0) else none)
          match row with
          | some counts =>
            (if rule = .only then st else st.print (line (title path) counts), rows ++ [counts])
          | none => (st, rows)) (st, ([] : List (List Nat)))
      if rule = .never || (rule = .auto && shown.length = 1) then st
      else
        let total (i : Nat) (c : Char) : Nat :=
          let column := rows.map fun r => r.getD i 0
          if c = 'L' then column.foldl max 0 else column.sum
        st.print (line (if rule = .only then "" else "total") (wanted.mapIdx total))

end KernelForge.Tool
