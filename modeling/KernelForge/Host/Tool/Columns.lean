import KernelForge.Host.Tool.Sorting

/-!
Taking lines apart.
-/
namespace KernelForge.Tool

open Shell (State)

/-! ### Parts of lines -/

structure Span where
  first : Nat
  last : Option Nat

namespace Span

def holds (s : Span) (n : Nat) : Bool :=
  s.first ≤ n && match s.last with
    | some last => n ≤ last
    | none => true

structure Reading where
  low : Option Nat := none
  dashed : Bool := false
  high : Option Nat := none
  digits : List Char := []

def Reading.span (zero : String) (r : Reading) : Except String Span :=
  if r.dashed then
    match r.low, r.high with
    | none, none => .error "invalid range with no endpoint: -"
    | low, none => .ok { first := low.getD 1, last := none }
    | low, some n =>
      if n < low.getD 1 then .error "invalid decreasing range" else .ok { first := low.getD 1, last := some n }
  else match r.low with
    | some n => if n = 0 then .error zero else .ok { first := n, last := some n }
    | none => .error zero

def spans (isField : Bool) : Reading → List Char → Except String (List Span)
  | r, [] => (r.span (zero isField)).map ([·])
  | r, c :: cs =>
    if c = '-' then
      if r.dashed then .error (if isField then "invalid field range" else "invalid byte or character range")
      else if r.low = some 0 then .error (zero isField)
      else spans isField { r with dashed := true, digits := [] } cs
    else if c = ',' || c = ' ' || c = '\t' then do
      let first ← r.span (zero isField)
      return first :: (← spans isField {} cs)
    else if c.isDigit then
      let digits := r.digits ++ [c]
      let n := (Text.Numeral.digits? 10 digits).getD 0
      if 2 ^ 64 - 1 ≤ n then
        let number := quoteText (String.ofList (digits ++ cs.takeWhile Char.isDigit))
        .error ((if isField then "field number " else "byte/character offset ") ++ number ++ " is too large")
      else if r.dashed then spans isField { r with high := some n, digits } cs
      else spans isField { r with low := some n, digits } cs
    else
      .error ((if isField then "invalid field value " else "invalid byte/character position ") ++
        quoteText (String.ofList (c :: cs)))
where
  zero (isField : Bool) : String :=
    if isField then "fields are numbered from 1" else "byte/character positions are numbered from 1"

def list? (isField : Bool) (text : String) : Except String (List Span) := spans isField {} text.toList

end Span

def chosenRuns {α : Type} (isChosen : Nat → Bool) (starts : Nat → Bool) (items : List α) : List (List α) :=
  let (done, run) := (items.zipIdx 1).foldl (fun (done, run) (x, n) =>
    if isChosen n then
      if starts n && !run.isEmpty then (run.reverse :: done, [x]) else (done, x :: run)
    else (if run.isEmpty then done else run.reverse :: done, [])) (([] : List (List α)), ([] : List α))
  (if run.isEmpty then done else run.reverse :: done).reverse

def fieldsOf (delimiter : UInt8) (line : Line) : List Line :=
  let (fields, last) := line.foldr (fun b (fields, field) =>
    if b = delimiter then (field :: fields, []) else (fields, b :: field)) (([] : List Line), ([] : Line))
  last :: fields

def cut (name : String) (args : List String) (st : State) : State :=
  let g : Grammar := {
    plain := "snCz"
    valued := "bcfdO"
    long := [("bytes", 'b'), ("characters", 'c'), ("fields", 'f'), ("delimiter", 'd'), ("only-delimited", 's'),
      ("complement", 'C'), ("output-delimiter", 'O'), ("zero-terminated", 'z')] }
  withArguments name g args st fun a st =>
    let lists := a.options.filter fun o => o.1 = 'b' || o.1 = 'c' || o.1 = 'f'
    let isField := a.has 'f'
    let delimiter := ((a.value? 'd').getD "\t").toList
    -- Of two lists and a delimiter that is too long, the one that comes first is told.
    let isLong (o : Char × String) : Bool := o.1 = 'd' && 1 < o.2.length
    let opening := a.options.takeWhile fun o => !isLong o
    match lists with
    | [] =>
      if a.options.any isLong then misused name "the delimiter must be a single character" 1 st
      else misused name "you must specify a list of bytes, characters, or fields" 1 st
    | (_, list) :: _ =>
      let listsBefore := (opening.filter fun o => o.1 = 'b' || o.1 = 'c' || o.1 = 'f').length
      if a.options.any isLong && listsBefore ≤ 1 then misused name "the delimiter must be a single character" 1 st
      else if 1 < lists.length then misused name "only one list may be specified" 1 st
      else if a.has 'd' && !isField then
        misused name "an input delimiter may be specified only when operating on fields" 1 st
      else if a.has 's' && !isField then
        misused name "suppressing non-delimited lines makes sense\n\tonly when operating on fields" 1 st
      else match Span.list? isField list with
        | .error message => misused name message 1 st
        | .ok spans =>
          let finish : UInt8 := if a.has 'z' then 0 else 10
          let delimiter := UInt8.ofNat ((delimiter.headD (Char.ofNat 0)).toNat)
          let isChosen (n : Nat) : Bool := (spans.any fun s => s.holds n) != a.has 'C'
          let starts (n : Nat) : Bool :=
            !a.has 'C' && (spans.any fun s => s.first = n) && !(spans.any fun s => s.holds n && s.first < n)
          let between := (a.value? 'O').map fun s => (Text.Octets.toBytes s).data.toList
          let shorten (line : Line) : Option Line :=
            if isField then
              let fields := fieldsOf delimiter line
              if fields.length = 1 then (if a.has 's' then none else some line)
              else
                let kept := (fields.zipIdx 1).filterMap fun (f, n) => if isChosen n then some f else none
                some ((between.getD [delimiter]).intercalate kept)
            else some ((between.getD []).intercalate (chosenRuns isChosen starts line))
          eachContent name (sources a) st fun bytes st =>
            st.write 1 (ofBytes ((linesOf bytes finish).flatMap fun line =>
              let line := if line.getLast? = some finish then line.dropLast else line
              match shorten line with
              | some shown => shown ++ [finish]
              | none => []))

end KernelForge.Tool
