import KernelForge.Text.Numeral

/-!
Dates and times of day, in universal time.

A moment is a number of thousandths of a second since the start of 1970. `seconds` and `ofSeconds` go between
moments and dates in both directions; `read?` understands dates as people write them.
-/
namespace KernelForge.Text

structure Date where
  year : Int
  month : Nat := 1
  day : Nat := 1
  hour : Nat := 0
  minute : Nat := 0
  second : Nat := 0
deriving DecidableEq, Repr

namespace Date

/-- The days from the start of 1970 to a date. Years are counted from March here, so that a leap day is the last
of its year. -/
def days (d : Date) : Int :=
  let year := if d.month ≤ 2 then d.year - 1 else d.year
  let era := year.fdiv 400
  let inEra := year - era * 400
  let month : Int := if 2 < d.month then (d.month : Int) - 3 else (d.month : Int) + 9
  let inYear := (153 * month + 2) / 5 + (d.day : Int) - 1
  era * 146097 + (inEra * 365 + inEra / 4 - inEra / 100 + inYear) - 719468

def seconds (d : Date) : Int :=
  d.days * 86400 + (d.hour * 3600 + d.minute * 60 + d.second : Nat)

def ofSeconds (n : Int) : Date :=
  let days := n.fdiv 86400 + 719468
  let rest := (n.fmod 86400).toNat
  let era := days.fdiv 146097
  let inEra := (days - era * 146097).toNat
  let year := (inEra - inEra / 1460 + inEra / 36524 - inEra / 146096) / 365
  let inYear := inEra - (365 * year + year / 4 - year / 100)
  let month := (5 * inYear + 2) / 153
  let day := inYear - (153 * month + 2) / 5 + 1
  let month := if month < 10 then month + 3 else month - 9
  { year := (year : Int) + era * 400 + (if month ≤ 2 then 1 else 0)
    month, day
    hour := rest / 3600
    minute := rest / 60 % 60
    second := rest % 60 }

def isLeap (year : Int) : Bool := year % 4 = 0 && (year % 100 ≠ 0 || year % 400 = 0)

def monthLength (year : Int) (month : Nat) : Nat :=
  if month = 2 then (if isLeap year then 29 else 28) else if month ∈ [4, 6, 9, 11] then 30 else 31

def isValid (d : Date) : Bool :=
  1 ≤ d.month && d.month ≤ 12 && 1 ≤ d.day && d.day ≤ monthLength d.year d.month && d.hour ≤ 23 &&
    d.minute ≤ 59 && d.second ≤ 60

/-- The day of the week, with Sunday as zero. -/
def weekday (d : Date) : Nat := ((d.days + 4).emod 7).toNat

/-- The day of the year, from one on. -/
def yearDay (d : Date) : Nat := (d.days - ({ year := d.year } : Date).days).toNat + 1

def monthNames : List String :=
  ["January", "February", "March", "April", "May", "June", "July", "August", "September", "October", "November",
   "December"]

def weekdayNames : List String :=
  ["Sunday", "Monday", "Tuesday", "Wednesday", "Thursday", "Friday", "Saturday"]

/-- The number of a name that is written out or shortened to three letters. -/
def nameIn? (names : List String) (s : String) : Option Nat :=
  let s := (s.map Char.toLower).toList
  names.findIdx? fun n =>
    let n := (n.map Char.toLower).toList
    s = n || s = n.take 3 || (s = n.take 4 && n.take 4 = ['s', 'e', 'p', 't'])

/-! ### Writing -/

def padded (width : Nat) (fill : Char) (n : Nat) : String :=
  let digits := Numeral.text n
  String.ofList (List.replicate (width - digits.length) fill) ++ digits

/-- The week of the year, where the first week starts with the first day `start` of the week. -/
def week (d : Date) (start : Nat) : Nat :=
  (d.yearDay + 6 - (d.weekday + 7 - start) % 7) / 7

/-- The week of the year that holds most of the days of the current week, and that year. -/
def majorityWeek (d : Date) : Int × Nat :=
  let monday := (d.weekday + 6) % 7
  let thursday := ofSeconds ((d.days + 3 - (monday : Int)) * 86400)
  (thursday.year, (thursday.yearDay - 1) / 7 + 1)

inductive Shown where
  | number (width : Nat) (fill : Char) (n : Int)
  | text (s : String)

/-- How a directive is laid out: flags, a width, and how many colons divide a zone. -/
structure Layout where
  flags : List Char := []
  width : Option Nat := none
  colons : Nat := 0

namespace Layout

/-- The character that fills up to a width; none if nothing is filled up. -/
def fill? (l : Layout) (usual : Char) : Option Char :=
  match (l.flags.filter fun c => c = '-' || c = '_' || c = '0' || c = '+').getLast? with
  | some '-' => none
  | some '_' => some ' '
  | some _ => some '0'
  | none => some usual

def cased (l : Layout) (lowers : Bool) (s : String) : String :=
  if l.flags.contains '^' then s.map Char.toUpper
  else if l.flags.contains '#' then s.map (if lowers then Char.toLower else Char.toUpper)
  else s

def apply (l : Layout) : Shown → String
  | .number width fill n =>
    let digits := Numeral.text n.natAbs
    let sign := if n < 0 then "-" else ""
    match l.fill? fill with
    | none => sign ++ digits
    | some ' ' => String.ofList (List.replicate (l.width.getD width - sign.length - digits.length) ' ') ++
      sign ++ digits
    | some c => sign ++ String.ofList
      (List.replicate (l.width.getD width - sign.length - digits.length) c) ++ digits
  | .text s =>
    match l.fill? ' ' with
    | none => s
    | some c => String.ofList (List.replicate (l.width.getD 0 - s.length) c) ++ s

end Layout

def zoneText (colons : Nat) : String :=
  match colons with
  | 0 => "+0000"
  | 1 => "+00:00"
  | 2 => "+00:00:00"
  | _ => "+00"

def directive? (moment : Int) (l : Layout) (c : Char) : Option Shown :=
  let n := moment.fdiv 1000
  let part := (moment.fmod 1000).toNat
  let d := ofSeconds n
  let year := Numeral.signedText d.year
  let two (fill : Char) (n : Nat) : Option Shown := some (.number 2 fill n)
  let twelve := if d.hour % 12 = 0 then 12 else d.hour % 12
  let shortMonth := String.ofList ((monthNames.getD (d.month - 1) "").toList.take 3)
  let shortDay := String.ofList ((weekdayNames.getD d.weekday "").toList.take 3)
  let clock := padded 2 '0' d.hour ++ ":" ++ padded 2 '0' d.minute ++ ":" ++ padded 2 '0' d.second
  let short := padded 2 '0' d.month ++ "/" ++ padded 2 '0' d.day ++ "/" ++ padded 2 '0' (d.year.toNat % 100)
  let word (s : String) : Option Shown := some (.text (l.cased false s))
  match c with
  | 'Y' => some (.number 4 '0' d.year)
  | 'C' => two '0' (d.year.toNat / 100)
  | 'y' => two '0' (d.year.toNat % 100)
  | 'q' => some (.number 1 '0' (((d.month - 1) / 3 + 1 : Nat) : Int))
  | 'm' => two '0' d.month
  | 'd' => two '0' d.day
  | 'e' => two ' ' d.day
  | 'H' => two '0' d.hour
  | 'k' => two ' ' d.hour
  | 'I' => two '0' twelve
  | 'l' => two ' ' twelve
  | 'M' => two '0' d.minute
  | 'S' => two '0' d.second
  | 'N' =>
    let digits := padded 3 '0' part ++ "000000"
    let width := l.width.getD 9
    some (.text (String.ofList ((digits.toList ++ List.replicate (width - 9) '0').take width)))
  | 's' => some (.number 1 '0' n)
  | 'j' => some (.number 3 '0' (d.yearDay : Nat))
  | 'u' => some (.number 1 '0' (((d.weekday + 6) % 7 + 1 : Nat) : Int))
  | 'w' => some (.number 1 '0' (d.weekday : Nat))
  | 'U' => two '0' (d.week 0)
  | 'W' => two '0' (d.week 1)
  | 'V' => two '0' d.majorityWeek.2
  | 'G' => some (.number 4 '0' d.majorityWeek.1)
  | 'g' => two '0' (d.majorityWeek.1.toNat % 100)
  | 'a' => word shortDay
  | 'A' => word (weekdayNames.getD d.weekday "")
  | 'b' => word shortMonth
  | 'h' => word shortMonth
  | 'B' => word (monthNames.getD (d.month - 1) "")
  | 'p' => some (.text (l.cased true (if d.hour < 12 then "AM" else "PM")))
  | 'P' => some (.text (if d.hour < 12 then "am" else "pm"))
  | 'F' => some (.text (year ++ "-" ++ padded 2 '0' d.month ++ "-" ++ padded 2 '0' d.day))
  | 'T' => some (.text clock)
  | 'X' => some (.text clock)
  | 'R' => some (.text (padded 2 '0' d.hour ++ ":" ++ padded 2 '0' d.minute))
  | 'r' => some (.text (padded 2 '0' twelve ++ ":" ++ padded 2 '0' d.minute ++ ":" ++ padded 2 '0' d.second ++
    (if d.hour < 12 then " AM" else " PM")))
  | 'D' => some (.text short)
  | 'x' => some (.text short)
  | 'c' => word (shortDay ++ " " ++ shortMonth ++ " " ++ padded 2 ' ' d.day ++ " " ++ clock ++ " " ++ year)
  | 'z' => some (.text (zoneText l.colons))
  | 'Z' => some (.text (l.cased true "UTC"))
  | 'n' => some (.text "\n")
  | 't' => some (.text "\t")
  | '%' => some (.text "%")
  | _ => none

def write (format : List Char) (moment : Int) : String :=
  let rec go : (fuel : Nat) → List Char → String
    | 0, _ => ""
    | _, [] => ""
    | fuel + 1, '%' :: cs =>
      let flags := cs.takeWhile fun c => c ∈ ['-', '_', '0', '+', '^', '#']
      let rest := cs.drop flags.length
      let digits := rest.takeWhile Char.isDigit
      let rest := rest.drop digits.length
      let colons := rest.takeWhile (· = ':')
      let rest := rest.drop colons.length
      let rest := rest.dropWhile fun c => c = 'E' || c = 'O'
      match rest with
      | [] => String.ofList ('%' :: cs)
      | c :: more =>
        let l : Layout := { flags, width := Numeral.digits? 10 digits, colons := colons.length }
        match if colons.isEmpty || c = 'z' then directive? moment l c else none with
        | some shown => l.apply shown ++ go fuel more
        | none => String.ofList ('%' :: cs.take (cs.length - more.length)) ++ go fuel more
    | fuel + 1, c :: cs => String.singleton c ++ go fuel cs
  go (format.length + 1) format

/-! ### Reading -/

/-- What was read of a date so far. `shift` is a number of seconds, `months` one of months, and `zone` the
seconds that the clock is ahead. -/
structure Reading where
  absolute : Option Int := none
  date : Option (Int × Nat × Nat) := none
  time : Option (Nat × Nat × Nat × Nat) := none
  weekday : Option Nat := none
  zone : Int := 0
  months : Int := 0
  shift : Int := 0

def unit? (s : String) : Option (Int × Int) :=
  let s := (s.map Char.toLower)
  let s := if s.toList.getLast? = some 's' then String.ofList s.toList.dropLast else s
  match s with
  | "sec" => some (1, 0)
  | "second" => some (1, 0)
  | "min" => some (60, 0)
  | "minute" => some (60, 0)
  | "hour" => some (3600, 0)
  | "day" => some (86400, 0)
  | "week" => some (7 * 86400, 0)
  | "fortnight" => some (14 * 86400, 0)
  | "month" => some (0, 1)
  | "year" => some (0, 12)
  | _ => none

def number (cs : List Char) : Option (Nat × List Char) :=
  let digits := cs.takeWhile Char.isDigit
  (Numeral.digits? 10 digits).map fun n => (n, cs.drop digits.length)

/-- A fraction of a second in thousandths, if there is one. -/
def fraction (cs : List Char) : Nat × List Char :=
  match cs with
  | c :: rest =>
    if c = '.' || c = ',' then
      let digits := rest.takeWhile Char.isDigit
      if digits.isEmpty then (0, cs)
      else ((Numeral.digits? 10 ((digits ++ ['0', '0', '0']).take 3)).getD 0, rest.drop digits.length)
    else (0, cs)
  | [] => (0, [])

def wordOf (cs : List Char) : List Char := cs.takeWhile fun c => c.isAlpha

def zoneAfter (negative : Bool) (cs : List Char) : Option (Int × List Char) :=
  match number cs with
  | none => none
  | some (n, rest) =>
    let width := cs.length - rest.length
    let (h, m, rest) := match rest with
      | ':' :: more =>
        match number more with
        | some (m, rest) => (n, m, rest)
        | none => (n, 0, rest)
      | rest => if width ≤ 2 then (n, 0, rest) else (n / 100, n % 100, rest)
    let offset : Int := (h * 3600 + m * 60 : Nat)
    if 24 * 3600 < offset then none else some (if negative then -offset else offset, rest)

def zones : List (String × Int) :=
  [("ut", 0), ("utc", 0), ("gmt", 0), ("z", 0), ("wet", 0), ("bst", 60), ("cet", 60), ("met", 60), ("cest", 120),
   ("eet", 120), ("eest", 180), ("msk", 180), ("ist", 330), ("jst", 540), ("kst", 540), ("nzst", 720),
     ("ast", -240),
   ("adt", -180), ("est", -300), ("edt", -240), ("cst", -360), ("cdt", -300), ("mst", -420), ("mdt", -360),
   ("pst", -480), ("pdt", -420), ("hst", -600)]

def timeAfter (hour : Nat) (cs : List Char) (p : Reading) : Option (Reading × List Char) :=
  match number cs with
  | none => none
  | some (minute, rest) =>
    let (second, part, rest) := match rest with
      | ':' :: more =>
        match number more with
        | some (s, rest) =>
          let (part, rest) := fraction rest
          (s, part, rest)
        | none => (0, 0, rest)
      | rest => (0, 0, rest)
    let word := String.ofList (wordOf (rest.dropWhile (· = ' '))) |>.map Char.toLower
    let after := (rest.dropWhile (· = ' ')).drop word.length
    let put (hour : Nat) (rest : List Char) : Option (Reading × List Char) :=
      if p.time.isSome || 23 < hour || 59 < minute || 60 < second then none
      else some ({ p with time := some (hour, minute, second, part) }, rest)
    if word = "am" || word = "pm" then
      if hour = 0 || 12 < hour then none else put (hour % 12 + (if word = "pm" then 12 else 0)) after
    else match rest.dropWhile (· = ' ') with
      | '+' :: more => (zoneAfter false (more.dropWhile (· = ' '))).bind fun (z, rest) =>
        (put hour rest).map fun (p, rest) => ({ p with zone := z }, rest)
      | '-' :: more => (zoneAfter true (more.dropWhile (· = ' '))).bind fun (z, rest) =>
        (put hour rest).map fun (p, rest) => ({ p with zone := z }, rest)
      | _ => put hour rest

def putDate (y : Int) (m d : Nat) (p : Reading) (rest : List Char) : Option (Reading × List Char) :=
  if p.date.isSome then none else some ({ p with date := some (y, m, d) }, rest)

/-- A year of two digits belongs to the last century or to this one. -/
def fullYear (n width : Nat) : Int := if 2 < width then n else if n < 69 then 2000 + n else 1900 + n

/-- Adds a number of units, backwards if a word says so. -/
def putUnit (count : Int) (cs : List Char) (p : Reading) : Option (Reading × List Char) :=
  let cs := cs.dropWhile (· = ' ')
  let word := wordOf cs
  match unit? (String.ofList word) with
  | none => none
  | some (s, m) =>
    let rest := cs.drop word.length
    let next := rest.dropWhile (· = ' ')
    let backwards := (String.ofList (wordOf next)).map Char.toLower = "ago"
    let rest := if backwards then next.drop 3 else rest
    let count := if backwards then -count else count
    some ({ p with shift := p.shift + count * s, months := p.months + count * m }, rest)

def item (year : Int) (cs : List Char) (p : Reading) : Option (Reading × List Char) :=
  match cs with
  | '@' :: rest =>
    let (negative, rest) := match rest with
      | '-' :: rest => (true, rest)
      | rest => (false, rest)
    (number rest).map fun (n, rest) =>
      let (part, rest) := fraction rest
      let value : Int := (n * 1000 + part : Nat)
      ({ p with absolute := some (if negative then -value else value) }, rest)
  | '+' :: rest => (number (rest.dropWhile (· = ' '))).bind fun (n, rest) => putUnit n rest p
  | '-' :: rest => (number (rest.dropWhile (· = ' '))).bind fun (n, rest) => putUnit (-(n : Int)) rest p
  | cs =>
    match number cs with
    | some (n, rest) =>
      let width := cs.length - rest.length
      match rest with
      | '-' :: more =>
        match number more with
        | some (m, '-' :: more) => (number more).bind fun (d, rest) => putDate (fullYear n width) m d p rest
        | _ =>
          let word := wordOf more
          match nameIn? monthNames (String.ofList word), more.drop word.length with
          | some m, '-' :: more =>
            (number more).bind fun (y, rest) => putDate (fullYear y (more.length - rest.length)) (m + 1) n p rest
          | _, _ => none
      | '/' :: more =>
        match number more with
        | some (d, '/' :: more) =>
          (number more).bind fun (y, rest) =>
            if 2 < width then putDate n d y p rest
            else putDate (fullYear y (more.length - rest.length)) n d p rest
        | some (d, rest) => putDate year n d p rest
        | none => none
      | ':' :: more => timeAfter n more p
      | rest =>
        let next := rest.dropWhile (· = ' ')
        let word := wordOf next
        match nameIn? monthNames (String.ofList word) with
        | some m =>
          let after := (next.drop word.length).dropWhile fun c => c = ' ' || c = ','
          match number after with
          | some (y, more) =>
            if more.head? = some ':' then putDate year (m + 1) n p (next.drop word.length)
            else putDate (fullYear y (after.length - more.length)) (m + 1) n p more
          | none => putDate year (m + 1) n p (next.drop word.length)
        | none =>
          let lower := (String.ofList word).map Char.toLower
          if (lower = "am" || lower = "pm") && 1 ≤ n && n ≤ 12 && p.time.isNone then
            let hour := n % 12 + (if lower = "pm" then 12 else 0)
            some ({ p with time := some (hour, 0, 0, 0) }, next.drop 2)
          else if (unit? lower).isSome then putUnit n next p
          else if width = 8 then putDate (n / 10000 : Nat) (n / 100 % 100) (n % 100) p rest
          else if width = 4 && p.date.isNone then
            some ({ p with time := some (n / 100, n % 100, 0, 0) }, rest)
          else if width ≤ 2 && p.time.isNone && n ≤ 23 then some ({ p with time := some (n, 0, 0, 0) }, rest)
          else none
    | none =>
      let word := wordOf cs
      let rest := cs.drop word.length
      let lower := (String.ofList word).map Char.toLower
      let day (n : Int) : Option (Reading × List Char) :=
        some ({ p with shift := p.shift + n * 86400 }, rest)
      match lower with
      | "" => none
      | "now" => some (p, rest)
      | "today" => some (p, rest)
      | "yesterday" => day (-1)
      | "tomorrow" => day 1
      | "midnight" => some ({ p with time := some (0, 0, 0, 0) }, rest)
      | "noon" => some ({ p with time := some (12, 0, 0, 0) }, rest)
      | "t" => if p.date.isSome && p.time.isNone then some (p, rest) else none
      | "next" => putUnit 1 rest p
      | "last" => putUnit (-1) rest p
      | "this" => putUnit 0 rest p
      | "ago" => none
      | lower =>
        match zones.lookup lower, nameIn? monthNames lower, nameIn? weekdayNames lower with
        | some minutes, _, _ => some ({ p with zone := minutes * 60 }, rest)
        | none, some m, _ =>
          let after := rest.dropWhile (· = ' ')
          (number after).bind fun (d, rest) =>
            let next := rest.dropWhile fun c => c = ' ' || c = ','
            match number next with
            | some (y, more) =>
              if more.head? = some ':' || next.length - more.length < 4 then putDate year (m + 1) d p rest
              else putDate y (m + 1) d p more
            | none => putDate year (m + 1) d p rest
        | none, none, some w => some ({ p with weekday := some w }, rest)
        | none, none, none => putUnit 1 cs p

def items (year : Int) : (fuel : Nat) → List Char → Reading → Option Reading
  | 0, _, _ => none
  | fuel + 1, cs, p =>
    match cs.dropWhile fun c => c.isWhitespace || c = ',' with
    | [] => some p
    | cs =>
      match item year cs p with
      | some (p, rest) => items year fuel rest p
      | none => none

def addMonths (d : Date) (n : Int) : Date :=
  let months := d.year * 12 + (d.month : Int) - 1 + n
  { d with year := months.fdiv 12, month := (months.fmod 12).toNat + 1 }

/-- A text without the zone that it may start with. Only universal time is known. -/
def withoutZone (cs : List Char) : List Char :=
  if "TZ=\"".toList.isPrefixOf cs then ((cs.drop 4).dropWhile (· ≠ '"')).drop 1 else cs

def read? (now : Int) (text : String) : Option Int :=
  let today := ofSeconds (now.fdiv 1000)
  let text := withoutZone text.toList
  let isEmpty := text.all Char.isWhitespace
  match items today.year (text.length + 1) text (if isEmpty then { time := some (0, 0, 0, 0) } else {}) with
  | none => none
  | some p =>
    match p.absolute with
    | some n => some (n + p.shift * 1000)
    | none =>
      let date := match p.date with
        | some (year, month, day) => { year, month, day : Date }
        | none => { year := today.year, month := today.month, day := today.day }
      let plain := p.date.isNone && p.time.isNone && p.weekday.isNone
      let (date, part) := match p.time with
        | some (hour, minute, second, part) => ({ date with hour, minute, second }, part)
        | none =>
          if plain then
            ({ date with hour := today.hour, minute := today.minute, second := today.second },
             (now.fmod 1000).toNat)
          else (date, 0)
      if !date.isValid then none
      else
        let date := addMonths date p.months
        let ahead := match p.weekday with
          | some w => if p.date.isSome then 0 else (w + 7 - date.weekday) % 7
          | none => 0
        some ((date.seconds + (ahead * 86400 : Nat) - p.zone + p.shift) * 1000 + part)

/-- The moment of digits in pairs: month, day, hour and minute, with a year before them and seconds after a
point. -/
def ofDigits? (now : Int) (text : String) : Option Int :=
  let cs := text.toList
  let main := cs.takeWhile (· ≠ '.')
  let second : Option Nat := match cs.drop main.length with
    | [] => some 0
    | _ :: s => if s.length = 2 then Numeral.digits? 10 s else none
  let pair (i : Nat) : Nat := (Numeral.digits? 10 ((main.drop i).take 2)).getD 0
  match (if main.all Char.isDigit then second else none) with
  | none => none
  | some second =>
    let put (year : Int) (i : Nat) : Option Int :=
      let d : Date := { year, month := pair i, day := pair (i + 2), hour := pair (i + 4), minute := pair (i + 6),
                        second }
      if d.isValid then some (d.seconds * 1000) else none
    match main.length with
    | 8 => put (ofSeconds (now.fdiv 1000)).year 0
    | 10 => put (fullYear (pair 0) 2) 2
    | 12 => put ((pair 0 * 100 + pair 2 : Nat) : Int) 4
    | _ => none

end Date

end KernelForge.Text
