import KernelForge.Host.Mode
import KernelForge.Host.Shell.Condition
import KernelForge.Host.Shell.Expansion
import KernelForge.Host.Shell.Format

/-!
The commands that are part of a shell, but for those that run other commands.

A special command that is used wrongly ends the shell; any other fails with status two.
-/
namespace KernelForge.Shell.Builtin

def misused (st : State) (name message : String) : State :=
  if name ∈ specialCommands then st.fail message else st.complain message 2

def withNumber (name : String) (default : Nat) (args : List String) (st : State) (f : Nat → State) : State :=
  match args with
  | [] => f default
  | s :: _ =>
    match State.number? s with
    | some n => f n
    | none => misused st name ("Illegal number: " ++ s)

def lettersOf (known : List Char) : List String → Except Char (List Char × List String)
  | [] => .ok ([], [])
  | "--" :: rest => .ok ([], rest)
  | arg :: rest =>
    match arg.toList with
    | '-' :: c :: cs =>
      match (c :: cs).find? fun c => c ∉ known with
      | some c => .error c
      | none =>
        match lettersOf known rest with
        | .ok (more, rest) => .ok ((c :: cs) ++ more, rest)
        | .error c => .error c
    | _ => .ok ([], arg :: rest)

def withLetters (name : String) (known : List Char) (args : List String) (st : State)
    (f : List Char → List String → State) : State :=
  match lettersOf known args with
  | .ok (letters, rest) => f letters rest
  | .error c => misused st name ("Illegal option -" ++ String.singleton c)

def quoted (s : String) : String :=
  let rec pieces : (fuel : Nat) → List Char → String
    | 0, _ => ""
    | fuel + 1, cs =>
      let plain := cs.takeWhile (· ≠ '\'')
      let rest := cs.drop plain.length
      let quotes := rest.takeWhile (· = '\'')
      let shown := "'" ++ String.ofList plain ++ "'"
      if quotes.isEmpty then shown
      else
        let shown := shown ++ "\"" ++ String.ofList quotes ++ "\""
        match rest.drop quotes.length with
        | [] => shown
        | more => shown ++ pieces fuel more
  pieces (s.length + 1) s.toList

/-! ### Output -/

def echo (args : List String) (st : State) : State :=
  (st.write 1 ⟨(Format.echo args).toArray⟩).done 0

def printf (args : List String) (st : State) : State :=
  match args with
  | [] => usage
  | ["--"] => usage
  | "--" :: format :: args => put format args
  | format :: args =>
    match format.toList with
    | '-' :: c :: _ => misused st "printf" ("Illegal option -" ++ String.singleton c)
    | _ => put format args
where
  usage : State := misused st "printf" "usage: printf format [arg ...]"
  put (format : String) (args : List String) : State :=
    let printed := Format.print Text.Real.double format args
    let st := printed.complaints.foldl (fun st c => st.complain (c.1 ++ ": " ++ c.2.message) 1) st
    let st := st.done (if printed.complaints.isEmpty then 0 else 1)
    let st := match printed.failure with
      | some message => misused st "printf" message
      | none => st
    st.write 1 ⟨printed.bytes.toArray⟩

/-! ### Folders -/

/-- A path without dots, by its names alone. Two slashes at its front stay. -/
def simplified (path : String) : String :=
  let names := (Path.pieces path).foldl (fun above part =>
    if part = "." then above
    else if part = ".." then above.dropLast
    else above ++ [part]) []
  let front := match path.toList with
    | '/' :: '/' :: c :: _ => if c = '/' then "/" else "//"
    | ['/', '/'] => "//"
    | _ => "/"
  front ++ "/".intercalate names

def physical (st : State) : State × String :=
  match st.here? with
  | some key => (st, pathText key)
  | none => (st.complain ("getcwd() failed: " ++ Fault.notFound.reason) st.status, "")

def goTo (st : State) (path : String) (plainly : Bool) : Option State :=
  let plainly := plainly || (st.pwd = "" && !Path.isAbsolute path)
  let target := if plainly then path
    else if Path.isAbsolute path then simplified path
    else simplified (Path.join st.pwd path)
  match st.walk target with
  | .ok (.folder id _) =>
    let before := st.pwd
    let st := { st with folder := id }
    let (st, pwd) := if plainly then physical st else (st, target)
    let st := st.publish "OLDPWD" before
    some (if st.flow.isSome then st else { st with pwd }.publish "PWD" pwd)
  | _ => none

def candidates (st : State) (path : String) : List (String × Bool) :=
  let first := (Path.pieces path).head?.getD ""
  if path.toList.head? = some '/' || first = "." || first = ".." then [(path, false)]
  else match st.value? "CDPATH" with
    | none => [(path, false)]
    | some places =>
      ((Text.splitAt ':' places.toList).map fun place =>
        (if place.isEmpty then path else String.ofList place ++ "/" ++ path, !place.isEmpty)) ++ [(path, false)]

def cd (name : String) (args : List String) (st : State) : State :=
  withLetters name ['L', 'P'] args st fun letters rest =>
    let plainly := letters.getLast? = some 'P'
    let (path, told) := match rest with
      | [] => ((st.value? "HOME").getD "", false)
      | "-" :: _ => ((st.value? "OLDPWD").getD "", true)
      | path :: _ => (path, false)
    let path := if path = "" then "." else path
    let found := (candidates st path).findSome? fun (place, shown) =>
      (goTo st place plainly).map fun st => (st, shown)
    match found with
    | some (st, shown) =>
      if st.flow.isSome then st else (if told || shown then st.print (st.pwd ++ "\n") else st).done 0
    | none => misused st name ("can't cd to " ++ path)

def pwd (args : List String) (st : State) : State :=
  withLetters "pwd" ['L', 'P'] args st fun letters _ =>
    let (st, shown) := if letters.getLast? = some 'P' then physical st else (st, st.pwd)
    (st.print (shown ++ "\n")).done 0

/-! ### Permissions of new files -/

def namedBits (kept : Nat) (cs : List Char) : Nat :=
  cs.foldl (fun bits c => bits ||| (match c with
    | 'r' => 4
    | 'w' => 2
    | 'x' => 1
    | 'u' => kept / 64 % 8
    | 'g' => kept / 8 % 8
    | 'o' => kept % 8
    | 'X' => if kept &&& 0o111 = 0 then 0 else 1
    | _ => 0)) 0

/-- The permissions that are kept after changes by letters. `kept` are those from before, and `places` has
one bit for each class that is named so far. A class that nothing follows changes nothing. -/
def keptBy? (kept : Nat) : (fuel new places : Nat) → List Char → Option Nat
  | _, new, _, [] => some new
  | 0, _, _, _ => none
  | fuel + 1, new, places, cs =>
    let classes := cs.takeWhile fun c => c ∈ ['a', 'u', 'g', 'o']
    let places := classes.foldl (fun places c => places ||| (match c with
      | 'a' => 0o111
      | 'u' => 0o100
      | 'g' => 0o010
      | _ => 0o001)) places
    let places := if places = 0 then 0o111 else places
    match cs.drop classes.length with
    | [] => some new
    | op :: rest =>
      if op ∉ ['=', '+', '-'] then none
      else
        let letters := rest.takeWhile fun c => c ∈ ['r', 'w', 'x', 'u', 'g', 'o', 'X', 's']
        let bits := namedBits kept letters * places
        let new := match op with
          | '-' => new &&& (0o777 ^^^ bits)
          | '+' => new ||| bits
          | _ => bits ||| (new &&& (0o777 ^^^ (7 * places)))
        match rest.drop letters.length with
        | [] => some new
        | ',' :: rest => keptBy? kept fuel new 0 rest
        | c :: rest => if c ∈ ['=', '+', '-'] then keptBy? kept fuel new places (c :: rest) else none

def umask (args : List String) (st : State) : State :=
  withLetters "umask" ['S'] args st fun letters rest =>
    let kept := 0o777 ^^^ st.mask
    match rest with
    | [] =>
      let shown := if letters.isEmpty then Mode.digits st.mask
        else "u=" ++ Mode.letters (kept / 64) ++ ",g=" ++ Mode.letters (kept / 8 % 8) ++ ",o=" ++
          Mode.letters (kept % 8)
      (st.print (shown ++ "\n")).done 0
    | text :: _ =>
      let cs := text.toList
      if (cs.head?.map Char.isDigit).getD false then
        match Text.Numeral.digits? 8 cs with
        | some n => { st with mask := n % 512 }.done 0
        | none => misused st "umask" ("Illegal number: " ++ text)
      else match keptBy? kept (cs.length + 1) kept 0 cs with
        | some kept => { st with mask := 0o777 ^^^ kept }.done 0
        | none => misused st "umask" ("Illegal mode: " ++ text)

/-! ### Flow -/

def exit (args : List String) (st : State) : State :=
  withNumber "exit" st.status args st fun n => st.exit n

def leave (args : List String) (st : State) : State :=
  withNumber "return" st.status args st fun status =>
    { st with status, flow := some (if st.calls = 0 then .exit status else .leave status) }

def skip (name : String) (again : Bool) (args : List String) (st : State) : State :=
  withNumber name 1 args st fun n =>
    if n = 0 then misused st name "Illegal number: 0"
    else if st.loops = 0 then st.done 0
    else { st with status := 0, flow := some (.skip again (min n st.loops)) }

def shift (args : List String) (st : State) : State :=
  withNumber "shift" 1 args st fun n =>
    if n ≤ st.args.length then ({ st with args := st.args.drop n }.lookFrom 1).done 0
    else misused st "shift" "can't shift that many"

/-! ### Options -/

def optionNames : List (String × Char) :=
  [("errexit", 'e'), ("noglob", 'f'), ("ignoreeof", 'I'), ("interactive", 'i'), ("monitor", 'm'), ("noexec", 'n'),
   ("stdin", 's'), ("xtrace", 'x'), ("verbose", 'v'), ("vi", 'V'), ("emacs", 'E'), ("noclobber", 'C'),
   ("allexport", 'a'), ("notify", 'b'), ("nounset", 'u'), ("privileged", 'p'),
   ("nolog", 'l'), ("debug", 'd')]

def optionList (isOn : Char → Bool) (asCommands : Bool) : String :=
  let line (name : String) (letter : Char) : String :=
    if asCommands then "set " ++ (if isOn letter then "-o " else "+o ") ++ name ++ "\n"
    else name ++ String.ofList (List.replicate (16 - name.length) ' ') ++
      (if isOn letter then "on" else "off") ++ "\n"
  (if asCommands then "" else "Current option settings\n") ++ String.join (optionNames.map fun (n, c) => line n c)

structure OptionReading where
  options : Options
  told : String := ""
  flaw : Option String := none
  others : List Char := []

/-- Reads the letters of an argument. For every `o` a name is taken from the arguments that follow; where
there is none, all options are shown. In a shell that is being started they all seem to be on. -/
def readLetters (starts on : Bool) : List Char → List String → OptionReading → OptionReading × List String
  | [], rest, r => (r, rest)
  | c :: cs, rest, r =>
    if c = 'o' then
      match rest with
      | [] =>
        let shown := optionList (fun c => starts || r.options.has c) (!on)
        readLetters starts on cs [] { r with told := r.told ++ shown }
      | name :: rest =>
        match optionNames.lookup name with
        | some letter => readLetters starts on cs rest { r with options := r.options.set letter on }
        | none => ({ r with flaw := some ("Illegal option -o " ++ name) }, rest)
    else if starts && (c = 'c' || c = 'l') then readLetters starts on cs rest { r with others := c :: r.others }
    else if c ∈ State.optionLetters then readLetters starts on cs rest
      { r with options := r.options.setLetter c on }
    else ({ r with flaw := some ("Illegal option -" ++ String.singleton c) }, rest)

def setOptions : (fuel : Nat) → List String → OptionReading → OptionReading × Option (List String)
  | 0, _, r => (r, none)
  | _, [], r => (r, none)
  | fuel + 1, first :: rest, r =>
    match first.toList with
    | ['-', '-'] => (r, some rest)
    | ['-'] =>
      ({ r with options := (r.options.set 'x' false).set 'v' false }, if rest.isEmpty then none else some rest)
    | sign :: letters =>
      if sign ≠ '-' && sign ≠ '+' then (r, some (first :: rest))
      else
        let (r, rest) := readLetters false (sign = '-') letters rest r
        if r.flaw.isSome then (r, none) else setOptions fuel rest r
    | [] => (r, some (first :: rest))

def variableList (before : String) (isShown : Variable → Bool) (st : State) : String :=
  let shown := (st.values.filter fun v => isShown v.2).mergeSort fun a b => a.1 ≤ b.1
  String.join (shown.map fun (name, v) =>
    before ++ name ++ (match v.value with
      | some s => "=" ++ quoted s
      | none => "") ++ "\n")

def set (args : List String) (st : State) : State :=
  match args with
  | [] => (st.print (variableList "" (fun v => v.value.isSome) st)).done 0
  | args =>
    let (r, args) := setOptions (args.length + 1) args { options := st.options }
    let st := if r.told = "" then st else st.print r.told
    let refused := r.options.has 'm' && !st.options.has 'm'
    let st := { st with options := r.options.set 'm' false }.done 0
    match r.flaw with
    | some message => misused st "set" message
    | none =>
      let st := if refused then st.complain "can't access tty; job control turned off" 0 else st
      match args with
      | some args => { st with args }.lookFrom 1
      | none => st

/-! ### Variables -/

def nameAndValue (arg : String) : String × Option String :=
  let cs := arg.toList
  let name := cs.takeWhile (· ≠ '=')
  (String.ofList name, if name.length = cs.length then none else some (String.ofList (cs.drop (name.length + 1))))

def mark (command : String) (isMarked : Variable → Bool) (f : Variable → Variable) (args : List String)
    (st : State) : State :=
  -- Once the list is asked for, nothing more is read.
  let args := if ((args.headD "").toList.take 2) = ['-', 'p'] then [] else args
  withLetters command ['p'] args st fun _ names =>
    if names.isEmpty then (st.print (variableList (command ++ " ") isMarked st)).done 0
    else names.foldl (fun st arg =>
      if st.flow.isSome then st
      else
        let (name, value) := nameAndValue arg
        if !isName name.toList then misused st command (name ++ ": bad variable name")
        else
          let st := match value with
            | some v => st.assign name v
            | none => st
          if st.flow.isSome then st else st.setVariable name (f ((st.entry? name).getD {}))) (st.done 0)

def unset (args : List String) (st : State) : State :=
  withLetters "unset" ['f', 'v'] args st fun letters names =>
    names.foldl (fun st arg =>
      let name := (nameAndValue arg).1
      if st.flow.isSome then st
      else if letters.getLast? = some 'f' then { st with functions := st.functions.filter fun f => f.1 ≠ arg }
      else if !isName name.toList then misused st "unset" (name ++ ": bad variable name")
      else if name = "OPTIND" then misused st "unset" "Illegal number: "
      else match st.entry? name with
        | some v => if v.fixed then misused st "unset" (name ++ ": is read only") else st.dropVariable name
        | none => st) (st.done 0)

def localize (args : List String) (st : State) : State :=
  if !st.isInFunction then st.fail "not in a function"
  else args.foldl (fun st arg =>
    let (name, value) := nameAndValue arg
    if st.flow.isSome then st
    else if arg = "-" then
      { st with hidden := ("-", some { value := some (String.ofList st.options.letters) }) :: st.hidden }
    else if !isName name.toList && value.isNone then st.fail (name ++ ": bad variable name")
    else
      -- That a name with a value is none is only found when the function is left.
      let st := { st with hidden := (name, st.entry? name) :: st.hidden }
      match value with
      | some v => st.assign name v
      | none => st) (st.done 0)

/-! ### Aliases -/

def aliasLine (name text : String) : String := name ++ "=" ++ quoted text ++ "\n"

def setAliases (args : List String) (st : State) : State :=
  match args with
  | [] =>
    let listed := st.aliases.reverse.mergeSort fun a b => State.placeOf a.1 ≤ State.placeOf b.1
    (st.print (String.join (listed.map fun a => aliasLine a.1 a.2))).done 0
  | args =>
    let (st, told) := args.foldl (fun ((st, told) : State × String) arg =>
      match arg.toList with
      | [] => (st.protest "alias:  not found" 1, told)
      | c :: cs =>
        let name := c :: cs.takeWhile (· ≠ '=')
        match (c :: cs).drop name.length with
        | _ :: text =>
          let name := String.ofList name
          let text := String.ofList text
          if (st.aliases.lookup name).isSome then
            ({ st with aliases := st.aliases.map fun a => if a.1 = name then (name, text) else a }, told)
          else ({ st with aliases := (name, text) :: st.aliases }, told)
        | [] =>
          match st.aliases.lookup arg with
          | some text => (st, told ++ aliasLine arg text)
          | none => (st.protest ("alias: " ++ arg ++ " not found") 1, told)) (st.done 0, "")
    { st.print told with status := st.status }

def dropAliases (args : List String) (st : State) : State :=
  if ((args.headD "").toList.take 2) = ['-', 'a'] then { st with aliases := [] }.done 0
  else withLetters "unalias" [] args st fun _ names =>
    names.foldl (fun st name =>
      if (st.aliases.lookup name).isSome then { st with aliases := st.aliases.filter fun a => a.1 ≠ name }
      else st.protest ("unalias: " ++ name ++ " not found") 1) (st.done 0)

/-! ### Options of scripts -/

def optionIn? (letter : Char) : List Char → Option (List Char)
  | [] => none
  | [c] => if c = letter then some [] else none
  | c :: ':' :: cs => if c = letter then some (':' :: cs) else optionIn? letter cs
  | c :: cs => if c = letter then some cs else optionIn? letter cs

def getopts (args : List String) (st : State) : State :=
  match args with
  | known :: arg :: rest =>
    let name := (nameAndValue arg).1
    let words := if rest.isEmpty then st.args else rest
    let st := if words.length + 1 < st.nextOption then st.lookFrom 1 else st
    let index := st.nextOption
    let silent := known.toList.head? = some ':'
    let current := match st.looked with
      | some n => if index ≤ 1 then [] else ((words.getD (index - 2) "").toList.drop n)
      | none => []
    -- The letters still to look at, and the number of the argument after them.
    let next : Option (List Char × Nat) :=
      if !current.isEmpty then some (current, index)
      else match (words[index - 1]?).map String.toList with
        | some ('-' :: c :: cs) => if c = '-' && cs.isEmpty then none else some (c :: cs, index + 1)
        | _ => none
    let finish (st : State) (argument : Option String) (letter : Char) (index : Nat) (left : Option (List Char))
        (status : Nat) : State :=
      let looked := left.map fun cs => (words.getD (index - 2) "").length - cs.length
      let st := match argument with
        | some value => st.assign "OPTARG" value
        | none => st
      let st := if st.flow.isSome then st else 
          { st.store "OPTIND" (Text.Numeral.text index) with nextOption := index, looked }
      if st.flow.isSome then st
      else if !isName name.toList then misused st "getopts" (name ++ ": bad variable name")
      else { st.assign name (String.singleton letter) with status }
    match next with
    | none =>
      let index := if words[index - 1]? = some "--" then index + 1 else index
      finish st none '?' index none 1
    | some ([], index) => finish st none '?' index none 1
    | some (c :: cs, index) =>
      let wrong (message : String) (letter : Char) : State :=
        if silent then finish st (some (String.singleton c)) letter index (some cs) 0
        else finish ((st.protest message 0).dropVariable "OPTARG") none '?' index (some cs) 0
      match optionIn? c known.toList with
      | none => wrong ("Illegal option -" ++ String.singleton c) '?'
      | some (':' :: _) =>
        match cs, words[index - 1]? with
        | [], none => wrong ("No arg for -" ++ String.singleton c ++ " option") ':'
        | [], some value => finish st (some value) c (index + 1) none 0
        | value, _ => finish st (some (String.ofList value)) c index none 0
      | some _ => finish st (some "") c index (some cs) 0
  | _ => misused st "getopts" "Usage: getopts optstring var [arg...]"

/-! ### Input -/

/-- How many bytes a line takes with its end. A backslash protects what follows unless `raw`. -/
def lineEnd (raw : Bool) (bytes : ByteArray) : (fuel i : Nat) → Nat
  | 0, i => min i bytes.size
  | fuel + 1, i =>
    match bytes.data[i]? with
    | none => bytes.size
    | some b =>
      if b = 10 then i + 1
      else lineEnd raw bytes fuel (if b = 92 && !raw then i + 2 else i + 1)

inductive Piece where
  | plain (c : Char)
  | kept (c : Char)
  | seam

def lineOf (raw : Bool) : List Char → List Piece × Bool
  | [] => ([], false)
  | '\n' :: _ => ([], true)
  | c :: rest =>
    if c ≠ '\\' || raw then
      let (line, ended) := lineOf raw rest
      (.plain c :: line, ended)
    else match rest with
      | [] => ([], false)
      | c :: rest =>
        let (line, ended) := lineOf raw rest
        ((if c = '\n' then .seam else .kept c) :: line, ended)

structure Sharing where
  left : Nat
  done : List String := []
  current : List Char := []
  cut : Option (List Char) := none
  spaced : Bool := false
  between : Bool := false

namespace Sharing

def take (separators : List Char) (s : Sharing) (c : Char) : Sharing :=
  let separates := c ∈ separators
  let blank := separates && Fields.isBlank c
  let longer := { s with current := c :: s.current }
  if s.left = 0 then
    if blank then { longer with cut := s.cut <|> some s.current }
    else { longer with cut := if separates && s.spaced then s.cut else none, spaced := false }
  else if !separates then longer
  else if s.current.isEmpty && blank then { s with spaced := false }
  else if s.left = 1 then { longer with left := 0, cut := some s.current, spaced := blank }
  else
    { s with
      left := s.left - 1
      done := String.ofList s.current.reverse :: s.done
      current := []
      spaced := blank
      between := true }

def add (separators : List Char) (s : Sharing) : Piece → Sharing
  | .seam => { s with spaced := false, between := false }
  | .kept c => { s with current := c :: s.current, spaced := false, between := false }
  | .plain c =>
    if s.between && c ∈ separators && (Fields.isBlank c || s.spaced) then
      { s with spaced := s.spaced && Fields.isBlank c }
    else take separators { s with between := false } c

def toList (s : Sharing) : List String :=
  (String.ofList (s.cut.getD s.current).reverse :: s.done).reverse

end Sharing

def share (separators : List Char) (count : Nat) (line : List Piece) : List String :=
  (line.foldl (Sharing.add separators) { left := count }).toList

def read (args : List String) (st : State) : State :=
  let rec options (raw : Bool) : List String → Except String (Bool × List String)
    | [] => .ok (raw, [])
    | "--" :: rest => .ok (raw, rest)
    | arg :: rest =>
      match arg.toList with
      | '-' :: c :: cs =>
        let letters := (c :: cs).takeWhile (· ≠ 'p')
        match letters.find? (· ≠ 'r'), (c :: cs).drop letters.length with
        | some c, _ => .error ("Illegal option -" ++ String.singleton c)
        | none, [_] =>
          match rest with
          | [] => .error "No arg for -p option"
          | _ :: rest => options (raw || !letters.isEmpty) rest
        | none, _ => options (raw || !letters.isEmpty) rest
      | _ => .ok (raw, arg :: rest)
  match options false args with
  | .error message => misused st "read" message
  | .ok (raw, names) =>
    if names.isEmpty then misused st "read" "arg count"
    else
      let st := st.awaitInput 0
      let bytes := (st.input 0).toOption.getD ByteArray.empty
      let size := lineEnd raw bytes (bytes.size + 1) 0
      let cs := (Text.Octets.ofBytes (bytes.extract 0 size)).toList.filter (· ≠ Char.ofNat 0)
      let (line, ended) := lineOf raw cs
      let fields := share st.separators names.length line
      let rec give (st : State) : List String → List String → State
        | [], _ => st.done (if ended then 0 else 1)
        | arg :: names, fields =>
          let name := (nameAndValue arg).1
          if isName name.toList then
            let st := st.assign name (fields.headD "")
            if st.flow.isSome then st else give st names fields.tail
          else misused st "read" (name ++ ": bad variable name")
      give (st.consume 0 size) names fields

/-! ### Conditions and signals -/

def test (args : List String) (st : State) : State :=
  match Condition.eval st true args with
  | .ok b => st.done (if b then 0 else 1)
  | .error flaw => misused st "test" flaw.message

def bracket (args : List String) (st : State) : State :=
  if args.getLast?.any fun s => s.toList.head? = some ']' then
    match Condition.eval st true args.dropLast with
    | .ok b => st.done (if b then 0 else 1)
    | .error flaw => misused st "[" flaw.message
  else misused st "[" "missing ]"

def jobOf? (st : State) (s : String) : Option Job :=
  let own := st.ownJobs
  match s.toList with
  | ['%'] => own.head?
  | ['%', '%'] => own.head?
  | ['%', '+'] => own.head?
  | ['%', '-'] => own[1]?
  | '%' :: cs => (Text.Numeral.digits? 10 cs).bind fun n => own.find? fun j => j.place = n
  | _ => none

def jobFlaw (s : String) : String :=
  if s = "%-" then "No previous job"
  else if s ∈ ["%", "%%", "%+"] then "No current job"
  else "No such job: " ++ s

def processOf? (st : State) (s : String) : Option Nat :=
  if s.toList.head? = some '%' then (jobOf? st s).map Job.process else State.number? s

/-- Sends a signal to a process, by its number or to a job. A dash stands before the number of a group. -/
def send (signal : Nat) (st : State) (p : String) : State :=
  let (isGroup, shown) := match p.toList with
    | '-' :: rest => (true, String.ofList rest)
    | '%' :: _ => (true, p)
    | _ => (false, p)
  match processOf? st shown with
  | none =>
    if p.toList.head? = some '%' then misused st "kill" (jobFlaw p)
    else misused st "kill" ("Illegal number: " ++ shown)
  | some n =>
    -- A job is no group of processes of its own, so none has its number.
    if isGroup then st.complain "No such process\n" 1
    else if n = st.process then st.receive signal
    else if n ∈ st.ancestors || n = 1 then
      if signal = 0 then st else { st with signals := st.signals ++ [(n, signal)] }
    else if st.jobs.any fun j => j.process = n && !j.isGone then
      if Signal.isQuiet signal then st
      else { st with jobs := st.jobs.map fun j => if j.process = n then j.fall signal else j }
    else st.complain "No such process\n" 1

def killOptions : List String → Option Nat → Bool → Except String (Option Nat × Bool × List String)
  | [], signal, listed => .ok (signal, listed, [])
  | "--" :: rest, signal, listed => .ok (signal, listed, rest)
  | arg :: rest, signal, listed =>
    match arg.toList with
    | '-' :: c :: cs =>
      let letters := (c :: cs).takeWhile (· ≠ 's')
      let listed := listed || letters.contains 'l'
      let named (name : String) : Except String Nat :=
        match Signal.number? name with
        | some n => .ok n
        | none => .error ("invalid signal number or name: " ++ name)
      match letters.find? (· ≠ 'l'), (c :: cs).drop letters.length with
      | some c, _ => .error ("Illegal option -" ++ String.singleton c)
      | none, [] => killOptions rest signal listed
      | none, [_] =>
        match rest with
        | [] => .error "No arg for -s option"
        | name :: rest => do killOptions rest (some (← named name)) listed
      | none, _ :: name => do killOptions rest (some (← named (String.ofList name))) listed
    | _ => .ok (signal, listed, arg :: rest)

def kill (args : List String) (st : State) : State :=
  let parsed : Except String (Option Nat × Bool × List String) :=
    match (args.headD "").toList with
    | '-' :: name =>
      match Signal.number? (String.ofList name) with
      | some n => .ok (some n, false, args.tail)
      | none => killOptions args none false
    | _ => .ok (none, false, args)
  match parsed with
  | .error message => misused st "kill" message
  | .ok (signal, listed, rest) =>
    let wrong := misused st "kill"
      "Usage: kill [-s sigspec | -signum | -sigspec] [pid | job]... or\nkill -l [exitstatus]"
    if !listed then
      if rest.isEmpty then wrong
      else
        rest.foldl (fun (st : State) p =>
          if st.flow.isSome || st.status = 2 then st else send (signal.getD 15) st p) (st.done 0)
    else if signal.isSome then wrong
    else match rest with
      | [] =>
        let names := (List.range 64).map fun n => Signal.name (n + 1)
        (st.print ("0\n" ++ String.join (names.map (· ++ "\n")))).done 0
      | s :: _ =>
        match State.number? s with
        | none => misused st "kill" ("Illegal number: " ++ s)
        | some n =>
          let m := if 128 < n then n - 128 else n
          if m = 0 || 64 < m then misused st "kill" ("invalid signal number or exit status: " ++ s)
          else (st.print (Signal.name m ++ "\n")).done 0

def jobState (job : Job) : String :=
  if job.rest.isSome then "Running"
  else match job.signal with
    | some n => Signal.text n
    | none => if job.status = 0 then "Done" else "Done(" ++ Text.Numeral.text job.status ++ ")"

def jobs (args : List String) (st : State) : State :=
  withLetters "jobs" ['l', 'p'] args st fun letters names =>
    let line (st : State) (job : Job) : String :=
      let own := st.ownJobs
      let number := Text.Numeral.text job.process
      if 'p' ∈ letters then number ++ "\n"
      else
        let rank := if own.head?.map Job.process = some job.process then "+ "
          else if (own[1]?).map Job.process = some job.process then "- " else "  "
        let text := "[" ++ Text.Numeral.text job.place ++ "] " ++ rank ++
          (if 'l' ∈ letters then number ++ " " else "") ++ jobState job
        text ++ String.ofList (List.replicate (33 - text.length) ' ') ++ "\n"
    let tell (st : State) (job : Job) : State :=
      let st := st.print (line st job)
      if job.rest.isSome then st else { st with jobs := st.jobs.filter fun j => j.process ≠ job.process }
    if names.isEmpty then st.ownJobs.foldl tell (st.done 0)
    else names.foldl (fun st name =>
      if st.status ≠ 0 then st
      else match jobOf? st name with
        | some job => tell st job
        | none => misused st "jobs" (jobFlaw name)) (st.done 0)

def continueJob (command : String) (args : List String) (st : State) : State :=
  withLetters command [] args st fun _ names =>
    match names with
    | [] =>
      misused st command (if st.ownJobs.isEmpty then "No current job"
        else "job (null) not created under job control")
    | name :: _ =>
      misused st command (if (jobOf? st name).isSome then "job " ++ name ++ " not created under job control"
        else jobFlaw name)

def trap (args : List String) (st : State) : State :=
  withLetters "trap" [] args st fun _ args => match args with
  | [] =>
    let listed := st.traps.mergeSort fun a b => a.1 ≤ b.1
    (st.print (String.join (listed.map fun (n, s) =>
      "trap -- " ++ quoted s ++ " " ++ Signal.name n ++ "\n"))).done 0
  | first :: rest =>
    let (action, signals) :=
      if rest.isEmpty || (Signal.numbered? first).isSome then (none, args)
      else (if first = "-" then none else some first, rest)
    signals.foldl (fun st s =>
      if st.status ≠ 0 then st
      else match Signal.number? s with
        | some n =>
          let others := st.traps.filter fun t => t.1 ≠ n
          { st with traps := match action with
            | some a => (n, a) :: others
            | none => others }
        | none => st.protest ("trap: " ++ s ++ ": bad trap") 1) (st.done 0)

structure Limit where
  letter : Char
  title : String
  unit : Nat
  usual : Option Nat := none
  most : Option Nat := usual

def knownLimits : List Limit :=
  [⟨'t', "time(seconds)", 1, none, none⟩, ⟨'f', "file(blocks)", 512, none, none⟩,
   ⟨'d', "data(kbytes)", 1024, none, none⟩, ⟨'s', "stack(kbytes)", 1024, some 8192, none⟩,
   ⟨'c', "coredump(blocks)", 512, some 0, none⟩, ⟨'m', "memory(kbytes)", 1024, none, none⟩,
   ⟨'l', "locked memory(kbytes)", 1024, some 8192, some 8192⟩, ⟨'p', "process", 1, none, none⟩,
   ⟨'n', "nofiles", 1, some 1024, some 1048576⟩, ⟨'v', "vmemory(kbytes)", 1024, none, none⟩,
   ⟨'w', "locks", 1, none, none⟩, ⟨'r', "rtprio", 1, some 0, some 0⟩]

/-- Reads a limit, in units of so many. It is kept as a word of 64 bits, of which the greatest is no limit. -/
def limit? (unit : Nat) (s : String) : Option (Option Nat) :=
  if s = "unlimited" then some none
  else if s = "" then some (some 0)
  else (Text.Numeral.digits? 10 s.toList).map fun n =>
    let word := n * unit % 2 ^ 64
    if word = 2 ^ 64 - 1 then none else some (word / unit)

def ulimit (args : List String) (st : State) : State :=
  withLetters "ulimit" (['H', 'S', 'a'] ++ knownLimits.map Limit.letter) args st fun letters rest =>
    let letter := ((letters.filter fun c => c ∉ ['H', 'S', 'a']).getLast?).getD 'f'
    let side := (letters.filter fun c => c = 'H' || c = 'S').getLast?
    let current (l : Limit) : Option Nat × Option Nat := (st.limits.lookup l.letter).getD (l.usual, l.most)
    let shown (l : Limit) : String :=
      ((if side = some 'H' then (current l).2 else (current l).1).map Text.Numeral.text).getD "unlimited" ++ "\n"
    match knownLimits.find? fun l => l.letter = letter, rest with
    | none, _ => st
    | some l, [] =>
      let line (l : Limit) : String :=
        l.title ++ String.ofList (List.replicate (20 - l.title.length) ' ') ++ " " ++ shown l
      (st.print (if 'a' ∈ letters then String.join (knownLimits.map line) else shown l)).done 0
    | some l, value :: more =>
      if !more.isEmpty || 'a' ∈ letters then misused st "ulimit" "too many arguments"
      else match limit? l.unit value with
        | none => misused st "ulimit" "bad number"
        | some limit =>
          let (now, most) := current l
          let now := if side ≠ some 'H' then limit else now
          let raised := if side ≠ some 'S' then limit else most
          let above (a b : Option Nat) : Bool := match a, b with
            | _, none => false
            | none, some _ => true
            | some a, some b => b < a
          if above raised most then misused st "ulimit" "error setting limit (Operation not permitted)"
          else if above now raised then misused st "ulimit" "error setting limit (Invalid argument)"
          else { st with limits := (l.letter, now, raised) :: st.limits.filter fun l' => l'.1 ≠ l.letter }.done 0

def find? (name : String) : Option (List String → State → State) :=
  match name with
  | ":" => some fun _ st => st.done 0
  | "true" => some fun _ st => st.done 0
  | "false" => some fun _ st => st.done 1
  | "echo" => some echo
  | "printf" => some printf
  | "pwd" => some pwd
  | "cd" => some (cd "cd")
  | "chdir" => some (cd "chdir")
  | "exit" => some exit
  | "return" => some leave
  | "break" => some (skip "break" false)
  | "continue" => some (skip "continue" true)
  | "shift" => some shift
  | "set" => some set
  | "export" => some (mark "export" (fun v => v.exported) fun v => { v with exported := true })
  | "readonly" => some (mark "readonly" (fun v => v.fixed) fun v => { v with fixed := true })
  | "unset" => some unset
  | "local" => some localize
  | "alias" => some setAliases
  | "unalias" => some dropAliases
  | "getopts" => some getopts
  | "read" => some read
  | "test" => some test
  | "[" => some bracket
  | "kill" => some kill
  | "trap" => some trap
  | "umask" => some umask
  | "ulimit" => some ulimit
  | "jobs" => some jobs
  | "fg" => some (continueJob "fg")
  | "bg" => some (continueJob "bg")
  | "times" => some fun _ st => (st.print "0m0.000000s 0m0.000000s\n0m0.000000s 0m0.000000s\n").done 0
  | _ => none

def others : List String := ["command", "type", "wait", "hash", ".", "eval", "exec"]

def isKnown (name : String) : Bool := (find? name).isSome || name ∈ others

end KernelForge.Shell.Builtin
