/-!
Patterns of shells: literal characters, `?` for any one, `*` for any number, and brackets for one of a set.
Quoted characters stand for themselves.
-/
namespace KernelForge.Shell

abbrev Mark := Char × Bool

inductive Glob where
  | one (c : Char)
  | any
  | many
  | oneOf (negated : Bool) (ranges : List (Char × Char))
deriving DecidableEq, Repr

namespace Glob

def classRanges (name : String) : List (Char × Char) :=
  match name with
  | "digit" => [('0', '9')]
  | "lower" => [('a', 'z')]
  | "upper" => [('A', 'Z')]
  | "alpha" => [('a', 'z'), ('A', 'Z')]
  | "alnum" => [('0', '9'), ('a', 'z'), ('A', 'Z')]
  | "xdigit" => [('0', '9'), ('a', 'f'), ('A', 'F')]
  | "space" => [('\t', '\x0d'), (' ', ' ')]
  | "blank" => [('\t', '\t'), (' ', ' ')]
  | "punct" => [('!', '/'), (':', '@'), ('[', '\x60'), ('\x7b', '~')]
  | _ => []

def class? : List Mark → Option (List (Char × Char) × Nat)
  | ('[', false) :: (':', _) :: rest =>
    let name := (rest.map Prod.fst).takeWhile (· ≠ ':')
    match rest.drop name.length with
    | (':', _) :: (']', _) :: _ => some (classRanges (String.ofList name), name.length + 4)
    | _ => none
  | _ => none

def set? : (fuel : Nat) → (first : Bool) → List Mark → Option (List (Char × Char) × List Mark)
  | 0, _, _ => none
  | fuel + 1, first, cs =>
    match class? cs with
    | some (ranges, n) => (set? fuel false (cs.drop n)).map fun (more, rest) => (ranges ++ more, rest)
    | none =>
      match cs with
      | [] => none
      | (']', false) :: rest =>
        if first then (set? fuel false rest).map fun (more, rest) => ((']', ']') :: more, rest)
        else some ([], rest)
      | (a, _) :: ('-', false) :: (b, q) :: rest =>
        if b = ']' && !q then
          (set? fuel false (('-', true) :: (b, q) :: rest)).map fun (more, rest) => ((a, a) :: more, rest)
        else (set? fuel false rest).map fun (more, rest) => ((a, b) :: more, rest)
      | (a, _) :: rest => (set? fuel false rest).map fun (more, rest) => ((a, a) :: more, rest)

/-- The pattern of a word. Brackets that do not close stand for themselves. With `caret`, a caret at the
front of a set negates it like an exclamation mark. -/
def ofMarks (caret : Bool) : (fuel : Nat) → List Mark → List Glob
  | 0, _ => []
  | _, [] => []
  | fuel + 1, (c, quoted) :: rest =>
    if quoted then .one c :: ofMarks caret fuel rest
    else if c = '*' then .many :: ofMarks caret fuel rest
    else if c = '?' then .any :: ofMarks caret fuel rest
    else if c = '\\' then
      match rest with
      | (d, _) :: rest => .one d :: ofMarks caret fuel rest
      | [] => [.one '\\']
    else if c = '[' then
      let (negated, inside) := match rest with
        | ('!', false) :: inside => (true, inside)
        | ('^', false) :: inside => if caret then (true, inside) else (false, rest)
        | inside => (false, inside)
      match set? (inside.length + 1) true inside with
      | some (ranges, rest) => .oneOf negated ranges :: ofMarks caret fuel rest
      | none => .one '[' :: ofMarks caret fuel rest
    else .one c :: ofMarks caret fuel rest

def accepts (g : Glob) (c : Char) : Bool :=
  match g with
  | .one d => c = d
  | .any => true
  | .many => false
  | .oneOf negated ranges => (ranges.any fun r => r.1 ≤ c && c ≤ r.2) != negated

def accept : List Glob → List Char → Bool
  | [], cs => cs.isEmpty
  | .many :: gs, [] => accept gs []
  | .many :: gs, c :: cs => accept gs (c :: cs) || accept (.many :: gs) cs
  | _ :: _, [] => false
  | g :: gs, c :: cs => g.accepts c && accept gs cs
termination_by gs cs => (cs.length, gs.length)

def cutFront (gs : List Glob) (longest : Bool) (cs : List Char) : List Char :=
  let sizes := List.range (cs.length + 1)
  let sizes := if longest then sizes.reverse else sizes
  match sizes.find? fun n => accept gs (cs.take n) with
  | some n => cs.drop n
  | none => cs

def cutBack (gs : List Glob) (longest : Bool) (cs : List Char) : List Char :=
  let sizes := List.range (cs.length + 1)
  let sizes := if longest then sizes else sizes.reverse
  match sizes.find? fun n => accept gs (cs.drop n) with
  | some n => cs.take n
  | none => cs

end Glob

def patternOf (cs : List Mark) : List Glob := Glob.ofMarks false (cs.length + 1) cs

def patternOfText (s : String) : List Glob := Glob.ofMarks true (s.length + 1) (s.toList.map fun c => (c, false))

end KernelForge.Shell
