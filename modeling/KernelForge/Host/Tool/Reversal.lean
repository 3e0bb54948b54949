import KernelForge.Host.Tool.Streams
import KernelForge.Text.Regex

/-!
Lines in reverse.
-/
namespace KernelForge.Tool

open Shell (State)
open Text (Regex)

inductive Separator where
  | bytes (b : UInt8) (rest : List UInt8)
  | matching (r : Regex)

namespace Separator

def lengthAt (s : Separator) (text : Array UInt8) (stop start : Nat) : Option Nat :=
  match s with
  | .bytes b rest =>
    let size := rest.length + 1
    if start + size ≤ stop && (text.extract start (start + size)).toList = b :: rest then some size else none
  | .matching r =>
    let subject : Regex.Subject := { text := (text.extract 0 stop).map UInt8.toNat }
    (Regex.matchAt? r subject start).map fun m => m.stop - m.start

def cuts (s : Separator) (leads : Bool) (text : Array UInt8) : (place stop : Nat) → List Nat
  | 0, _ => []
  | place + 1, stop =>
    match s.lengthAt text stop place with
    | some size => (if leads then place else place + size) :: s.cuts leads text place place
    | none => s.cuts leads text place stop

def reversed (s : Separator) (leads : Bool) (text : Array UInt8) : Array UInt8 :=
  let (out, last) := (s.cuts leads text text.size text.size).foldl (fun (out, last) cut =>
    (out ++ text.extract cut last, cut)) ((#[] : Array UInt8), text.size)
  out ++ text.extract 0 last

end Separator

def tac (name : String) (args : List String) (st : State) : State :=
  let g : Grammar := {
    plain := "br"
    valued := "s"
    long := [("before", 'b'), ("regex", 'r'), ("separator", 's')] }
  withArguments name g args st fun a st =>
    let text := (a.value? 's').getD "\n"
    let separator : Except String Separator :=
      if a.has 'r' then
        if text = "" then .error "separator cannot be empty"
        else (Regex.parse {} text).map Separator.matching
      else match (Text.Octets.toBytes text).data.toList with
        | b :: rest => .ok (.bytes b rest)
        | [] => .ok (.bytes 0 [])
    match separator with
    | .error message => complain name message st
    | .ok separator =>
      each (sources a) st fun path st =>
        match contentOf path st with
        | (st, .ok bytes) => st.write 1 ⟨separator.reversed (a.has 'b') bytes.data⟩
        | (st, .error .isFolder) =>
          complain name ((if path = "-" then sourceName path else quoteIfNeeded path) ++ ": read error: " ++
            Fault.invalid.reason) st
        | (st, .error fault) =>
          complain name (if path = "-" then sourceName path ++ ": read error: " ++ fault.reason
            else "failed to open " ++ quote path ++ " for reading: " ++ fault.reason) st

end KernelForge.Tool
