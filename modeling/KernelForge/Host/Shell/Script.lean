import KernelForge.Host.Shell.Builtin
import KernelForge.Host.Shell.Reader

/-!
Scripts, and shells of their own.

A script is read and run line by line. A part of it can run in a shell of its own, which ends with the commands
that were set for its end.
-/
namespace KernelForge.Shell

abbrev Evaluator := (tested : Bool) → Command → State → State

section

variable (go : Evaluator)

/-- Runs a script line by line, and says whether there was a command in it. `next` numbers the texts that follow
redirections. -/
def runLines (tested : Bool) : (fuel : Nat) → Source → Bool → State → State × Bool
  | 0, _, ran, st => (st, ran)
  | fuel + 1, source, ran, st =>
    if st.flow.isSome then (st, ran)
    else
      let source := { source with aliases := st.aliases, next := st.documents.length, documents := [] }
      match Reader.line source with
      | .error e => ({ st with line := e.line }.fail e.message, ran)
      | .ok (command, rest) =>
        let st := { st with documents := rest.documents ++ st.documents }
        let st := if st.options.echoes && source.ofFile then
            let shown := source.rest.take (source.rest.length - rest.rest.length)
            st.write 2 (Text.Octets.toBytes (String.ofList shown))
          else st
        let (st, ran) := match command with
          | some c => (go tested c { st with reached := rest.line }, true)
          | none => (st, ran)
        if rest.isOver then (st, ran) else runLines tested fuel rest ran st

def runSource (tested : Bool) (source : Source) (st : State) : State :=
  let (after, ran) := runLines go tested (source.rest.length + 2) source false st
  let after := { after with reached := st.reached }
  if ran || after.flow.isSome then after else after.done 0

def runText (tested : Bool) (text : String) (st : State) : State :=
  runSource go tested (Source.ofText text) st

def runFile (content : ByteArray) (st : State) : State :=
  runSource go false { Source.ofText (Text.Octets.ofBytes content) with ofFile := true } st

def runExit (st : State) : State :=
  match st.flow, st.traps.lookup 0 with
  | some (.killed _), _ => st
  | some .overdue, _ => st
  | some (.blocked _), _ => st
  | _, none => st
  | flow, some commands =>
    let after := runText go false commands { st with
      flow := none
      traps := []
      loops := 0
      calls := 0
      isInFunction := false
      within := none }
    match after.flow with
    | some _ => after
    | none => { after with flow, status := st.status }

def subshell (f : State → State) (st : State) : State :=
  st.apart fun st => runExit go (f { st with
    reached := 1
    inner := true
    traps := st.traps.filter fun t => t.2 = "" })

def substituted (command : Command) (st : State) : State := subshell go (go false command) st

end

end KernelForge.Shell
