import KernelForge.Host.Tool.Arguments

/-!
How tools end when their streams failed them.

A tool that could not write all it had to, or that closes an input stream which was never there, says so at its
end. What it says, and with which status it ends, is a matter of the tool.
-/
namespace KernelForge.Tool

open Shell (State)

/-- What a tool says of output that could not be written, line by line, and the status it ends with. -/
def writeComplaints (program : String) (fault : Fault) : List String × Nat :=
  let reason := ": " ++ fault.reason
  let closed := fault = .badStream
  let stream := quote "standard output"
  let always := "write error" ++ reason
  let bare := if closed then always else "write error"
  match program with
  | "ls" | "grep" | "printenv" => ([always], 2)
  | "env" => ([always], 125)
  | "sort" => (["fflush failed: " ++ stream ++ reason, "write error"], 2)
  | "wc" => ([bare], 1)
  | _ => ([always], 1)

def closeComplaint? (program : String) : Option String :=
  if program = "cat" then some "closing standard input"
  else if program ∈ ["wc", "head", "tail", "cut", "tac"] then some "-"
  else none

/-- Ends a tool whose output could not be written. `name` is what messages show. -/
def settleOutput (program name : String) (st : State) : State :=
  match st.unwritten with
  | some fault =>
    let (lines, status) := writeComplaints program fault
    lines.foldl (fun st line => st.protest (name ++ ": " ++ line) status) { st with unwritten := none, status }
  | none => st

def settleInput (program name : String) (st : State) : State :=
  match if st.unread then closeComplaint? program else none with
  | some line => { st with unread := false }.protest (name ++ ": " ++ line ++ ": " ++ Fault.badStream.reason) 1
  | none => { st with unread := false }

end KernelForge.Tool
