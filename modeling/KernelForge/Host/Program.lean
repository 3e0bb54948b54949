import KernelForge.Host.Shell.Run

/-!
Starting programs.

A program is started in a folder with its arguments and its variables, and the host waits for its end. What it
leaves are the files, what it said, and how it ended.
-/
namespace KernelForge

inductive SpawnError where
  | fault (fault : Fault)
  | embeddedNul
deriving DecidableEq, Repr

def SpawnError.message : SpawnError → String
  | fault f => f.message
  | embeddedNul => "nul byte found in provided data"

namespace Program

abbrev Variables := List (String × String)

structure Outcome where
  disk : Disk
  out : ByteArray
  err : ByteArray
  /-- The exit status, unless the program was stopped from outside. -/
  status : Option Nat

def outcome (st : Shell.State) : Outcome where
  disk := st.disk
  out := st.out
  err := st.err
  status := match st.flow with
    | some (.killed _) => none
    | some (.exit status) => some (status % 256)
    | _ => some (st.status % 256)

def initial (disk : Disk) (locked : List Nat) (vars : Variables) (folder : List String) : Shell.State where
  disk := disk
  locks := locked.map fun file => { holder := .starter, file }
  folder := match disk.walk folder with
    | .ok (.folder id _) => id
    | _ => 0
  values := vars.map fun (n, v) =>
    (Text.Octets.ofText n, { value := some (Text.Octets.ofText v), exported := true })

/-- Runs a program to its end. Whoever listens to it also waits for what it has put aside and what can still be
heard. -/
def runToEnd (program : Installation.Startable) (st : Shell.State) : Outcome :=
  let go := Shell.run Shell.fuelLimit
  let after := Shell.execute go Shell.depthLimit program st
  let world : Shell.State := { after with flow := none }
  let settled := Shell.finishJobs go Shell.isHeard world
  outcome { after with toWorld := settled.toWorld }

/-- Starts a program in a folder and waits for its end. Files are locked all the time. -/
def spawn (disk : Disk) (locked : List Nat) (vars : Variables) (folder : List String) (program : String)
    (args : List String) :
    Except SpawnError Outcome :=
  if (program :: args).any fun s => s.toList.contains (Char.ofNat 0) then .error .embeddedNul
  else
    let st := initial disk locked vars folder
    match Installation.start st false (Text.Octets.ofText program) (args.map Text.Octets.ofText) with
    | .error f => .error (.fault f)
    | .ok startable => .ok (runToEnd startable st)

end Program

end KernelForge
