import KernelForge.Toml

/-!
The settings of a configuration file: the table `genred` of a TOML document.

Every setting may be absent. A setting that is not known, or has a value of another type, makes the whole
file unusable. The table may also be an array that gives the settings in their order.
-/
namespace KernelForge

structure Settings where
  verbose : Option Bool := none
  buildType : Option String := none
  binFolder : Option String := none
  gpuAvailable : Option Bool := none
  lockTimeoutSecs : Option UInt64 := none
  compiler : Option (List String) := none
deriving DecidableEq, Repr

namespace Settings

def boolean? : Toml.Value → Option Bool
  | .boolean b => some b
  | _ => none

def string? : Toml.Value → Option String
  | .string s => some s
  | _ => none

def word64? : Toml.Value → Option UInt64
  | .integer n => if 0 ≤ n then some n.toNat.toUInt64 else none
  | _ => none

def strings? : Toml.Value → Option (List String)
  | .array items => items.mapM string?
  | _ => none

def names : List String :=
  ["verbose", "build_type", "bin_folder", "gpu_available", "lock_timeout_secs", "compiler"]

/-- Sets the setting with a name. -/
def set? (s : Settings) (name : String) (v : Toml.Value) : Option Settings :=
  match name with
  | "verbose" => (boolean? v).map fun b => { s with verbose := some b }
  | "build_type" => (string? v).map fun t => { s with buildType := some t }
  | "bin_folder" => (string? v).map fun t => { s with binFolder := some t }
  | "gpu_available" => (boolean? v).map fun b => { s with gpuAvailable := some b }
  | "lock_timeout_secs" => (word64? v).map fun n => { s with lockTimeoutSecs := some n }
  | "compiler" => (strings? v).map fun l => { s with compiler := some l }
  | _ => none

def setAll (s : Settings) : List (String × Toml.Value) → Option Settings
  | [] => some s
  | (name, v) :: rest => (s.set? name v).bind fun s => setAll s rest

def ofValue? : Toml.Value → Option Settings
  | .table entries => setAll {} entries
  | .array items => setAll {} (names.zip items)
  | _ => none

/-- The settings of a file. Tables and keys besides `genred` are ignored. -/
def ofText? (text : String) : Option Settings :=
  match Toml.parse? text with
  | none => none
  | some entries =>
    match entries.find? fun e => e.1 = "genred" with
    | none => some {}
    | some (_, v) => ofValue? v

end Settings

end KernelForge
