import KernelForge.Config.Error
import KernelForge.Config.Settings
import KernelForge.Host.FileSystem

/-!
Configuration: environment variables first, then the settings of a file, then defaults.
-/
namespace KernelForge

/-- The environment: the value of each variable that is set. -/
abbrev Environment := String → Option String

structure Config where
  verbose : Bool
  buildMode : BuildMode
  artifactRoot : String
  gpuAvailable : Bool
  lockTimeout : Option UInt64
  compiler : Option GeneratorCommand
deriving DecidableEq, Repr

namespace Config

def fileName : String := "genred.toml"

def flag (key value : String) : Except ConfigError Bool :=
  let word := Text.lower (Text.trim value)
  if word ∈ ["1", "true", "yes", "on"] then .ok true
  else if word ∈ ["0", "false", "no", "off", ""] then .ok false
  else .error (.invalidValue key value .flag)

/-- A yes or no from a variable, else from the file, else no. -/
def flagOr (env : Environment) (key : String) (setting : Option Bool) : Except ConfigError Bool :=
  match env key with
  | some value => flag key value
  | none => .ok (setting.getD false)

def verboseOf (env : Environment) (s : Settings) : Except ConfigError Bool :=
  flagOr env "GENRED_VERBOSE" s.verbose

def buildModeOf (env : Environment) (s : Settings) : Except ConfigError BuildMode :=
  match (env "GENRED_BUILD_TYPE").or s.buildType with
  | some value =>
    match BuildMode.ofText? value with
    | some mode => .ok mode
    | none => .error (.invalidValue "GENRED_BUILD_TYPE" value .buildType)
  | none => .ok .release

/-- A variable that is set to something. -/
def nonEmpty (env : Environment) (key : String) : Option String :=
  (env key).filter fun v => v ≠ ""

/-- The folder for kernels when none is configured: below the user's cache folder, or else below the one
for temporary files. -/
def defaultRoot (env : Environment) (temporary : String) : String :=
  let base := match nonEmpty env "XDG_CACHE_HOME" with
    | some cache => cache
    | none =>
      match nonEmpty env "HOME" with
      | some home => Path.join home ".cache"
      | none => temporary
  Path.join base "genred-0.1.0"

def artifactRootOf (env : Environment) (temporary : String) (s : Settings) : String :=
  match (env "GENRED_BIN_FOLDER").filter fun v => !Text.isBlankText v with
  | some value => value
  | none => s.binFolder.getD (defaultRoot env temporary)

def gpuAvailableOf (env : Environment) (s : Settings) : Except ConfigError Bool :=
  flagOr env "GENRED_GPU_AVAILABLE" s.gpuAvailable

/-- How long to wait for a lock, in seconds. Zero stands for no limit. -/
def lockTimeoutOf (env : Environment) (s : Settings) : Except ConfigError (Option UInt64) :=
  match env "GENRED_LOCK_TIMEOUT_SECS" with
  | some value =>
    match Text.Numeral.word64? (Text.trim value).toList with
    | some n => .ok ((some n).filter fun n => 0 < n)
    | none => .error (.invalidValue "GENRED_LOCK_TIMEOUT_SECS" value .seconds)
  | none => .ok (s.lockTimeoutSecs.filter fun n => 0 < n)

def compilerOf (env : Environment) (s : Settings) : Except ConfigError (Option GeneratorCommand) :=
  match env "GENRED_COMPILER" with
  | some line =>
    match GeneratorCommand.parse? line with
    | some command => .ok (some command)
    | none => .error (.invalidValue "GENRED_COMPILER" line .commandLine)
  | none =>
    match s.compiler with
    | none => .ok none
    | some words =>
      match GeneratorCommand.ofWords? words with
      | some command => .ok (some command)
      | none => .error (.invalidValue "compiler" "[]" .programName)

/-- The configuration that an environment and the settings of a file give together. -/
def resolve (env : Environment) (temporary : String) (s : Settings) : Except ConfigError Config := do
  let verbose ← verboseOf env s
  let buildMode ← buildModeOf env s
  let gpuAvailable ← gpuAvailableOf env s
  let lockTimeout ← lockTimeoutOf env s
  let compiler ← compilerOf env s
  return ⟨verbose, buildMode, artifactRootOf env temporary s, gpuAvailable, lockTimeout, compiler⟩

/-- The variables that a configuration depends on. -/
def variableNames : List String :=
  ["GENRED_VERBOSE", "GENRED_BUILD_TYPE", "GENRED_BIN_FOLDER", "GENRED_GPU_AVAILABLE",
   "GENRED_LOCK_TIMEOUT_SECS", "GENRED_COMPILER", "XDG_CACHE_HOME", "HOME", "TMPDIR"]

/-- The folder for temporary files of an environment. -/
def temporaryFolder (env : Environment) : String :=
  (env "TMPDIR").getD "/tmp"

def ofEnvironment (env : Environment) : Except ConfigError Config :=
  resolve env (temporaryFolder env) {}

/-- The configuration of a file's text alone. -/
def ofText (text : String) : Except ConfigError Config :=
  match Settings.ofText? text with
  | none => .error .malformed
  | some s => resolve (fun _ => none) (temporaryFolder fun _ => none) s

def ofFile (env : Environment) (content : Except Fault String) : Except ConfigError Config :=
  match content with
  | .error fault => .error (.unreadable fault)
  | .ok text =>
    match Settings.ofText? text with
    | none => .error .malformed
    | some s => resolve env (temporaryFolder env) s

end Config

end KernelForge
