import KernelForge.Cli.Help
import KernelForge.Forge.Native

/-!
The command line: what a run prints, how it exits, and what it does to the files.
-/
namespace KernelForge.Cli

/-- What a run says: the lines of its output and of its progress, and the code it exits with. -/
structure Transcript where
  code : UInt32 := 0
  out : List String := []
  progress : List String := []
deriving DecidableEq, Repr

/-- Where a run happens: the variables it has, and the folder that relative paths are meant from. -/
structure Surroundings where
  vars : Program.Variables
  folder : List String

/-- The values of the variables. -/
def Surroundings.env (site : Surroundings) : Environment := fun name => site.vars.lookup name

inductive Failure where
  | config (error : ConfigError)
  | description (error : DescriptionError)
  | forge (error : ForgeError)
  | cache (error : CacheError)
  | notFingerprint (name : String)

def Failure.message : Failure → String
  | config error => error.message
  | description error => error.message
  | forge error => error.message
  | cache error => error.message
  | notFingerprint name => "not a kernel fingerprint: " ++ name

/-- How a command ended: the lines it put out, and those it said before that and before a failure. -/
structure Ending where
  host : Host
  progress : List String := []
  result : Except Failure (List String)

namespace Ending

def failed (host : Host) (failure : Failure) : Ending :=
  { host, result := .error failure }

def after (line : String) (e : Ending) : Ending :=
  { e with progress := line :: e.progress }

end Ending

/-! ### Configuration -/

/-- The configuration of a run: from the file that was named, else from the one in the folder if there is
one, else from the environment. -/
def configOf (r : Request) (site : Surroundings) (disk : Disk) : Except ConfigError Config :=
  match r.config with
  | some path => Config.ofFile site.env (disk.readText (Path.resolve site.folder path))
  | none =>
    let here := Path.resolve site.folder Config.fileName
    if disk.isFile here then Config.ofFile site.env (disk.readText here)
    else Config.ofEnvironment site.env

/-! ### Commands -/

def fingerprint (d : Description) (host : Host) : Ending :=
  match d.resolve with
  | .error e => .failed host (.description e)
  | .ok (spec, target) => { host, result := .ok [(Fingerprint.of spec target).name] }

/-- Builds a kernel whose cache and generator are known, unless it is published and may stay. -/
def buildWith (store : Store) (generator : Generator) (spec : KernelSpec) (target : Target) (force : Bool)
    (host : Host) : Ending :=
  let fp := Fingerprint.of spec target
  let fresh := if force || store.mode.alwaysRebuild then none else store.published? fp host.disk
  match fresh with
  | some p => { host, progress := ["      Fresh " ++ fp.name], result := .ok [p.library.text] }
  | none =>
    let build := if force then store.ensureBuiltForced else store.ensureBuilt
    Ending.after ("  Compiling " ++ spec.text) <|
      match build generator spec target fp host with
      | (host, .error e) => .failed host (.forge (.build e))
      | (host, .ok p) => { host, progress := ["   Finished " ++ fp.name], result := .ok [p.library.text] }

def build (config : Config) (site : Surroundings) (d : Description) (force : Bool) (host : Host) : Ending :=
  match config.generator site.vars with
  | .error e => .failed host (.forge e)
  | .ok generator =>
    match d.resolve with
    | .error e => .failed host (.description e)
    | .ok (spec, target) => buildWith (config.store site.folder) generator spec target force host

def line (p : Published) : String :=
  p.fingerprint.name ++ "  " ++ p.manifest.formula ++ "  [" ++ p.manifest.aliases ++ "]  " ++
    p.manifest.precision.name

def sortedRecord (fields : List (String × Json)) : Json :=
  .ofFields (fields.mergeSort fun a b => a.1 ≤ b.1)

def entry (p : Published) : Json :=
  sortedRecord
    [("location", .str p.location.text), ("library", .str p.library.text),
     ("manifest", sortedRecord p.manifest.fields)]

def list (config : Config) (folder : List String) (format : Format) (host : Host) : Ending :=
  let store := config.store folder
  match store.list host.disk with
  | .error e => .failed host (.cache e)
  | .ok kernels =>
    match format with
    | .text =>
      let progress := if kernels.isEmpty then ["no kernels in " ++ store.root.text] else []
      { host, progress, result := .ok (kernels.map line) }
    | .json => { host, result := .ok [(Json.array (kernels.map entry)).pretty] }

/-- Removes kernels one after another and stops at the first failure. -/
def removeEach (store : Store) : List Fingerprint → Host → Ending
  | [], host => { host, result := .ok [] }
  | fp :: rest, host =>
    match store.remove fp host with
    | (host, .error e) => .failed host (.forge (.build e))
    | (host, .ok removed) =>
      Ending.after ((if removed then "     Removed " else "     Missing ") ++ fp.name) (removeEach store rest host)

/-- The fingerprints with the given names; the first name that is none is refused. -/
def fingerprints : List String → Except Failure (List Fingerprint)
  | [] => .ok []
  | name :: rest =>
    match Fingerprint.ofDirectory? name with
    | none => .error (.notFingerprint name)
    | some fp => (fingerprints rest).map (fp :: ·)

def clean (config : Config) (folder : List String) (names : List String) (host : Host) : Ending :=
  let store := config.store folder
  match names with
  | [] =>
    match store.clean host with
    | (host, .error e) => .failed host (.forge (.build e))
    | (host, .ok n) =>
      { host, progress := ["     Removed " ++ Text.Numeral.text n ++ " kernel(s)"], result := .ok [] }
  | names =>
    match fingerprints names with
    | .error e => .failed host e
    | .ok fps => removeEach store fps host

def perform (r : Request) (site : Surroundings) (host : Host) : Ending :=
  match r.command with
  | .fingerprint d => fingerprint d host
  | command =>
    match configOf r site host.disk with
    | .error e => .failed host (.config e)
    | .ok config =>
      match command with
      | .fingerprint d => fingerprint d host
      | .build d force => build config site d force host
      | .list format => list config site.folder format host
      | .clean names => clean config site.folder names host

/-! ### Runs -/

def versionLine : String := "genred " ++ Manifest.currentTool

def usageLine : String := "Usage: genred [OPTIONS] <COMMAND>"

/-- What a run says about how it ended. Progress is not told when quiet was asked for. -/
def Ending.transcript (quiet : Bool) (e : Ending) : Transcript :=
  let progress := if quiet then [] else e.progress
  match e.result with
  | .ok out => { out, progress }
  | .error failure => { code := 1, progress := progress ++ ["error: " ++ failure.message] }

def run (site : Surroundings) (words : List String) (host : Host) : Host × Transcript :=
  match Request.parse words with
  | .error .version => (host, { out := [versionLine] })
  | .error (.help topic brief) => (host, { out := (topic.page brief).lines brief })
  | .error .usage => (host, { code := 2, progress := [usageLine] })
  | .ok request =>
    let ending := perform request site host
    (ending.host, ending.transcript request.quiet)

end KernelForge.Cli
