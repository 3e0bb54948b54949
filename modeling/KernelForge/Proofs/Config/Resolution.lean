import KernelForge.Config
import KernelForge.Proofs.Text.Numeral

/-!
Where the fields of a configuration come from.

Each field has a variable and a setting of its own, and what comes of it (`Field.outcome`) is read off these
two (`Agrees.outcome`). Where the variable is set, the setting is not looked at (`Masks.outcome`). A
configuration is what comes of all fields (`outcome_of_resolve`), and an error is that of the first field
whose source is flawed (`resolve_eq_error_iff`). `resolve_by_field` puts this together.
-/
namespace KernelForge

theorem Text.wordsOf_eq_nil_iff {cs : List Char} : wordsOf cs = [] ↔ ∀ c ∈ cs, isBlank c = true := by
  induction cs with
  | nil => simp [wordsOf]
  | cons c rest ih =>
    unfold wordsOf
    rw [List.forall_mem_cons]
    split
    · next hc => simp [ih, hc]
    · next hc =>
      simp only [hc, Bool.false_eq_true, false_and, iff_false]
      split
      · simp
      · split
        · simp
        · split <;> simp

namespace Config

inductive Field where
  | verbose
  | buildMode
  | artifactRoot
  | gpuAvailable
  | lockTimeout
  | compiler
deriving DecidableEq

namespace Field

/-- The fields that can be wrong, in the order in which they are read. -/
def checked : List Field := [verbose, buildMode, gpuAvailable, lockTimeout, compiler]

def key : Field → String
  | verbose => "GENRED_VERBOSE"
  | buildMode => "GENRED_BUILD_TYPE"
  | artifactRoot => "GENRED_BIN_FOLDER"
  | gpuAvailable => "GENRED_GPU_AVAILABLE"
  | lockTimeout => "GENRED_LOCK_TIMEOUT_SECS"
  | compiler => "GENRED_COMPILER"

abbrev Setting : Field → Type
  | verbose | gpuAvailable => Option Bool
  | buildMode | artifactRoot => Option String
  | lockTimeout => Option UInt64
  | compiler => Option (List String)

def setting (s : Settings) : (f : Field) → f.Setting
  | verbose => s.verbose
  | buildMode => s.buildType
  | artifactRoot => s.binFolder
  | gpuAvailable => s.gpuAvailable
  | lockTimeout => s.lockTimeoutSecs
  | compiler => s.compiler

abbrev Value : Field → Type
  | verbose | gpuAvailable => Bool
  | buildMode => BuildMode
  | artifactRoot => String
  | lockTimeout => Option UInt64
  | compiler => Option GeneratorCommand

def value (c : Config) : (f : Field) → f.Value
  | verbose => c.verbose
  | buildMode => c.buildMode
  | artifactRoot => c.artifactRoot
  | gpuAvailable => c.gpuAvailable
  | lockTimeout => c.lockTimeout
  | compiler => c.compiler

/-- What comes of a field. -/
def outcome (env : Environment) (temporary : String) (s : Settings) : (f : Field) → Except ConfigError f.Value
  | verbose => verboseOf env s
  | buildMode => buildModeOf env s
  | artifactRoot => .ok (artifactRootOf env temporary s)
  | gpuAvailable => gpuAvailableOf env s
  | lockTimeout => lockTimeoutOf env s
  | compiler => compilerOf env s

/-- The variable of a field is set, for the root to something that is not blank. -/
def Masks (env : Environment) : Field → Prop
  | artifactRoot => ∃ text, env artifactRoot.key = some text ∧ ∃ c ∈ text.toList, Text.isBlank c = false
  | f => ∃ text, env f.key = some text

end Field

/-- The words for yes and no, and nothing at all, with any padding and case. -/
def IsFlag (text : String) : Prop :=
  Text.lower (Text.trim text) ∈ ["1", "true", "yes", "on", "0", "false", "no", "off", ""]

/-- Two environments and settings give a field the same sources. The root has more of them than its variable
and setting. -/
structure Agrees (f : Field) (env env' : Environment) (temporary temporary' : String) (s s' : Settings) : Prop where
  key : env f.key = env' f.key
  setting : f.setting s = f.setting s'
  fallback : f = .artifactRoot →
    env "XDG_CACHE_HOME" = env' "XDG_CACHE_HOME" ∧ env "HOME" = env' "HOME" ∧ temporary = temporary'

/-- What is wrong with the source of a field: its variable if that is set, and else its setting. -/
def Flawed (env : Environment) (s : Settings) (e : ConfigError) : Field → Prop
  | .verbose => ∃ text, env "GENRED_VERBOSE" = some text ∧ ¬IsFlag text ∧
    e = .invalidValue "GENRED_VERBOSE" text .flag
  | .buildMode => ∃ text,
    (env "GENRED_BUILD_TYPE" = some text ∨ env "GENRED_BUILD_TYPE" = none ∧ s.buildType = some text) ∧
      Text.lower (Text.trim text) ∉ ["release", "debug"] ∧ e = .invalidValue "GENRED_BUILD_TYPE" text .buildType
  | .artifactRoot => False
  | .gpuAvailable => ∃ text,
    env "GENRED_GPU_AVAILABLE" = some text ∧ ¬IsFlag text ∧ e = .invalidValue "GENRED_GPU_AVAILABLE" text .flag
  | .lockTimeout => ∃ text, env "GENRED_LOCK_TIMEOUT_SECS" = some text ∧
    (∀ n : UInt64, ¬Text.Numeral.IsNumeral (Text.trim text).toList n.toNat) ∧
      e = .invalidValue "GENRED_LOCK_TIMEOUT_SECS" text .seconds
  | .compiler =>
    (∃ text, env "GENRED_COMPILER" = some text ∧ (∀ c ∈ text.toList, Text.isBlank c = true) ∧
      e = .invalidValue "GENRED_COMPILER" text .commandLine) ∨
    env "GENRED_COMPILER" = none ∧ s.compiler = some [] ∧ e = .invalidValue "compiler" "[]" .programName

section Fields

variable {env env' : Environment} {temporary temporary' : String} {s s' : Settings} {f : Field} {e : ConfigError}

theorem Agrees.outcome (h : Agrees f env env' temporary temporary' s s') :
    f.outcome env temporary s = f.outcome env' temporary' s' := by
  obtain ⟨hkey, hsetting, hfallback⟩ := h
  cases f with
  | artifactRoot =>
    obtain ⟨hcache, hhome, rfl⟩ := hfallback rfl
    simp only [Field.key, Field.setting] at hkey hsetting
    simp only [Field.outcome, artifactRootOf, defaultRoot, nonEmpty, hkey, hsetting, hcache, hhome]
  | _ =>
    simp only [Field.key, Field.setting] at hkey hsetting
    simp only [Field.outcome, verboseOf, gpuAvailableOf, flagOr, buildModeOf, lockTimeoutOf, compilerOf,
      hkey, hsetting]

theorem Field.Masks.outcome (h : f.Masks env) : f.outcome env temporary s = f.outcome env temporary s' := by
  cases f with
  | artifactRoot =>
    obtain ⟨text, hset, c, hc, hsolid⟩ := h
    have hblank : Text.isBlankText text = false := by
      rw [Text.isBlankText, List.all_eq_false]
      exact ⟨c, hc, by simp [hsolid]⟩
    simp only [Field.key] at hset
    simp [Field.outcome, artifactRootOf, hset, Option.filter, hblank]
  | _ =>
    obtain ⟨text, hset⟩ := h
    simp only [Field.key] at hset
    simp only [Field.outcome, verboseOf, gpuAvailableOf, flagOr, buildModeOf, lockTimeoutOf, compilerOf,
      hset, Option.or]

theorem flagOr_eq_error_iff {key : String} {setting : Option Bool} : flagOr env key setting = .error e ↔
    ∃ text, env key = some text ∧ ¬IsFlag text ∧ e = .invalidValue key text .flag := by
  unfold flagOr
  cases env key with
  | none => simp
  | some text =>
    simp only [flag, IsFlag]
    grind

/-- **A field fails exactly if its source is flawed.** -/
theorem outcome_eq_error_iff (temporary : String) : f.outcome env temporary s = .error e ↔ Flawed env s e f := by
  cases f with
  | verbose => exact flagOr_eq_error_iff
  | gpuAvailable => exact flagOr_eq_error_iff
  | artifactRoot => simp [Field.outcome, Flawed]
  | buildMode =>
    simp only [Field.outcome, buildModeOf, Flawed, ← Option.or_eq_some_iff]
    cases (env "GENRED_BUILD_TYPE").or s.buildType with
    | none => simp
    | some text =>
      simp only [BuildMode.ofText?]
      grind
  | lockTimeout =>
    simp only [Field.outcome, lockTimeoutOf, Flawed]
    cases env "GENRED_LOCK_TIMEOUT_SECS" with
    | none => simp
    | some text =>
      simp only [← Text.Numeral.word64?_eq_some_iff]
      cases hread : Text.Numeral.word64? (Text.trim text).toList <;> simp [hread, @eq_comm _ e]
  | compiler =>
    simp only [Field.outcome, compilerOf, Flawed]
    cases env "GENRED_COMPILER" with
    | none =>
      cases s.compiler with
      | none => simp
      | some words => cases words <;> simp [GeneratorCommand.ofWords?, @eq_comm _ e]
    | some text =>
      simp only [← Text.wordsOf_eq_nil_iff, GeneratorCommand.parse?, Text.words]
      cases hread : Text.wordsOf text.toList <;> simp [GeneratorCommand.ofWords?, hread, @eq_comm _ e]

/-! ### All fields -/

theorem resolve_congr (h : ∀ f, Field.outcome env temporary s f = Field.outcome env' temporary' s' f) :
    resolve env temporary s = resolve env' temporary' s' := by
  have hroot : artifactRootOf env temporary s = artifactRootOf env' temporary' s' := Except.ok.inj (h .artifactRoot)
  simp only [resolve, hroot, show verboseOf env s = verboseOf env' s' from h .verbose,
    show buildModeOf env s = buildModeOf env' s' from h .buildMode,
    show gpuAvailableOf env s = gpuAvailableOf env' s' from h .gpuAvailable,
    show lockTimeoutOf env s = lockTimeoutOf env' s' from h .lockTimeout,
    show compilerOf env s = compilerOf env' s' from h .compiler]

/-- The error of a field that fails. -/
def Field.error? (env : Environment) (temporary : String) (s : Settings) (f : Field) : Option ConfigError :=
  match f.outcome env temporary s with
  | .error e => some e
  | .ok _ => none

theorem error?_eq_some_iff : f.error? env temporary s = some e ↔ Flawed env s e f := by
  rw [← outcome_eq_error_iff temporary, Field.error?]
  cases f.outcome env temporary s <;> simp

/-- Either the first field that fails is reported, or what comes of every field is in the configuration. -/
theorem resolve_cases (env : Environment) (temporary : String) (s : Settings) :
    (∃ e, Field.checked.findSome? (Field.error? env temporary s) = some e ∧ resolve env temporary s = .error e) ∨
      ∃ c, resolve env temporary s = .ok c ∧ ∀ f, Field.outcome env temporary s f = .ok (f.value c) := by
  simp only [Field.checked, List.findSome?, Field.error?, Field.outcome, resolve, bind, Except.bind]
  cases hverbose : verboseOf env s with
  | error e => exact .inl ⟨e, rfl, rfl⟩
  | ok verbose =>
    cases hmode : buildModeOf env s with
    | error e => exact .inl ⟨e, rfl, rfl⟩
    | ok mode =>
      cases hgpu : gpuAvailableOf env s with
      | error e => exact .inl ⟨e, rfl, rfl⟩
      | ok gpu =>
        cases htimeout : lockTimeoutOf env s with
        | error e => exact .inl ⟨e, rfl, rfl⟩
        | ok timeout =>
          cases hcompiler : compilerOf env s with
          | error e => exact .inl ⟨e, rfl, rfl⟩
          | ok compiler =>
            refine .inr ⟨_, rfl, fun f => ?_⟩
            cases f <;> rfl

theorem outcome_of_resolve {c : Config} (h : resolve env temporary s = .ok c) (f : Field) :
    f.outcome env temporary s = .ok (f.value c) := by
  rcases resolve_cases env temporary s with ⟨e, _, he⟩ | ⟨c', hc, hall⟩
  · rw [he] at h
    cases h
  · obtain rfl := Except.ok.inj (h.symm.trans hc)
    exact hall f

theorem not_flawed_of_resolve {c : Config} (h : resolve env temporary s = .ok c) (f : Field) (e : ConfigError) :
    ¬Flawed env s e f := by
  rw [← outcome_eq_error_iff temporary, outcome_of_resolve h f]
  nofun

/-- **The first field that is flawed is reported.** -/
theorem resolve_eq_error_iff : resolve env temporary s = .error e ↔ ∃ before f after,
    Field.checked = before ++ f :: after ∧ Flawed env s e f ∧ ∀ g ∈ before, ∀ e', ¬Flawed env s e' g := by
  have hfirst : Field.checked.findSome? (Field.error? env temporary s) = some e ↔ ∃ before f after,
      Field.checked = before ++ f :: after ∧ Flawed env s e f ∧ ∀ g ∈ before, ∀ e', ¬Flawed env s e' g := by
    simp only [List.findSome?_eq_some_iff, Option.eq_none_iff_forall_ne_some, ne_eq, error?_eq_some_iff]
  rcases resolve_cases env temporary s with ⟨e', hfound, he⟩ | ⟨c, hc, _⟩
  · rw [← hfirst, hfound, he, Option.some.injEq, Except.error.injEq]
  · rw [hc]
    refine ⟨nofun, fun ⟨_, f, _, _, hflawed, _⟩ => absurd hflawed (not_flawed_of_resolve hc f e)⟩

theorem lockTimeoutOf_ne_zero : lockTimeoutOf env s ≠ .ok (some 0) := by
  have hpositive (o : Option UInt64) : o.filter (fun n => 0 < n) ≠ some 0 := by
    simp [Option.filter_eq_some_iff]
  unfold lockTimeoutOf
  split
  · split <;> simp [hpositive]
  · simp [hpositive]

end Fields

/-- **A configuration is resolved field by field, the environment first.** A field is the same wherever its
own variable and setting are, and where the variable is set, the setting does not matter, not even a flawed
one. An error is that of the first field whose source is flawed. A limit for waiting is never zero. -/
theorem resolve_by_field :
    (∀ (f : Field) env env' temporary temporary' s s' c c', resolve env temporary s = .ok c →
      resolve env' temporary' s' = .ok c' → Agrees f env env' temporary temporary' s s' → f.value c = f.value c') ∧
    (∀ (f : Field) env temporary s s', f.Masks env → (∀ g : Field, g ≠ f → g.setting s = g.setting s') →
      resolve env temporary s = resolve env temporary s') ∧
    (∀ env temporary s, (∃ e, resolve env temporary s = .error e) ↔ ∃ f e, Flawed env s e f) ∧
    (∀ env temporary s e, resolve env temporary s = .error e ↔
      ∃ before f after, Field.checked = before ++ f :: after ∧ Flawed env s e f ∧
        ∀ g ∈ before, ∀ e', ¬Flawed env s e' g) ∧
    ∀ env temporary s c, resolve env temporary s = .ok c → c.lockTimeout ≠ some 0 := by
  refine ⟨fun f env env' temporary temporary' s s' c c' h h' hagrees => ?_,
    fun f env temporary s s' hmasks hothers => resolve_congr fun g => ?_, fun env temporary s => ⟨?_, ?_⟩,
    fun env temporary s e => resolve_eq_error_iff, fun env temporary s c h hzero => ?_⟩
  · have hvalue := hagrees.outcome
    rw [outcome_of_resolve h, outcome_of_resolve h'] at hvalue
    exact Except.ok.inj hvalue
  · by_cases hg : g = f
    · rw [hg]
      exact hmasks.outcome
    · exact Agrees.outcome ⟨rfl, hothers g hg, fun _ => ⟨rfl, rfl, rfl⟩⟩
  · rintro ⟨e, h⟩
    obtain ⟨_, f, _, _, hflawed, _⟩ := resolve_eq_error_iff.mp h
    exact ⟨f, e, hflawed⟩
  · rintro ⟨f, e, hflawed⟩
    cases h : resolve env temporary s with
    | error e' => exact ⟨e', rfl⟩
    | ok c => exact absurd hflawed (not_flawed_of_resolve h f e)
  · have htimeout := outcome_of_resolve h .lockTimeout
    exact lockTimeoutOf_ne_zero (htimeout.trans (congrArg Except.ok hzero))

/-- An environment that asks for debugging. -/
def debugging : Environment := fun key => if key = "GENRED_BUILD_TYPE" then some "Debug" else none

/-- A build type in the environment hides a flawed one in the file. Where it does not, the flawed one is
reported, before a command that is flawed, too. -/
theorem resolve_by_field_debugging : ∃ c c',
    resolve debugging "/tmp" { buildType := some "Fast" } = .ok c ∧
      resolve debugging "" { verbose := some true, buildType := some "Fast" } = .ok c' ∧
      c.buildMode = c'.buildMode ∧
      resolve debugging "/tmp" {} = .ok c ∧ c.lockTimeout ≠ some 0 ∧
      resolve (fun _ => none) "" { buildType := some "Fast", compiler := some [] } =
        .error (.invalidValue "GENRED_BUILD_TYPE" "Fast" .buildType) := by
  obtain ⟨hsame, hmasks, _, hfirst, hlimit⟩ := resolve_by_field
  have hfast : resolve debugging "/tmp" { buildType := some "Fast" } =
      .ok ⟨false, .debug, "/tmp/genred-0.1.0", false, none, none⟩ := rfl
  have hloud : resolve debugging "" { verbose := some true, buildType := some "Fast" } =
      .ok ⟨true, .debug, "genred-0.1.0", false, none, none⟩ := rfl
  have hmasked : resolve debugging "/tmp" { buildType := some "Fast" } = resolve debugging "/tmp" {} := by
    refine hmasks .buildMode _ _ _ _ ⟨"Debug", rfl⟩ fun g hg => ?_
    cases g <;> first | rfl | exact absurd rfl hg
  refine ⟨_, _, hfast, hloud, hsame .buildMode _ _ _ _ _ _ _ _ hfast hloud ⟨rfl, rfl, nofun⟩,
    hmasked.symm.trans hfast, hlimit _ _ _ _ hfast, ?_⟩
  refine (hfirst _ _ _ _).mpr
    ⟨[.verbose], .buildMode, _, rfl, ⟨"Fast", .inr ⟨rfl, rfl⟩, by decide +kernel, rfl⟩, ?_⟩
  intro g hg e hflawed
  obtain rfl := List.mem_singleton.mp hg
  obtain ⟨_, hset, _⟩ := hflawed
  cases hset

end Config

end KernelForge
