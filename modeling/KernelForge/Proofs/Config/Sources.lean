import KernelForge.Proofs.Config.Resolution
import Mathlib.Logic.Function.Basic

/-!
What errors of a configuration say of their source, and the two sources of a generator.

An error has a key and a value, which are those of a variable or of a setting, unless a build type is wrong
in the file: that one is reported under the name of the variable (`error_source`). A generator is a line in
the environment or a list of words in the file, and a line is cut into the words that its blanks divide
(`Text.wordsOf_lined`).
-/
namespace KernelForge

/-- The text of a setting, by its key. -/
def Settings.text? (s : Settings) : String → Option String
  | "verbose" => s.verbose.map fun b => if b then "true" else "false"
  | "build_type" => s.buildType
  | "bin_folder" => s.binFolder
  | "gpu_available" => s.gpuAvailable.map fun b => if b then "true" else "false"
  | "lock_timeout_secs" => s.lockTimeoutSecs.map fun n => Text.Numeral.text n.toNat
  | "compiler" => s.compiler.map fun words => "[" ++ ", ".intercalate (words.map fun w => "\"" ++ w ++ "\"") ++ "]"
  | _ => none

/-! ### Words of a line -/

namespace Text

/-- The lines of some words: there is a blank or more between two of them, and any number before and after
all. -/
inductive Lined : List String → List Char → Prop
  | last {word : String} {after : List Char} (hafter : ∀ c ∈ after, isBlank c = true) :
      Lined [word] (word.toList ++ after)
  | next {word : String} {words : List String} {b : Char} {line : List Char} (hb : isBlank b = true)
      (hline : Lined words line) : Lined (word :: words) (word.toList ++ b :: line)
  | blank {words : List String} {b : Char} {line : List Char} (hb : isBlank b = true) (hline : Lined words line) :
      Lined words (b :: line)

variable {cs line : List Char} {words : List String}

theorem wordsOf_blank {b : Char} (hb : isBlank b = true) (cs : List Char) : wordsOf (b :: cs) = wordsOf cs := by
  simp [wordsOf.eq_def (b :: cs), hb]

/-- A word ends where the line does or a blank follows. -/
theorem wordsOf_word (hne : cs ≠ []) (hsolid : ∀ c ∈ cs, isBlank c = false)
    (hend : ∀ c ∈ line.head?, isBlank c = true) :
    wordsOf (cs ++ line) = cs :: wordsOf line := by
  induction cs with
  | nil => exact absurd rfl hne
  | cons c cs ih =>
    obtain ⟨hc, hrest⟩ := List.forall_mem_cons.mp hsolid
    rw [List.cons_append, wordsOf.eq_def]
    simp only [hc, Bool.false_eq_true, if_false]
    cases cs with
    | nil =>
      cases line with
      | nil => rfl
      | cons d line => exact if_pos (hend d rfl)
    | cons d cs =>
      have hd : isBlank d = false := hrest d List.mem_cons_self
      have hmore := ih (by simp) hrest
      rw [List.cons_append] at hmore ⊢
      simp only [hd, Bool.false_eq_true, if_false, hmore]

theorem wordsOf_lined (h : Lined words line) (hwords : ∀ w ∈ words, w ≠ "" ∧ ∀ c ∈ w.toList, isBlank c = false) :
    wordsOf line = words.map String.toList := by
  induction h with
  | @last word after hafter =>
    obtain ⟨hne, hsolid⟩ := hwords word List.mem_cons_self
    rw [wordsOf_word (by simpa using hne) hsolid fun c hc => hafter c (List.mem_of_mem_head? hc),
      wordsOf_eq_nil_iff.mpr hafter]
    rfl
  | @next word words b line hb _ ih =>
    obtain ⟨⟨hne, hsolid⟩, hrest⟩ := List.forall_mem_cons.mp hwords
    rw [wordsOf_word (by simpa using hne) hsolid (by simpa using hb), wordsOf_blank hb, ih hrest]
    rfl
  | blank hb _ ih => rw [wordsOf_blank hb, ih hwords]

end Text

namespace GeneratorCommand

theorem parse?_eq_none_iff {line : String} : parse? line = none ↔ ∀ c ∈ line.toList, Text.isBlank c = true := by
  rw [← Text.wordsOf_eq_nil_iff, parse?, Text.words]
  cases Text.wordsOf line.toList <;> simp [ofWords?]

end GeneratorCommand

namespace Config

variable {env : Environment} {temporary : String} {s : Settings} {key value : String} {wanted : Wanted}

/-- A variable that is set, or a setting that is there, has a text. -/
def Carried (env : Environment) (s : Settings) (key value : String) : Prop :=
  env key = some value ∨ s.text? key = some value

/-- **Errors name their source**: a variable that is set or a setting that is there, with its text. Only a
build type that is wrong in the file is reported under the name of the variable, which is not set. -/
theorem error_source (h : resolve env temporary s = .error (.invalidValue key value wanted)) :
    Carried env s key value ∨ key = "GENRED_BUILD_TYPE" ∧ env key = none ∧ s.text? "build_type" = some value := by
  obtain ⟨_, f, _, _, hflawed, _⟩ := resolve_eq_error_iff.mp h
  cases f with
  | artifactRoot => cases hflawed
  | buildMode =>
    obtain ⟨text, hset | ⟨hnone, hfile⟩, _, ⟨⟩⟩ := hflawed
    · exact .inl (.inl hset)
    · exact .inr ⟨rfl, hnone, hfile⟩
  | compiler =>
    obtain ⟨text, hset, _, ⟨⟩⟩ | ⟨_, hfile, ⟨⟩⟩ := hflawed
    · exact .inl (.inl hset)
    · exact .inl (.inr (by simp [Settings.text?, hfile]))
  | _ =>
    obtain ⟨text, hset, _, ⟨⟩⟩ := hflawed
    exact .inl (.inl hset)

/-- A list without words is told as such, under the key of the file. -/
theorem error_source_wordless :
    resolve (fun _ => none) "/tmp" { compiler := some [] } = .error (.invalidValue "compiler" "[]" .programName) ∧
      Carried (fun _ => none) { compiler := some [] } "compiler" "[]" := by
  have h : resolve (fun _ => none) "/tmp" { compiler := some [] } =
      .error (.invalidValue "compiler" "[]" .programName) := rfl
  exact ⟨h, (error_source h).resolve_right (by simp)⟩

/-- A build type that is wrong in the file is said to be in a variable that is not set. -/
theorem build_type_misnamed :
    resolve (fun _ => none) "/tmp" { buildType := some "Fast" } =
        .error (.invalidValue "GENRED_BUILD_TYPE" "Fast" .buildType) ∧
      ¬Carried (fun _ => none) { buildType := some "Fast" } "GENRED_BUILD_TYPE" "Fast" :=
  ⟨rfl, by simp [Carried, Settings.text?]⟩

/-- The variable of the generator does not matter to the other fields. -/
theorem flawed_update {f : Field} {e : ConfigError} (hf : f ≠ .compiler) (line : Option String) :
    Flawed (Function.update env "GENRED_COMPILER" line) s e f ↔ Flawed env s e f := by
  cases f with
  | compiler => exact absurd rfl hf
  | _ => simp [Flawed, Function.update]

/-- A configuration whose generator is right resolves exactly if no other field is flawed. -/
theorem resolve_ok_iff {command : Option GeneratorCommand} (h : compilerOf env s = .ok command) :
    (∃ c, resolve env temporary s = .ok c) ↔ ∀ f ≠ Field.compiler, ∀ e, ¬Flawed env s e f := by
  refine ⟨fun ⟨c, hc⟩ f _ e => not_flawed_of_resolve hc f e, fun hnone => ?_⟩
  cases hresolve : resolve env temporary s with
  | ok c => exact ⟨c, rfl⟩
  | error e =>
    obtain ⟨_, f, _, _, hflawed, _⟩ := resolve_eq_error_iff.mp hresolve
    by_cases hf : f = .compiler
    · subst hf
      have hfails := (outcome_eq_error_iff temporary).mpr hflawed
      rw [Field.outcome, h] at hfails
      cases hfails
    · exact absurd hflawed (hnone f hf e)

/-- **A generator may be a line or a list of words.** A line of some words in the environment gives the same
configuration, or the same error, as the list of these words in the file. It gives one exactly if no other
field is flawed, and the generator is the first word then, with the others as its arguments. A line names no
generator exactly if it is blank. -/
theorem generator_sources (line : String) :
    (∀ (env : Environment) (temporary : String) (s : Settings) (program : String) (args : List String),
      (∀ w ∈ program :: args, w ≠ "" ∧ ∀ c ∈ w.toList, Text.isBlank c = false) →
      Text.Lined (program :: args) line.toList →
        resolve (Function.update env "GENRED_COMPILER" (some line)) temporary s =
          resolve (Function.update env "GENRED_COMPILER" none) temporary
            { s with compiler := some (program :: args) } ∧
        ((∃ c, resolve (Function.update env "GENRED_COMPILER" (some line)) temporary s = .ok c) ↔
          ∀ f ≠ Field.compiler, ∀ e, ¬Flawed env s e f) ∧
        ∀ c, resolve (Function.update env "GENRED_COMPILER" (some line)) temporary s = .ok c →
          c.compiler = some ⟨program, args⟩) ∧
    (GeneratorCommand.parse? line = none ↔ ∀ c ∈ line.toList, Text.isBlank c = true) := by
  refine ⟨fun env temporary s program args hwords hlined => ?_, GeneratorCommand.parse?_eq_none_iff⟩
  have hparse : GeneratorCommand.parse? line = some ⟨program, args⟩ := by
    rw [GeneratorCommand.parse?, Text.words, Text.wordsOf_lined hlined hwords]
    simp [GeneratorCommand.ofWords?]
  have hline : compilerOf (Function.update env "GENRED_COMPILER" (some line)) s = .ok (some ⟨program, args⟩) := by
    simp [compilerOf, hparse]
  refine ⟨resolve_congr fun f => ?_, (resolve_ok_iff hline).trans ?_, fun c h => ?_⟩
  · by_cases hf : f = .compiler
    · subst hf
      exact hline.trans (by simp [Field.outcome, compilerOf, GeneratorCommand.ofWords?])
    · refine Agrees.outcome ⟨?_, ?_, fun _ => by simp [Function.update]⟩
      · cases f <;> first | exact absurd rfl hf | simp [Field.key, Function.update]
      · cases f <;> first | exact absurd rfl hf | rfl
  · exact forall_congr' fun f => forall_congr' fun hf => forall_congr' fun e => not_congr (flawed_update hf _)
  · exact Except.ok.inj ((outcome_of_resolve h .compiler).symm.trans hline)

/-- A line with a wide blank and a tab. -/
theorem generator_sources_spread :
    resolve (Function.update (fun _ => none) "GENRED_COMPILER" (some " gen\u3000\t-x ")) "/tmp" {} =
      resolve (Function.update (fun _ => none) "GENRED_COMPILER" none) "/tmp" { compiler := some ["gen", "-x"] } ∧
    (∃ c, resolve (Function.update (fun _ => none) "GENRED_COMPILER" (some " gen\u3000\t-x ")) "/tmp" {} = .ok c ∧
      c.compiler = some ⟨"gen", ["-x"]⟩) ∧
    GeneratorCommand.parse? " \t" = none := by
  have hlast : Text.Lined ["-x"] ("-x".toList ++ [' ']) := .last (by simp [Text.isBlank, Text.blankRanges])
  have hlined : Text.Lined ["gen", "-x"] " gen\u3000\t-x ".toList :=
    .blank (by decide) (.next (by decide) (.blank (by decide) hlast))
  have hsolid : ∀ w ∈ ["gen", "-x"], w ≠ "" ∧ ∀ c ∈ w.toList, Text.isBlank c = false := by
    simp [Text.isBlank, Text.blankRanges]
  obtain ⟨hsame, hresolves, hcompiler⟩ :=
    (generator_sources " gen\u3000\t-x ").1 (fun _ => none) "/tmp" {} "gen" ["-x"] hsolid hlined
  obtain ⟨c, hc⟩ := hresolves.mpr fun f hf e hflawed => by cases f <;> simp [Flawed] at hf hflawed
  exact ⟨hsame, ⟨c, hc, hcompiler c hc⟩, (generator_sources " \t").2.mpr (by simp [Text.isBlank, Text.blankRanges])⟩

end Config

end KernelForge
