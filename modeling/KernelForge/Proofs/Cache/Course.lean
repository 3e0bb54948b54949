import KernelForge.Cache.Store

/-!
The course of a build.

`Course` has every step from one stage of a build to the next. A build that has not yet come to the removal
of outputs comes nearer to it with each step, unless it waits for the lock (`Course.early`), and after that
it comes nearer to its end (`Course.late`). So a build that runs with nobody else around is over when it has
made all its steps, unless it waits for the lock (`run_over`); and wherever it is over, more steps change
nothing (`run_eq_of_steps`).
-/
namespace KernelForge

namespace Stage

/-- The steps that a build is away from the removal of outputs, at most. -/
def early : Stage → Nat
  | .arrive => 5
  | .lock => 4
  | .recheck => 3
  | .unpublish => 2
  | .survey => 1
  | _ => 0

/-- The steps that a build is away from its end, at most, once it has come to the removal of outputs. -/
def late : Stage → Nat
  | .clear pending _ => pending.length + 7
  | .generate => 6
  | .digest _ => 5
  | .place _ _ => 4
  | .draft _ => 3
  | .publish _ => 2
  | .release _ => 1
  | _ => 0

/-- The stages in which a build can fail under the lock. -/
def canFail : Stage → Bool
  | .unpublish | .survey | .clear (_ :: _) _ | .generate | .digest _ | .place _ _ | .draft _ | .publish _ => true
  | _ => false

end Stage

/-- The steps of a build from stage to stage. -/
inductive Course (l : Location) (spec : KernelSpec) (target : Target) (force : Bool) : Stage → Stage → Prop
  | makes : Course l spec target force .arrive .lock
  | stops (e : BuildError) : Course l spec target force .arrive (.done (.error e))
  | waits : Course l spec target force .lock .lock
  | refused (e : BuildError) : Course l spec target force .lock (.done (.error e))
  | enters (plain : force = false) : Course l spec target force .lock .recheck
  | forces (forced : force = true) : Course l spec target force .lock .unpublish
  | finds (p : Published) : Course l spec target force .recheck (.release (.ok (.published p)))
  | misses : Course l spec target force .recheck .unpublish
  | unpublishes : Course l spec target force .unpublish .survey
  | surveys (pending : List (List String)) (outputs : Nat) :
      Course l spec target force .survey (Visit.clearing (.build spec target force) pending outputs)
  | clears (key : List String) (pending : List (List String)) (outputs : Nat) :
      Course l spec target force (.clear (key :: pending) outputs)
        (Visit.clearing (.build spec target force) pending outputs)
  | cleared (outputs : Nat) : Course l spec target force (.clear [] outputs) .generate
  | generates (library : Place) : Course l spec target force .generate (.digest library)
  | digests (library : Place) (checksum : Digest) :
      Course l spec target force (.digest library) (.place library checksum)
  | places (library : Place) (checksum : Digest) :
      Course l spec target force (.place library checksum) (.draft (Visit.manifestFor l spec target checksum))
  | drafts (m : Manifest) : Course l spec target force (.draft m) (.publish m)
  | publishes (m : Manifest) :
      Course l spec target force (.publish m) (.release (.ok (.published ⟨l.folder, m⟩)))
  | fails (stage : Stage) (e : BuildError) (can : stage.canFail = true) :
      Course l spec target force stage (.release (.error e))
  | leaves (r : Except BuildError Yield) : Course l spec target force (.release r) (.done r)
  | rests (r : Except BuildError Yield) : Course l spec target force (.done r) (.done r)

namespace Visit

variable {v : Visit} {spec : KernelSpec} {target : Target} {force : Bool}

theorem course_of_step (generator : Generator) (host : Host) (herrand : v.errand = .build spec target force) :
    Course v.location spec target force v.stage (v.step generator host).2.stage ∧
      (v.step generator host).2.location = v.location ∧
      (v.step generator host).2.errand = .build spec target force := by
  unfold Visit.step
  cases hstage : v.stage with
  | arrive =>
    simp only [herrand]
    split
    · exact ⟨.makes, rfl, herrand⟩
    · exact ⟨.stops _, rfl, herrand⟩
  | lock =>
    simp only [herrand]
    split
    · exact ⟨.refused _, rfl, herrand⟩
    · split
      · exact ⟨.refused _, rfl, herrand⟩
      · dsimp only
        rw [hstage]
        exact ⟨.waits, rfl, herrand⟩
    · cases force with
      | false => exact ⟨.enters rfl, rfl, rfl⟩
      | true => exact ⟨.forces rfl, rfl, rfl⟩
  | recheck =>
    dsimp only
    split
    · exact ⟨.finds _, rfl, herrand⟩
    · exact ⟨.misses, rfl, herrand⟩
  | unpublish =>
    dsimp only
    split
    · exact ⟨.unpublishes, rfl, herrand⟩
    · exact ⟨.fails _ _ rfl, rfl, herrand⟩
  | survey =>
    simp only [herrand]
    split
    · exact ⟨.surveys _ _, rfl, herrand⟩
    · exact ⟨.fails _ _ rfl, rfl, herrand⟩
  | clear pending outputs =>
    cases pending with
    | nil =>
      simp only [herrand]
      exact ⟨.cleared outputs, rfl, herrand⟩
    | cons key pending =>
      simp only [herrand]
      split
      · exact ⟨.clears key pending outputs, rfl, herrand⟩
      · exact ⟨.fails _ _ rfl, rfl, herrand⟩
  | generate =>
    simp only [herrand]
    split
    · exact ⟨.generates _, rfl, herrand⟩
    · exact ⟨.fails _ _ rfl, rfl, herrand⟩
  | digest library =>
    dsimp only
    split
    · exact ⟨.digests _ _, rfl, herrand⟩
    · exact ⟨.fails _ _ rfl, rfl, herrand⟩
  | place library checksum =>
    simp only [herrand]
    split
    · exact ⟨.places _ _, rfl, herrand⟩
    · exact ⟨.fails _ _ rfl, rfl, herrand⟩
  | draft m =>
    dsimp only
    split
    · exact ⟨.drafts m, rfl, herrand⟩
    · exact ⟨.fails _ _ rfl, rfl, herrand⟩
  | publish m =>
    dsimp only
    split
    · exact ⟨.publishes m, rfl, herrand⟩
    · exact ⟨.fails _ _ rfl, rfl, herrand⟩
  | release r =>
    dsimp only
    split <;> exact ⟨.leaves r, rfl, herrand⟩
  | done r =>
    dsimp only
    rw [hstage]
    exact ⟨.rests r, rfl, herrand⟩

end Visit

namespace Course

variable {l : Location} {spec : KernelSpec} {target : Target} {force : Bool} {stage stage' : Stage}

theorem early_clearing (pending : List (List String)) (outputs : Nat) :
    (Visit.clearing (.build spec target force) pending outputs).early = 0 ∧
      (Visit.clearing (.build spec target force) pending outputs).late ≤ pending.length + 7 := by
  cases pending with
  | nil => exact ⟨rfl, Nat.le_succ 6⟩
  | cons key pending => exact ⟨rfl, Nat.le_refl _⟩

/-- A build comes nearer to the removal of outputs, or waits for the lock. -/
theorem early (h : Course l spec target force stage stage') :
    stage'.early < stage.early ∨ (stage = .lock ∧ stage' = .lock) ∨ (stage.early = 0 ∧ stage'.early = 0) := by
  cases h with
  | waits => exact .inr (.inl ⟨rfl, rfl⟩)
  | surveys pending outputs => exact .inl ((early_clearing pending outputs).1 ▸ by decide)
  | clears key pending outputs => exact .inr (.inr ⟨rfl, (early_clearing pending outputs).1⟩)
  | fails stage e =>
    rcases Nat.eq_zero_or_pos stage.early with hzero | hpos
    · exact .inr (.inr ⟨hzero, rfl⟩)
    · exact .inl hpos
  | makes | stops | refused | enters | forces | finds | misses | unpublishes => exact .inl (by simp [Stage.early])
  | _ => exact .inr (.inr ⟨rfl, rfl⟩)

/-- A build past that comes nearer to its end. -/
theorem late (h : Course l spec target force stage stage') (hpast : stage.early = 0) :
    stage'.late < stage.late ∨ stage.late = 0 := by
  cases h with
  | clears key pending outputs =>
    refine .inl (Nat.lt_of_le_of_lt (early_clearing pending outputs).2 ?_)
    simp [Stage.late]
  | fails stage e can =>
    cases stage with
    | clear | generate | digest | place | draft | publish => exact .inl (by simp [Stage.late])
    | unpublish | survey => cases hpast
    | _ => cases can
  | cleared | generates | digests | places | drafts | publishes | leaves => exact .inl (by simp [Stage.late])
  | rests r => exact .inr rfl
  | _ => cases hpast

theorem done_of_late (h : stage.early = 0) (hlate : stage.late = 0) : ∃ r, stage = .done r := by
  cases stage with
  | done r => exact ⟨r, rfl⟩
  | arrive | lock | recheck | unpublish | survey => cases h
  | _ => cases hlate

end Course

namespace Visit

variable {generator : Generator} {host : Host} {v : Visit} {spec : KernelSpec} {target : Target} {force : Bool}
  {r : Except BuildError Yield} {n : Nat}

/-! ### Running alone -/

theorem steps_succ (generator : Generator) (n : Nat) (host : Host) (v : Visit) :
    steps generator (n + 1) host v = steps generator n (v.step generator host).1 (v.step generator host).2 := rfl

theorem steps_add (generator : Generator) (m n : Nat) (host : Host) (v : Visit) :
    steps generator (m + n) host v = steps generator n (steps generator m host v).1
      (steps generator m host v).2 := by
  induction m generalizing host v with
  | zero => rw [Nat.zero_add]; rfl
  | succ m ih =>
    rw [Nat.succ_add, steps_succ, steps_succ]
    exact ih _ _

/-- A visit that does not move stays where it is. -/
theorem steps_fixed (h : v.step generator host = (host, v)) (n : Nat) : steps generator n host v = (host, v) := by
  induction n with
  | zero => rfl
  | succ n ih =>
    rw [steps_succ, h]
    exact ih

theorem steps_done (h : v.stage = .done r) (n : Nat) : steps generator n host v = (host, v) := by
  refine steps_fixed ?_ n
  unfold Visit.step
  rw [h]

/-- What holds of a visit and is kept by each step holds after all of them. -/
theorem steps_induct (P : Host → Visit → Prop)
    (hstep : ∀ host v, P host v → P (v.step generator host).1 (v.step generator host).2) (h : P host v) (n : Nat) :
    P (steps generator n host v).1 (steps generator n host v).2 := by
  induction n generalizing host v with
  | zero => exact h
  | succ n ih => exact ih (hstep host v h)

theorem run_eq_steps (generator : Generator) (host : Host) (v : Visit) :
    v.run generator host = steps generator (5 + (steps generator 5 host v).2.pending + 7) host v := by
  rw [steps_add generator (5 + _) 7, steps_add generator 5]
  rfl

theorem run_eq_steps_two (generator : Generator) (host : Host) (v : Visit) :
    ∃ n, v.run generator host = steps generator n (steps generator 2 host v).1 (steps generator 2 host v).2 := by
  refine ⟨3 + (steps generator 5 host v).2.pending + 7, ?_⟩
  rw [run_eq_steps, ← steps_add]
  congr 1
  omega

/-- A build keeps to its course. -/
theorem course_steps (herrand : v.errand = .build spec target force) (n : Nat) :
    (steps generator n host v).2.location = v.location ∧
      (steps generator n host v).2.errand = .build spec target force := by
  refine steps_induct (fun _ w => w.location = v.location ∧ w.errand = .build spec target force) ?_ ⟨rfl, herrand⟩ n
  rintro host w ⟨hlocation, hw⟩
  obtain ⟨_, hsame, herrand'⟩ := w.course_of_step generator host hw
  exact ⟨hsame.trans hlocation, herrand'⟩

/-- A build that has the lock comes to the removal of outputs. -/
theorem early_steps (herrand : v.errand = .build spec target force) (hinside : v.stage.early ≤ 3)
    (hn : v.stage.early ≤ n) : (steps generator n host v).2.stage.early = 0 := by
  induction n generalizing host v with
  | zero => exact Nat.le_zero.mp hn
  | succ n ih =>
    obtain ⟨hcourse, _, herrand'⟩ := v.course_of_step generator host herrand
    rw [steps_succ]
    rcases hcourse.early with hless | ⟨hlock, _⟩ | ⟨_, hzero⟩
    · exact ih herrand' (Nat.le_of_lt (Nat.lt_of_lt_of_le hless hinside))
        (Nat.le_of_lt_succ (Nat.lt_of_lt_of_le hless hn))
    · rw [hlock] at hinside
      exact absurd hinside (by decide)
    · exact ih herrand' (hzero ▸ Nat.zero_le 3) (hzero ▸ Nat.zero_le n)

/-- A build past that comes to its end. -/
theorem late_steps (herrand : v.errand = .build spec target force) (hpast : v.stage.early = 0)
    (hn : v.stage.late ≤ n) :
    ∃ r, (steps generator n host v).2.stage = .done r := by
  induction n generalizing host v with
  | zero => exact Course.done_of_late hpast (Nat.le_zero.mp hn)
  | succ n ih =>
    obtain ⟨hcourse, _, herrand'⟩ := v.course_of_step generator host herrand
    have hpast' : (v.step generator host).2.stage.early = 0 := by
      rcases hcourse.early with hless | ⟨hlock, _⟩ | ⟨_, hzero⟩
      · exact absurd hless (hpast ▸ Nat.not_lt_zero _)
      · rw [hlock] at hpast
        cases hpast
      · exact hzero
    rcases hcourse.late hpast with hless | hzero
    · exact ih herrand' hpast' (Nat.le_of_lt_succ (Nat.lt_of_lt_of_le hless hn))
    · obtain ⟨r, hr⟩ := Course.done_of_late hpast hzero
      rw [steps_done hr]
      exact ⟨r, hr⟩

/-- A build that has the lock after its second step is over when it has run. -/
theorem run_over (herrand : v.errand = .build spec target force)
    (hinside : (steps generator 2 host v).2.stage.early ≤ 3) : ∃ r, (v.run generator host).2.stage = .done r := by
  have hpast : (steps generator 5 host v).2.stage.early = 0 := by
    rw [steps_add generator 2 3]
    exact early_steps (course_steps herrand 2).2 hinside hinside
  have hlate : (steps generator 5 host v).2.stage.late ≤ (steps generator 5 host v).2.pending + 7 := by
    unfold pending
    cases hstage : (steps generator 5 host v).2.stage <;> simp [Stage.late]
  rw [run_eq_steps, Nat.add_assoc, steps_add generator 5]
  exact late_steps (course_steps herrand 5).2 hpast hlate

/-- A build that is over after some steps has run like that. -/
theorem run_eq_of_steps (herrand : v.errand = .build spec target force)
    (hinside : (steps generator 2 host v).2.stage.early ≤ 3)
    (hdone : (steps generator n host v).2.stage = .done r) :
    v.run generator host = steps generator n host v := by
  obtain ⟨r', hrun⟩ := run_over herrand hinside
  rw [run_eq_steps] at hrun ⊢
  generalize 5 + (steps generator 5 host v).2.pending + 7 = m at *
  rcases Nat.le_total m n with hle | hle
  · obtain ⟨k, rfl⟩ := Nat.exists_eq_add_of_le hle
    rw [steps_add generator m k, steps_done hrun]
  · obtain ⟨k, rfl⟩ := Nat.exists_eq_add_of_le hle
    rw [steps_add generator n k, steps_done hdone]

end Visit

end KernelForge
