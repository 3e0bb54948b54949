import KernelForge.Call.Launch

/-!
Refusals before a launch.

Of the errors of a call, one is the kernel's: it ran and gave a status that is not zero. None of the checks that
come first gives that error (`precheck_prepare`), so it tells whether the kernel ran.
-/
namespace KernelForge

/-- Whether an error says that the kernel itself failed. -/
def CallError.fromKernel : CallError → Bool
  | kernel .. => true
  | _ => false

/-- A check that does not speak for the kernel. -/
def Precheck {β : Type} (x : Except CallError β) : Prop :=
  ∀ e, x = .error e → e.fromKernel = false

namespace Precheck

variable {β γ : Type} {x : Except CallError β}

theorem ok (b : β) : Precheck (.ok b) := by
  intro e h
  cases h

theorem error {e : CallError} (h : e.fromKernel = false) : Precheck (.error e : Except CallError β) := by
  intro e' he
  cases he
  exact h

theorem ite {p : Prop} [Decidable p] {y : Except CallError β} (hx : Precheck x) (hy : Precheck y) :
    Precheck (if p then x else y) := by
  split
  · exact hx
  · exact hy

/-- Checks one after the other. -/
theorem andThen {f : β → Except CallError γ} (hx : Precheck x) (hf : ∀ b, Precheck (f b)) : Precheck (x >>= f) := by
  cases x with
  | error e => exact error (hx e rfl)
  | ok b => exact hf b

end Precheck

namespace Extents

theorem precheck_merge (found : Found) (name : String) (axis : Axis) (n : UInt64) :
    Precheck (found.merge name axis n) := by
  unfold Found.merge
  cases axis <;> dsimp only <;> split
  · exact .ite (.ok _) (.error rfl)
  · exact .ok _
  · exact .ite (.ok _) (.error rfl)
  · exact .ok _

variable {α : Type}

theorem precheck_checkLength (name : String) (a : Argument α) : Precheck (checkLength name a) := by
  unfold checkLength
  split
  · exact .error rfl
  · exact .ite (.ok _) (.error rfl)

theorem precheck_checkParameter (name : String) (dim : UInt64) (shape : List UInt64) :
    Precheck (checkParameter name dim shape) := by
  unfold checkParameter
  split
  · exact .ite (.ok _) (.error rfl)
  · exact .error rfl

theorem precheck_rowCount (name : String) (dim : UInt64) (shape : List UInt64) :
    Precheck (rowCount name dim shape) := by
  unfold rowCount
  split
  · exact .ite (.ok _) (.error rfl)
  · exact .ite (.ok _) (.error rfl)
  · exact .error rfl

theorem precheck_step (found : Found) (a : Alias) (argument : Argument α) : Precheck (step found a argument) := by
  unfold step
  split
  · next e he => exact .error (precheck_checkLength _ _ e he)
  · cases a.category with
    | parameter =>
      dsimp only
      split
      · next e he => exact .error (precheck_checkParameter _ _ _ e he)
      · exact .ok _
    | outer | inner =>
      dsimp only
      split
      · next e he => exact .error (precheck_rowCount _ _ _ e he)
      · exact precheck_merge _ _ _ _

theorem precheck_collect (found : Found) (pairs : List (Alias × Argument α)) : Precheck (collect found pairs) := by
  induction pairs generalizing found with
  | nil => exact .ok _
  | cons pair rest ih =>
    obtain ⟨a, argument⟩ := pair
    rw [collect]
    split
    · next e he => exact .error (precheck_step _ _ _ e he)
    · exact ih _

theorem precheck_ofArguments (spec : KernelSpec) (arguments : List (Argument α)) :
    Precheck (ofArguments spec arguments) := by
  unfold ofArguments
  refine .ite (.error rfl) ?_
  split
  · next e he => exact .error (precheck_collect _ _ e he)
  · exact .ok _

end Extents

namespace Placement

theorem precheck_agree (first other : Storage) : Precheck (agree first other) := by
  unfold agree
  split
  · exact .ok _
  · exact .ite (.ok _) (.error rfl)
  · exact .error rfl

theorem precheck_agreeAll (first : Storage) (rest : List Storage) : Precheck (agreeAll first rest) := by
  induction rest with
  | nil => exact .ok _
  | cons s rest ih =>
    rw [agreeAll]
    split
    · next e he => exact .error (precheck_agree _ _ e he)
    · exact ih

theorem precheck_common (storages : List Storage) : Precheck (common storages) := by
  cases storages with
  | nil => exact .ok _
  | cons first rest =>
    rw [common]
    split
    · next e he => exact .error (precheck_agreeAll _ _ e he)
    · exact .ok _

theorem precheck_device (placement : Storage) (requested : Option UInt32) :
    Precheck (device placement requested) := by
  unfold device
  split
  · exact .ite (.ok _) (.error rfl)
  · exact .ok _
  · exact .ok _

theorem precheck_tag (preference : Preference) (memory : Memory) (gpuAvailable : Bool) :
    Precheck (tag preference memory gpuAvailable) := by
  unfold tag
  split
  · split <;> exact .ok _
  · split
    · exact .error rfl
    · exact .ok _
  · refine .ite (.error rfl) ?_
    split
    · exact .ite (.ok _) (.error rfl)
    · exact .ok _

theorem precheck_select (preference : Preference) (storages : List Storage) (gpuAvailable : Bool)
    (requested : Option UInt32) : Precheck (select preference storages gpuAvailable requested) := by
  unfold select
  split
  · next e he => exact .error (precheck_common _ e he)
  · split
    · next e he => exact .error (precheck_device _ _ e he)
    · split
      · next e he => exact .error (precheck_tag _ _ _ e he)
      · exact .ok _

end Placement

namespace Call

theorem precheck_checkKernel (spec : KernelSpec) (info : Metadata) (data : Precision) :
    Precheck (checkKernel spec info data) :=
  .ite (.error rfl) (.ite (.error rfl) (.ite (.error rfl) (.ok _)))

theorem precheck_checkRanges (ranges : Option Ranges) (nx ny : UInt64) :
    Precheck (checkRanges ranges nx ny) := by
  unfold checkRanges
  split
  · exact .ok _
  · split
    · exact .error rfl
    · exact .ok _

theorem precheck_prepare {α : Type} [Scalar α] (spec : KernelSpec) (info : Metadata)
    (gpuAvailable : Bool) (arguments : List (Argument α)) (options : CallOptions) :
    Precheck (prepare spec info gpuAvailable arguments options) := by
  refine (precheck_checkKernel _ _ _).andThen fun _ => (Extents.precheck_ofArguments _ _).andThen fun extents =>
    (Placement.precheck_select _ _ _ _).andThen fun _ => (precheck_checkRanges _ _ _).andThen fun _ => ?_
  dsimp only
  split
  · exact .error rfl
  · exact .ok _

end Call

end KernelForge
