import KernelForge.Cache.Location
import KernelForge.Config.BuildMode
import KernelForge.Loading.Check

/-!
The kernels of a process, and how they come to be bound.

Each fingerprint has a slot, which is locked while somebody binds it. `Binding` is one caller on the way
from a fingerprint to a handle, in steps that each touch the shared state once: looking the fingerprint
up, reading what is published, taking the slot, locking it, looking again, loading, registering, unlocking.
In release mode the first handle stays; in debug mode a new one takes its place.
-/
namespace KernelForge

/-- A loaded kernel: its number, where it comes from, what it says about itself, and its code. -/
structure Handle (κ : Type) where
  serial : Nat
  fingerprint : Fingerprint
  location : Place
  info : Metadata
  code : κ

/-- A loader: for its runs, counted from one, what it makes of a published kernel. -/
abbrev Loader (κ : Type) := Nat → Published → Disk → Except LoadError (Metadata × κ)

/-- The handles that are registered, the slot of each fingerprint, the slots that are locked, and how many
loads were started and how many handles made. -/
structure Registry (κ : Type) where
  handles : List (Fingerprint × Handle κ) := []
  slots : List (Fingerprint × Nat) := []
  nextSlot : Nat := 0
  locked : List Nat := []
  loads : Nat := 0
  made : Nat := 0

namespace Registry

variable {κ : Type}

/-- The value of the first pair with a fingerprint. -/
def lookup {β : Type} (fp : Fingerprint) : List (Fingerprint × β) → Option β
  | [] => none
  | (k, v) :: rest => if k = fp then some v else lookup fp rest

def get? (r : Registry κ) (fp : Fingerprint) : Option (Handle κ) :=
  lookup fp r.handles

def contains (r : Registry κ) (fp : Fingerprint) : Bool :=
  (r.get? fp).isSome

def size (r : Registry κ) : Nat := r.handles.length

def isEmpty (r : Registry κ) : Bool := r.handles.isEmpty

def remove (r : Registry κ) (fp : Fingerprint) : Registry κ :=
  { r with handles := r.handles.filter fun e => e.1 ≠ fp }

/-- Registers a handle and gives the one that is registered afterwards. -/
def insert (r : Registry κ) (mode : BuildMode) (h : Handle κ) : Registry κ × Handle κ :=
  match mode, r.get? h.fingerprint with
  | .release, some old => (r, old)
  | .release, none => ({ r with handles := (h.fingerprint, h) :: r.handles }, h)
  | .debug, _ =>
    let r := r.remove h.fingerprint
    ({ r with handles := (h.fingerprint, h) :: r.handles }, h)

/-- Forgets all handles and all slots. -/
def clear (r : Registry κ) : Registry κ :=
  { r with handles := [], slots := [] }

/-- The slot of a fingerprint; a new one if it has none. -/
def slot (r : Registry κ) (fp : Fingerprint) : Registry κ × Nat :=
  match lookup fp r.slots with
  | some n => (r, n)
  | none => ({ r with slots := (fp, r.nextSlot) :: r.slots, nextSlot := r.nextSlot + 1 }, r.nextSlot)

def fresh (r : Registry κ) : Registry κ :=
  { loads := r.loads, made := r.made, nextSlot := r.nextSlot }

end Registry

/-- How far a caller is on the way to a handle. -/
inductive Binding (κ : Type) where
  /-- Before looking the fingerprint up. -/
  | lookup (fp : Fingerprint)
  /-- It is not registered; before reading what is published. -/
  | search (fp : Fingerprint)
  /-- Before taking the slot. -/
  | slot (p : Published)
  /-- Before locking the slot. -/
  | lock (p : Published) (slot : Nat)
  /-- The slot is locked; before looking again. -/
  | recheck (p : Published) (slot : Nat)
  /-- Before loading. -/
  | load (p : Published) (slot : Nat)
  /-- Loaded, and not registered yet. -/
  | insert (h : Handle κ) (slot : Nat)
  /-- Before unlocking the slot, with the result. -/
  | unlock (slot : Nat) (result : Except LoadError (Handle κ))
  /-- Over. There is no handle if nothing was published. -/
  | done (result : Except LoadError (Option (Handle κ)))

namespace Binding

variable {κ : Type}

/-- One step of a caller. A caller that waits for a slot does not move. -/
def step (loader : Loader κ) (mode : BuildMode) (root : Place) (disk : Disk) (r : Registry κ) :
    Binding κ → Registry κ × Binding κ
  | .lookup fp =>
    if mode.alwaysRebuild then (r, .done (.ok none))
    else match r.get? fp with
      | some h => (r, .done (.ok (some h)))
      | none => (r, .search fp)
  | .search fp =>
    match (Location.of root fp).published? disk with
    | some p => (r, .slot p)
    | none => (r, .done (.ok none))
  | .slot p =>
    let (r, n) := r.slot p.fingerprint
    (r, .lock p n)
  | .lock p n =>
    if r.locked.contains n then (r, .lock p n)
    else ({ r with locked := n :: r.locked }, .recheck p n)
  | .recheck p n =>
    if mode.alwaysRebuild then (r, .load p n)
    else match r.get? p.fingerprint with
      | some h => (r, .unlock n (.ok h))
      | none => (r, .load p n)
  | .load p n =>
    match loader (r.loads + 1) p disk with
    | .error e => ({ r with loads := r.loads + 1 }, .unlock n (.error e))
    | .ok (info, code) =>
      ({ r with loads := r.loads + 1, made := r.made + 1 },
       .insert ⟨r.made, p.fingerprint, p.location, info, code⟩ n)
  | .insert h n =>
    let (r, h) := r.insert mode h
    (r, .unlock n (.ok h))
  | .unlock n result =>
    ({ r with locked := r.locked.filter fun k => k ≠ n },
     .done (match result with
       | .ok h => .ok (some h)
       | .error e => .error e))
  | .done result => (r, .done result)

def steps (loader : Loader κ) (mode : BuildMode) (root : Place) (disk : Disk) :
    Nat → Registry κ → Binding κ → Registry κ × Binding κ
  | 0, r, b => (r, b)
  | n + 1, r, b =>
    let (r, b) := b.step loader mode root disk r
    steps loader mode root disk n r b

/-- The result of a caller who had the registry alone. -/
def outcome (fp : Fingerprint) : Binding κ → Except LoadError (Option (Handle κ))
  | .done result => result
  | _ => .error (.waiting fp)

end Binding

namespace Registry

variable {κ : Type}

/-- The handle of a fingerprint, loaded if it is published and not registered yet. -/
def resolve (loader : Loader κ) (mode : BuildMode) (root : Place) (disk : Disk)
    (fp : Fingerprint) (r : Registry κ) : Registry κ × Except LoadError (Option (Handle κ)) :=
  let (r, b) := Binding.steps loader mode root disk 8 r (.lookup fp)
  (r, b.outcome fp)

/-- The handle of a published kernel, loaded unless one is registered that stays. -/
def install (loader : Loader κ) (mode : BuildMode) (root : Place) (disk : Disk) (p : Published)
    (r : Registry κ) : Registry κ × Except LoadError (Handle κ) :=
  let (r, b) := Binding.steps loader mode root disk 6 r (.slot p)
  match b.outcome p.fingerprint with
  | .ok (some h) => (r, .ok h)
  | .ok none => (r, .error (.waiting p.fingerprint))
  | .error e => (r, .error e)

end Registry

end KernelForge
