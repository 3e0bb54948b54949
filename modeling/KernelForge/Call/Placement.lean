import KernelForge.Call.Error

/-!
Choosing where a call runs, from what the caller prefers and where the arguments are.
-/
namespace KernelForge

namespace Preference

def parse (s : String) : Except CallError Preference :=
  match ofText? s with
  | some p => .ok p
  | none => .error (.unknownBackend s)

end Preference

namespace Placement

def agree (first other : Storage) : Except CallError Unit :=
  match first, other with
  | .host, .host => .ok ()
  | .device a, .device b => if a = b then .ok () else .error (.deviceConflict a b)
  | _, _ => .error .mixedStorage

def agreeAll (first : Storage) : List Storage → Except CallError Unit
  | [] => .ok ()
  | s :: rest =>
    match agree first s with
    | .error e => .error e
    | .ok () => agreeAll first rest

/-- Where all arguments are; a call without arguments is one over host memory. -/
def common : List Storage → Except CallError Storage
  | [] => .ok .host
  | first :: rest =>
    match agreeAll first rest with
    | .error e => .error e
    | .ok () => .ok first

def device (placement : Storage) (requested : Option UInt32) : Except CallError (Option UInt32) :=
  match placement, requested with
  | .device found, some wanted =>
    if found = wanted then .ok (some found) else .error (.deviceConflict wanted found)
  | .device found, none => .ok (some found)
  | .host, requested => .ok requested

def tag (preference : Preference) (memory : Memory) (gpuAvailable : Bool) : Except CallError Tag :=
  match preference with
  | .auto =>
    match memory with
    | .device => .ok ⟨.gpu, .oneD, .device⟩
    | .host => .ok (if gpuAvailable then ⟨.gpu, .oneD, .host⟩ else .cpu)
  | .cpu =>
    match memory with
    | .device => .error (.deviceMemory preference)
    | .host => .ok .cpu
  | .gpu grid wanted =>
    if !gpuAvailable && memory = .host then .error (.gpuUnavailable preference)
    else match wanted with
      | some wanted =>
        if wanted = memory then .ok ⟨.gpu, grid.getD .oneD, memory⟩
        else .error (.memoryLocation preference wanted memory)
      | none => .ok ⟨.gpu, grid.getD .oneD, memory⟩

/-- The number a kernel receives for a device: its 32 bits as a signed number, and -1 for none. -/
def deviceNumber (tag : Tag) (device : Option UInt32) : Int32 :=
  match tag.processor, device with
  | .gpu, some id => id.toInt32
  | _, _ => -1

def select (preference : Preference) (storages : List Storage) (gpuAvailable : Bool)
    (requested : Option UInt32) : Except CallError (Tag × Int32) :=
  match common storages with
  | .error e => .error e
  | .ok placement =>
    match device placement requested with
    | .error e => .error e
    | .ok device =>
      match tag preference placement.memory gpuAvailable with
      | .error e => .error e
      | .ok tag => .ok (tag, deviceNumber tag device)

end Placement

end KernelForge
