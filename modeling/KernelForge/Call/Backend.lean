/-!
Where a kernel runs and where its arguments are.
-/
namespace KernelForge

/-- How a device lays out its threads. -/
inductive Grid where
  | oneD
  | twoD
deriving DecidableEq, Repr, Inhabited

inductive Memory where
  | host
  | device
deriving DecidableEq, Repr, Inhabited

inductive Processor where
  | cpu
  | gpu
deriving DecidableEq, Repr, Inhabited

/-- Where an argument is: in host memory, or on a numbered device. -/
inductive Storage where
  | host
  | device (id : UInt32)
deriving DecidableEq, Repr, Inhabited

/-- Where a call runs: on which processor, in which grid, over arguments in which memory. -/
structure Tag where
  processor : Processor
  grid : Grid
  memory : Memory
deriving DecidableEq, Repr

/-- Where a caller wants to run. A preference for a device may fix the grid and the memory. -/
inductive Preference where
  | auto
  | cpu
  | gpu (grid : Option Grid) (memory : Option Memory)
deriving DecidableEq, Repr

def Memory.text : Memory → String
  | host => "host"
  | device => "device"

def Grid.text : Grid → String
  | oneD => "1D"
  | twoD => "2D"

def Storage.memory : Storage → Memory
  | host => .host
  | device _ => .device

namespace Tag

def cpu : Tag := ⟨.cpu, .oneD, .host⟩

/-- The numbers a kernel receives for a tag: processor, grid, memory. -/
def numbers (tag : Tag) : List Int32 :=
  [match tag.processor with | .cpu => 0 | .gpu => 1,
   match tag.grid with | .oneD => 0 | .twoD => 1,
   match tag.memory with | .host => 0 | .device => 1]

end Tag

namespace Preference

def text : Preference → String
  | auto => "auto"
  | cpu => "CPU"
  | gpu grid memory =>
    (match grid with
     | none => "GPU"
     | some grid => "GPU_" ++ grid.text) ++
    (match memory with
     | none => ""
     | some memory => "_" ++ memory.text)

def all : List Preference :=
  auto :: cpu :: ([none, some Grid.oneD, some Grid.twoD].flatMap fun grid =>
    [none, some Memory.host, some Memory.device].map (gpu grid))

/-- The preference with a given text. -/
def ofText? (s : String) : Option Preference :=
  all.find? fun p => p.text = s

end Preference

end KernelForge
