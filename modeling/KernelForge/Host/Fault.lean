import KernelForge.Text.Numeral

/-!
Why an operation on files fails.
-/
namespace KernelForge

inductive Fault where
  | notPermitted
  | notFound
  | notExecutable
  | badStream
  | permission
  | busy
  | alreadyExists
  | notFolder
  | isFolder
  | invalid
  | beingWritten
  | noSpace
  | nameTooLong
  | notEmpty
  | tooManyLinks
  | notText
  | embeddedNul
deriving DecidableEq, Repr

namespace Fault

/-- What is wrong, in the words of the operating system. -/
def reason : Fault → String
  | notPermitted => "Operation not permitted"
  | notFound => "No such file or directory"
  | notExecutable => "Exec format error"
  | badStream => "Bad file descriptor"
  | permission => "Permission denied"
  | busy => "Device or resource busy"
  | alreadyExists => "File exists"
  | notFolder => "Not a directory"
  | isFolder => "Is a directory"
  | invalid => "Invalid argument"
  | beingWritten => "Text file busy"
  | noSpace => "No space left on device"
  | nameTooLong => "File name too long"
  | notEmpty => "Directory not empty"
  | tooManyLinks => "Too many levels of symbolic links"
  | notText => "stream did not contain valid UTF-8"
  | embeddedNul => "file name contained an unexpected NUL byte"

/-- The number that the operating system has for a fault; two faults are found before it is asked. -/
def number? : Fault → Option Nat
  | notPermitted => some 1
  | notFound => some 2
  | notExecutable => some 8
  | badStream => some 9
  | permission => some 13
  | busy => some 16
  | alreadyExists => some 17
  | notFolder => some 20
  | isFolder => some 21
  | invalid => some 22
  | beingWritten => some 26
  | noSpace => some 28
  | nameTooLong => some 36
  | notEmpty => some 39
  | tooManyLinks => some 40
  | notText => none
  | embeddedNul => none

def message (f : Fault) : String :=
  match f.number? with
  | some n => f.reason ++ " (os error " ++ Text.Numeral.text n ++ ")"
  | none => f.reason

end Fault

end KernelForge
