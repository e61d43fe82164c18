import Provision.Report

/-!
# System errors

The errors of the system calls that this library models, with their numbers and wording.

* `Errno.message` is how an error reads.
* `Errno.ofNumber?` finds the error with a number; `ofNumber?_eq_some_iff` says that it finds the
  right one.
-/

namespace Provision.Linux

/-- Why a system call failed. -/
inductive Errno where
  | noEntry
  | busy
  | alreadyExists
  | notDirectory
  | isDirectory
  | invalid
  | nameTooLong
  | notEmpty
  | tooManyLinks
  /-- A path with a NUL never reaches the system. -/
  | nulByte
deriving DecidableEq, Repr

namespace Errno

/-- The number of a system error; a failure that never reached the system has none. -/
def number? : Errno → Option Nat
  | .noEntry => some 2
  | .busy => some 16
  | .alreadyExists => some 17
  | .notDirectory => some 20
  | .isDirectory => some 21
  | .invalid => some 22
  | .nameTooLong => some 36
  | .notEmpty => some 39
  | .tooManyLinks => some 40
  | .nulByte => none

/-- The wording of a system error. -/
def wording : Errno → String
  | .noEntry => "No such file or directory"
  | .busy => "Device or resource busy"
  | .alreadyExists => "File exists"
  | .notDirectory => "Not a directory"
  | .isDirectory => "Is a directory"
  | .invalid => "Invalid argument"
  | .nameTooLong => "File name too long"
  | .notEmpty => "Directory not empty"
  | .tooManyLinks => "Too many levels of symbolic links"
  | .nulByte => "file name contained an unexpected NUL byte"

/-- A wording with the number of an error. -/
def numbered (wording : String) (number : Nat) : String :=
  wording ++ " (os error " ++ toString number ++ ")"

/-- How a system error reads. -/
def message (e : Errno) : String :=
  match e.number? with
  | some number => numbered e.wording number
  | none => e.wording

/-- The errors that have a number. -/
def all : List Errno :=
  [.noEntry, .busy, .alreadyExists, .notDirectory, .isDirectory, .invalid, .nameTooLong, .notEmpty,
    .tooManyLinks]

/-- The error with a number. -/
def ofNumber? (n : Nat) : Option Errno := all.find? (·.number? == some n)

theorem ofNumber?_eq_some_iff {n : Nat} {e : Errno} :
    ofNumber? n = some e ↔ e.number? = some n := by
  constructor
  · intro h
    simpa using List.find?_some h
  · intro h
    cases e <;> simp [number?] at h <;> subst h <;> rfl

/-- A system error as a report. -/
def report (e : Errno) : Report := .ofMessage e.message

end Errno

end Provision.Linux
