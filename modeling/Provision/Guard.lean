import Provision.Program

/-!
# Guards

A guard stands for a path that must not outlive the work that made it: a half-written download or a
staging directory. Removing it never fails from the outside, because a failure to remove is dropped.

* `Guard.remove` removes what is at a path, if anything is.
* `Guard.onFailure` removes it only when the guarded work failed, `Guard.always` in either case.
-/

namespace Provision.Guard

variable {α ε : Type}

/-- Removes what is at a path: a directory with all below it, anything else as a file. -/
def remove (path : Path) : Program Unit := do
  if ← .ask (.pathExists path) then
    if ← .ask (.isDir path) then
      let _ ← .ask (.removeTree path)
    else
      let _ ← .ask (.removeFile path)

/-- Does the work and removes the path when it failed. -/
def onFailure (path : Path) (work : Attempt ε α) : Attempt ε α :=
  .ofProgram do
    match ← work.run with
    | .ok a => return .ok a
    | .error e =>
      remove path
      return .error e

/-- Does the work and removes the path afterwards. -/
def always (path : Path) (work : Attempt ε α) : Attempt ε α :=
  .ofProgram (work.run.andThen (remove path))

end Provision.Guard
