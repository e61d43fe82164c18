import Provision.Package.Manifest
import Provision.Program

/-!
# Loading manifests

Reads a package manifest from a file. A manifest whose version is blank is refused.
-/

namespace Provision.Manifest

/-- Reads a manifest from the text of a file at a path. -/
def ofFile (path : Path) (text : String) : Except Report Manifest :=
  match parse (Bytes.ofText text) with
  | .error e => .error ((Report.ofMessage e.message).context ("Failed to parse " ++ path.quoted))
  | .ok m =>
    if m.hasVersion then .ok m
    else .error (.ofMessage (path.quoted ++ " has an empty version field"))

/-- Loads the manifest at a path. -/
def load (path : Path) : Attempt Report Manifest := do
  let text ← (Attempt.readText path).context ("Failed to read " ++ path.quoted)
  .ofProgram (pure (ofFile path text))

/-- Loading is a function of the text that is found. -/
theorem run_load {σ : Type} (h : Handler σ) (path : Path) (s : σ) :
    ((load path).run.run h s).1 =
      match (h (.readText path) s).1 with
      | .ok text => ofFile path text
      | .error e => .error (e.context ("Failed to read " ++ path.quoted)) := by
  have hread : ((Attempt.readText path).context ("Failed to read " ++ path.quoted)).run.run h s =
      ((h (.readText path) s).1.mapError (·.context ("Failed to read " ++ path.quoted)),
        (h (.readText path) s).2) := rfl
  rw [load, ExceptT.run_bind, Program.run_bind, hread]
  cases (h (.readText path) s).1 <;> rfl

/-- Where the manifest of the package in a directory is. -/
def pathIn (root : Path) : Path := root.entry fileName

/-- Loads the manifest of the package in a directory. -/
def loadFrom (root : Path) : Attempt Report Manifest := load (pathIn root)

end Provision.Manifest
