import Provision.Package.Load

/-!
# Resolving packages

An installed package is looked for in the `node_modules` directory of the start directory and of
every directory above it, nearest first, and then in the directories that `NODE_PATH` lists.

* `Resolve.candidates` lists the manifest paths that are tried, in order.
* `Resolve.manifest?` is the first of them at which something exists.
-/

namespace Provision.Resolve

/-- The name of the directories that hold packages. -/
def modulesName : String := "node_modules"

/-- The variable that lists further directories. -/
def searchVariable : String := "NODE_PATH"

/-- The non-empty parts of a package name. -/
def packageParts (package : String) : List Bytes :=
  (Bytes.splitOn Path.slash (Bytes.ofText package)).filter (!·.isEmpty)

/-- A package name as a relative path. -/
def packagePath (package : String) : Path :=
  (packageParts package).foldl Path.child ⟨[]⟩

/-- The manifest of a package inside a directory of packages. -/
def manifestIn (directory : Path) (package : String) : Path :=
  (directory.join (packagePath package)).entry Manifest.fileName

/-- The manifest paths in the `node_modules` directories from `start` upwards. A directory that is
itself called `node_modules` is passed over. -/
def walkCandidates (start : Path) (package : String) : List Path :=
  (start.ancestors.filter fun d => d.fileName? != some (Bytes.ofText modulesName)).map fun d =>
    manifestIn (d.entry modulesName) package

/-- The non-empty entries of a search list. -/
def searchEntries (list : String) : List Path :=
  ((Bytes.splitOn 0x3A (Bytes.ofText list)).filter (!·.isEmpty)).map Path.mk

/-- The manifest paths in the directories of a search list. -/
def searchCandidates (list : Option String) (package : String) : List Path :=
  (searchEntries (list.getD "")).map (manifestIn · package)

/-- All manifest paths that are tried for a package, given the value of `NODE_PATH`. -/
def candidatesFor (start : Path) (package : String) (list : Option String) : List Path :=
  walkCandidates start package ++ searchCandidates list package

/-- All manifest paths that are tried for a package. -/
def candidates (start : Path) (package : String) : Program (List Path) := do
  return candidatesFor start package (← .ask (.env searchVariable))

/-- The first of the paths at which something exists. -/
def firstExisting : List Path → Program (Option Path)
  | [] => return none
  | p :: rest => do
    if ← .ask (.pathExists p) then return some p else firstExisting rest

/-- The manifest of an installed package. -/
def manifest? (start : Path) (package : String) : Program (Option Path) := do
  firstExisting (← candidates start package)

end Provision.Resolve
