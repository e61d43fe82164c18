import Provision.Archive.Extract
import Provision.Locate
import Provision.Release

/-!
# Configuration

What an install or a search needs to know, from the options that were given and the defaults.
-/

namespace Provision

/-- Which kind of extractor to use. -/
inductive ExtractorKind where
  | native
  | system
deriving DecidableEq, Repr

/-- The options that may be given. -/
structure Options where
  root : Option Path := none
  host : Option String := none
  platform : Option Platform := none
  extractor : ExtractorKind := .native
  /-- The time for one download, in milliseconds. -/
  timeout : Option Nat := none
deriving DecidableEq, Repr

/-- All settings of a run. -/
structure Config where
  /-- The directory of the main package. -/
  root : Path
  /-- The host that serves releases. -/
  host : String
  platform : Platform
  extractor : Extractor
  /-- The time for one download, in milliseconds. -/
  timeout : Nat
deriving DecidableEq, Repr

namespace Config

/-- The time for establishing a connection, in seconds. -/
def connectTimeout : Nat := 30

/-- The time for one download with all its redirects, in seconds. -/
def downloadTimeout : Nat := 300

/-- The settings that options come to. The root is the current directory unless one is given. -/
def ofOptions (o : Options) : Attempt Report Config := do
  let root ← match o.root with
    | some root => pure root
    | none => Attempt.ofProgram (.ask .currentDir)
  let platform := o.platform.getD .host
  return {
    root
    host := o.host.getD Release.defaultHost
    platform
    extractor := match o.extractor with
      | .native => .native
      | .system => .system platform.os
    timeout := o.timeout.getD (1000 * downloadTimeout) }

end Config

end Provision
