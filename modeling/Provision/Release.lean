import Provision.Platform

/-!
# Release assets

Each release publishes one archive per key under a fixed name; the archive, the release's page and
the list of releases have addresses below a host.

* `Release.assetName` names the archive, `Release.asset` adds its address.
* `Release.pageUrl` and `Release.indexUrl` are where a user can look by hand.
-/

namespace Provision

namespace Release

/-- The host that serves releases unless another is given. -/
def defaultHost : String := "https://github.com"

/-- The repository whose releases are used. -/
def repository : String := "code-yeongyu/go-claude-code-comment-checker"

/-- An archive of a release and its address. -/
structure Asset where
  name : String
  url : String
deriving DecidableEq, Repr

/-- The file name of the archive for a version and a platform. -/
def assetName (version : String) (n : Naming) : String :=
  "comment-checker_v" ++ version ++ "_" ++ n.os ++ "_" ++ n.arch ++ "." ++ n.format.extension

/-- A host without the slashes at its end. -/
def trimHost (host : String) : String :=
  String.ofList (host.toList.reverse.dropWhile (· == '/')).reverse

/-- The address of the list of releases. -/
def indexUrl (host : String) : String := trimHost host ++ "/" ++ repository ++ "/releases"

/-- The archive for a version and a platform on a host. -/
def asset (host version : String) (n : Naming) : Asset where
  name := assetName version n
  url := indexUrl host ++ "/download/v" ++ version ++ "/" ++ assetName version n

/-- The address of the page of one release. -/
def pageUrl (host version : String) : String := indexUrl host ++ "/tag/v" ++ version

end Release

end Provision
