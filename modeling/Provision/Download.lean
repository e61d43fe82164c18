import Provision.Fetch
import Provision.Guard

/-!
# Downloads

A download fetches an address into a file. After a failure nothing is left at the destination,
neither a part of the new file nor an older one.
-/

namespace Provision.Download

/-- Creates the destination of a download. -/
def createAt (path : Path) : Attempt Report Writer :=
  (Attempt.create path).context ("Failed to create file at " ++ path.quoted)

/-- Downloads an address to a path and counts the bytes. -/
def run (url : String) (path : Path) : Attempt FetchError Nat := do
  logInfo ("Downloading file from " ++ url ++ "...")
  let size ← Guard.onFailure path (Fetch.run (createAt path) url)
  logInfo "Download complete."
  return size

end Provision.Download
