import Provision.Platform
import Provision.Program

/-!
# External archive tools

Archives can also be unpacked by the tools of the platform: `tar`, `unzip`, or the PowerShell
command `Expand-Archive` on Windows.

* `Tool.unpacking` is the command line.
* `Tool.powerShellQuote` writes a text as a PowerShell literal.
* `Tool.run` runs a tool and turns a bad exit into a report.
-/

namespace Provision.Tool

/-- A text between single quotes, with every single quote doubled. -/
def powerShellQuote (s : String) : String :=
  "'" ++ String.ofList (s.toList.flatMap fun c => if c = '\'' then ['\'', '\''] else [c]) ++ "'"

/-- The script that unpacks a zip archive on Windows. -/
def expandScript (archive directory : String) : String :=
  "Expand-Archive -Path " ++ powerShellQuote archive ++ " -DestinationPath "
    ++ powerShellQuote directory ++ " -Force"

/-- The command that unpacks an archive into a directory on the given system. -/
def unpacking (format : ArchiveFormat) (os : String) (archive directory : Path) : Tool :=
  let archive := archive.display
  let directory := directory.display
  match format with
  | .tarGz => ⟨"tar", ["-xzf", archive, "-C", directory]⟩
  | .zip =>
    if os = "win32" then ⟨"powershell", ["-NoProfile", "-Command", expandScript archive directory]⟩
    else ⟨"unzip", ["-o", archive, "-d", directory]⟩

/-- Runs a tool; any exit status but 0 is a failure. -/
def run (t : Tool) : Attempt Report Unit := do
  let result ← (Attempt.ofProgram (.ask (.runTool t))).context ("Failed to run " ++ t.program)
  if result.status ≠ 0 then
    throw (.ofMessage (t.program ++ " exited with exit status: " ++ toString result.status ++ ": "
      ++ result.errors))

end Provision.Tool
