import Provision.Fetch
import Provision.Platform

/-!
# Problems

Why the binary could not be located or provided. Each problem belongs to one stage of the work, so
that what went wrong decides what the user is told.

* `Problem.message` is the wording.
* `Problem.sources` lists the causes below it, from the outermost to the root.
-/

namespace Provision

/-- A failure to locate or to provide the binary. -/
inductive Problem where
  /-- There is no binary for the platform. -/
  | unsupportedPlatform (platform : String)
  /-- The platform's package is not installed. -/
  | packageNotFound (package : String)
  /-- The platform's package holds no usable binary. -/
  | binaryMissing (package : String) (path : Path)
  /-- The main package's manifest is unreadable or has no version. -/
  | metadata (cause : Report)
  /-- The archive could not be downloaded. -/
  | network (cause : FetchError)
  /-- The archive could not be unpacked or does not hold the binary. -/
  | extraction (cause : Report)
  /-- The binary could not be put in place. -/
  | finalize (cause : Report)
deriving DecidableEq, Repr

namespace Problem

/-- What the user can try when the binary is missing. -/
def reinstallHint : String := "Try reinstalling: npm install @anthropic-claude/comment-checker"

/-- The wording of a problem. -/
def message : Problem → String
  | .unsupportedPlatform platform =>
    "Unsupported platform: " ++ platform ++ ". Supported: " ++ Key.supportedList
  | .packageNotFound package =>
    "comment-checker binary not found. Platform package " ++ package
      ++ " may not be installed. " ++ reinstallHint
  | .binaryMissing package path =>
    "comment-checker binary not found at " ++ path.display ++ ". Platform package " ++ package
      ++ " appears incomplete. " ++ reinstallHint
  | .metadata cause => "Failed to read package metadata: " ++ cause.text
  | .network cause => cause.message
  | .extraction cause => "Failed to extract archive: " ++ cause.text
  | .finalize cause => "Failed to install binary: " ++ cause.text

/-- The causes of a problem, from the outermost to the root. -/
def sources : Problem → List String
  | .metadata cause | .extraction cause | .finalize cause => cause.chain
  | .network (.write cause) => (FetchError.write cause).message :: cause.chain
  | .network cause => [cause.message]
  | _ => []

/-- Was the time of a download up? -/
def isTimeout : Problem → Bool
  | .network cause => cause.isTimeout
  | _ => false

end Problem

end Provision
