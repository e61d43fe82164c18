import Provision.Problem

/-!
# Outcomes of an install

What an install run came to and what the user is told. No outcome makes the surrounding package
installation fail.

* `Outcome.messages` are the lines and their channels, `Outcome.report` prints them.
-/

namespace Provision

/-- The result of an install run. -/
inductive Outcome where
  | installed (key : Key) (path : Path)
  | alreadyInstalled (path : Path)
  /-- There is no binary for the platform. -/
  | skipped (platform : String)
  /-- Something went wrong; the user can look at an address. -/
  | failed (problem : Problem) (manualUrl : String)
deriving DecidableEq, Repr

namespace Outcome

/-- What every line for the user starts with. -/
def label : String := "[comment-checker]"

/-- A labelled line. -/
def line (text : String) : String := label ++ " " ++ text

/-- The lines for the user and where they belong. -/
def messages : Outcome → List (Channel × String)
  | .installed key path =>
    [(.out, line ("Successfully installed " ++ key.name ++ " binary at " ++ path.display))]
  | .alreadyInstalled path => [(.out, line ("Binary already exists at " ++ path.display))]
  | .skipped platform =>
    [(.err, line ("Warning: Unsupported platform " ++ platform)),
      (.err, line ("Supported platforms: " ++ Key.supportedList))]
  | .failed problem manualUrl =>
    [(.err, line ("Failed to download binary: " ++ problem.message))]
      ++ (if problem.isTimeout then
        [(.err, line "The download timed out. Retry with a larger --timeout.")] else [])
      ++ [(.err, line "You may need to download it manually from:"), (.err, line manualUrl)]

/-- Prints lines in order. -/
def printAll : List (Channel × String) → Program Unit
  | [] => return ()
  | (channel, text) :: rest => do
    printLine channel text
    printAll rest

/-- Tells the user about an outcome. -/
def report (o : Outcome) : Program Unit := printAll o.messages

end Outcome

end Provision
