import Provision.Program

/-!
# Transcripts

What a run has said so far: its log lines and what it printed on the two channels.
-/

namespace Provision

/-- The log lines and the printed text of a run. -/
structure Transcript where
  logs : List (Level × String) := []
  out : String := ""
  err : String := ""
deriving DecidableEq, Repr

namespace Transcript

/-- The transcript with one more log line. -/
def log (t : Transcript) (level : Level) (message : String) : Transcript :=
  { t with logs := t.logs ++ [(level, message)] }

/-- The transcript with one more printed line. -/
def print (t : Transcript) (channel : Channel) (line : String) : Transcript :=
  match channel with
  | .out => { t with out := t.out ++ line ++ "\n" }
  | .err => { t with err := t.err ++ line ++ "\n" }

end Transcript

end Provision
