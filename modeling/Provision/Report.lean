/-!
# Error reports

A report is what a failing operation says: the failure itself and, around it, what was being done
at each level when it happened. Reports are never empty.

* `Report.context` adds the outer level.
* `Report.chain` lists the levels from the outermost to the cause; `Report.text` joins them.
-/

namespace Provision

/-- A failure with the contexts in which it happened. -/
structure Report where
  /-- The outermost message. -/
  message : String
  /-- The messages below it, down to the cause. -/
  causes : List String := []
deriving DecidableEq, Repr, Inhabited

namespace Report

/-- A failure without context. -/
def ofMessage (message : String) : Report := { message }

/-- The report inside a further context. -/
def context (outer : String) (r : Report) : Report := ⟨outer, r.message :: r.causes⟩

/-- The messages from the outermost to the cause. -/
def chain (r : Report) : List String := r.message :: r.causes

/-- The report with the given chain; an empty chain is one empty message. -/
def ofChain : List String → Report
  | [] => ofMessage ""
  | message :: causes => ⟨message, causes⟩

/-- The whole chain on one line. -/
def text (r : Report) : String := ": ".intercalate r.chain

@[simp] theorem chain_context (outer : String) (r : Report) :
    (r.context outer).chain = outer :: r.chain := rfl

end Report

end Provision
