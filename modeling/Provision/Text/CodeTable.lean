/-!
# Tables of code points

Properties of characters are given as tables in text. A row is made of hexadecimal numbers with
commas between them; rows are separated by blanks and stand in the order of their first numbers.

* `CodeTable.ofText` reads a table.
* `CodeTable.last?` finds, by halving, the last row that starts at or before a code point;
  `CodeTable.spans`, `CodeTable.value?` and `CodeTable.entry?` are look-ups for the three kinds of
  rows.
-/

namespace Provision.Text

/-- A table of code points. -/
structure CodeTable where
  rows : Array (List Nat)
deriving DecidableEq, Repr

namespace CodeTable

/-! ## Reading -/

/-- The value of an upper-case hexadecimal digit. -/
def digit? (c : Char) : Option Nat :=
  if '0' ≤ c ∧ c ≤ '9' then some (c.toNat - '0'.toNat)
  else if 'A' ≤ c ∧ c ≤ 'F' then some (c.toNat - 'A'.toNat + 10)
  else none

/-- What has been read of a table. -/
structure Reading where
  rows : Array (List Nat) := #[]
  /-- The numbers of the present row, the last first. -/
  row : List Nat := []
  /-- The present number. -/
  number : Option Nat := none
deriving DecidableEq, Repr

/-- Ends the present number. -/
def Reading.endNumber (r : Reading) : Reading :=
  match r.number with
  | some n => { r with row := n :: r.row, number := none }
  | none => r

/-- Ends the present row. -/
def Reading.endRow (r : Reading) : Reading :=
  match r.endNumber.row with
  | [] => r
  | row => { rows := r.rows.push row.reverse }

/-- Reads one more character. -/
def Reading.next (r : Reading) (c : Char) : Reading :=
  match digit? c with
  | some d => { r with number := some (16 * r.number.getD 0 + d) }
  | none => if c = ',' then r.endNumber else r.endRow

/-- The table in a text. -/
def ofText (s : String) : CodeTable := ⟨(s.toList.foldl Reading.next {}).endRow.rows⟩

/-! ## Looking up -/

/-- The number at which a row starts. -/
def start (t : CodeTable) (i : Nat) : Nat := (t.rows.getD i []).headD 0

/-- Of the rows from `low` up to `high`, the last that starts at or before a code point, given that
the first one does. -/
def search (t : CodeTable) (n low high : Nat) : List Nat :=
  if low + 1 < high then
    let middle := (low + high) / 2
    if t.start middle ≤ n then t.search n middle high else t.search n low middle
  else t.rows.getD low []
termination_by high - low

/-- The last row that starts at or before a code point. -/
def last? (t : CodeTable) (n : Nat) : Option (List Nat) :=
  if 0 < t.rows.size ∧ t.start 0 ≤ n then some (t.search n 0 t.rows.size) else none

/-- Is the code point in one of the rows? A row is a code point or the ends of a range. -/
def spans (t : CodeTable) (n : Nat) : Bool :=
  match t.last? n with
  | some [code] => n == code
  | some (_ :: stop :: _) => n ≤ stop
  | _ => false

/-- The value for a code point. A row is a range and its value. -/
def value? (t : CodeTable) (n : Nat) : Option Nat :=
  match t.last? n with
  | some [_, stop, value] => if n ≤ stop then some value else none
  | _ => none

/-- What a row that starts with the code point holds besides it. -/
def entry? (t : CodeTable) (n : Nat) : Option (List Nat) :=
  match t.last? n with
  | some (code :: rest) => if code = n then some rest else none
  | _ => none

end CodeTable

end Provision.Text
