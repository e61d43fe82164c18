import Provision.Bytes

/-!
# Trees of named nodes

A tree is a finite map from places to nodes, where a place is the list of names on the way down from
the root. Both file systems of this library keep their contents in one.

* `Tree.get?` is the view of a tree; `get?_set`, `get?_removeAt` and `get?_move` say what each
  operation does to it.
* `Tree.names` lists what is directly below a place, in byte order.
-/

namespace Provision

/-- The names from the root down to a node. -/
abbrev Place := List Bytes

/-- A map from places to nodes. The first entry of a place counts. -/
structure Tree (ν : Type) where
  entries : List (Place × ν) := []
deriving DecidableEq, Repr

namespace Tree

variable {ν : Type}

/-- The node at a place. -/
def get? (t : Tree ν) (p : Place) : Option ν := t.entries.lookup p

/-- The tree with a node put at a place. -/
def set (t : Tree ν) (p : Place) (v : ν) : Tree ν := ⟨(p, v) :: t.entries.filter (·.1 != p)⟩

/-- Is `q` at or below `p`? -/
def isAtOrBelow (p q : Place) : Bool := p.isPrefixOf q

/-- The tree without what is at or below a place. -/
def removeAt (t : Tree ν) (p : Place) : Tree ν :=
  ⟨t.entries.filter fun e => !isAtOrBelow p e.1⟩

/-- What is at or below a place, named from there. -/
def branch (t : Tree ν) (p : Place) : List (Place × ν) :=
  (t.entries.filter fun e => isAtOrBelow p e.1).map fun e => (e.1.drop p.length, e.2)

/-- The tree with what is at or below `source` moved to `target`, where it replaces everything. -/
def move (t : Tree ν) (source target : Place) : Tree ν :=
  ⟨(t.branch source).map (fun e => (target ++ e.1, e.2))
    ++ ((t.removeAt source).removeAt target).entries⟩

/-- The name directly below `p` under which `q` lies. -/
def nameBelow? (p q : Place) : Option Bytes :=
  if isAtOrBelow p q then (q.drop p.length).head? else none

/-- The names directly below a place, in byte order and each once. -/
def names (t : Tree ν) (p : Place) : List Bytes :=
  ((t.entries.filterMap fun e => nameBelow? p e.1).eraseDups).mergeSort fun a b => !Bytes.lt b a

/-! ## The view after an operation -/

theorem isAtOrBelow_iff {p q : Place} : isAtOrBelow p q = true ↔ p <+: q := by
  simp [isAtOrBelow]

theorem lookup_filter (l : List (Place × ν)) (keep : Place → Bool) (q : Place) :
    (l.filter fun e => keep e.1).lookup q = if keep q then l.lookup q else none := by
  induction l with
  | nil => simp
  | cons e l ih =>
    obtain ⟨p, v⟩ := e
    by_cases hq : q = p
    · subst hq
      by_cases hk : keep q
      · simp [hk]
      · rw [List.filter_cons_of_neg (by simpa using hk), ih]
        simp [hk]
    · have hne : (q == p) = false := by simpa using hq
      by_cases hk : keep p <;> simp [hk, List.lookup_cons, hne, ih]

theorem get?_set (t : Tree ν) (p q : Place) (v : ν) :
    (t.set p v).get? q = if q = p then some v else t.get? q := by
  have h := lookup_filter t.entries (· != p) q
  by_cases hq : q = p
  · simp [get?, set, hq]
  · have hne : (q == p) = false := by simpa using hq
    simp only [get?, set, List.lookup_cons, hne, h, if_neg hq]
    simp [hq]

theorem get?_removeAt (t : Tree ν) (p q : Place) :
    (t.removeAt p).get? q = if isAtOrBelow p q then none else t.get? q := by
  have h := lookup_filter t.entries (fun e => !isAtOrBelow p e) q
  simp only [get?, removeAt, h]
  cases isAtOrBelow p q <;> simp

theorem lookup_map_append (l : List (Place × ν)) (p q : Place) :
    (l.map fun e => (p ++ e.1, e.2)).lookup q =
      if isAtOrBelow p q then l.lookup (q.drop p.length) else none := by
  induction l with
  | nil => simp
  | cons e l ih =>
    obtain ⟨r, v⟩ := e
    simp only [List.map_cons, List.lookup_cons, ih]
    by_cases hp : isAtOrBelow p q
    · obtain ⟨s, rfl⟩ := isAtOrBelow_iff.1 hp
      simp only [hp, if_true, List.drop_left]
      have : (p ++ s == p ++ r) = (s == r) := by
        rw [Bool.eq_iff_iff]; simp
      rw [this]
    · have hne : (q == p ++ r) = false := by
        rw [beq_eq_false_iff_ne]
        rintro rfl
        exact hp (isAtOrBelow_iff.2 ⟨r, rfl⟩)
      simp [hne, hp]

theorem lookup_branch (t : Tree ν) (p q : Place) : (t.branch p).lookup q = t.get? (p ++ q) := by
  unfold branch get?
  induction t.entries with
  | nil => rfl
  | cons e l ih =>
    obtain ⟨r, v⟩ := e
    by_cases hr : isAtOrBelow p r
    · obtain ⟨s, rfl⟩ := isAtOrBelow_iff.1 hr
      have : (p ++ q == p ++ s) = (q == s) := by
        rw [Bool.eq_iff_iff]; simp
      simp [hr, List.lookup_cons, this, ih]
    · have hne : (p ++ q == r) = false := by
        rw [beq_eq_false_iff_ne]
        rintro rfl
        exact hr (isAtOrBelow_iff.2 ⟨q, rfl⟩)
      simp [hr, List.lookup_cons, hne, ih]

theorem get?_move (t : Tree ν) (source target q : Place) :
    (t.move source target).get? q =
      if isAtOrBelow target q then t.get? (source ++ q.drop target.length)
      else if isAtOrBelow source q then none else t.get? q := by
  have h₁ := get?_removeAt (t.removeAt source) target q
  have h₂ := get?_removeAt t source q
  unfold get? at h₁ h₂ ⊢
  simp only [move, List.lookup_append, lookup_map_append, lookup_branch, h₁, h₂]
  by_cases ht : isAtOrBelow target q <;> simp [ht, get?]

end Tree

end Provision
