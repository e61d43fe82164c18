import Provision.Archive.Extract
import Provision.Proofs.Files

/-!
# The tree that an archive holds

What an archive unpacks to does not depend on where it is unpacked: below an empty directory there
comes to be the tree that its entries lay out one after another.

* `Archive.Listing.tree?` is that tree, unless an entry cannot be unpacked; `Archive.contents?` is
  the one of an archive in a format.
* `Memory.Mirrors` says that what is below a place looks like a tree of its own. The operations that
  unpacking makes below the place carry over to the tree (`Mirrors.makeDirs`, `Mirrors.makeFile`,
  `Mirrors.written`, `Mirrors.changeMode`).
-/

namespace Provision

open Memory (Node makeDirs makeFile append changeMode node?)

namespace Archive

/-! ## Laying out entries -/

/-- Where an entry goes, unless it is passed over for its name. -/
def Entry.place? (e : Entry) : Option Place := do
  match safeNames? (← e.name).components with
  | some (name :: names) => some (name :: names)
  | _ => none

/-- The tree after directories have been created, unless a file is in the way. -/
def layDirs (t : Tree Node) (p : Place) : Option (Tree Node) :=
  match makeDirs t [] p with
  | (.ok (), t') => some t'
  | (.error _, _) => none

/-- The tree after the permissions of a file have been set, if it can be done. -/
def layMode (t : Tree Node) (p : Place) (mode : Nat) : Tree Node :=
  match changeMode t p (permissions mode) with
  | .ok t' => t'
  | .error _ => t

/-- The tree after a file has been written, unless that fails. -/
def layFile (t : Tree Node) (p : Place) (mode : Option Nat) (content : Stream) :
    Option (Tree Node) := do
  let dirs ← layDirs t p.dropLast
  let created ← (makeFile dirs p).toOption
  if content.fault.isSome then none
  else
    let written := append created p content.bytes
    match mode with
    | none => some written
    | some mode => some (layMode written p mode)

/-- The tree after an entry has been unpacked. -/
def layEntry (t : Tree Node) (e : Entry) : Option (Tree Node) :=
  match e.place? with
  | none => some t
  | some p =>
    match e.kind with
    | .directory => layDirs t p
    | .file => layFile t p e.mode e.content
    | .other => some t

/-- The tree after entries have been unpacked in order. -/
def layEntries (t : Tree Node) : List Entry → Option (Tree Node)
  | [] => some t
  | e :: rest => (layEntry t e).bind (layEntries · rest)

/-- The tree that a listing unpacks to, if it can be unpacked to its end. -/
def Listing.tree? (l : Listing) : Option (Tree Node) :=
  match l.failure with
  | some _ => none
  | none => layEntries {} l.entries

/-- The entries of an archive in a format. -/
def listing (format : ArchiveFormat) (body : Bytes) : Listing :=
  match format with
  | .tarGz => Tar.listing (Gzip.decode ⟨body, none⟩)
  | .zip => Zip.listing body

/-- The tree that an archive in a format unpacks to, if it can be unpacked. -/
def contents? (format : ArchiveFormat) (body : Bytes) : Option (Tree Node) :=
  (listing format body).tree?

theorem flatten_blocksUpTo (fuel : Nat) (bs : Bytes) (h : bs.length ≤ fuel * blockSize) :
    (blocksUpTo fuel bs).flatten = bs := by
  induction fuel generalizing bs with
  | zero =>
    have hnil : bs = [] := List.length_eq_zero_iff.1 (by omega)
    rw [hnil]
    rfl
  | succ fuel ih =>
    unfold blocksUpTo
    by_cases hb : bs = []
    · simp [hb]
    · have hshort : (bs.drop blockSize).length ≤ fuel * blockSize := by
        rw [List.length_drop]
        rw [Nat.succ_mul] at h
        omega
      rw [if_neg (by simpa using hb), List.flatten_cons, ih _ hshort, List.take_append_drop]

/-- The blocks of a content make it up. -/
theorem flatten_blocks (bs : Bytes) : (blocks bs).flatten = bs := by
  apply flatten_blocksUpTo
  have hsize : blockSize = 8192 := rfl
  rw [hsize]
  omega

end Archive

namespace Memory

/-! ## Mirrors -/

/-- What is below a place looks like a tree of its own. -/
def Mirrors (d : Place) (t u : Tree Node) : Prop := ∀ q, node? t (d ++ q) = node? u q

variable {t t' u : Tree Node} {d p q : Place}

theorem Mirrors.dir (h : Mirrors d t u) : node? t d = some .dir := by
  have := h []
  rwa [List.append_nil, node?_nil] at this

/-- An empty directory looks like an empty tree. -/
theorem mirrors_empty (hd : node? t d = some .dir) (h : ∀ q, q ≠ [] → node? t (d ++ q) = none) :
    Mirrors d t {} := by
  intro q
  by_cases hq : q = []
  · rw [hq, List.append_nil, hd, node?_nil]
  · rw [h q hq, node?_of_ne_nil _ hq]
    rfl

theorem Mirrors.set (h : Mirrors d t u) (hp : p ≠ []) (v : Node) :
    Mirrors d (t.set (d ++ p) v) (u.set p v) := by
  intro q
  rw [node?_set _ _ (by simp [hp]), node?_set _ _ hp, h q]
  simp only [List.append_cancel_left_eq]

/-- Creating directories below directories that are there. -/
theorem makeDirs_append (above d p : Place)
    (h : ∀ q, OnTheWay above d q → node? t q = some .dir) :
    makeDirs t above (d ++ p) = makeDirs t (above ++ d) p := by
  induction d generalizing above with
  | nil => rw [List.nil_append, List.append_nil]
  | cons name d ih =>
    have hname : node? t (above ++ [name]) = some .dir := h _ (onTheWay_cons_iff.2 (.inl rfl))
    rw [List.cons_append, makeDirs, hname]
    dsimp only
    rw [ih (above ++ [name]) fun q hq => h q (onTheWay_cons_iff.2 (.inr hq)), List.append_assoc]
    rfl

theorem Mirrors.makeDirs_below (h : Mirrors d t u) (above p : Place) :
    (makeDirs t (d ++ above) p).1 = (makeDirs u above p).1 ∧
      Mirrors d (makeDirs t (d ++ above) p).2 (makeDirs u above p).2 := by
  induction p generalizing t u above with
  | nil => exact ⟨rfl, h⟩
  | cons name p ih =>
    have hn : node? t (d ++ above ++ [name]) = node? u (above ++ [name]) := by
      rw [List.append_assoc, h]
    unfold Memory.makeDirs
    dsimp only
    rw [hn]
    cases node? u (above ++ [name]) with
    | none =>
      have hset : Mirrors d (t.set (d ++ above ++ [name]) .dir) (u.set (above ++ [name]) .dir) := by
        rw [List.append_assoc]
        exact h.set (by simp) .dir
      have := ih hset (above ++ [name])
      rwa [← List.append_assoc] at this
    | some v =>
      cases v with
      | file bytes mode => exact ⟨rfl, h⟩
      | dir =>
        have := ih h (above ++ [name])
        rwa [← List.append_assoc] at this

/-- Creating directories below a directory of a sound tree. -/
theorem Mirrors.makeDirs (h : Mirrors d t u) (hs : Sound t) (p : Place) :
    (makeDirs t [] (d ++ p)).1 = (makeDirs u [] p).1 ∧
      Mirrors d (makeDirs t [] (d ++ p)).2 (makeDirs u [] p).2 := by
  have hway : ∀ q, OnTheWay [] d q → node? t q = some .dir := fun q hq =>
    hs.dir_of_prefix h.dir (onTheWay_nil_iff.1 hq).2
  rw [makeDirs_append [] d p hway, List.nil_append]
  have := h.makeDirs_below [] p
  rwa [List.append_nil] at this

theorem Mirrors.makeFile (h : Mirrors d t u) (hp : p ≠ []) :
    (∀ t', makeFile t (d ++ p) = .ok t' → ∃ u', makeFile u p = .ok u' ∧ Mirrors d t' u') ∧
      ∀ e, makeFile t (d ++ p) = .error e → ∃ e', makeFile u p = .error e' := by
  have habove : hasDir t (d ++ p).dropLast = hasDir u p.dropLast := by
    rw [List.dropLast_append_of_ne_nil hp, hasDir, hasDir, h]
  unfold Memory.makeFile
  rw [h p, habove]
  cases node? u p with
  | none =>
    dsimp only
    split_ifs
    · refine ⟨?_, fun e he => by cases he⟩
      rintro t' ht
      cases ht
      exact ⟨_, rfl, h.set hp _⟩
    · exact ⟨fun t' ht => (by cases ht), fun e _ => ⟨_, rfl⟩⟩
  | some v =>
    cases v with
    | dir => exact ⟨fun t' ht => (by cases ht), fun e _ => ⟨_, rfl⟩⟩
    | file bytes mode =>
      refine ⟨?_, fun e he => by cases he⟩
      rintro t' ht
      cases ht
      exact ⟨_, rfl, h.set hp _⟩

theorem Mirrors.changeMode (h : Mirrors d t u) (hp : p ≠ []) (mode : Nat) :
    (∀ t', changeMode t (d ++ p) (Archive.permissions mode) = .ok t' →
      Mirrors d t' (Archive.layMode u p mode)) ∧
      ∀ e, changeMode t (d ++ p) (Archive.permissions mode) = .error e →
        Archive.layMode u p mode = u := by
  unfold Memory.changeMode Archive.layMode Memory.changeMode
  rw [h p]
  cases node? u p with
  | none => exact ⟨fun t' ht => (by cases ht), fun e _ => rfl⟩
  | some v =>
    cases v with
    | dir =>
      refine ⟨?_, fun e he => by cases he⟩
      rintro t' ht
      cases ht
      exact h
    | file bytes old =>
      refine ⟨?_, fun e he => by cases he⟩
      rintro t' ht
      cases ht
      exact h.set hp _

/-- Writing a file: its content is there and nothing else has changed. -/
theorem Mirrors.written (h : Mirrors d t u) (hp : p ≠ []) {mode : Nat} {content : Bytes}
    (hu : node? u p = some (.file [] mode))
    (hfile : node? t' (d ++ p) = some (.file content mode))
    (hrest : ∀ q, q ≠ d ++ p → node? t' q = node? t q) :
    Mirrors d t' (append u p content) := by
  have happend : append u p content = u.set p (.file content mode) := by
    rw [append, hu]
    rfl
  intro q
  rw [happend, node?_set _ _ hp]
  split_ifs with hq
  · rw [hq, hfile]
  · rw [hrest _ (by simpa using hq), h q]

end Memory

end Provision
