import Provision.Proofs.Calls
import Provision.Proofs.Unpacking

/-!
# Extraction stays in its directory

Whatever an archive says and whatever fails, extracting it changes nothing but what is strictly
below the directory it is extracted to.

* `Extract.reading` is extraction with any way of reading entries; the two formats are cases of it.
* `Extract.Permits` lists the calls that an extraction may make, `allCalls_reading` says that it
  makes no others.
* `extraction_confined` joins this with what happens to the tree, at every instant.
-/

namespace Provision

namespace Extract

open Provision.Path (IsName ofNames)

/-! ## Any way of reading entries -/

/-- Extracts an archive whose entries are read in a given way. -/
def reading (read : Stream → Except Report Archive.Listing) (archive directory : Path) :
    Attempt Report Unit := do
  let s ← openArchive archive
  let l ← Attempt.ofProgram (pure (read s))
  Archive.unpack directory l
  complete

theorem tarGz_eq_reading (archive directory : Path) :
    tarGz archive directory =
      reading (fun s => .ok (Archive.Tar.listing (Archive.Gzip.decode s))) archive directory := rfl

theorem zip_eq_reading (archive directory : Path) :
    zip archive directory =
      reading (fun s => (wholeFile archive s).map Archive.Zip.listing) archive directory := by
  unfold zip reading
  refine bind_congr fun s => ?_
  dsimp only
  cases wholeFile archive s <;> rfl

/-! ## The calls of an extraction -/

/-- A path that leads down from a directory by one or more ordinary names. -/
def Inside (directory p : Path) : Prop :=
  ∃ names, names ≠ [] ∧ (∀ n ∈ names, IsName n) ∧ p = directory.join (ofNames names)

/-- The calls that an extraction may make. Files are created, and modes set, strictly inside the
directory; a mode has permission bits only. Nothing is renamed or removed. -/
def Permits (archive directory : Path) : Call → Prop
  | .openFile p => p = archive
  | .createDirs p => ∃ names : List Bytes, (∀ n ∈ names, IsName n) ∧
      p.components = directory.components ++ names.map .normal
  | .create p => Inside directory p
  | .write .. => True
  | .setMode p mode => Inside directory p ∧ mode &&& 0o777 = mode
  | .log .. => True
  | _ => False

section Calls

variable {archive directory : Path}

theorem allCalls_writeBlocks (f : Writer) (blocks : List Bytes) :
    Attempt.AllCalls (Permits archive directory) (Archive.writeBlocks f blocks) := by
  induction blocks with
  | nil => exact Attempt.allCalls_pure _
  | cons block blocks ih =>
    exact Attempt.allCalls_bind (Attempt.allCalls_ofProgram (Program.allCalls_ask trivial))
      fun _ => ih

theorem allCalls_copy (f : Writer) (content : Stream) :
    Attempt.AllCalls (Permits archive directory) (Archive.copy f content) := by
  unfold Archive.copy
  refine Attempt.allCalls_bind (allCalls_writeBlocks _ _) fun _ => ?_
  cases content.fault with
  | none => exact Attempt.allCalls_pure _
  | some message => exact Attempt.allCalls_throw _

theorem allCalls_unpackFile {names : List Bytes} (mode : Option Nat) (content : Stream)
    (hne : names ≠ []) (hn : ∀ n ∈ names, IsName n) :
    Attempt.AllCalls (Permits archive directory)
      (Archive.unpackFile (directory.join (ofNames names)) mode content) := by
  have hinside : Inside directory (directory.join (ofNames names)) := ⟨names, hne, hn, rfl⟩
  have hcomp := Path.components_joinNames directory hne hn
  obtain ⟨front, last, rfl⟩ := Memory.eq_dropLast_concat hne
  rw [List.map_append, ← List.append_assoc] at hcomp
  obtain ⟨above, hparent, habove⟩ := Path.exists_parent? hcomp
  unfold Archive.unpackFile
  rw [hparent]
  refine Attempt.allCalls_bind (Attempt.allCalls_ofProgram (Program.allCalls_ask
    ⟨front, fun n hmem => hn n (List.mem_append_left _ hmem), habove⟩)) fun _ => ?_
  refine Attempt.allCalls_bind (Attempt.allCalls_ofProgram (Program.allCalls_ask hinside))
    fun f => ?_
  refine Attempt.allCalls_bind
    (Attempt.allCalls_context (Attempt.allCalls_mapFailure (allCalls_copy f content))) fun _ => ?_
  cases mode with
  | none => exact Attempt.allCalls_pure _
  | some mode =>
    have hbits : Archive.permissions mode &&& 0o777 = Archive.permissions mode := by
      rw [Archive.permissions, Nat.and_assoc, Nat.and_self]
    exact Attempt.allCalls_lift (Program.allCalls_bind (Program.allCalls_ask ⟨hinside, hbits⟩)
      fun _ => Program.allCalls_pure _)

theorem allCalls_unpackEntry (e : Archive.Entry) :
    Attempt.AllCalls (Permits archive directory) (Archive.unpackEntry directory e) := by
  unfold Archive.unpackEntry
  rw [Memory.name_bind_safePath?]
  cases hp : e.place? with
  | none => exact Attempt.allCalls_pure _
  | some names =>
    obtain ⟨hne, hn⟩ := Memory.isName_of_place? hp
    dsimp only [Option.map_some]
    cases e.kind with
    | directory =>
      exact Attempt.allCalls_ofProgram (Program.allCalls_ask
        ⟨names, hn, Path.components_joinNames directory hne hn⟩)
    | file => exact allCalls_unpackFile e.mode e.content hne hn
    | other => exact Attempt.allCalls_pure _

theorem allCalls_unpackEntries (entries : List Archive.Entry) :
    Attempt.AllCalls (Permits archive directory) (Archive.unpackEntries directory entries) := by
  induction entries with
  | nil => exact Attempt.allCalls_pure _
  | cons e rest ih => exact Attempt.allCalls_bind (allCalls_unpackEntry e) fun _ => ih

/-- An extraction makes only the calls that it may make. -/
theorem allCalls_reading (read : Stream → Except Report Archive.Listing) :
    Attempt.AllCalls (Permits archive directory) (reading read archive directory) := by
  unfold reading openArchive
  refine Attempt.allCalls_bind (Attempt.allCalls_context
    (Attempt.allCalls_ofProgram (Program.allCalls_ask rfl))) fun s => ?_
  refine Attempt.allCalls_bind (Attempt.allCalls_ofProgram (Program.allCalls_pure _)) fun l => ?_
  refine Attempt.allCalls_bind ?_ fun _ => Attempt.allCalls_lift (Program.allCalls_ask trivial)
  refine Attempt.allCalls_bind (allCalls_unpackEntries l.entries) fun _ => ?_
  cases l.failure with
  | none => exact Attempt.allCalls_pure _
  | some report => exact Attempt.allCalls_throw _

end Calls

end Extract

namespace Memory

variable {η : Type} {S : Setting η} {w : World η} {d : Place} {t : Tree Node}

/-! ## The tree during an extraction -/

/-- Any directory looks like the tree of what is below it. -/
theorem mirrors_branch (hd : node? t d = some .dir) : Mirrors d t ⟨t.branch d⟩ := by
  intro q
  by_cases hq : q = []
  · rw [hq, List.append_nil, hd, node?_nil]
  · rw [node?_of_ne_nil _ (by simp [hq]), node?_of_ne_nil _ hq]
    exact (Tree.lookup_branch t d q).symm

/-- Extraction changes only what is below its directory, which need not be empty. -/
theorem meets_reading (read : Stream → Except Report Archive.Listing) (archive : Path) {dir : Path}
    (hd : S.place dir = d) (h : Unpacking d t w.tree) :
    Attempt.Meets S.Step (fun w => Unpacking d t w.tree) (fun _ w' => Unpacking d t w'.tree)
      (fun _ w' => Unpacking d t w'.tree) (Extract.reading read archive dir) w := by
  unfold Extract.reading Extract.openArchive
  refine Attempt.meets_bind (Attempt.meets_context (meets_openFile h ?_ fun e _ => h))
  intro bytes mode s _ _
  refine Attempt.meets_bind (Attempt.meets_ofProgram (Program.meets_pure ?_))
  cases read s with
  | error e => exact h
  | ok l =>
    refine Attempt.meets_bind (Attempt.meets_bind (Attempt.Meets.mono
      (meets_unpackEntries l.entries hd h fun _ => mirrors_branch h.dir) (fun _ hw => hw) ?_
      fun _ _ hw => hw.1))
    rintro _ w' ⟨h', -⟩
    cases l.failure with
    | none => exact Attempt.meets_pure (Attempt.meets_lift (meets_log h' h' _ _))
    | some report => exact Attempt.meets_throw h'

/-- What is not strictly below the directory is as it was. -/
theorem Unpacking.eq_of_not_below {t' : Tree Node} (h : Unpacking d t t')
    (hd : node? t d = some .dir) {q : Place} (hq : d <+: q → q = d) : node? t' q = node? t q := by
  by_cases hb : d <+: q
  · rw [hq hb, h.dir, hd]
  · exact h.only q hb

end Memory

/-! ## Confinement -/

namespace Extract

open Memory

variable {η : Type}

/-- An extraction is confined to its directory: after any number of calls and at the end, what is
not strictly below the directory is as it was, and the calls are ones that an extraction may make.
-/
structure Confines (serve : Url → η → Except NoResponse Response × η) (m : Memory) (n : η)
    (archive directory : Path) (extraction : Attempt Report Unit) : Prop where
  during : ∀ k q, (m.place directory <+: q → q = m.place directory) →
    node? (extraction.run.runUpTo (handle serve) k (m, n)).2.1.tree q = node? m.tree q
  after : ∀ q, (m.place directory <+: q → q = m.place directory) →
    node? (extraction.run.run (handle serve) (m, n)).2.1.tree q = node? m.tree q
  calls : ∀ c ∈ extraction.run.trace (handle serve) (m, n), Permits archive directory c

theorem confines_reading {serve : Url → η → Except NoResponse Response × η} {m : Memory} {n : η}
    {archive directory : Path} (hs : Sound m.tree)
    (hd : node? m.tree (m.place directory) = some .dir)
    (read : Stream → Except Report Archive.Listing) :
    Confines serve m n archive directory (reading read archive directory) := by
  have hmeets := meets_reading (S := .ofHost serve m) (w := .ofHost m n hs) read archive rfl
    ⟨fun q _ => rfl, hd⟩
  have hcut : ∀ k q, (m.place directory <+: q → q = m.place directory) →
      node? ((reading read archive directory).run.runUpTo (handle serve) k (m, n)).2.1.tree q =
        node? m.tree q := by
    intro k q hq
    obtain ⟨w', hshow, hend⟩ := (keeps_ofHost serve m).runUpTo (shows_ofHost serve n hs) hmeets k
    have hunpacking : Unpacking (m.place directory) m.tree w'.tree := by
      split at hend
      · next r _ => cases r <;> exact hend
      · exact hend
    rw [hshow.tree]
    exact hunpacking.eq_of_not_below hd hq
  refine ⟨hcut, fun q hq => ?_, (allCalls_reading read).of_mem_trace _ _⟩
  obtain ⟨k, hk⟩ := Program.exists_runUpTo_eq_run (handle serve)
    (reading read archive directory).run (m, n)
  have h := hcut k q hq
  rwa [hk] at h

/-- Extraction into a directory is confined to it, for archives of both formats and for any list of
entries that may be read from an archive, whatever fails. -/
theorem extraction_confined (serve : Url → η → Except NoResponse Response × η) (m : Memory) (n : η)
    (archive directory : Path) (hs : Sound m.tree)
    (hd : node? m.tree (m.place directory) = some .dir) :
    Confines serve m n archive directory (tarGz archive directory) ∧
      Confines serve m n archive directory (zip archive directory) ∧
      ∀ read, Confines serve m n archive directory (reading read archive directory) := by
  rw [tarGz_eq_reading, zip_eq_reading]
  exact ⟨confines_reading hs hd _, confines_reading hs hd _, confines_reading hs hd⟩

namespace Sample

/-- A file beside the directory to extract to. -/
def host : Memory where
  tree := ⟨[([Bytes.ofText "a"], .file [1] 0o644), ([Bytes.ofText "d"], .dir)]⟩

/-- Two entries that lead out of the directory, and a file with a mode of more than permissions. -/
def listing : Archive.Listing where
  entries := [⟨some (.ofText "../a"), .file, some 0o777, ⟨[2], none⟩⟩,
    ⟨some (.ofText "/a"), .file, some 0o777, ⟨[2], none⟩⟩,
    ⟨some (.ofText "./x//y"), .file, some 0o4755, ⟨[3], none⟩⟩]

end Sample

/-- The file arrives with its permissions, and the extraction is confined. -/
theorem extraction_confined_sample :
    node? ((reading (fun _ => .ok Sample.listing) (.ofText "/a") (.ofText "/d")).run.run
        (handle noNetwork) (Sample.host, ())).2.1.tree
          [Bytes.ofText "d", Bytes.ofText "x", Bytes.ofText "y"] = some (.file [3] 0o755) ∧
      Confines noNetwork Sample.host () (.ofText "/a") (.ofText "/d")
        (reading (fun _ => .ok Sample.listing) (.ofText "/a") (.ofText "/d")) :=
  ⟨by decide +kernel, (extraction_confined noNetwork Sample.host () (.ofText "/a") (.ofText "/d")
    (by decide +kernel) (by decide +kernel)).2.2 _⟩

end Extract

end Provision
