import Provision.Proofs.Confinement
import Provision.Proofs.Trailers

/-!
# What an extraction writes

The files that a run creates and what it writes to each of them, as its calls and their answers
tell. An extraction that succeeds has read its archive without a failure and has written every file
of it, in order and in full, however its calls are answered.

* `written` reads the files off the record of a run.
* `Attempt.Leaves` is about the record that a program leaves when it succeeds, with one lemma for
  each part of unpacking.
* `Extract.extracted_of_ok` is about runs of an extraction, with any way of reading entries.
-/

namespace Provision

/-! ## Files on record -/

/-- A file that has been created, the writer for it and what has been written so far. -/
structure Writing where
  path : Path
  writer : Writer
  bytes : Bytes
deriving DecidableEq, Repr

/-- What is written goes to the last file, which is the first here, if it is its writer that writes.
-/
def Writing.add (w : Writer) (chunk : Bytes) : List Writing → List Writing
  | [] => []
  | f :: files => (if f.writer = w then { f with bytes := f.bytes ++ chunk } else f) :: files

/-- The files after one more call, the last first. -/
def Writing.note (files : List Writing) : Exchange → List Writing
  | ⟨.create p, .ok w⟩ => ⟨p, w, []⟩ :: files
  | ⟨.write w chunk, .ok _⟩ => Writing.add w chunk files
  | _ => files

/-- The files that are on record, the last first. -/
def writings (past : List Exchange) : List Writing := past.foldl Writing.note []

/-- The files that are on record with their contents, in the order in which they were created. -/
def written (past : List Exchange) : List (Path × Bytes) :=
  ((writings past).map fun f => (f.path, f.bytes)).reverse

theorem writings_snoc (past : List Exchange) (e : Exchange) :
    writings (past ++ [e]) = Writing.note (writings past) e := List.foldl_append

theorem written_cons {past past' : List Exchange} {f : Writing}
    (h : writings past' = f :: writings past) :
    written past' = written past ++ [(f.path, f.bytes)] := by
  unfold written
  rw [h, List.map_cons, List.reverse_cons]

/-! ## The record of a success -/

namespace Attempt

open Program (Records)

variable {α β ε : Type} {past : List Exchange} {Q : α → List Exchange → Prop}

/-- Whatever is answered after what is on record, a program that succeeds has left a record that
`Q` holds of. -/
def Leaves (Q : α → List Exchange → Prop) (p : Attempt ε α) (past : List Exchange) : Prop :=
  Meets Records (fun _ => True) Q (fun _ _ => True) p past

theorem leaves_pure {a : α} (h : Q a past) : Leaves Q (pure a : Attempt ε α) past := h

theorem leaves_throw (e : ε) : Leaves Q (throw e : Attempt ε α) past := trivial

theorem leaves_bind {p : Attempt ε α} {f : α → Attempt ε β} {R : β → List Exchange → Prop}
    (hp : Leaves Q p past) (hf : ∀ a past', Q a past' → Leaves R (f a) past') :
    Leaves R (p >>= f) past :=
  meets_bind (Meets.mono hp (fun _ h => h) hf fun _ _ _ => trivial)

theorem leaves_mapFailure {δ : Type} {f : ε → δ} {p : Attempt ε α} (h : Leaves Q p past) :
    Leaves Q (p.mapFailure f) past := meets_mapFailure h

theorem leaves_context {outer : String} {p : Attempt Report α} (h : Leaves Q p past) :
    Leaves Q (p.context outer) past := meets_context h

theorem leaves_ofProgram {p : Program (Except ε α)}
    (h : p.Meets Records (fun _ => True) (Ends Q fun _ _ => True) past) :
    Leaves Q (ofProgram p) past := meets_ofProgram h

theorem leaves_lift {p : Program α} (h : p.Meets Records (fun _ => True) Q past) :
    Leaves Q (liftM p : Attempt ε α) past := meets_lift h

end Attempt

/-! ## Unpacking -/

open Archive (Entry Listing Readable)
open Provision.Path (ofNames)

/-- The file that an entry is copied to below a directory, unless it is passed over. -/
def Archive.Entry.copied? (directory : Path) (e : Entry) : Option (Path × Bytes) :=
  if e.kind = .file then e.place?.map fun p => (directory.join (ofNames p), e.content.bytes)
  else none

namespace Extract

open Attempt (Leaves leaves_pure leaves_throw leaves_bind leaves_ofProgram leaves_lift
  leaves_context leaves_mapFailure)

variable {past : List Exchange} {files : List Writing} {directory path : Path} {w : Writer}
  {bytes : Bytes}

theorem leaves_writeBlocks (blocks : List Bytes) (h : writings past = ⟨path, w, bytes⟩ :: files) :
    Leaves (fun _ past' => writings past' = ⟨path, w, bytes ++ blocks.flatten⟩ :: files)
      (Archive.writeBlocks w blocks) past := by
  induction blocks generalizing past bytes with
  | nil =>
    refine leaves_pure ?_
    rw [List.flatten_nil, List.append_nil, h]
  | cons b blocks ih =>
    have hwrite : Leaves (fun _ past' => writings past' = ⟨path, w, bytes ++ b⟩ :: files)
        (Attempt.ofProgram (.ask (.write w b))) past := by
      refine leaves_ofProgram ⟨trivial, ?_⟩
      rintro (e | u) past' rfl
      · trivial
      · show writings _ = _
        rw [writings_snoc, h, Writing.note, Writing.add, if_pos rfl]
    refine leaves_bind hwrite fun _ past' h' => ?_
    rw [List.flatten_cons, ← List.append_assoc]
    exact ih h'

/-- A content is copied in full, and it could be read to its end. -/
theorem leaves_copy (content : Stream) (h : writings past = ⟨path, w, []⟩ :: files) :
    Leaves (fun _ past' => writings past' = ⟨path, w, content.bytes⟩ :: files ∧
      content.fault = none) (Archive.copy w content) past := by
  unfold Archive.copy
  refine leaves_bind (leaves_writeBlocks _ h) fun _ past' h' => ?_
  rw [Archive.flatten_blocks, List.nil_append] at h'
  cases hfault : content.fault with
  | none => exact leaves_pure ⟨h', rfl⟩
  | some message => exact leaves_throw _

theorem leaves_createDirs (path : Path) :
    Leaves (fun _ past' => writings past' = writings past) (Attempt.createDirs path) past := by
  refine leaves_ofProgram ⟨trivial, ?_⟩
  rintro (e | u) past' rfl
  · trivial
  · exact writings_snoc _ _

theorem leaves_create (path : Path) :
    Leaves (fun w past' => writings past' = ⟨path, w, []⟩ :: writings past) (Attempt.create path)
      past := by
  refine leaves_ofProgram ⟨trivial, ?_⟩
  rintro (e | w) past' rfl
  · trivial
  · exact writings_snoc _ _

/-- What comes after the directories of a file. -/
theorem leaves_fillFile (path : Path) (mode : Option Nat) (content : Stream)
    {past₁ : List Exchange} (h₁ : writings past₁ = writings past) :
    Leaves (fun _ past' => written past' = written past ++ [(path, content.bytes)] ∧
      content.fault = none)
      (do
        let w ← Attempt.create path
        ((Archive.copy w content).mapFailure .ofMessage).context
          ("Failed to extract file " ++ path.quoted)
        if let some mode := mode then
          Archive.trySetMode path mode) past₁ := by
  refine leaves_bind (leaves_create path) fun w past₂ h₂ => ?_
  refine leaves_bind (leaves_context (leaves_mapFailure (leaves_copy content h₂))) ?_
  rintro _ past₃ ⟨h₃, hfault⟩
  rw [h₁] at h₃
  cases mode with
  | none => exact leaves_pure ⟨written_cons h₃, hfault⟩
  | some mode =>
    refine leaves_lift ⟨trivial, ?_⟩
    rintro a past₄ rfl
    refine ⟨written_cons (f := ⟨path, w, content.bytes⟩) ?_, hfault⟩
    rw [writings_snoc, h₃]
    rfl

theorem leaves_unpackFile (path : Path) (mode : Option Nat) (content : Stream) :
    Leaves (fun _ past' => written past' = written past ++ [(path, content.bytes)] ∧
      content.fault = none) (Archive.unpackFile path mode content) past := by
  unfold Archive.unpackFile
  cases path.parent? with
  | none => exact leaves_fillFile path mode content rfl
  | some above =>
    exact leaves_bind (leaves_createDirs above) fun _ _ h₁ => leaves_fillFile path mode content h₁

/-- An entry that stands for a file is copied unless it is passed over, and nothing else is. -/
theorem leaves_unpackEntry (directory : Path) (e : Entry) :
    Leaves (fun _ past' => written past' = written past ++ (e.copied? directory).toList ∧
      (e.kind = .file → e.target?.isSome → e.content.fault = none))
      (Archive.unpackEntry directory e) past := by
  unfold Archive.unpackEntry Entry.copied? Entry.target?
  rw [Memory.name_bind_safePath?]
  cases hp : e.place? with
  | none =>
    refine leaves_pure ⟨by simp, fun hkind hsome => ?_⟩
    simp [hkind] at hsome
  | some p =>
    dsimp only [Option.map_some]
    cases hkind : e.kind with
    | directory =>
      refine Attempt.Meets.mono (leaves_createDirs _) (fun _ h => h) ?_ fun _ _ h => h
      intro _ past' h'
      refine ⟨?_, nofun⟩
      unfold written
      rw [h']
      simp
    | file =>
      refine Attempt.Meets.mono (leaves_unpackFile _ e.mode e.content) (fun _ h => h) ?_
        fun _ _ h => h
      rintro _ past' ⟨h', hfault⟩
      exact ⟨h', fun _ _ => hfault⟩
    | other => exact leaves_pure ⟨by simp, nofun⟩

theorem leaves_unpackEntries (directory : Path) (entries : List Entry) :
    Leaves (fun _ past' => written past' = written past ++ entries.filterMap (·.copied? directory) ∧
      Readable entries) (Archive.unpackEntries directory entries) past := by
  induction entries generalizing past with
  | nil => exact leaves_pure ⟨by simp, nofun⟩
  | cons e rest ih =>
    unfold Archive.unpackEntries
    refine leaves_bind (leaves_unpackEntry directory e) ?_
    rintro _ past₁ ⟨h₁, he⟩
    refine Attempt.Meets.mono ih (fun _ h => h) ?_ fun _ _ h => h
    rintro _ past₂ ⟨h₂, hrest⟩
    refine ⟨?_, fun e' he' => ?_⟩
    · rw [h₂, h₁, List.append_assoc, List.filterMap_cons]
      cases e.copied? directory <;> rfl
    · rcases List.mem_cons.1 he' with rfl | he'
      · exact he
      · exact hrest e' he'

/-- What has been extracted when an extraction succeeds: all of an archive that could be read. -/
structure Extracted (directory : Path) (l : Listing) (past : List Exchange) : Prop where
  read : l.IsRead
  files : written past = l.entries.filterMap (·.copied? directory)

theorem leaves_unpack (directory : Path) (l : Listing) (h : writings past = []) :
    Leaves (fun _ => Extracted directory l) (Archive.unpack directory l) past := by
  unfold Archive.unpack
  refine leaves_bind (leaves_unpackEntries directory l.entries) ?_
  rintro _ past' ⟨h', hread⟩
  have hempty : written past = [] := by
    unfold written
    rw [h]
    rfl
  rw [hempty, List.nil_append] at h'
  cases hfailure : l.failure with
  | none => exact leaves_pure ⟨⟨hfailure, hread⟩, h'⟩
  | some report => exact leaves_throw _

theorem Extracted.of_writings {l : Listing} {past' : List Exchange}
    (h : Extracted directory l past) (hsame : writings past' = writings past) :
    Extracted directory l past' where
  read := h.read
  files := by
    unfold written
    rw [hsame]
    exact h.files

/-- Extraction of an archive that has been opened and read. -/
def extractRead (directory : Path) (r : Except Report Listing) : Attempt Report Unit := do
  let l ← Attempt.ofProgram (pure r)
  Archive.unpack directory l
  complete

theorem leaves_extractRead (directory : Path) (r : Except Report Listing)
    (h : writings past = []) :
    Leaves (fun _ past' => ∃ l, r = .ok l ∧ Extracted directory l past') (extractRead directory r)
      past := by
  unfold extractRead
  cases r with
  | error report => exact leaves_throw report
  | ok l =>
    refine leaves_bind (Q := fun l' past' => l' = l ∧ past' = past) (leaves_ofProgram ⟨rfl, rfl⟩) ?_
    rintro _ _ ⟨rfl, rfl⟩
    refine leaves_bind (leaves_unpack directory _ h) fun _ past₁ h₁ => ?_
    refine leaves_lift ⟨trivial, ?_⟩
    rintro a past₂ rfl
    exact ⟨_, rfl, h₁.of_writings (writings_snoc _ _)⟩

/-- Extraction opens the archive first. -/
theorem exists_reading_eq_call (read : Stream → Except Report Listing) (archive directory : Path) :
    ∃ next, (reading read archive directory).run = .call (.openFile archive) next ∧
      ∀ s, next (.ok s) = (extractRead directory (read s)).run := ⟨_, rfl, fun _ => rfl⟩

/-- However its calls are answered, an extraction that succeeds has read its archive without a
failure and has written the files of it in full. -/
theorem extracted_of_ok {σ : Type} {h : Handler σ} {st : σ} {archive : Path} {s : Stream}
    {read : Stream → Except Report Listing} (hopen : (h (.openFile archive) st).1 = .ok s)
    (hok : ((reading read archive directory).run.run h st).1 = .ok ()) :
    ∃ l, read s = .ok l ∧
      Extracted directory l ((reading read archive directory).run.exchanges h st) := by
  obtain ⟨next, hcall, hnext⟩ := exists_reading_eq_call read archive directory
  rw [hcall] at hok ⊢
  have hopened : writings [⟨.openFile archive, .ok s⟩] = [] := rfl
  have hend := Program.Meets.exchanges (leaves_extractRead directory (read s) hopened) h
    (h (.openFile archive) st).2
  have hrest : next (h (.openFile archive) st).1 = (extractRead directory (read s)).run := by
    rw [hopen, hnext]
  have hran : ((extractRead directory (read s)).run.run h (h (.openFile archive) st).2).1 =
      .ok () := by
    rw [← hrest]
    exact hok
  rw [hran, ← hrest, ← hopen] at hend
  exact hend

end Extract

end Provision
