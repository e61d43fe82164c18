import Provision.Proofs.Racing
import Provision.Proofs.Writing
import Provision.Proofs.ZipArchives

/-!
# Which archives are accepted

An extraction of a zip archive that succeeds has compared the checksum of every file that it has
written with what it has written. An extraction of a gzipped tar archive looks at the trailer only
when the tar archive goes on to the end of its data; it stops at a block of zeros in the place of a
header, and then the data need not even be complete.

* `Zip.checksum_readAll` is about one entry and `Zip.vouches_listing` about a whole archive.
* `Extract.accepted_of_ok` is what the success of an extraction says about its archive.
* `Extract.wrong_trailer_accepted` is a gzipped tar archive whose trailer is wrong.
-/

namespace Provision

open Archive (Entry Listing Readable safePath?)
open Provision.Path (ofNames)

namespace Archive.Zip

open Decoded (Portioned portioned_of_cuts)

variable {bs : Bytes} {h : Header} {d : Decoded}

/-! ## Entries -/

theorem checkedEnd_eq_finished {crc : Nat} {contents : Bytes} :
    checkedEnd crc contents = .finished ↔ Crc32.checksum contents = crc := by
  unfold checkedEnd
  split_ifs with hfits
  · exact ⟨fun _ => hfits, fun _ => rfl⟩
  · exact ⟨nofun, fun hfits' => absurd hfits' hfits⟩

/-- Contents are stored or deflated, and either way they end with a look at the checksum. -/
theorem content_cases (hd : content bs h = .ok d) :
    ∃ compressed, d = ⟨compressed, checkedEnd h.crc compressed, []⟩ ∨
      d = Inflated.decoded (Inflated.portionEnds portion 0 compressed.length)
        (fun contents _ => checkedEnd h.crc contents) compressed := by
  unfold content at hd
  obtain ⟨-, hd⟩ := ok_of_ite hd nofun
  obtain ⟨compressed, -, hd⟩ := exists_of_bind hd
  refine ⟨compressed, ?_⟩
  dsimp only at hd
  split at hd
  · obtain ⟨-, ⟨⟩⟩ := ok_of_ite hd nofun
    exact .inl rfl
  · obtain ⟨-, ⟨⟩⟩ := ok_of_ite hd nofun
    exact .inr rfl
  · cases hd

theorem portioned_content (hd : content bs h = .ok d) : d.Portioned := by
  obtain ⟨compressed, rfl | rfl⟩ := content_cases hd
  · exact portioned_of_cuts rfl
  · exact Inflated.portioned_decoded _ _ _

/-- Contents come to a regular end only if the checksum fits. -/
theorem checksum_of_finished (hd : content bs h = .ok d) (hend : d.ending = .finished) :
    Crc32.checksum d.bytes = h.crc := by
  obtain ⟨compressed, rfl | rfl⟩ := content_cases hd
  · exact checkedEnd_eq_finished.1 hend
  · obtain ⟨rest, -, hcomplete⟩ := Inflated.ending_decoded.1 hend
    rw [Inflated.bytes_decoded]
    exact checkedEnd_eq_finished.1 hcomplete

/-- What can be read without a failure has the checksum. -/
theorem checksum_readAll (hd : content bs h = .ok d) (hfault : (readAll d).fault = none) :
    Crc32.checksum (readAll d).bytes = h.crc := by
  have hgets := (portioned_content hd).collect (by decide) hfault
  obtain ⟨hbytes, hend⟩ := hgets.all (Nat.lt_succ_self _)
  rw [show (readAll d).bytes = d.bytes from hbytes]
  exact checksum_of_finished hd hend

/-! ## Archives -/

/-- The entry that a header of an archive is listed as. -/
def Lists (bs : Bytes) (h : Header) (e : Entry) : Prop :=
  ∃ d, content bs h = .ok d ∧ e = ⟨Name.relative? h.name,
    if Name.isDirectory h.name then .directory else .file, h.mode?, readAll d⟩

theorem lists_entriesFrom {index : Nat} {hs : List Header}
    (hl : (entriesFrom bs index hs).failure = none) :
    List.Forall₂ (Lists bs) hs (entriesFrom bs index hs).entries := by
  induction hs generalizing index with
  | nil => exact .nil
  | cons h hs ih =>
    unfold entriesFrom at hl ⊢
    cases hd : content bs h with
    | error e =>
      rw [hd] at hl
      cases hl
    | ok d =>
      rw [hd] at hl
      exact .cons ⟨d, hd, rfl⟩ (ih hl)

/-- Is the entry of a header a file that is not passed over? -/
def Header.isCopied (h : Header) : Bool :=
  !Name.isDirectory h.name && ((Name.relative? h.name).bind safePath?).isSome

/-- A header vouches for a file: the file is where the header says, and has its checksum. -/
structure Vouches (directory : Path) (h : Header) (file : Path × Bytes) : Prop where
  path : ((Name.relative? h.name).bind safePath?).map directory.join = some file.1
  checksum : Crc32.checksum file.2 = h.crc

variable {directory : Path}

theorem copied?_of_lists {e : Entry} (hl : Lists bs h e)
    (hread : e.kind = .file → e.target?.isSome → e.content.fault = none) :
    (h.isCopied = false ∧ e.copied? directory = none) ∨
      ∃ file, h.isCopied = true ∧ e.copied? directory = some file ∧ Vouches directory h file := by
  obtain ⟨d, hd, he⟩ := hl
  have hname : e.name = Name.relative? h.name := by rw [he]
  have hplace := Memory.name_bind_safePath? e
  rw [hname] at hplace
  unfold Header.isCopied Entry.copied?
  rw [hplace]
  by_cases hdirectory : Name.isDirectory h.name = true
  · have hkind : e.kind = .directory := by
      rw [he]
      exact if_pos hdirectory
    exact .inl ⟨by simp [hdirectory], by simp [hkind]⟩
  · have hkind : e.kind = .file := by
      rw [he]
      exact if_neg hdirectory
    cases hp : e.place? with
    | none => exact .inl ⟨by simp, by simp⟩
    | some p =>
      have htarget : e.target?.isSome := by
        rw [isSome_target?_file hkind, hname, hplace, hp]
        rfl
      have hcontent : e.content = readAll d := by rw [he]
      have hchecksum : Crc32.checksum e.content.bytes = h.crc := by
        rw [hcontent]
        exact checksum_readAll hd (hcontent ▸ hread hkind htarget)
      refine .inr ⟨(directory.join (ofNames p), e.content.bytes), by simp [hdirectory],
        by simp [hkind], ?_, hchecksum⟩
      rw [hplace, hp]
      rfl

theorem vouches_entries {hs : List Header} {entries : List Entry}
    (hl : List.Forall₂ (Lists bs) hs entries) (hread : Readable entries) :
    List.Forall₂ (Vouches directory) (hs.filter Header.isCopied)
      (entries.filterMap (·.copied? directory)) := by
  induction hl with
  | nil => exact .nil
  | cons hhead _ ih =>
    have hrest := ih fun e' he' => hread e' (List.mem_cons_of_mem _ he')
    rcases copied?_of_lists hhead (hread _ List.mem_cons_self) with
      ⟨hpassed, hnone⟩ | ⟨file, hcopied, hfile, hvouches⟩
    · rw [List.filter_cons_of_neg (by simp [hpassed]), List.filterMap_cons_none hnone]
      exact hrest
    · rw [List.filter_cons_of_pos hcopied, List.filterMap_cons_some hfile]
      exact .cons hvouches hrest

/-- The headers of an archive that has been read without a failure vouch for its files. -/
theorem vouches_listing (hl : (listing bs).IsRead) :
    ∃ headers, Zip.directory bs = .ok headers ∧
      List.Forall₂ (Vouches directory) (headers.filter Header.isCopied)
        ((listing bs).entries.filterMap (·.copied? directory)) := by
  have hfailure := hl.failure
  have hread := hl.contents
  unfold listing at hfailure hread ⊢
  cases hdirectory : Zip.directory bs with
  | error e =>
    rw [hdirectory] at hfailure
    cases hfailure
  | ok headers =>
    rw [hdirectory] at hfailure hread
    exact ⟨headers, rfl, vouches_entries (lists_entriesFrom hfailure) hread⟩

end Archive.Zip

namespace Extract

open Archive

/-! ## Extractions -/

/-- What an extraction that succeeds says about its archive, however its calls are answered. The
member of a gzipped tar archive is intact, unless the tar archive has the mark of its end. The
headers of a zip archive vouch for all that has been written. -/
theorem accepted_of_ok {σ : Type} (h : Handler σ) (st : σ) (archive directory : Path)
    (bytes : Bytes) (fault : Option String)
    (hopen : (h (.openFile archive) st).1 = .ok ⟨bytes, fault⟩) :
    (((Extractor.native.run .tarGz archive directory).run.run h st).1 = .ok () →
      Gzip.Intact bytes ∨ Tar.HasEndMark (Gzip.decode ⟨bytes, fault⟩)) ∧
    (((Extractor.native.run .zip archive directory).run.run h st).1 = .ok () →
      ∃ headers, Zip.directory bytes = .ok headers ∧
        List.Forall₂ (Zip.Vouches directory) (headers.filter Zip.Header.isCopied)
          (written ((Extractor.native.run .zip archive directory).run.exchanges h st))) := by
  simp only [Extractor.run, tarGz_eq_reading, zip_eq_reading]
  constructor
  · intro hok
    obtain ⟨l, hl, hextracted⟩ := extracted_of_ok hopen hok
    cases hl
    exact (Tar.complete_or_hasEndMark (Gzip.portioned_decode _) hextracted.read).imp_left
      Gzip.intact_of_finished
  · intro hok
    obtain ⟨l, hl, hextracted⟩ := extracted_of_ok hopen hok
    cases fault with
    | some message => cases hl
    | none =>
      cases hl
      rw [hextracted.files]
      exact Zip.vouches_listing hextracted.read

namespace Accepted

open Install.Sample (front packed)

/-- A gzip member of a tar archive, with zeros for the checksum and the length. -/
def damaged : Bytes := front ++ List.replicate 8 0

/-- A zip archive of one file. -/
def zipped : Bytes := Zip.pack [.stored ⟨Bytes.ofText "x", [120], 0o644⟩]

/-- A host with archives, two of them as they should be, and a directory. -/
def host : Memory where
  tree := ⟨[([Bytes.ofText "tgz"], .file packed 0o644), ([Bytes.ofText "zip"], .file zipped 0o644),
    ([Bytes.ofText "bad"], .file damaged 0o644), ([Bytes.ofText "d"], .dir)]⟩

/-- Extraction of one of the archives into the directory. -/
def extraction (format : ArchiveFormat) (archive : String) : Program (Except Report Unit) :=
  (Extractor.native.run format (.ofText archive) (.ofText "/d")).run

theorem not_intact_damaged : ¬ Gzip.Intact damaged := by
  intro h
  have hend := Gzip.finished_of_intact h
  rw [damaged, front, List.append_assoc, Gzip.decode_stored Install.Sample.length_tarball] at hend
  dsimp only at hend
  obtain ⟨-, -, hlength⟩ := Gzip.trailerEnd_eq_finished.1 hend
  revert hlength
  decide +kernel

end Accepted

open Memory Accepted in
/-- Both formats with an archive that is as it should be. -/
theorem accepted_of_ok_sample :
    ((extraction .tarGz "/tgz").run (handle noNetwork) (host, ())).1 = .ok () ∧
      (Gzip.Intact Install.Sample.packed ∨
        Tar.HasEndMark (Gzip.decode ⟨Install.Sample.packed, none⟩)) ∧
      ((extraction .zip "/zip").run (handle noNetwork) (host, ())).1 = .ok () ∧
      written ((extraction .zip "/zip").exchanges (handle noNetwork) (host, ())) =
        [(.ofText "/d/x", [120])] ∧
      ∃ headers, Zip.directory zipped = .ok headers ∧
        List.Forall₂ (Zip.Vouches (.ofText "/d")) (headers.filter Zip.Header.isCopied)
          [(.ofText "/d/x", [120])] := by
  obtain ⟨hgzip, hzip, hwritten⟩ :
      ((extraction .tarGz "/tgz").run (handle noNetwork) (host, ())).1 = .ok () ∧
        ((extraction .zip "/zip").run (handle noNetwork) (host, ())).1 = .ok () ∧
        written ((extraction .zip "/zip").exchanges (handle noNetwork) (host, ())) =
          [(.ofText "/d/x", [120])] := by
    unfold extraction
    rw [Install.Sample.extractor_run]
    decide +kernel
  unfold extraction at hgzip hzip hwritten ⊢
  have hvouches := (accepted_of_ok (handle noNetwork) (host, ()) (.ofText "/zip") (.ofText "/d")
    zipped none rfl).2 hzip
  rw [hwritten] at hvouches
  exact ⟨hgzip, (accepted_of_ok (handle noNetwork) (host, ()) (.ofText "/tgz") (.ofText "/d")
    Install.Sample.packed none rfl).1 hgzip, hzip, hwritten, hvouches⟩

open Memory Accepted in
/-- A tar archive that ends in a block of zeros is accepted whatever the trailer says. -/
theorem wrong_trailer_accepted :
    (handle noNetwork (.openFile (.ofText "/bad")) (host, ())).1 = .ok ⟨damaged, none⟩ ∧
      ((extraction .tarGz "/bad").run (handle noNetwork) (host, ())).1 = .ok () ∧
      ¬ Gzip.Intact damaged := by
  refine ⟨rfl, ?_, not_intact_damaged⟩
  unfold extraction
  rw [Install.Sample.extractor_run]
  decide +kernel

end Extract

end Provision
