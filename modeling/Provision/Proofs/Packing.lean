import Mathlib.Algebra.Order.BigOperators.Group.List
import Provision.Proofs.Tarballs
import Provision.Proofs.Unpacking
import Provision.Proofs.ZipArchives

/-!
# Packing and unpacking

Files that are packed and then extracted into an empty directory are there again, with the
directories above them and nothing else, whether the archive is a gzipped tar archive or, if no name
looks like one with a drive, a zip archive.

* `Extract.Restores` says this of an extraction.
* `Archive.contents?_tarGz` and `Archive.contents?_zip` are about what an archive of files holds.
* `Extract.restores_packed` is about both extractions; `Extract.not_restores_drive` is about a name
  that a zip archive cannot keep.
-/

namespace Provision

open Archive (PackedFile Packable layout)
open Memory (Node Sound node? handle)

/-! ## The contents of archives -/

namespace Archive

variable {files : List PackedFile} {body : Bytes}

/-- A listing of files unpacks to their tree. -/
theorem exists_tree? {l : Listing} {entries : List Entry} (hfiles : Packable files)
    (hl : l = ⟨entries, none⟩) (he : List.Forall₂ PackedFile.IsEntry files entries) :
    ∃ u, l.tree? = some u ∧ ∀ q, node? u q = layout files q := by
  rw [hl]
  exact layEntries_layout hfiles he

theorem Tar.length_pack_le (hfiles : Packable files) (hcount : files.length < 0xFFFF)
    (hsizes : ∀ f ∈ files, f.content.length < sizeLimit) : (pack files).length ≤ maxSize := by
  have hmember : ∀ f ∈ files, (member f).length ≤ sizeLimit + 1024 := by
    intro f hf
    have := hsizes f hf
    rw [length_member (hfiles.plain f hf), rounded, show block = 512 from rfl]
    omega
  have hmembers : (files.flatMap member).length ≤ files.length * (sizeLimit + 1024) := by
    rw [List.length_flatMap, ← Nat.nsmul_eq_mul, ← List.length_map fun f => (member f).length]
    refine List.sum_le_card_nsmul _ _ ?_
    simpa using hmember
  have hlimit : 0xFFFF * (sizeLimit + 1024) + 1024 ≤ maxSize := by decide
  have hending : ending.length = 1024 := List.length_replicate
  calc (pack files).length
    _ = (files.flatMap member).length + 1024 := by rw [pack, List.length_append, hending]
    _ ≤ files.length * (sizeLimit + 1024) + 1024 := Nat.add_le_add_right hmembers _
    _ ≤ 0xFFFF * (sizeLimit + 1024) + 1024 :=
      Nat.add_le_add_right (Nat.mul_le_mul_right _ hcount.le) _
    _ ≤ maxSize := hlimit

/-- A gzipped tar archive of files holds their tree. -/
theorem contents?_tarGz (hfiles : Packable files) (hcount : files.length < 0xFFFF)
    (hsizes : ∀ f ∈ files, f.content.length < Tar.sizeLimit)
    (h : Gzip.Packs (Tar.pack files) body) :
    ∃ u, contents? .tarGz body = some u ∧ ∀ q, node? u q = layout files q := by
  have hlisting : listing .tarGz body = ⟨files.map Tar.entry, none⟩ := by
    rw [listing, Gzip.decode_packs h]
    exact Tar.listing_pack hfiles.plain hsizes (Tar.length_pack_le hfiles hcount hsizes)
  refine exists_tree? hfiles hlisting ?_
  rw [List.forall₂_map_right_iff, List.forall₂_same]
  exact fun f hf => Tar.isEntry_entry (hfiles.plain f hf)

/-- A zip archive of files holds their tree. -/
theorem contents?_zip (hfiles : Packable files) (hdrive : ∀ f ∈ files, f.NoDrive)
    (h : Zip.Packs files body) :
    ∃ u, contents? .zip body = some u ∧ ∀ q, node? u q = layout files q := by
  obtain ⟨entries, hlisting, he⟩ := Zip.listing_packs hfiles hdrive h
  exact exists_tree? hfiles hlisting he

/-- What is in a zip archive without its extension is small enough for a tar archive. -/
theorem Zip.Packs.limits (h : Zip.Packs files body) :
    files.length < 0xFFFF ∧ ∀ f ∈ files, f.content.length < Tar.sizeLimit := by
  obtain ⟨ms, rfl, -, hfits, -⟩ := h
  have hlimit : 0xFFFFFFFF ≤ Tar.sizeLimit := by decide
  refine ⟨by rw [List.length_map]; exact hfits.count_lt, fun f hf => ?_⟩
  obtain ⟨m, hm, rfl⟩ := List.mem_map.1 hf
  exact (hfits.content_lt m hm).trans_le hlimit

end Archive

namespace Extract

variable {η : Type} {serve : Url → η → Except NoResponse Response × η} {m : Memory} {n : η}
  {files : List PackedFile} {directory : Path}

/-! ## Extractions -/

/-- An extraction into a directory succeeds, puts the files there and changes nothing else. -/
structure Restores (serve : Url → η → Except NoResponse Response × η) (m : Memory) (n : η)
    (files : List PackedFile) (directory : Path) (extraction : Attempt Report Unit) : Prop where
  ok : (extraction.run.run (handle serve) (m, n)).1 = .ok ()
  below : ∀ q, node? (extraction.run.run (handle serve) (m, n)).2.1.tree (m.place directory ++ q) =
    layout files q
  beside : ∀ q, ¬ m.place directory <+: q →
    node? (extraction.run.run (handle serve) (m, n)).2.1.tree q = node? m.tree q

/-- A host without injected failures, with an archive of files in each format and a directory with
nothing in it. -/
structure Packed (m : Memory) (files : List PackedFile) (tarball zipped directory : Path) :
    Prop where
  sound : Sound m.tree
  noFaults : m.faults = []
  packable : Packable files
  tarball : ∃ body mode, node? m.tree (m.place tarball) = some (.file body mode) ∧
    Archive.Gzip.Packs (Archive.Tar.pack files) body
  zipped : ∃ body mode, node? m.tree (m.place zipped) = some (.file body mode) ∧
    Archive.Zip.Packs files body
  dir : node? m.tree (m.place directory) = some .dir
  empty : m.tree.names (m.place directory) = []

/-- A place without names below it has nothing below it. -/
theorem none_below_of_names {t : Tree Node} {d : Place} (hs : Sound t) (h : t.names d = [])
    (q : Place) (hq : q ≠ []) : node? t (d ++ q) = none := by
  obtain ⟨name, rest, rfl⟩ := List.exists_cons_of_ne_nil hq
  have hname : node? t (d ++ [name]) = none := by
    rw [← Option.not_isSome_iff_eq_none, ← Memory.mem_names_iff hs, h]
    exact List.not_mem_nil
  by_cases hrest : rest = []
  · rw [hrest, hname]
  · rw [List.append_cons]
    exact hs.none_below hrest (by rw [hname]; exact nofun)

/-- Extracting an archive into an empty directory puts there what it holds. -/
theorem restores_of_contents? (format : ArchiveFormat) {archive : Path} {body : Bytes} {mode : Nat}
    {u : Tree Node} (hs : Sound m.tree) (hfaults : m.faults = [])
    (harchive : node? m.tree (m.place archive) = some (.file body mode))
    (hdir : node? m.tree (m.place directory) = some .dir)
    (hempty : m.tree.names (m.place directory) = [])
    (hcontents : Archive.contents? format body = some u) (hu : ∀ q, node? u q = layout files q) :
    Restores serve m n files directory (Extractor.native.run format archive directory) := by
  have hcalm : (Memory.Setting.ofHost serve m).Calm := Memory.Setting.calm_ofHost hfaults
  have hmeets := Memory.meets_extract (S := .ofHost serve m) (w := .ofHost m n hs) (t := m.tree)
    format rfl harchive ⟨.refl _ _, hdir⟩ fun _ =>
      Memory.mirrors_empty hdir (none_below_of_names hs hempty)
  obtain ⟨w', hshow, hend⟩ :=
    (Memory.keeps_ofHost serve m).run (Memory.shows_ofHost serve n hs) hmeets
  cases hrun :
      ((Extractor.native.run format archive directory).run.run (handle serve) (m, n)).1 with
  | error e =>
    rw [hrun] at hend
    have := hend.2 hcalm
    rw [hcontents] at this
    cases this
  | ok value =>
    rw [hrun] at hend
    obtain ⟨hunpacking, u', hlays⟩ := hend
    obtain ⟨hu', hmirror⟩ := hlays hcalm
    obtain rfl : u = u' := Option.some.inj (hcontents.symm.trans hu')
    refine ⟨hrun, fun q => ?_, fun q hq => ?_⟩
    · rw [hshow.tree]
      exact (hmirror q).trans (hu q)
    · rw [hshow.tree]
      exact hunpacking.only q hq

/-- Extractions that restore the same files come to the same tree. -/
theorem Restores.node?_eq {extraction other : Attempt Report Unit}
    (h : Restores serve m n files directory extraction)
    (h' : Restores serve m n files directory other) (q : Place) :
    node? (extraction.run.run (handle serve) (m, n)).2.1.tree q =
      node? (other.run.run (handle serve) (m, n)).2.1.tree q := by
  by_cases hq : m.place directory <+: q
  · obtain ⟨rest, rfl⟩ := hq
    rw [h.below, h'.below]
  · rw [h.beside q hq, h'.beside q hq]

/-- Files that are packed in both formats are restored from the tar archive, and, provided that no
name begins with a drive, from the zip archive to the same tree. -/
theorem restores_packed (serve : Url → η → Except NoResponse Response × η) (n : η)
    {tarball zipped : Path} (h : Packed m files tarball zipped directory) :
    Restores serve m n files directory (tarGz tarball directory) ∧
      ((∀ f ∈ files, f.NoDrive) →
        Restores serve m n files directory (zip zipped directory) ∧
        ∀ q, node? ((tarGz tarball directory).run.run (handle serve) (m, n)).2.1.tree q =
          node? ((zip zipped directory).run.run (handle serve) (m, n)).2.1.tree q) := by
  obtain ⟨tgz, mode, htgz, hpacked⟩ := h.tarball
  obtain ⟨body, mode', hbody, hzip⟩ := h.zipped
  obtain ⟨hcount, hsizes⟩ := hzip.limits
  obtain ⟨u, hu, hview⟩ := Archive.contents?_tarGz h.packable hcount hsizes hpacked
  have htar : Restores serve m n files directory (tarGz tarball directory) :=
    restores_of_contents? .tarGz h.sound h.noFaults htgz h.dir h.empty hu hview
  refine ⟨htar, fun hdrive => ?_⟩
  obtain ⟨u', hu', hview'⟩ := Archive.contents?_zip h.packable hdrive hzip
  have hzipped : Restores serve m n files directory (zip zipped directory) :=
    restores_of_contents? .zip h.sound h.noFaults hbody h.dir h.empty hu' hview'
  exact ⟨hzipped, htar.node?_eq hzipped⟩

namespace PackedSample

/-- A host with two archives and an empty directory. -/
def host (tgz body : Bytes) : Memory where
  tree := ⟨[([Bytes.ofText "t"], .file tgz 0o644), ([Bytes.ofText "z"], .file body 0o644),
    ([Bytes.ofText "d"], .dir)]⟩

theorem sound_host (tgz body : Bytes) : Sound (host tgz body).tree := by
  rw [Memory.sound_iff]
  show ∀ e ∈ [_, _, _], _
  rw [List.forall_mem_cons, List.forall_mem_cons, List.forall_mem_singleton]
  have hname : ∀ name ∈ [Bytes.ofText "t", Bytes.ofText "z", Bytes.ofText "d"],
      Path.IsName name := by
    decide +kernel
  simp only [List.forall_mem_cons] at hname
  refine ⟨⟨rfl, ?_⟩, ⟨rfl, ?_⟩, ⟨rfl, ?_⟩⟩
  · rintro _ ⟨⟩
    exact hname.1
  · rintro _ ⟨⟩
    exact hname.2.1
  · rintro _ ⟨⟩
    exact hname.2.2.1

theorem names_host (tgz body : Bytes) :
    (host tgz body).tree.names ((host tgz body).place (.ofText "/d")) = [] := by
  have hnone : (host tgz body).tree.entries.filterMap (fun e =>
      Tree.nameBelow? ((host tgz body).place (.ofText "/d")) e.1) = [] := rfl
  rw [Tree.names, hnone, List.eraseDups_nil, List.mergeSort_nil]

theorem packed_host {tgz body : Bytes} (hfiles : Packable files)
    (htgz : Archive.Gzip.Packs (Archive.Tar.pack files) tgz)
    (hbody : Archive.Zip.Packs files body) :
    Packed (host tgz body) files (.ofText "/t") (.ofText "/z") (.ofText "/d") where
  sound := sound_host tgz body
  noFaults := rfl
  packable := hfiles
  tarball := ⟨tgz, 0o644, rfl, htgz⟩
  zipped := ⟨body, 0o644, rfl, hbody⟩
  dir := rfl
  empty := names_host tgz body

/-- A release with an empty file below a directory. -/
def release : List PackedFile :=
  [⟨Bytes.ofText "comment-checker", [0x23, 0x21], 0o755⟩,
    ⟨Bytes.ofText "docs/README.md", [], 0o644⟩]

/-- A file with the name of a drive in front. -/
def driven : PackedFile := ⟨Bytes.ofText "C:/x", [1], 0o644⟩

/-- The archives of a list of files, with everything stored. -/
def hostOf (files : List PackedFile) : Memory :=
  host (Archive.Gzip.member (Archive.Tar.pack files)) (Archive.Zip.pack (files.map .stored))

theorem packed_hostOf (hfiles : Packable files) (htar : (Archive.Tar.pack files).length ≤ 65535)
    (hzip : Archive.Zip.Fits (files.map .stored)) :
    Packed (hostOf files) files (.ofText "/t") (.ofText "/z") (.ofText "/d") :=
  packed_host hfiles (Archive.Gzip.packs_member htar) (Archive.Zip.packs_stored hzip)

end PackedSample

open PackedSample in
/-- The files of a release are restored. -/
theorem restores_packed_release :
    Restores noNetwork (hostOf release) () release (.ofText "/d")
        (tarGz (.ofText "/t") (.ofText "/d")) ∧
      Restores noNetwork (hostOf release) () release (.ofText "/d")
        (zip (.ofText "/z") (.ofText "/d")) ∧
      ∀ q, node? ((tarGz (.ofText "/t") (.ofText "/d")).run.run (handle noNetwork)
          (hostOf release, ())).2.1.tree q =
        node? ((zip (.ofText "/z") (.ofText "/d")).run.run (handle noNetwork)
          (hostOf release, ())).2.1.tree q := by
  have hpacked : Packed (hostOf release) release (.ofText "/t") (.ofText "/z") (.ofText "/d") :=
    packed_hostOf (by decide +kernel) (by decide +kernel) (by decide +kernel)
  obtain ⟨htar, hzip⟩ := restores_packed noNetwork () hpacked
  exact ⟨htar, hzip (by decide +kernel)⟩

open PackedSample in
/-- What looks like a drive is lost in a zip archive: the file is extracted without it. -/
theorem not_restores_drive :
    Packed (hostOf [driven]) [driven] (.ofText "/t") (.ofText "/z") (.ofText "/d") ∧
      node? ((zip (.ofText "/z") (.ofText "/d")).run.run (handle noNetwork)
        (hostOf [driven], ())).2.1.tree [Bytes.ofText "d", Bytes.ofText "x"] =
          some (.file [1] 0o644) ∧
      ¬ Restores noNetwork (hostOf [driven]) () [driven] (.ofText "/d")
        (zip (.ofText "/z") (.ofText "/d")) := by
  refine ⟨packed_hostOf (by decide +kernel) (by decide +kernel) (by decide +kernel),
    by decide +kernel, fun h => ?_⟩
  have hbelow := h.below [Bytes.ofText "x"]
  revert hbelow
  decide +kernel

end Extract

end Provision
