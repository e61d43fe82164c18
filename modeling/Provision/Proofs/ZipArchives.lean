import Mathlib.Data.List.Forall2
import Provision.Proofs.Deflating
import Provision.Proofs.ZipNames

/-!
# Zip archives of packed files

A list of files as a zip archive: for each file a local header with the content, stored or deflated,
then a directory with a header for each, then the end record. Reading the archive gives an entry for
each file.

* `Zip.Member` is a file with the form in which it is packed, `Zip.pack` the archive.
* `Zip.Packs` says that a byte string is a zip archive of a list of files.
* `Zip.directory_pack` is about finding and reading the directory, `Zip.content_localEntry` about a
  content and `Zip.listing_pack` about all entries.
-/

namespace Provision.Archive.Zip

open Decoded (whole collect_whole)
open Deflate (Deflates)

/-! ## The format -/

/-- Numbers one after another, each with its width. -/
def record (fields : List (Nat × Nat)) : Bytes := fields.flatMap fun e => Bytes.ofLe e.1 e.2

/-- A file in the form in which it is packed. -/
structure Member where
  file : PackedFile
  method : Nat
  data : Bytes
  /-- The version of the format that the archive was made with. -/
  version : Nat := 20
  /-- The version of the format that reading takes. -/
  needed : Nat := 20
  /-- The time and the date of the last change. -/
  time : Nat := 0x00210000
deriving DecidableEq, Repr

/-- The data of a member is its content, stored or deflated. -/
def Member.Encodes (m : Member) : Prop :=
  (m.method = 0 ∧ m.data = m.file.content) ∨ (m.method = 8 ∧ Deflates m.data m.file.content)

namespace Member

variable (m : Member)

/-- The attributes of a member: a regular file of Unix with its mode. -/
def attributes : Nat := (0o100000 + m.file.mode) * 65536

/-- What a local header says: version, flags, method, time, checksum, sizes and lengths. -/
def localFields : List (Nat × Nat) :=
  [(2, m.needed), (2, 0), (2, m.method), (4, m.time), (4, Crc32.checksum m.file.content),
    (4, m.data.length), (4, m.file.content.length), (2, m.file.name.length), (2, 0)]

/-- A local header with the name and the data. -/
def localEntry : Bytes := localMark ++ (record m.localFields ++ (m.file.name ++ m.data))

/-- What a directory header says: versions and system, flags, method, time, checksum, sizes,
lengths, disk, attributes and where the local header starts. -/
def headerFields (start : Nat) : List (Nat × Nat) :=
  [(1, m.version), (1, 3), (2, m.needed), (2, 0), (2, m.method), (4, m.time),
    (4, Crc32.checksum m.file.content), (4, m.data.length), (4, m.file.content.length),
    (2, m.file.name.length), (2, 0), (2, 0), (2, 0), (2, 0), (4, m.attributes), (4, start)]

/-- A directory header with the name. -/
def directoryEntry (start : Nat) : Bytes :=
  headerMark ++ (record (m.headerFields start) ++ m.file.name)

end Member

/-- The local headers with their data. -/
def locals (ms : List Member) : Bytes := ms.flatMap Member.localEntry

/-- The directory of members, the first of which has its local header at a place. -/
def directoryBytes : Nat → List Member → Bytes
  | _, [] => []
  | start, m :: ms => m.directoryEntry start ++ directoryBytes (start + m.localEntry.length) ms

/-- What the end record says: disks, counts, size and start of the directory, and no comment. -/
def endFields (count size start : Nat) : List (Nat × Nat) :=
  [(2, 0), (2, 0), (2, count), (2, count), (4, size), (4, start), (2, 0)]

/-- The end record. -/
def endRecord (count size start : Nat) : Bytes := endMark ++ record (endFields count size start)

/-- The archive of members. -/
def pack (ms : List Member) : Bytes :=
  locals ms ++ (directoryBytes 0 ms ++
    endRecord ms.length (directoryBytes 0 ms).length (locals ms).length)

/-- The limits of the format without its extension for large archives. -/
structure Fits (ms : List Member) : Prop where
  count_lt : ms.length < 0xFFFF
  content_lt : ∀ m ∈ ms, m.file.content.length < 0xFFFFFFFF
  data_lt : ∀ m ∈ ms, m.data.length < 0xFFFFFFFF
  locals_lt : (locals ms).length < 0xFFFFFFFF
  directory_lt : (directoryBytes 0 ms).length < 0xFFFFFFFF

theorem fits_iff {ms : List Member} : Fits ms ↔ ms.length < 0xFFFF ∧
    (∀ m ∈ ms, m.file.content.length < 0xFFFFFFFF) ∧ (∀ m ∈ ms, m.data.length < 0xFFFFFFFF) ∧
    (locals ms).length < 0xFFFFFFFF ∧ (directoryBytes 0 ms).length < 0xFFFFFFFF :=
  ⟨fun h => ⟨h.count_lt, h.content_lt, h.data_lt, h.locals_lt, h.directory_lt⟩,
    fun ⟨hcount, hcontent, hdata, hlocals, hdirectory⟩ =>
      ⟨hcount, hcontent, hdata, hlocals, hdirectory⟩⟩

instance : DecidablePred Fits := fun _ => decidable_of_iff _ fits_iff.symm

/-- A byte string is a zip archive of a list of files. -/
def Packs (files : List PackedFile) (body : Bytes) : Prop :=
  ∃ ms : List Member, ms.map (·.file) = files ∧ (∀ m ∈ ms, m.Encodes) ∧ Fits ms ∧ body = pack ms

/-- The member with the content as it is. -/
def Member.stored (f : PackedFile) : Member := ⟨f, 0, f.content, 20, 20, 0x00210000⟩

/-- Files within the limits can be packed. -/
theorem packs_stored {files : List PackedFile} (h : Fits (files.map .stored)) :
    Packs files (pack (files.map .stored)) := by
  refine ⟨_, ?_, ?_, h, rfl⟩
  · rw [List.map_map]
    exact List.map_id files
  · simp only [List.mem_map]
    rintro _ ⟨f, -, rfl⟩
    exact .inl ⟨rfl, rfl⟩

/-! ## Fields -/

theorem length_record (fields : List (Nat × Nat)) :
    (record fields).length = (fields.map (·.1)).sum := by
  induction fields with
  | nil => rfl
  | cons e fields ih =>
    rw [record, List.flatMap_cons, List.length_append, Bytes.length_ofLe, List.map_cons,
      List.sum_cons, ← ih, record]

/-- A field after a mark has its value. -/
theorem field_record (mark : Bytes) {fields : List (Nat × Nat)} {i width value offset : Nat}
    (hi : fields[i]? = some (width, value)) (hvalue : value < 256 ^ width)
    (hoffset : mark.length + ((fields.map (·.1)).take i).sum = offset) (rest : Bytes) :
    field (mark ++ (record fields ++ rest)) offset width = value := by
  obtain ⟨hlt, hget⟩ := List.getElem?_eq_some_iff.1 hi
  have hsplit : record fields = record (fields.take i) ++
      (Bytes.ofLe width value ++ record (fields.drop (i + 1))) := by
    conv_lhs => rw [← List.take_append_drop i fields, List.drop_eq_getElem_cons hlt, hget]
    rw [record, List.flatMap_append, List.flatMap_cons]
    rfl
  have hlength : (record (fields.take i)).length = ((fields.map (·.1)).take i).sum := by
    rw [length_record, List.map_take]
  rw [field, ← hoffset, Bytes.slice_append_right (Nat.le_add_right _ _), Nat.add_sub_cancel_left,
    hsplit, List.append_assoc, Bytes.slice_append_right hlength.le, hlength, Nat.sub_self,
    List.append_assoc, Bytes.slice_zero_append (Bytes.length_ofLe _ _), Bytes.le_ofLe hvalue]

theorem startsWith_append (mark rest : Bytes) : (mark ++ rest).startsWith mark = true :=
  List.isPrefixOf_iff_prefix.2 (List.prefix_append _ _)

section Reading

variable {m : Member} {start : Nat}

theorem length_localFields (m : Member) : (record m.localFields).length = 26 := by
  rw [length_record]
  rfl

theorem length_localEntry (m : Member) :
    m.localEntry.length = 30 + m.file.name.length + m.data.length := by
  have hmark : localMark.length = 4 := rfl
  rw [Member.localEntry, List.length_append, List.length_append, length_localFields,
    List.length_append, hmark]
  omega

/-- The widths of the fields of a directory header. -/
def headerWidths : List Nat := [1, 1, 2, 2, 2, 4, 4, 4, 4, 2, 2, 2, 2, 2, 4, 4]

theorem map_headerFields (m : Member) (start : Nat) :
    (m.headerFields start).map (·.1) = headerWidths := rfl

theorem length_headerFields (m : Member) (start : Nat) :
    (record (m.headerFields start)).length = 42 := by
  rw [length_record, map_headerFields]
  rfl

theorem length_directoryEntry (m : Member) (start : Nat) :
    (m.directoryEntry start).length = 46 + m.file.name.length := by
  have hmark : headerMark.length = 4 := rfl
  rw [Member.directoryEntry, List.length_append, List.length_append, length_headerFields, hmark]
  omega

/-- The header of a member as it is read. -/
def Member.header (m : Member) (start : Nat) : Header where
  system := 3
  isEncrypted := false
  method := m.method
  crc := Crc32.checksum m.file.content
  compressedSize := m.data.length
  attributes := m.attributes
  start := start
  rawName := m.file.name
  name := m.file.name
  comment := []

theorem method_lt (he : m.Encodes) : m.method < 256 ^ 2 ∧ m.method ≠ 99 := by
  rcases he with ⟨h, -⟩ | ⟨h, -⟩ <;> rw [h] <;> decide

theorem attributes_lt (h : m.file.Plain) : m.attributes < 256 ^ 4 := by
  have := h.mode_le
  rw [Member.attributes]
  omega

theorem splitVariable_append (a b : Bytes) : splitVariable a.length (a ++ b) = .ok (a, b) := by
  rw [splitVariable, if_neg (by rw [List.length_append]; omega), List.take_left, List.drop_left]

theorem directoryEntry_append (m : Member) (start : Nat) (rest : Bytes) :
    m.directoryEntry start ++ rest =
      headerMark ++ (record (m.headerFields start) ++ (m.file.name ++ rest)) := by
  simp only [Member.directoryEntry, List.append_assoc]

/-- A field of a directory header, by its index. -/
theorem field_directoryEntry {i width value offset : Nat}
    (hi : (m.headerFields start)[i]? = some (width, value)) (hvalue : value < 256 ^ width)
    (hoffset : headerMark.length + (headerWidths.take i).sum = offset) (rest : Bytes) :
    field (m.directoryEntry start ++ rest) offset width = value := by
  rw [directoryEntry_append]
  exact field_record headerMark hi hvalue hoffset _

theorem drop_directoryEntry (m : Member) (start : Nat) (rest : Bytes) :
    (m.directoryEntry start ++ rest).drop 46 = m.file.name ++ rest := by
  have hfront : (headerMark ++ record (m.headerFields start)).length = 46 := by
    rw [List.length_append, length_headerFields]
    rfl
  rw [directoryEntry_append, ← List.append_assoc, List.drop_left' hfront]

/-- Reading a directory header. -/
theorem readHeader_directoryEntry (h : m.file.Plain) (he : m.Encodes)
    (hdata : m.data.length < 0xFFFFFFFF) (hstart : start < 0xFFFFFFFF) (rest : Bytes) :
    readHeader 0 (m.directoryEntry start ++ rest) = .ok (m.header start, rest) := by
  obtain ⟨bs, hbs⟩ : ∃ bs, bs = m.directoryEntry start ++ rest := ⟨_, rfl⟩
  have hlength : ¬ bs.length < 46 := by
    rw [hbs, List.length_append, length_directoryEntry]
    omega
  have hmark : bs.startsWith headerMark = true := by
    rw [hbs, directoryEntry_append, startsWith_append]
  have hdrop : bs.drop 46 = m.file.name ++ rest := by rw [hbs, drop_directoryEntry]
  have hfield {i width value offset : Nat} (hi : (m.headerFields start)[i]? = some (width, value))
      (hoffset : headerMark.length + (headerWidths.take i).sum = offset)
      (hvalue : value < 256 ^ width) : field bs offset width = value := by
    rw [hbs]
    exact field_directoryEntry hi hvalue hoffset rest
  have hname := h.length_le
  have hsystem : field bs 5 1 = 3 := hfield (i := 1) rfl rfl (by decide)
  have hflags : field bs 8 2 = 0 := hfield (i := 3) rfl rfl (by decide)
  have hmethod : field bs 10 2 = m.method := hfield (i := 4) rfl rfl (method_lt he).1
  have hcrc : field bs 16 4 = Crc32.checksum m.file.content :=
    hfield (i := 6) rfl rfl (UInt32.toNat_lt _)
  have hsize : field bs 20 4 = m.data.length := hfield (i := 7) rfl rfl (by omega)
  have hnameLength : field bs 28 2 = m.file.name.length := hfield (i := 9) rfl rfl (by omega)
  have hextra : field bs 30 2 = 0 := hfield (i := 10) rfl rfl (by decide)
  have hcomment : field bs 32 2 = 0 := hfield (i := 11) rfl rfl (by decide)
  have hattributes : field bs 38 4 = m.attributes := hfield (i := 14) rfl rfl (attributes_lt h)
  have hoffset : field bs 42 4 = start := hfield (i := 15) rfl rfl (by omega)
  have hnone : splitVariable 0 rest = .ok ([], rest) := splitVariable_append [] rest
  have hascii : Name.ofCodePage m.file.name = m.file.name :=
    Name.ofCodePage_ascii fun b hb => (h.ascii b hb).2.1
  have hdecode : (if Nat.testBit 0 11 = true then Name.ofUtf8 else Name.ofCodePage) =
      Name.ofCodePage := if_neg (by decide)
  rw [← hbs]
  unfold readHeader
  rw [if_neg hlength, if_neg (by rw [hmark]; decide), hflags, hnameLength, hdrop]
  dsimp only [bind, Except.bind]
  rw [splitVariable_append]
  dsimp only
  rw [hextra, hnone]
  dsimp only
  rw [hcomment, hnone]
  dsimp only
  rw [hsystem, hmethod, hcrc, hsize, hattributes, hoffset, Nat.zero_testBit, hdecode, hascii]
  dsimp only [List.length_nil, readExtras]
  rw [if_neg fun hc => (method_lt he).2 hc.1]
  rfl

/-- The headers of members, the first of which has its local header at a place. -/
def headers : Nat → List Member → List Header
  | _, [] => []
  | start, m :: ms => m.header start :: headers (start + m.localEntry.length) ms

theorem map_name_headers (ms : List Member) (start : Nat) :
    (headers start ms).map (·.name) = ms.map (·.file.name) := by
  induction ms generalizing start with
  | nil => rfl
  | cons m ms ih =>
    rw [headers, List.map_cons, ih, List.map_cons]
    rfl

/-- Reading all directory headers. -/
theorem readHeaders_directoryBytes {ms : List Member} (h : ∀ m ∈ ms, m.file.Plain)
    (he : ∀ m ∈ ms, m.Encodes) (hdata : ∀ m ∈ ms, m.data.length < 0xFFFFFFFF)
    (hstart : start + (locals ms).length < 0xFFFFFFFF) (rest : Bytes) :
    readHeaders 0 ms.length (directoryBytes start ms ++ rest) = .ok (headers start ms) := by
  induction ms generalizing start with
  | nil => rfl
  | cons m ms ih =>
    rw [locals, List.flatMap_cons, List.length_append, ← locals, ← Nat.add_assoc] at hstart
    have hmore := ih (fun x hx => h x (List.mem_cons_of_mem _ hx))
      (fun x hx => he x (List.mem_cons_of_mem _ hx))
      (fun x hx => hdata x (List.mem_cons_of_mem _ hx)) hstart
    rw [directoryBytes, List.append_assoc, List.length_cons, readHeaders,
      readHeader_directoryEntry (h m List.mem_cons_self) (he m List.mem_cons_self)
        (hdata m List.mem_cons_self) (by omega)]
    dsimp only [bind, Except.bind]
    rw [hmore]
    rfl

/-- Headers with different names stay as they are. -/
theorem foldl_addHeader {seen hs : List Header} (h : ((seen ++ hs).map (·.name)).Nodup) :
    hs.foldl addHeader seen = seen ++ hs := by
  induction hs generalizing seen with
  | nil => rw [List.foldl_nil, List.append_nil]
  | cons new hs ih =>
    have hnew : seen.any (·.name == new.name) = false := by
      rw [List.map_append, List.nodup_append] at h
      rw [List.any_eq_false]
      intro old hold heq
      exact h.2.2 _ (List.mem_map_of_mem hold) _ (List.mem_map_of_mem List.mem_cons_self)
        (by simpa using heq)
    rw [List.append_cons] at h ⊢
    rw [List.foldl_cons, addHeader, if_neg (by rw [hnew]; decide), ih h]

end Reading

/-! ## Finding the directory -/

section Marks

variable {mark bs : Bytes} {limit : Nat}

theorem go_eq_filter (mark : Bytes) (i : Nat) (bs : Bytes) :
    marksBefore.go mark i bs =
      ((List.range bs.length).filter fun k => mark.isPrefixOf (bs.drop k)).map (i + ·) := by
  induction bs generalizing i with
  | nil => rfl
  | cons b bs ih =>
    have hshift : ((fun k => i + k) ∘ Nat.succ) = fun k => i + 1 + k := by
      funext k
      exact (Nat.add_right_comm i 1 k).symm
    rw [marksBefore.go, ih, List.length_cons, List.range_succ_eq_map, List.filter_cons,
      List.filter_map, List.drop_zero]
    split <;> rw [← hshift, ← List.map_map] <;> rfl

theorem mem_marksBefore {i : Nat} :
    i ∈ marksBefore mark limit bs ↔
      i < bs.length ∧ mark <+: bs.drop i ∧ i + mark.length ≤ limit := by
  simp only [marksBefore, go_eq_filter, List.mem_filter, List.mem_map, List.mem_range,
    List.isPrefixOf_iff_prefix, Nat.zero_add, exists_eq_right,
    decide_eq_true_eq, ← and_assoc]

theorem pairwise_marksBefore : (marksBefore mark limit bs).Pairwise (· < ·) := by
  rw [marksBefore, go_eq_filter]
  refine List.Pairwise.filter _ (List.pairwise_map.2 ?_)
  exact (List.pairwise_lt_range.filter _).imp fun h => Nat.add_lt_add_left h 0

/-- In a growing list the first number from one on that is in it is that number. -/
theorem find?_le {l : List Nat} (h : l.Pairwise (· < ·)) {i : Nat} (hi : i ∈ l) :
    l.find? (i ≤ ·) = some i := by
  obtain ⟨before, after, rfl⟩ := List.append_of_mem hi
  have hbefore : before.find? (i ≤ ·) = none := by
    refine List.find?_eq_none.2 fun k hk => ?_
    have := (List.pairwise_append.1 h).2.2 k hk i List.mem_cons_self
    simpa using this
  rw [List.find?_append, hbefore, List.find?_cons_of_pos (by simp)]
  rfl

end Marks

/-- End records that are too short are passed over. -/
theorem findEnd_late {bs : Bytes} {position : Nat} {found placed : EndRecord}
    {late : List Nat} (hlate : ∀ i ∈ late, bs.length < i + endSize)
    (hread : readEnd bs position = .ok found) (hplace : placeDirectory bs found = .ok placed)
    (fault : Option Fault) (before : List Nat) :
    findEnd bs fault (late ++ position :: before) = .ok (placed, before) := by
  induction late generalizing fault with
  | nil => rw [List.nil_append, findEnd, hread]; dsimp only; rw [hplace]
  | cons i late ih =>
    have hshort : (bs.drop i).length < endSize := by
      have := hlate i List.mem_cons_self
      rw [List.length_drop]
      have : 0 < endSize := by decide
      omega
    have hfault : readEnd bs i =
        .error (.invalid "Unexpected end of zip::spec::Zip32CDEBlock") := by
      unfold readEnd
      dsimp only [bind, Except.bind]
      rw [if_pos hshort]
      rfl
    rw [List.cons_append, findEnd, hfault]
    exact ih (fun k hk => hlate k (List.mem_cons_of_mem _ hk)) _

section Directory

variable {ms : List Member}

theorem length_endFields (count size start : Nat) :
    (record (endFields count size start)).length = 18 := by
  rw [length_record]
  rfl

theorem length_endRecord (count size start : Nat) :
    (endRecord count size start).length = endSize := by
  have hmark : endMark.length = 4 := rfl
  rw [endRecord, List.length_append, length_endFields, hmark]
  rfl

/-- The place of the end record in an archive. -/
def endPosition (ms : List Member) : Nat := (locals ms).length + (directoryBytes 0 ms).length

theorem drop_endPosition (ms : List Member) : (pack ms).drop (endPosition ms) =
    endRecord ms.length (directoryBytes 0 ms).length (locals ms).length := by
  have hlength : (locals ms ++ directoryBytes 0 ms).length = endPosition ms := List.length_append
  rw [pack, ← List.append_assoc, List.drop_left' hlength]

theorem drop_locals (ms : List Member) : (pack ms).drop (locals ms).length =
    directoryBytes 0 ms ++
      endRecord ms.length (directoryBytes 0 ms).length (locals ms).length :=
  List.drop_left

theorem length_pack (ms : List Member) : (pack ms).length = endPosition ms + endSize := by
  rw [pack, List.length_append, List.length_append, length_endRecord, endPosition, Nat.add_assoc]

/-- What the end record of an archive says. -/
def endOf (ms : List Member) : EndRecord where
  position := endPosition ms
  disk := 0
  directoryDisk := 0
  count := ms.length
  total := ms.length
  offset := (locals ms).length

theorem readEnd_pack (h : Fits ms) : readEnd (pack ms) (endPosition ms) = .ok (endOf ms) := by
  obtain ⟨r, hr⟩ : ∃ r, r = endRecord ms.length (directoryBytes 0 ms).length (locals ms).length :=
    ⟨_, rfl⟩
  have hlength : r.length = endSize := by rw [hr, length_endRecord]
  have hfield {i width value offset : Nat}
      (hi : (endFields ms.length (directoryBytes 0 ms).length (locals ms).length)[i]? =
        some (width, value))
      (hoffset : endMark.length + ([2, 2, 2, 2, 4, 4, 2].take i).sum = offset)
      (hvalue : value < 256 ^ width) : field r offset width = value := by
    rw [hr, endRecord, ← List.append_nil (record _)]
    exact field_record endMark hi hvalue hoffset []
  have hcount := h.count_lt
  have hlocals := h.locals_lt
  have hdisk : field r 4 2 = 0 := hfield (i := 0) rfl rfl (by decide)
  have hdirectoryDisk : field r 6 2 = 0 := hfield (i := 1) rfl rfl (by decide)
  have hhere : field r 8 2 = ms.length := hfield (i := 2) rfl rfl (by omega)
  have htotal : field r 10 2 = ms.length := hfield (i := 3) rfl rfl (by omega)
  have hoffset : field r 16 4 = (locals ms).length := hfield (i := 5) rfl rfl (by omega)
  have hcomment : field r 20 2 = 0 := hfield (i := 6) rfl rfl (by decide)
  unfold readEnd
  rw [drop_endPosition, ← hr]
  dsimp only [bind, Except.bind]
  rw [hcomment, if_neg (by omega), if_neg (by omega), hdisk, hdirectoryDisk, hhere, htotal, hoffset]
  rfl

/-- The directory is where the end record says. -/
theorem placeDirectory_endOf (ms : List Member) :
    placeDirectory (pack ms) (endOf ms) = .ok (endOf ms) := by
  unfold placeDirectory
  cases ms with
  | nil => rfl
  | cons m ms =>
    have hentry := length_directoryEntry m 0
    have hdirectory : 46 ≤ (directoryBytes 0 (m :: ms)).length := by
      rw [directoryBytes, List.length_append, hentry]
      omega
    have hposition : (endOf (m :: ms)).position =
        (locals (m :: ms)).length + (directoryBytes 0 (m :: ms)).length := rfl
    have hmark : headerMark <+: (pack (m :: ms)).drop (locals (m :: ms)).length := by
      rw [drop_locals, directoryBytes, List.append_assoc, directoryEntry_append]
      exact List.prefix_append _ _
    have hmem : (locals (m :: ms)).length ∈
        marksBefore headerMark (endOf (m :: ms)).position (pack (m :: ms)) := by
      have hfour : headerMark.length = 4 := rfl
      rw [mem_marksBefore, length_pack, endPosition, hposition, hfour]
      exact ⟨by omega, hmark, by omega⟩
    have hoffset : (endOf (m :: ms)).offset = (locals (m :: ms)).length := rfl
    have htotal : (endOf (m :: ms)).total ≠ 0 := Nat.succ_ne_zero _
    rw [if_neg htotal, if_neg (by rw [hposition, hoffset]; omega), hoffset]
    dsimp only [bind, Except.bind]
    rw [find?_le pairwise_marksBefore hmem]
    dsimp only
    rw [Nat.sub_self]
    rfl

/-- The last end record that is long enough to be one is that of the archive. -/
theorem findEnd_pack (h : Fits ms) : ∃ before,
    findEnd (pack ms) none (marksBefore endMark (pack ms).length (pack ms)).reverse =
      .ok (endOf ms, before) := by
  have hsize : endMark.length ≤ endSize := by decide
  have hmem : endPosition ms ∈ marksBefore endMark (pack ms).length (pack ms) := by
    rw [mem_marksBefore, drop_endPosition, length_pack]
    have : 0 < endSize := by decide
    exact ⟨by omega, List.prefix_append _ _, by omega⟩
  have hsorted : (marksBefore endMark (pack ms).length (pack ms)).Pairwise (· < ·) :=
    pairwise_marksBefore
  obtain ⟨before, after, hsplit⟩ := List.append_of_mem hmem
  refine ⟨before.reverse, ?_⟩
  rw [hsplit] at hsorted
  rw [hsplit, List.reverse_append, List.reverse_cons, List.append_assoc]
  refine findEnd_late (fun i hi => ?_) (readEnd_pack h) (placeDirectory_endOf ms) none _
  have hlater := List.rel_of_pairwise_cons (List.pairwise_append.1 hsorted).2.1
    (List.mem_reverse.1 hi)
  rw [length_pack]
  omega

/-- Reading the directory of an archive. -/
theorem directory_pack (h : ∀ m ∈ ms, m.file.Plain) (he : ∀ m ∈ ms, m.Encodes) (hfits : Fits ms)
    (hnames : (ms.map (·.file.name)).Nodup) : directory (pack ms) = .ok (headers 0 ms) := by
  obtain ⟨before, hfind⟩ := findEnd_pack hfits
  have hread : readHeaders 0 ms.length ((pack ms).drop (locals ms).length) =
      .ok (headers 0 ms) := by
    rw [drop_locals]
    refine readHeaders_directoryBytes h he hfits.data_lt ?_ _
    rw [Nat.zero_add]
    exact hfits.locals_lt
  have hof : directoryOf (pack ms) (endOf ms) = .ok (headers 0 ms) := by
    unfold directoryOf
    show (do
      let hs ← readHeaders 0 ms.length ((pack ms).drop (locals ms).length)
      return hs.foldl addHeader []) = _
    rw [hread]
    show Except.ok ((headers 0 ms).foldl addHeader []) = _
    rw [foldl_addHeader (by rwa [List.nil_append, map_name_headers]), List.nil_append]
  unfold directory
  dsimp only
  rw [firstDirectory, hfind]
  dsimp only
  rw [hof]

end Directory

/-! ## The contents -/

section Contents

variable {m : Member}

/-- The entry that a member is read as. -/
def Member.entry (m : Member) : Entry :=
  ⟨some ⟨m.file.name⟩, .file, some (0o100000 + m.file.mode), ⟨m.file.content, none⟩⟩

/-- The data of a member follows its local header. -/
theorem data_localEntry (h : m.file.Plain) (before after : Bytes) :
    data (before ++ (m.localEntry ++ after)) (m.header before.length) = .ok m.data := by
  obtain ⟨bs, hbs⟩ : ∃ bs, bs = m.localEntry ++ after := ⟨_, rfl⟩
  have hform : bs =
      localMark ++ (record m.localFields ++ (m.file.name ++ (m.data ++ after))) := by
    simp only [hbs, Member.localEntry, List.append_assoc]
  have hdrop : (before ++ bs).drop before.length = bs := List.drop_left
  have hlength : ¬ bs.length < 30 := by
    rw [hbs, List.length_append, length_localEntry]
    omega
  have hmark : bs.startsWith localMark = true := by rw [hform, startsWith_append]
  have hname := h.length_le
  have hnameLength : field bs 26 2 = m.file.name.length := by
    rw [hform]
    exact field_record localMark (i := 7) rfl (by omega) rfl _
  have hextra : field bs 28 2 = 0 := by
    rw [hform]
    exact field_record localMark (i := 8) rfl (by decide) rfl _
  have hdata : bs.drop (30 + m.file.name.length + 0) = m.data ++ after := by
    have hfront : (localMark ++ (record m.localFields ++ m.file.name)).length =
        30 + m.file.name.length + 0 := by
      have hfour : localMark.length = 4 := rfl
      rw [List.length_append, List.length_append, length_localFields, hfour]
      omega
    rw [hform, ← List.append_assoc (record _), ← List.append_assoc, List.drop_left' hfront]
  rw [← hbs]
  unfold data
  rw [show (m.header before.length).start = before.length from rfl, hdrop]
  dsimp only [bind, Except.bind]
  rw [if_neg hlength, if_neg (by rw [hmark]; decide), hnameLength, hextra, hdata]
  show Except.ok ((m.data ++ after).take m.data.length) = _
  rw [List.take_left]

theorem checkedEnd_checksum (content : Bytes) :
    checkedEnd (Crc32.checksum content) content = .finished := if_pos rfl

/-- A member is decoded to the content of its file, stored or deflated. -/
theorem content_localEntry (h : m.file.Plain) (he : m.Encodes) (before after : Bytes) :
    content (before ++ (m.localEntry ++ after)) (m.header before.length) =
      .ok (whole m.file.content) := by
  unfold content
  dsimp only [bind, Except.bind]
  rw [data_localEntry h, if_neg (show ¬ (m.header before.length).isEncrypted = true by
    exact Bool.false_ne_true)]
  dsimp only
  rw [show (m.header before.length).method = m.method from rfl,
    show (m.header before.length).crc = Crc32.checksum m.file.content from rfl]
  rcases he with ⟨hmethod, hdata⟩ | ⟨hmethod, hdata⟩
  · rw [hmethod, hdata, checkedEnd_checksum]
    rfl
  · have hinflate := Deflate.inflate_deflates hdata []
    rw [List.append_nil] at hinflate
    rw [hmethod]
    unfold Inflated.decoded
    rw [hinflate]
    dsimp only
    rw [checkedEnd_checksum]
    rfl

theorem readAll_whole (content : Bytes) : readAll (whole content) = ⟨content, none⟩ := by
  unfold readAll
  rw [collect_whole _ (by decide)]
  exact congrArg (Stream.mk · none) (List.take_of_length_le (Nat.le_succ _))

/-- Reading the members gives the entries. -/
theorem entriesFrom_headers {ms : List Member} (h : ∀ m ∈ ms, m.file.Plain)
    (hdrive : ∀ m ∈ ms, m.file.NoDrive) (he : ∀ m ∈ ms, m.Encodes) (before after : Bytes)
    (index : Nat) :
    entriesFrom (before ++ (locals ms ++ after)) index (headers before.length ms) =
      ⟨ms.map Member.entry, none⟩ := by
  induction ms generalizing before index with
  | nil => rfl
  | cons m ms ih =>
    have hm := h m List.mem_cons_self
    have hmore := ih (fun x hx => h x (List.mem_cons_of_mem _ hx))
      (fun x hx => hdrive x (List.mem_cons_of_mem _ hx))
      (fun x hx => he x (List.mem_cons_of_mem _ hx)) (before ++ m.localEntry) (index + 1)
    have hmode : (m.header before.length).mode? = some (0o100000 + m.file.mode) := by
      have hunix : m.attributes / 65536 = 0o100000 + m.file.mode :=
        Nat.mul_div_left _ (by decide)
      have hpositive : m.attributes ≠ 0 := by
        rw [Member.attributes]
        omega
      rw [Header.mode?]
      show (if m.attributes = 0 then none
        else if m.attributes / 65536 ≠ 0 then some (m.attributes / 65536) else _) = _
      rw [if_neg hpositive, hunix, if_pos (by omega)]
    have hlocals : locals (m :: ms) ++ after = m.localEntry ++ (locals ms ++ after) := by
      rw [locals, List.flatMap_cons, List.append_assoc, locals]
    rw [List.length_append, List.append_assoc] at hmore
    rw [hlocals, headers, entriesFrom, content_localEntry hm (he m List.mem_cons_self)]
    dsimp only
    rw [hmore, readAll_whole, hmode, show (m.header before.length).name = m.file.name from rfl,
      Name.relative?_name hm (hdrive m List.mem_cons_self), Name.isDirectory_name hm]
    rfl

/-- Reading an archive of members gives an entry for each. -/
theorem listing_pack {ms : List Member} (h : ∀ m ∈ ms, m.file.Plain)
    (hdrive : ∀ m ∈ ms, m.file.NoDrive) (he : ∀ m ∈ ms, m.Encodes) (hfits : Fits ms)
    (hnames : (ms.map (·.file.name)).Nodup) : listing (pack ms) = ⟨ms.map Member.entry, none⟩ := by
  rw [listing, directory_pack h he hfits hnames]
  dsimp only
  exact entriesFrom_headers h hdrive he [] _ 0

theorem isEntry_entry (h : m.file.Plain) : m.file.IsEntry m.entry where
  place := h.place? rfl
  kind := rfl
  mode := ⟨0o100000 + m.file.mode, rfl, by
    have := h.mode_le
    rw [permissions_eq_mod]
    omega⟩
  content := rfl

/-- Reading a zip archive of files gives an entry for each of them. -/
theorem listing_packs {files : List PackedFile} {body : Bytes} (hfiles : Packable files)
    (hdrive : ∀ f ∈ files, f.NoDrive) (h : Packs files body) :
    ∃ entries, listing body = ⟨entries, none⟩ ∧
      List.Forall₂ PackedFile.IsEntry files entries := by
  obtain ⟨ms, rfl, he, hfits, rfl⟩ := h
  have hplain : ∀ m ∈ ms, m.file.Plain := fun m hm => hfiles.plain _ (List.mem_map_of_mem hm)
  have hnames : (ms.map (·.file.name)).Nodup := by
    refine List.pairwise_map.2 ((List.pairwise_map.1 hfiles.apart).imp fun hapart heq => ?_)
    refine hapart.1 ?_
    rw [PackedFile.place, heq]
    exact List.prefix_refl _
  have hdrives : ∀ m ∈ ms, m.file.NoDrive := fun m hm => hdrive _ (List.mem_map_of_mem hm)
  refine ⟨_, listing_pack hplain hdrives he hfits hnames, ?_⟩
  rw [List.forall₂_map_left_iff, List.forall₂_map_right_iff, List.forall₂_same]
  exact fun m hm => isEntry_entry (hplain m hm)

end Contents

end Provision.Archive.Zip
