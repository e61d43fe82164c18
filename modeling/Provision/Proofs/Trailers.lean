import Provision.Proofs.GzipMembers
import Provision.Proofs.Requests
import Provision.Proofs.Tarballs
import Provision.Proofs.Unpacking

/-!
# The ends of tar archives and gzip members

A tar archive is read until its data is at its end or a block of zeros stands in the place of a
header. Only at the end of the data has the decoder come to the trailer.

* `Tar.At` says where in the data a reader is; one lemma for each step says where it is then.
* `Tar.complete_or_hasEndMark` is about an archive that has been read without a failure.
* `Gzip.Intact` says that a gzip member is complete and that its trailer fits; so it is if decoding
  comes to a regular end, `Gzip.intact_of_finished`.
-/

namespace Provision.Archive

/-- Nothing has failed: the listing goes to the end, and the contents of the files that are not
passed over could be read. -/
structure Listing.IsRead (l : Listing) : Prop where
  failure : l.failure = none
  contents : Readable l.entries

theorem Listing.IsRead.tail {e : Entry} {l : Listing}
    (h : Listing.IsRead { l with entries := e :: l.entries }) : l.IsRead :=
  ⟨h.failure, fun e' he' => h.contents e' (List.mem_cons_of_mem _ he')⟩

/-- A file is passed over exactly if its name is unsafe. -/
theorem isSome_target?_file {e : Entry} (h : e.kind = .file) :
    e.target?.isSome = (e.name.bind safePath?).isSome := by
  rw [Memory.name_bind_safePath?, Option.isSome_map, Entry.target?, if_neg (by rw [h]; decide)]

namespace Tar

open Decoded (Gets Portioned)

/-- A whole block from some position on, or after it, has only zeros. -/
def HasZeroBlock (start : Nat) (bs : Bytes) : Prop :=
  ∃ before after, bs = before ++ (List.replicate block 0 ++ after) ∧
    before.length % block = 0 ∧ start ≤ before.length

/-- How far entries reach at least: each has a header block, and its content if that is copied. -/
def extent (entries : List Entry) : Nat :=
  (entries.map fun e => block + e.content.bytes.length).sum

/-- The data of an archive has the mark of its end: a block of zeros after its entries. -/
def HasEndMark (d : Decoded) : Prop := HasZeroBlock (extent (listing d).entries) d.bytes

/-- Some data is what is left of the whole data from a position on. -/
structure At (whole : Decoded) (position : Nat) (d : Decoded) : Prop where
  bytes : d.bytes = whole.bytes.drop position
  position_le : position ≤ whole.bytes.length
  ending : d.ending = whole.ending
  portioned : d.Portioned

/-- A reader is at a position, and at a whole block once it goes to the next header. -/
structure On (whole : Decoded) (position : Nat) (c : Cursor) : Prop where
  data : At whole position c.data
  aligned : (position + c.toNext) % block = 0

theorem extent_cons (e : Entry) (entries : List Entry) :
    extent (e :: entries) = block + e.content.bytes.length + extent entries := by
  unfold extent
  rw [List.map_cons, List.sum_cons]

variable {whole d d' : Decoded} {position n fuel total : Nat} {c c' : Cursor} {got : Bytes}

/-! ## Steps of a reader -/

theorem At.length (h : At whole position d) :
    d.bytes.length = whole.bytes.length - position := by
  rw [h.bytes, List.length_drop]

/-- What has been got lies before the new position. -/
theorem At.gets (h : At whole position d) (hg : Gets n d got d') :
    At whole (position + got.length) d' := by
  have hlength := congrArg List.length hg.bytes
  rw [List.length_append, h.length] at hlength
  have hle := h.position_le
  refine ⟨?_, by omega, hg.ending.trans h.ending, hg.portioned⟩
  rw [← List.drop_drop, ← h.bytes, ← hg.bytes, List.drop_left]

theorem At.short (h : At whole position d) (hg : Gets n d got d') (hshort : got.length < n) :
    whole.ending = .finished :=
  h.ending.symm.trans (hg.short hshort).2

theorem On.advance (h : On whole position c) (ha : c.advance = .ok d) :
    At whole (position + c.toNext) d := by
  unfold Cursor.advance at ha
  dsimp only at ha
  cases hfault : (c.data.collect 32768 c.toNext).fault with
  | some message =>
    rw [hfault] at ha
    cases ha
  | none =>
    have hgets := h.data.portioned.collect (by decide) hfault
    rw [hfault] at ha
    dsimp only at ha
    split_ifs at ha with hshort
    cases ha
    have hat := h.data.gets hgets
    rwa [hgets.full (Nat.not_lt.1 hshort)] at hat

/-- A block is read in whole, or there is none at the end of the data. -/
theorem At.readBlock (h : At whole position d) {found : Option Bytes}
    (hr : readBlock d = .ok (found, d')) :
    (found = none ∧ whole.ending = .finished) ∨
      ∃ b, found = some b ∧ At whole (position + block) d' ∧ b ++ d'.bytes = d.bytes ∧
        b.length = block := by
  unfold Tar.readBlock at hr
  dsimp only at hr
  cases hfault : (d.collect block block).fault with
  | some message =>
    rw [hfault] at hr
    cases hr
  | none =>
    have hgets := h.portioned.collect (by decide) hfault
    rw [hfault] at hr
    dsimp only at hr
    split_ifs at hr with hempty hshort
    · cases hr
      refine .inl ⟨rfl, h.short hgets ?_⟩
      rw [List.isEmpty_iff.1 hempty]
      decide
    · cases hr
      have hlength := hgets.full (Nat.not_lt.1 hshort)
      have hat := h.gets hgets
      rw [hlength] at hat
      exact .inr ⟨_, rfl, hat, hgets.bytes, hlength⟩

theorem At.readBlock_none (h : At whole position d) (hr : Tar.readBlock d = .ok (none, d')) :
    whole.ending = .finished := by
  rcases h.readBlock hr with ⟨-, hending⟩ | ⟨b, hb, -⟩
  · exact hending
  · cases hb

theorem At.readBlock_some (h : At whole position d) {b : Bytes}
    (hr : Tar.readBlock d = .ok (some b, d')) :
    At whole (position + block) d' ∧ b ++ d'.bytes = d.bytes ∧ b.length = block := by
  rcases h.readBlock hr with ⟨hb, -⟩ | ⟨b', hb, hrest⟩
  · cases hb
  · cases hb
    exact hrest

/-- A block of zeros that is read at a whole block is one of the data. -/
theorem At.hasZeroBlock (h : At whole position d) (haligned : position % block = 0) {b : Bytes}
    (hb : b ++ d'.bytes = d.bytes) (hlength : b.length = block) (hzero : b.all (· == 0) = true) :
    HasZeroBlock position whole.bytes := by
  have hzeros : b = List.replicate block 0 := by
    refine List.eq_replicate_iff.2 ⟨hlength, fun x hx => ?_⟩
    exact beq_iff_eq.1 (List.all_eq_true.1 hzero x hx)
  have hbefore : (whole.bytes.take position).length = position := by
    rw [List.length_take, Nat.min_eq_left h.position_le]
  refine ⟨whole.bytes.take position, d'.bytes, ?_, ?_, hbefore.ge⟩
  · rw [← hzeros, hb, h.bytes, List.take_append_drop]
  · rw [hbefore, haligned]

theorem HasZeroBlock.mono {start start' : Nat} (hle : start ≤ start') {bs : Bytes}
    (h : HasZeroBlock start' bs) : HasZeroBlock start bs := by
  obtain ⟨before, after, hbytes, haligned, hstart⟩ := h
  exact ⟨before, after, hbytes, haligned, hle.trans hstart⟩

theorem rounded_mod (size : Nat) : rounded size % block = 0 := Nat.mul_mod_left _ _

/-- What the next header can be: none at the end of the data or at a block of zeros, or that of a
member, whose contents fill whole blocks. -/
theorem readMember_cases {attributes : Option Bytes} {start : Nat} {found : Option Member}
    (hr : readMember attributes start c = .ok (found, c')) :
    ∃ d, c.advance = .ok d ∧
      ((found = none ∧ readBlock d = .ok (none, c'.data)) ∨
        ∃ b, readBlock d = .ok (some b, c'.data) ∧
          ((found = none ∧ b.all (· == 0) = true) ∨
            ∃ m, found = some m ∧ c'.toNext = rounded m.size)) := by
  unfold readMember at hr
  obtain ⟨d, hadvance, hr⟩ := exists_of_bind hr
  obtain ⟨⟨got, d'⟩, hblock, hr⟩ := exists_of_bind hr
  refine ⟨d, hadvance, ?_⟩
  cases got with
  | none =>
    cases hr
    exact .inl ⟨rfl, hblock⟩
  | some b =>
    dsimp only at hr
    split at hr
    · rename_i hzero
      cases hr
      exact .inr ⟨b, hblock, .inl ⟨rfl, hzero⟩⟩
    · obtain ⟨checksum, -, hr⟩ := exists_of_bind hr
      split at hr
      · cases hr
      · obtain ⟨own, -, hr⟩ := exists_of_bind hr
        generalize (if Header.isDescriptive _ = true then own else _) = size at hr
        split at hr
        · cases hr
        · cases hr
          exact .inr ⟨b, hblock, .inr ⟨_, rfl, rfl⟩⟩

/-- The members end with the data or at a block of zeros. -/
theorem On.readMember_none (h : On whole position c) {attributes : Option Bytes} {start : Nat}
    (hr : readMember attributes start c = .ok (none, c')) :
    whole.ending = .finished ∨ HasZeroBlock position whole.bytes := by
  obtain ⟨d, hadvance, ⟨-, hblock⟩ | ⟨b, hblock, ⟨-, hzero⟩ | ⟨m, hm, -⟩⟩⟩ := readMember_cases hr
  · exact .inl ((h.advance hadvance).readBlock_none hblock)
  · obtain ⟨-, hb, hlength⟩ := (h.advance hadvance).readBlock_some hblock
    exact .inr (((h.advance hadvance).hasZeroBlock h.aligned hb hlength hzero).mono
      (Nat.le_add_right _ _))
  · cases hm

theorem On.readMember_some (h : On whole position c) {attributes : Option Bytes} {start : Nat}
    {m : Member} (hr : readMember attributes start c = .ok (some m, c')) :
    On whole (position + c.toNext + block) c' ∧ m.size ≤ c'.toNext := by
  obtain ⟨d, hadvance, ⟨hm, -⟩ | ⟨b, hblock, ⟨hm, -⟩ | ⟨m', hm, hnext⟩⟩⟩ := readMember_cases hr
  · cases hm
  · cases hm
  · cases hm
    obtain ⟨hat, -, -⟩ := (h.advance hadvance).readBlock_some hblock
    refine ⟨⟨hat, ?_⟩, by rw [hnext]; exact le_rounded _⟩
    rw [hnext, Nat.add_mod, rounded_mod, Nat.add_zero, Nat.mod_mod, Nat.add_mod_right, h.aligned]

/-- The contents of a member do not reach beyond its blocks. -/
theorem On.readContents (h : On whole position c) {size : Nat} (hsize : size ≤ c.toNext)
    {content : Stream} (hr : readContents size c = (content, c')) (hfault : content.fault = none) :
    On whole (position + content.bytes.length) c' := by
  cases hr
  have hgets := h.data.portioned.collect (by decide) hfault
  have hle := hgets.length_le
  refine ⟨h.data.gets hgets, ?_⟩
  show (position + _ + (c.toNext - _)) % block = 0
  rw [Nat.add_assoc, Nat.add_sub_cancel' (hle.trans hsize), h.aligned]

theorem On.readRecord (h : On whole position c) {size : Nat} (hsize : size ≤ c.toNext)
    {record : Bytes} (hr : readRecord size c = .ok (record, c')) :
    ∃ position', On whole position' c' ∧ position ≤ position' := by
  unfold Tar.readRecord at hr
  split at hr
  · cases hr
  · rename_i hcontents
    cases hr
    exact ⟨_, h.readContents hsize hcontents rfl, Nat.le_add_right _ _⟩

theorem On.readPieces (h : On whole position c) {size : Nat} {s s' : Sparse}
    (hr : readPieces size fuel s c = .ok (s', c')) :
    ∃ position', On whole position' c' ∧ position ≤ position' ∧ c'.toNext = c.toNext := by
  induction fuel generalizing position s c with
  | zero =>
    cases hr
    exact ⟨position, h, le_refl _, rfl⟩
  | succ fuel ih =>
    unfold Tar.readPieces at hr
    obtain ⟨⟨found, d'⟩, hblock, hr⟩ := exists_of_bind hr
    cases found with
    | none => cases hr
    | some b =>
      obtain ⟨pieces, -, hr⟩ := exists_of_bind hr
      have hnext : On whole (position + block) ⟨d', c.toNext⟩ := by
        refine ⟨(h.data.readBlock_some hblock).1, ?_⟩
        rw [Nat.add_right_comm, Nat.add_mod_right, h.aligned]
      dsimp only at hr
      split_ifs at hr
      · obtain ⟨position', hon, hle, htoNext⟩ := ih hnext hr
        exact ⟨position', hon, (Nat.le_add_right _ _).trans hle, htoNext⟩
      · cases hr
        exact ⟨_, hnext, Nat.le_add_right _ _, rfl⟩

/-- A sparse member has its contents after the list of its pieces. -/
theorem On.checkSparse (h : On whole position c) {m : Member} (hr : checkSparse m c = .ok c') :
    ∃ position', On whole position' c' ∧ position ≤ position' ∧ c'.toNext = c.toNext := by
  unfold Tar.checkSparse at hr
  dsimp only at hr
  split at hr
  · cases hr
    exact ⟨position, h, le_refl _, rfl⟩
  · split at hr
    · cases hr
    · obtain ⟨s, -, hr⟩ := exists_of_bind hr
      split at hr
      all_goals
        obtain ⟨⟨s', c₁⟩, hpieces, hr⟩ := exists_of_bind hr
        obtain ⟨realSize, -, hr⟩ := exists_of_bind hr
        -- the checks at the end leave the reader where it is
        obtain rfl : c₁ = c' := by
          split at hr
          · cases hr
          · split at hr
            · cases hr
            · cases hr
              rfl
      · exact h.readPieces hpieces
      · cases hpieces
        exact ⟨position, h, le_refl _, rfl⟩

/-! ## Entries -/

/-- What a reader finds that looks for the next entry: that there is none because the data is at its
end or there is a block of zeros, or an entry, and then it is further on. -/
def Finds (whole : Decoded) (position : Nat) : Option (Member × Notes) × Cursor → Prop
  | (none, _) => whole.ending = .finished ∨ HasZeroBlock position whole.bytes
  | (some (m, _), c) =>
    ∃ position', On whole position' c ∧ position + block ≤ position' ∧ m.size ≤ c.toNext

theorem Finds.mono {position' : Nat} (hle : position ≤ position')
    {r : Option (Member × Notes) × Cursor} (h : Finds whole position' r) :
    Finds whole position r := by
  obtain ⟨found, c⟩ := r
  cases found with
  | none => exact h.imp_right fun hzero => hzero.mono hle
  | some m =>
    obtain ⟨position'', hon, hfurther, hsize⟩ := h
    exact ⟨position'', hon, by omega, hsize⟩

theorem On.nextEntry (h : On whole position c) {notes : Notes}
    {r : Option (Member × Notes) × Cursor} (hfuel : whole.bytes.length < position + fuel)
    (hr : nextEntry total fuel notes c = .ok r) : Finds whole position r := by
  -- every member takes a block, so the data is at its end before the fuel is used up
  induction fuel generalizing position notes c with
  | zero =>
    have := h.data.position_le
    omega
  | succ fuel ih =>
    unfold Tar.nextEntry at hr
    obtain ⟨⟨found, c₁⟩, hmember, hr⟩ := exists_of_bind hr
    cases found with
    | none =>
      dsimp only at hr
      split at hr
      · cases hr
      · cases hr
        exact h.readMember_none hmember
    | some m =>
      obtain ⟨hon, hsize⟩ := h.readMember_some hmember
      have hblock : 0 < block := by decide
      -- a member that describes another one is read before the next header
      have hdescribes : ∀ {record : Bytes} {c₂ : Cursor} {notes' : Notes},
          Tar.readRecord m.size c₁ = .ok (record, c₂) →
          Tar.nextEntry total fuel notes' c₂ = .ok r → Finds whole position r := by
        intro record c₂ notes' hrecord hnext
        obtain ⟨position', hon', hle⟩ := hon.readRecord hsize hrecord
        exact (ih hon' (by omega) hnext).mono (by omega)
      dsimp only at hr
      split at hr
      · split at hr
        · cases hr
        · obtain ⟨⟨record, c₂⟩, hrecord, hnext⟩ := exists_of_bind hr
          exact hdescribes hrecord hnext
      · split at hr
        · split at hr
          · cases hr
          · obtain ⟨⟨record, c₂⟩, hrecord, hnext⟩ := exists_of_bind hr
            exact hdescribes hrecord hnext
        · split at hr
          · split at hr
            · cases hr
            · obtain ⟨⟨record, c₂⟩, hrecord, hnext⟩ := exists_of_bind hr
              exact hdescribes hrecord hnext
          · obtain ⟨c₂, hsparse, hr⟩ := exists_of_bind hr
            cases hr
            obtain ⟨position', hon', hle, htoNext⟩ := hon.checkSparse hsparse
            exact ⟨position', hon', by omega, by rwa [htoNext]⟩

theorem On.entriesFrom (h : On whole position c) (htotal : total = whole.bytes.length)
    (hfuel : whole.bytes.length < position + fuel) (hread : (entriesFrom total fuel c).IsRead) :
    whole.ending = .finished ∨
      HasZeroBlock (position + extent (entriesFrom total fuel c).entries) whole.bytes := by
  induction fuel generalizing position c with
  | zero =>
    have := h.data.position_le
    omega
  | succ fuel ih =>
    unfold Tar.entriesFrom at hread ⊢
    have hblock : 0 < block := by decide
    cases hnext : Tar.nextEntry total (total + 1) {} c with
    | error message =>
      rw [hnext] at hread
      cases hread.failure
    | ok r =>
      have hfinds := h.nextEntry (by omega) hnext
      rw [hnext] at hread
      obtain ⟨found, c₁⟩ := r
      cases found with
      | none => exact hfinds
      | some entry =>
        obtain ⟨m, notes⟩ := entry
        obtain ⟨position', hon, hfurther, hsize⟩ := hfinds
        dsimp only at hread ⊢
        split at hread
        · rename_i hfile
          have htarget (content : Stream) : (Entry.mk (some ⟨notes.path m.header⟩) m.header.kind
              m.header.mode? content).target?.isSome := by
            rw [isSome_target?_file hfile.1]
            exact hfile.2
          rw [if_pos hfile]
          split at hread
          · have hfault := hread.contents _ List.mem_cons_self hfile.1 (htarget _)
            cases hfault
          · rename_i content c₂ _ hcontents
            have hfault := hread.contents _ List.mem_cons_self hfile.1 (htarget _)
            refine (ih (hon.readContents hsize hcontents hfault) (by omega) hread.tail).imp_right
              fun hzero => hzero.mono ?_
            rw [extent_cons]
            dsimp only
            omega
        · rename_i hfile
          rw [if_neg hfile]
          refine (ih hon (by omega) hread.tail).imp_right fun hzero => hzero.mono ?_
          rw [extent_cons]
          dsimp only [List.length_nil]
          omega

/-- An archive that has been read without a failure has been read to the end of its data, or there
is the mark of its end. -/
theorem complete_or_hasEndMark (h : d.Portioned) (hread : (listing d).IsRead) :
    d.ending = .finished ∨ HasEndMark d := by
  have hstart : On d 0 ⟨d, 0⟩ := ⟨⟨rfl, Nat.zero_le _, rfl, h⟩, rfl⟩
  have hend := hstart.entriesFrom rfl (by omega) hread
  rw [Nat.zero_add] at hend
  exact hend

end Tar

/-! ## Gzip members -/

namespace Gzip

/-- A gzip member stands at the start of a byte string: after the header there is complete deflated
data, and after it the checksum and the length of what it inflates to. -/
def Intact (bs : Bytes) : Prop :=
  ∃ data rest, afterHeader endOfFile bs = .ok data ∧ (Deflate.inflate data).rest = .ok rest ∧
    8 ≤ rest.length ∧
    Bytes.le (rest.slice 0 4) = Crc32.checksum (Deflate.inflate data).bytes ∧
    Bytes.le (rest.slice 4 4) = (Deflate.inflate data).bytes.length % UInt32.size

theorem portioned_decode (s : Stream) : (decode s).Portioned := by
  unfold decode
  split
  · exact Decoded.portioned_of_cuts rfl
  · dsimp only
    split
    · exact Inflated.portioned_decoded _ _ _
    · exact Inflated.portioned_interrupted _ _ _ _

/-- How a header that ends too early is reported does not matter to one that is complete. -/
theorem afterHeader_ok {short short' : String} {bs data : Bytes}
    (h : afterHeader short bs = .ok data) : afterHeader short' bs = .ok data :=
  afterHeader_eq_ok_iff.2 (afterHeader_eq_ok_iff.1 h)

theorem trailerEnd_eq_finished {short : String} {contents rest : Bytes} :
    trailerEnd short contents rest = .finished ↔ 8 ≤ rest.length ∧
      Bytes.le (rest.slice 0 4) = Crc32.checksum contents ∧
      Bytes.le (rest.slice 4 4) = contents.length % UInt32.size := by
  unfold trailerEnd
  split_ifs with hshort hfits
  · refine ⟨nofun, fun h => ?_⟩
    omega
  · exact ⟨fun _ => ⟨Nat.not_lt.1 hshort, hfits⟩, fun _ => rfl⟩
  · exact ⟨nofun, fun h => absurd h.2 hfits⟩

/-- Decoding comes to a regular end only after a fitting trailer. -/
theorem intact_of_finished {s : Stream} (h : (decode s).ending = .finished) : Intact s.bytes := by
  unfold decode at h
  cases hheader : afterHeader (s.fault.getD endOfFile) s.bytes with
  | error message =>
    rw [hheader] at h
    cases h
  | ok data =>
    rw [hheader] at h
    dsimp only at h
    have hintact {ends : List Nat} {short : String}
        (hend : (Inflated.decoded ends (trailerEnd short) data).ending = .finished) :
        Intact s.bytes := by
      obtain ⟨rest, hrest, htrailer⟩ := Inflated.ending_decoded.1 hend
      exact ⟨data, rest, afterHeader_ok hheader, hrest, trailerEnd_eq_finished.1 htrailer⟩
    split at h
    · exact hintact h
    · unfold Inflated.interrupted at h
      dsimp only at h
      split at h
      · cases h
      · cases h
      · cases h
      · exact hintact h

theorem finished_of_intact {bs : Bytes} (h : Intact bs) :
    (decode ⟨bs, none⟩).ending = .finished := by
  obtain ⟨data, rest, hheader, hrest, htrailer⟩ := h
  have hparts : afterHeader ((⟨bs, none⟩ : Stream).fault.getD endOfFile) bs = .ok data := hheader
  unfold decode
  dsimp only at hparts ⊢
  rw [hparts]
  exact Inflated.ending_decoded.2 ⟨rest, hrest, trailerEnd_eq_finished.2 htrailer⟩

end Gzip

end Provision.Archive
