import Provision.Archive.Gzip
import Provision.Proofs.Prefixes

/-!
# Gzip members

A gzip member of a byte string is decoded to it, whatever is in its header and whatever deflated
form is in it.

* `Gzip.Header` are the headers with their optional parts; `afterHeader_eq_ok_iff` says that these
  and no others are read.
* `Gzip.Packs` says that a byte string is a gzip member of another; `decode_packs` is about decoding
  it, and `exists_packs` says that there is always one.
* `Gzip.member` is the member with a plain header and one stored block.
-/

namespace Provision.Archive.Gzip

open Deflate (Deflates)

/-! ## The parts of a header -/

/-- An extra field, with its length in front. -/
def extraField (x : Bytes) : Bytes := Bytes.ofLe 2 x.length ++ x

/-- A text, with a NUL at its end. -/
def textField (x : Bytes) : Bytes := x ++ [0]

/-- The checksum of a header, if there has to be one. -/
def checkField (present : Bool) (checksum : Nat) : Bytes :=
  if present then Bytes.ofLe 2 checksum else []

/-- Some bytes can stand in a header as a text. -/
structure IsText (x : Bytes) : Prop where
  length_le : x.length ≤ maxField
  ne_zero : ∀ b ∈ x, b ≠ 0

/-- A reader takes from the front of some bytes what is written for a valid value, and nothing
else. -/
def Reads (part : Bytes → Except String (Bytes × Bytes)) (Valid : Bytes → Prop)
    (write : Bytes → Bytes) : Prop :=
  ∀ bs taken rest, part bs = .ok (taken, rest) ↔ bs = taken ++ rest ∧ ∃ x, Valid x ∧ taken = write x

section Parts

variable {short : String} {bs taken rest : Bytes}

theorem split_eq_ok_iff {n : Nat} :
    split short n bs = .ok (taken, rest) ↔ bs = taken ++ rest ∧ taken.length = n := by
  unfold split
  split_ifs with h
  · refine ⟨nofun, ?_⟩
    rintro ⟨rfl, rfl⟩
    rw [List.length_append] at h
    omega
  · constructor
    · rintro ⟨⟩
      exact ⟨(List.take_append_drop n bs).symm, List.length_take_of_le (Nat.not_lt.1 h)⟩
    · rintro ⟨rfl, hn⟩
      rw [List.take_left' hn, List.drop_left' hn]

theorem reads_text (short : String) : Reads (splitText short) IsText textField := by
  intro bs taken rest
  constructor
  · intro h
    unfold splitText at h
    dsimp only at h
    split_ifs at h with hlong
    have htext : IsText bs.untilNul := ⟨Nat.not_lt.1 hlong, bs.ne_zero_of_mem_untilNul⟩
    rcases bs.untilNul_cases with hall | ⟨after, hafter⟩
    · rw [List.drop_of_length_le (by rw [← hall])] at h
      cases h
    · have hdrop : bs.drop bs.untilNul.length = 0 :: after :=
        (congrArg (List.drop bs.untilNul.length) hafter).trans List.drop_left
      rw [hdrop] at h
      cases h
      exact ⟨by rw [List.append_assoc]; exact hafter, bs.untilNul, htext, rfl⟩
  · rintro ⟨rfl, x, hx, rfl⟩
    have huntil : (textField x ++ rest).untilNul = x := by
      rw [textField, List.append_assoc]
      exact Bytes.untilNul_append hx.ne_zero
    unfold splitText
    dsimp only
    rw [huntil, if_neg (Nat.not_lt.2 hx.length_le), textField, List.append_assoc, List.drop_left]
    rfl

theorem reads_extra (short : String) :
    Reads (splitExtra short) (fun x => x.length < 256 ^ 2) extraField := by
  intro bs taken rest
  unfold splitExtra
  constructor
  · intro h
    obtain ⟨⟨size, after⟩, hsize, h⟩ := exists_of_bind h
    obtain ⟨rfl, hlength⟩ := split_eq_ok_iff.1 hsize
    obtain ⟨heq, htaken⟩ := split_eq_ok_iff.1 h
    obtain ⟨x, rfl⟩ : ∃ x, taken = size ++ x := by
      obtain ⟨x, hx⟩ := List.prefix_of_prefix_length_le (List.prefix_append size after)
        (heq ▸ List.prefix_append taken rest) (by omega)
      exact ⟨x, hx.symm⟩
    have hx : x.length = Bytes.le size := by
      rw [List.length_append] at htaken
      omega
    have hsmall : Bytes.le size < 256 ^ 2 := hlength ▸ Bytes.le_lt size
    refine ⟨heq, x, hx.trans_lt hsmall, ?_⟩
    rw [extraField, hx, ← hlength, Bytes.ofLe_le]
  · rintro ⟨rfl, x, hx, rfl⟩
    refine bind_of_ok (split_eq_ok_iff.2 ⟨List.append_assoc _ _ _, Bytes.length_ofLe _ _⟩) ?_
    refine split_eq_ok_iff.2 ⟨rfl, ?_⟩
    rw [extraField, List.length_append, Bytes.length_ofLe, Bytes.le_ofLe hx]

/-- A part that may be missing. -/
theorem Reads.optional {part : Bytes → Except String (Bytes × Bytes)} {Valid : Bytes → Prop}
    {write : Bytes → Bytes} (h : Reads part Valid write) {present : Bool} :
    optional present part bs = .ok (taken, rest) ↔ bs = taken ++ rest ∧
      ∃ x : Option Bytes, x.isSome = present ∧ (∀ y ∈ x, Valid y) ∧ taken = x.elim [] write := by
  cases present with
  | true =>
    refine (h bs taken rest).trans (and_congr_right fun _ => ⟨?_, ?_⟩)
    · rintro ⟨x, hx, rfl⟩
      exact ⟨some x, rfl, by simpa using hx, rfl⟩
    · rintro ⟨x, hsome, hx, rfl⟩
      obtain ⟨y, rfl⟩ := Option.isSome_iff_exists.1 hsome
      exact ⟨y, hx y rfl, rfl⟩
  | false =>
    constructor
    · rintro ⟨⟩
      exact ⟨rfl, none, rfl, nofun, rfl⟩
    · rintro ⟨rfl, x, hnone, -, rfl⟩
      obtain rfl : x = none := Option.not_isSome_iff_eq_none.1 (by simp [hnone])
      rfl

variable (short) in
/-- A checksum that is read and fits is the one that is written. -/
theorem checkField_iff {present : Bool} {checksum : Nat} :
    (optional present (split short 2) bs = .ok (taken, rest) ∧
        ¬ (present = true ∧ Bytes.le taken ≠ checksum % 65536)) ↔
      bs = taken ++ rest ∧ taken = checkField present checksum := by
  cases present with
  | true =>
    rw [show optional true (split short 2) bs = split short 2 bs from rfl, split_eq_ok_iff,
      show checkField true checksum = Bytes.ofLe 2 checksum from rfl, and_assoc,
      and_congr_right_iff]
    rintro -
    constructor
    · rintro ⟨hlength, hfits⟩
      have hle : Bytes.le taken = checksum % 256 ^ 2 := by simpa using hfits
      rw [← Bytes.ofLe_mod, ← hle, ← hlength, Bytes.ofLe_le]
    · rintro rfl
      rw [Bytes.le_ofLe_mod]
      exact ⟨Bytes.length_ofLe _ _, by simp⟩
  | false =>
    constructor
    · rintro ⟨⟨⟩, -⟩
      exact ⟨rfl, rfl⟩
    · rintro ⟨rfl, rfl⟩
      exact ⟨rfl, by simp⟩

end Parts

/-! ## Headers -/

/-- The header of a gzip member. The flags say which of the optional parts are there. -/
structure Header where
  flags : UInt8
  /-- A time stamp and notes about the making. -/
  stamp : Bytes
  extra : Option Bytes
  name : Option Bytes
  comment : Option Bytes
  reserved : 0xE0 &&& flags.toNat = 0
  length_stamp : stamp.length = 6
  extra_isSome : extra.isSome = flags.toNat.testBit 2
  name_isSome : name.isSome = flags.toNat.testBit 3
  comment_isSome : comment.isSome = flags.toNat.testBit 4
  extra_lt : ∀ x ∈ extra, x.length < 256 ^ 2
  name_isText : ∀ x ∈ name, IsText x
  comment_isText : ∀ x ∈ comment, IsText x

namespace Header

variable (h : Header)

def fixed : Bytes := 0x1F :: 0x8B :: 8 :: h.flags :: h.stamp

def extraPart : Bytes := h.extra.elim [] extraField

def namePart : Bytes := h.name.elim [] textField

def commentPart : Bytes := h.comment.elim [] textField

def checkPart : Bytes :=
  checkField (h.flags.toNat.testBit 1)
    (Crc32.checksum (h.fixed ++ h.extraPart ++ h.namePart ++ h.commentPart))

def bytes : Bytes := h.fixed ++ (h.extraPart ++ (h.namePart ++ (h.commentPart ++ h.checkPart)))

theorem bytes_append (data : Bytes) : h.bytes ++ data =
    h.fixed ++ (h.extraPart ++ (h.namePart ++ (h.commentPart ++ (h.checkPart ++ data)))) := by
  simp only [bytes, List.append_assoc]

/-- The header without any optional part. -/
def plain : Header where
  flags := 0
  stamp := [0, 0, 0, 0, 0, 0xFF]
  extra := none
  name := none
  comment := none
  reserved := rfl
  length_stamp := rfl
  extra_isSome := rfl
  name_isSome := rfl
  comment_isSome := rfl
  extra_lt := nofun
  name_isText := nofun
  comment_isText := nofun

end Header

/-- A header is read, whatever follows it. -/
theorem afterHeader_bytes (short : String) (h : Header) (data : Bytes) :
    afterHeader short (h.bytes ++ data) = .ok data := by
  have hfixed : h.fixed.length = 10 := by simp [Header.fixed, h.length_stamp]
  have hstart : h.fixed.startsWith [0x1F, 0x8B, 8] = true := rfl
  have hflags : h.fixed.getD 3 0 = h.flags := rfl
  obtain ⟨hcheck, hfits⟩ := (checkField_iff short).2 ⟨rfl, rfl⟩
  rw [Header.bytes_append]
  refine bind_of_ok (split_eq_ok_iff.2 ⟨rfl, hfixed⟩) ?_
  dsimp only
  rw [hstart, hflags, if_neg (by simp [h.reserved])]
  refine bind_of_ok ((reads_extra short).optional.2
    ⟨rfl, h.extra, h.extra_isSome, h.extra_lt, rfl⟩) ?_
  refine bind_of_ok ((reads_text short).optional.2
    ⟨rfl, h.name, h.name_isSome, h.name_isText, rfl⟩) ?_
  refine bind_of_ok ((reads_text short).optional.2
    ⟨rfl, h.comment, h.comment_isSome, h.comment_isText, rfl⟩) ?_
  refine bind_of_ok hcheck ?_
  dsimp only
  rw [if_neg hfits]
  rfl

/-- What is read as a header is one. -/
theorem exists_header {short : String} {bs data : Bytes} (h : afterHeader short bs = .ok data) :
    ∃ h : Header, bs = h.bytes ++ data := by
  obtain ⟨⟨fixed, rest₀⟩, hfixed, h⟩ := exists_of_bind h
  obtain ⟨hfine, h⟩ := ok_of_ite h nofun
  obtain ⟨⟨extra, rest₁⟩, hextra, h⟩ := exists_of_bind h
  obtain ⟨⟨name, rest₂⟩, hname, h⟩ := exists_of_bind h
  obtain ⟨⟨comment, rest₃⟩, hcomment, h⟩ := exists_of_bind h
  obtain ⟨⟨check, rest₄⟩, hcheck, h⟩ := exists_of_bind h
  obtain ⟨hfits, ⟨⟩⟩ := ok_of_ite h nofun
  rw [not_or, not_not, not_not] at hfine
  obtain ⟨hstart, hreserved⟩ := hfine
  -- all steps are apart before the first is looked at, which replaces the bytes in all of them
  obtain ⟨rfl, hlength⟩ := split_eq_ok_iff.1 hfixed
  obtain ⟨after, rfl⟩ := List.isPrefixOf_iff_prefix.1 hstart
  obtain ⟨flags, stamp, rfl⟩ : ∃ flags stamp, after = flags :: stamp :=
    List.exists_cons_of_length_eq_add_one (n := 6) (by simpa using hlength)
  obtain ⟨rfl, x, hx, hxs, rfl⟩ := (reads_extra short).optional.1 hextra
  obtain ⟨rfl, y, hy, hys, rfl⟩ := (reads_text short).optional.1 hname
  obtain ⟨rfl, z, hz, hzs, rfl⟩ := (reads_text short).optional.1 hcomment
  obtain ⟨rfl, rfl⟩ := (checkField_iff short).1 ⟨hcheck, hfits⟩
  refine ⟨⟨flags, stamp, x, y, z, hreserved, by simpa using hlength, hx, hy, hz, hxs, hys,
    hzs⟩, ?_⟩
  rw [Header.bytes_append]
  rfl

theorem afterHeader_eq_ok_iff {short : String} {bs data : Bytes} :
    afterHeader short bs = .ok data ↔ ∃ h : Header, bs = h.bytes ++ data := by
  refine ⟨exists_header, ?_⟩
  rintro ⟨h, rfl⟩
  exact afterHeader_bytes short h data

/-! ## Members -/

/-- The checksum and the length of the contents. -/
def trailer (raw : Bytes) : Bytes := Bytes.ofLe 4 (Crc32.checksum raw) ++ Bytes.ofLe 4 raw.length

/-- A gzip member with a plain header and stored data. -/
def member (raw : Bytes) : Bytes := Header.plain.bytes ++ (Deflate.stored raw ++ trailer raw)

/-- A gzip member of a byte string: a header, a deflated form and the trailer. -/
def Packs (raw body : Bytes) : Prop :=
  ∃ (h : Header) (data : Bytes), Deflates data raw ∧ body = h.bytes ++ (data ++ trailer raw)

theorem trailerEnd_cases (short : String) (contents rest : Bytes) :
    trailerEnd short contents rest = .finished ∨ trailerEnd short contents rest = .after short ∨
      trailerEnd short contents rest = .after badChecksum := by
  unfold trailerEnd
  split_ifs
  · exact .inr (.inl rfl)
  · exact .inl rfl
  · exact .inr (.inr rfl)

/-- The trailer fits the contents. -/
theorem trailerEnd_trailer (short : String) (contents : Bytes) :
    trailerEnd short contents (trailer contents) = .finished := by
  have hchecksum : Crc32.checksum contents < 256 ^ 4 := UInt32.toNat_lt _
  have hfirst : (trailer contents).slice 0 4 = Bytes.ofLe 4 (Crc32.checksum contents) := by
    simp [trailer, Bytes.slice]
  have hsecond : (trailer contents).slice 4 4 = Bytes.ofLe 4 contents.length := by
    simp [trailer, Bytes.slice, List.take_of_length_le]
  unfold trailerEnd
  rw [if_neg (by simp [trailer]), hfirst, hsecond, Bytes.le_ofLe hchecksum, Bytes.le_ofLe_mod,
    if_pos ⟨rfl, rfl⟩]

/-- Deflated data after a header is decoded; what follows says how it ends. -/
theorem decode_deflated (h : Header) {data raw : Bytes} (hdata : Deflates data raw)
    (rest : Bytes) :
    decode ⟨h.bytes ++ (data ++ rest), none⟩ = ⟨raw, trailerEnd endOfFile raw rest, []⟩ := by
  unfold decode
  rw [afterHeader_bytes]
  dsimp only
  unfold Inflated.decoded
  rw [Deflate.inflate_deflates hdata]

/-- A gzip member is decoded to what it holds. -/
theorem decode_packs {raw body : Bytes} (h : Packs raw body) :
    decode ⟨body, none⟩ = ⟨raw, .finished, []⟩ := by
  obtain ⟨header, data, hdata, rfl⟩ := h
  rw [decode_deflated header hdata, trailerEnd_trailer]

/-- Everything can be put into a gzip member. -/
theorem exists_packs (raw : Bytes) : ∃ body, Packs raw body := by
  obtain ⟨data, hdata⟩ := Deflate.exists_deflates raw
  exact ⟨_, .plain, data, hdata, rfl⟩

theorem packs_member {raw : Bytes} (h : raw.length ≤ 65535) : Packs raw (member raw) :=
  ⟨.plain, Deflate.stored raw, Deflate.deflates_stored h, rfl⟩

/-- Stored data after a header is decoded to that data; what follows says how it ends. -/
theorem decode_stored {raw : Bytes} (h : raw.length ≤ 65535) (rest : Bytes) :
    decode ⟨Header.plain.bytes ++ (Deflate.stored raw ++ rest), none⟩ =
      ⟨raw, trailerEnd endOfFile raw rest, []⟩ :=
  decode_deflated .plain (Deflate.deflates_stored h) rest

end Provision.Archive.Gzip
