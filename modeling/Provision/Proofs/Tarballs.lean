import Mathlib.Algebra.BigOperators.Group.List.Basic
import Provision.Archive.Tar
import Provision.Proofs.Encoding
import Provision.Proofs.GzipMembers
import Provision.Proofs.PackedFiles

/-!
# Tar archives of packed files

A list of files as a tar archive, with one header for each file and two blocks of zeros at the end.
Reading the archive gives an entry for each file.

* `Tar.pack` is the archive; `Tar.octalField` and `Tar.header` are its numbers and headers.
* `Tar.listing_pack` is about reading it, `Tar.readMember_header` about one header.
-/

namespace Provision

/-! ## Texts -/

/-- A text up to its end, filled up with NULs. -/
theorem Bytes.untilNul_replicate {a : Bytes} (h : ∀ x ∈ a, x ≠ 0) (n : Nat) :
    (a ++ List.replicate n 0).untilNul = a := by
  cases n with
  | zero =>
    rw [List.replicate_zero, untilNul, List.takeWhile_append_of_pos (by simpa using h)]
    simp
  | succ n => exact untilNul_append h

/-- Text in ASCII is read as it stands. -/
theorem Utf8.decode?_ascii {bs : Bytes} (h : ∀ b ∈ bs, b < 0x80) :
    Utf8.decode? bs = some (String.ofList (bs.map fun b => Char.ofNat b.toNat)) := by
  have hpieces : pieces bs = bs.map fun b => .scalar (Char.ofNat b.toNat) := by
    induction bs with
    | nil => rfl
    | cons b bs ih =>
      rw [pieces, if_pos (h b List.mem_cons_self), ih fun x hx => h x (List.mem_cons_of_mem _ hx),
        List.map_cons]
  have hchars := mapM_char?_scalar (bs.map fun b => Char.ofNat b.toNat)
  rw [List.map_map] at hchars
  rw [decode?, hpieces]
  show (List.mapM Piece.char? (bs.map (Piece.scalar ∘ fun b => Char.ofNat b.toNat))).map _ = _
  rw [hchars]
  rfl

theorem Text.trimChars_eq {cs : List Char} (h : ∀ c ∈ cs, isBlank c = false) :
    trimChars cs = cs := by
  have hkeep {cs : List Char} (h : ∀ c ∈ cs, isBlank c = false) : cs.dropWhile isBlank = cs := by
    cases cs with
    | nil => rfl
    | cons c cs => rw [List.dropWhile_cons_of_neg (by simp [h c List.mem_cons_self])]
  rw [trimChars, hkeep h, hkeep fun c hc => h c (List.mem_reverse.1 hc), List.reverse_reverse]

namespace Archive

namespace Tar

open Decoded (whole collect_whole)

/-! ## Numbers -/

/-- The `k` lowest octal digits of a number, the highest first. -/
def octalDigits : Nat → Nat → Bytes
  | 0, _ => []
  | k + 1, n => (0x30 + n / 8 ^ k % 8).toUInt8 :: octalDigits k n

/-- A number as a field of `k` octal digits and a NUL. -/
def octalField (k n : Nat) : Bytes := octalDigits k n ++ [0]

@[simp] theorem length_octalDigits (k n : Nat) : (octalDigits k n).length = k := by
  induction k with
  | zero => rfl
  | succ k ih => rw [octalDigits, List.length_cons, ih]

theorem length_octalField (k n : Nat) : (octalField k n).length = k + 1 := by
  rw [octalField, List.length_append, length_octalDigits, List.length_singleton]

/-- A digit is a byte between `0` and `7`. -/
theorem mem_octalDigits {k n : Nat} {b : UInt8} (h : b ∈ octalDigits k n) :
    ∃ d < 8, b = (0x30 + d).toUInt8 := by
  induction k with
  | zero => cases h
  | succ k ih =>
    rcases List.mem_cons.1 h with rfl | h
    · exact ⟨_, Nat.mod_lt _ (by decide), rfl⟩
    · exact ih h

theorem digit_facts : ∀ d < 8, (0x30 + d).toUInt8 ≠ 0 ∧ (0x30 + d).toUInt8 < 0x80 ∧
    Text.isBlank (Char.ofNat (0x30 + d).toUInt8.toNat) = false ∧
    Char.ofNat (0x30 + d).toUInt8.toNat ≠ '+' ∧
    '0' ≤ Char.ofNat (0x30 + d).toUInt8.toNat ∧ Char.ofNat (0x30 + d).toUInt8.toNat ≤ '9' ∧
    (Char.ofNat (0x30 + d).toUInt8.toNat).toNat - '0'.toNat = d := by
  decide

/-- One step of reading a number, as in `readNumber?`. -/
theorem foldlM_octalDigits {k n : Nat} (acc : Nat) (h : acc * 8 ^ k + n % 8 ^ k ≤ maxSize) :
    ((octalDigits k n).map fun b => Char.ofNat b.toNat).foldlM (m := Option) (fun n c =>
      (if '0' ≤ c ∧ c ≤ '9' ∧ c.toNat - '0'.toNat < 8 then some (c.toNat - '0'.toNat)
        else none).bind fun d => if 8 * n + d ≤ maxSize then some (8 * n + d) else none) acc =
      some (acc * 8 ^ k + n % 8 ^ k) := by
  induction k generalizing acc with
  | zero => simp [octalDigits, Nat.mod_one]
  | succ k ih =>
    obtain ⟨-, -, -, -, hlow, hhigh, hdigit⟩ :=
      digit_facts (n / 8 ^ k % 8) (Nat.mod_lt _ (by decide))
    have hvalue : (8 * acc + n / 8 ^ k % 8) * 8 ^ k + n % 8 ^ k =
        acc * 8 ^ (k + 1) + n % 8 ^ (k + 1) := by
      rw [Nat.pow_succ, Nat.mod_mul]
      ring
    have hle : 8 * acc + n / 8 ^ k % 8 ≤ (8 * acc + n / 8 ^ k % 8) * 8 ^ k :=
      Nat.le_mul_of_pos_right _ (Nat.pow_pos (by decide))
    rw [octalDigits, List.map_cons, List.foldlM_cons, hdigit,
      if_pos ⟨hlow, hhigh, Nat.mod_lt _ (by decide)⟩, Option.bind_some, if_pos (by omega)]
    show List.foldlM _ (8 * acc + n / 8 ^ k % 8) _ = _
    rw [ih _ (by omega), hvalue]

/-- An octal field is read as its number. -/
theorem octal_octalField {k n : Nat} (hk : 0 < k) (hn : n < 8 ^ k) (hsize : 8 ^ k ≤ maxSize) :
    octal (octalField k n) = .ok n := by
  have hnul : (octalField k n).untilNul = octalDigits k n := by
    refine Bytes.untilNul_append fun b hb => ?_
    obtain ⟨d, hd, rfl⟩ := mem_octalDigits hb
    exact (digit_facts d hd).1
  have hascii : ∀ b ∈ octalDigits k n, b < 0x80 := fun b hb => by
    obtain ⟨d, hd, rfl⟩ := mem_octalDigits hb
    exact (digit_facts d hd).2.1
  obtain ⟨cs, hcs⟩ : ∃ cs, cs = (octalDigits k n).map fun b => Char.ofNat b.toNat := ⟨_, rfl⟩
  have hchars : ∀ c ∈ cs, ∃ d < 8, c = Char.ofNat (0x30 + d).toUInt8.toNat := fun c hc => by
    rw [hcs] at hc
    obtain ⟨b, hb, rfl⟩ := List.mem_map.1 hc
    obtain ⟨d, hd, rfl⟩ := mem_octalDigits hb
    exact ⟨d, hd, rfl⟩
  have htrim : Text.trimChars cs = cs := Text.trimChars_eq fun c hc => by
    obtain ⟨d, hd, rfl⟩ := hchars c hc
    exact (digit_facts d hd).2.2.1
  have hread : readNumber? 8 cs = some n := by
    have hfold := foldlM_octalDigits (k := k) (n := n) 0 (by
      rw [Nat.zero_mul, Nat.zero_add, Nat.mod_eq_of_lt hn]
      omega)
    rw [← hcs, Nat.zero_mul, Nat.zero_add, Nat.mod_eq_of_lt hn] at hfold
    cases cs with
    | nil =>
      have := congrArg List.length hcs
      rw [List.length_map, length_octalDigits, List.length_nil] at this
      omega
    | cons c cs =>
      obtain ⟨d, hd, hc⟩ := hchars c List.mem_cons_self
      have hplus : c ≠ '+' := hc ▸ (digit_facts d hd).2.2.2.1
      unfold readNumber?
      split
      next rest heq => exact absurd (List.cons.inj heq).1 hplus
      · exact hfold
  rw [octal, hnul, Utf8.decode?_ascii hascii, ← hcs]
  dsimp only
  rw [String.toList_ofList, htrim, hread]

/-- The same for a field that might be binary. -/
theorem numeric_octalField {k n : Nat} (hk : 0 < k) (hn : n < 8 ^ k) (hsize : 8 ^ k ≤ maxSize) :
    numeric (octalField k n) = .ok n := by
  obtain ⟨k, rfl⟩ := Nat.exists_eq_succ_of_ne_zero hk.ne'
  have hhead : ((octalField (k + 1) n).headD 0).toNat < 0x80 :=
    UInt8.lt_iff_toNat_lt.1 (digit_facts (n / 8 ^ k % 8) (Nat.mod_lt _ (by decide))).2.1
  rw [numeric, if_pos hhead, octal_octalField hk hn hsize]

/-! ## Headers -/

open Header (sum)

theorem sum_append (a b : Bytes) : sum (a ++ b) = sum a + sum b := by
  have hfrom (bs : Bytes) : ∀ n, bs.foldl (fun n b => n + b.toNat) n = n + sum bs := by
    induction bs with
    | nil => exact fun n => rfl
    | cons b bs ih =>
      intro n
      rw [sum, List.foldl_cons, List.foldl_cons, ih, ih]
      omega
  rw [sum, List.foldl_append, hfrom]
  rfl

theorem sum_le (bs : Bytes) : sum bs ≤ 255 * bs.length := by
  induction bs with
  | nil => exact Nat.le_refl _
  | cons b bs ih =>
    have hb : sum [b] = b.toNat := Nat.zero_add _
    have := b.toNat_lt
    rw [← List.singleton_append, sum_append, hb, List.length_append, List.length_singleton]
    omega

/-- A text filled up with NULs. -/
def nulPadded (width : Nat) (bs : Bytes) : Bytes := bs ++ List.replicate (width - bs.length) 0

theorem length_nulPadded {width : Nat} {bs : Bytes} (h : bs.length ≤ width) :
    (nulPadded width bs).length = width := by
  rw [nulPadded, List.length_append, List.length_replicate]
  omega

/-- The fields of a header before the checksum: name, mode, owner, size and time. -/
def headerFront (f : PackedFile) : Bytes :=
  nulPadded 100 f.name ++ (octalField 7 f.mode ++ (List.replicate 16 0 ++
    (octalField 11 f.content.length ++ octalField 11 0)))

/-- The fields after the checksum: no type and no link, the mark of a GNU header, and nothing else.
-/
def headerBack : Bytes :=
  List.replicate 101 0 ++ (Bytes.ofText "ustar  \x00" ++ List.replicate 247 0)

/-- The sum of the bytes of a header, with blanks for the checksum. -/
def headerSum (f : PackedFile) : Nat := sum (headerFront f) + sum headerBack + 8 * 32

/-- The header of a file. -/
def header (f : PackedFile) : Bytes :=
  headerFront f ++ (octalField 7 (headerSum f) ++ headerBack)

/-- The sizes that a header can express. -/
def sizeLimit : Nat := 8 ^ 11

section Header

variable {f : PackedFile}

theorem length_headerFront (h : f.Plain) : (headerFront f).length = 148 := by
  simp only [headerFront, List.length_append, length_nulPadded h.length_le, length_octalField,
    List.length_replicate]

theorem length_headerBack : headerBack.length = 356 := by decide +kernel

theorem length_header (h : f.Plain) : (header f).length = block := by
  rw [header, List.length_append, List.length_append, length_headerFront h, length_octalField,
    length_headerBack]
  rfl

theorem headerSum_lt (h : f.Plain) : headerSum f < 8 ^ 7 := by
  have hfront := sum_le (headerFront f)
  have hback := sum_le headerBack
  rw [length_headerFront h] at hfront
  rw [length_headerBack] at hback
  rw [headerSum]
  omega

/-- A field before the checksum. -/
theorem slice_front (h : f.Plain) {start len : Nat} (hend : start + len ≤ 148) :
    (header f).slice start len = (headerFront f).slice start len :=
  Bytes.slice_append_left (by rw [length_headerFront h]; exact hend) _

/-- A field after the checksum. -/
theorem slice_back (h : f.Plain) {start : Nat} (hstart : 156 ≤ start) (len : Nat) :
    (header f).slice start len = headerBack.slice (start - 156) len := by
  rw [header, Bytes.slice_append_right (by rw [length_headerFront h]; omega),
    Bytes.slice_append_right (by rw [length_octalField, length_headerFront h]; omega),
    length_headerFront h, length_octalField, Nat.sub_sub]

theorem slice_checksum (h : f.Plain) : (header f).slice 148 8 = octalField 7 (headerSum f) := by
  rw [header, Bytes.slice_append_right (length_headerFront h).le, length_headerFront h,
    Bytes.slice_zero_append (length_octalField _ _)]

theorem slice_mode (h : f.Plain) : (header f).slice 100 8 = octalField 7 f.mode := by
  rw [slice_front h (by decide), headerFront,
    Bytes.slice_append_right (length_nulPadded h.length_le).le, length_nulPadded h.length_le,
    Bytes.slice_zero_append (length_octalField _ _)]

theorem slice_size (h : f.Plain) :
    (header f).slice 124 12 = octalField 11 f.content.length := by
  rw [slice_front h (by decide), headerFront,
    Bytes.slice_append_right (by rw [length_nulPadded h.length_le]; decide),
    Bytes.slice_append_right (by rw [length_octalField, length_nulPadded h.length_le]; decide),
    Bytes.slice_append_right (by
      rw [length_octalField, length_nulPadded h.length_le, List.length_replicate]),
    length_nulPadded h.length_le, length_octalField, List.length_replicate,
    Bytes.slice_zero_append (length_octalField _ _)]

theorem slice_name (h : f.Plain) : (header f).slice 0 100 = nulPadded 100 f.name := by
  rw [slice_front h (by decide), headerFront,
    Bytes.slice_zero_append (length_nulPadded h.length_le)]

/-- The header of a file as it is read. -/
def headerOf (f : PackedFile) : Header := ⟨header f⟩

theorem magic_headerOf (h : f.Plain) : (headerOf f).magic = Bytes.ofText "ustar  \x00" := by
  rw [Header.magic, headerOf, slice_back h (by decide)]
  decide +kernel

theorem type_headerOf (h : f.Plain) : (headerOf f).type = 0 := by
  have hget : ∀ bs : Bytes, bs.getD 156 0 = (bs.slice 156 1).getD 0 0 := by
    intro bs
    simp [Bytes.slice]
  rw [Header.type, headerOf, hget, slice_back h (by decide)]
  rfl

theorem kind_headerOf (h : f.Plain) : (headerOf f).kind = .file := by
  rw [Header.kind, type_headerOf h, if_pos (.inl rfl)]

theorem name_headerOf (h : f.Plain) : (headerOf f).name = f.name := by
  have hposix : ¬ (headerOf f).isPosix = true := by
    rw [Header.isPosix, magic_headerOf h]
    decide +kernel
  have hname : ((headerOf f).bytes.slice 0 100).untilNul = f.name := by
    rw [headerOf, slice_name h]
    exact Bytes.untilNul_replicate (fun b hb => (h.ascii b hb).1) _
  unfold Header.name
  dsimp only
  rw [if_neg fun hc => hposix hc.1, hname]

theorem checksum_headerOf (h : f.Plain) : (headerOf f).checksum = .ok (headerSum f) := by
  have hlt := headerSum_lt h
  rw [Header.checksum, headerOf, slice_checksum h,
    octal_octalField (by decide) hlt (by decide)]
  show Except.ok (headerSum f % UInt32.size) = _
  rw [Nat.mod_eq_of_lt (hlt.trans (by decide))]

theorem computed_headerOf (h : f.Plain) : (headerOf f).computed = headerSum f := by
  have hback : (header f).drop 156 = headerBack := by
    rw [header, ← List.append_assoc, List.drop_left' (by
      rw [List.length_append, length_headerFront h, length_octalField])]
  rw [Header.computed, headerOf, hback, header, List.take_left' (length_headerFront h)]
  rfl

theorem size_headerOf (h : f.Plain) (hsize : f.content.length < sizeLimit) :
    (headerOf f).size = .ok f.content.length := by
  rw [Header.size, headerOf, slice_size h, numeric_octalField (by decide) hsize (by decide)]
  rfl

theorem mode_headerOf (h : f.Plain) : (headerOf f).mode? = some f.mode := by
  have hmode := h.mode_le
  rw [Header.mode?, headerOf, slice_mode h,
    octal_octalField (by decide) (by omega) (by decide)]
  show some (f.mode % UInt32.size) = _
  rw [Nat.mod_eq_of_lt (by have : UInt32.size = 4294967296 := rfl; omega)]

theorem not_zeros (h : f.Plain) : (header f).all (· == 0) = false := by
  obtain ⟨b, rest, hname⟩ := List.exists_cons_of_ne_nil h.name_ne_nil
  have hb : (b == 0) = false := by
    have := (h.ascii b (by rw [hname]; exact List.mem_cons_self)).1
    simpa using this
  rw [header, headerFront, nulPadded, hname]
  simp only [List.cons_append, List.all_cons, hb, Bool.false_and]

end Header

/-! ## Archives -/

/-- The zeros that fill up the last block of a content. -/
def padding (size : Nat) : Bytes := List.replicate (rounded size - size) 0

/-- The header of a file, its content and what fills up the last block. -/
def member (f : PackedFile) : Bytes := header f ++ (f.content ++ padding f.content.length)

/-- The two blocks at the end. -/
def ending : Bytes := List.replicate (2 * block) 0

/-- The archive of a list of files. -/
def pack (files : List PackedFile) : Bytes := files.flatMap member ++ ending

/-- The entry for a file. -/
def entry (f : PackedFile) : Entry := ⟨some ⟨f.name⟩, .file, some f.mode, ⟨f.content, none⟩⟩

theorem isEntry_entry {f : PackedFile} (h : f.Plain) : f.IsEntry (entry f) where
  place := h.place? rfl
  kind := rfl
  mode := by
    refine ⟨f.mode, rfl, ?_⟩
    have := h.mode_le
    rw [permissions_eq_mod, Nat.mod_eq_of_lt (by omega)]
  content := rfl

theorem le_rounded (size : Nat) : size ≤ rounded size := by
  rw [rounded, show block = 512 from rfl]
  omega

theorem length_padding (size : Nat) : (padding size).length = rounded size - size :=
  List.length_replicate

section Reading

variable {f : PackedFile} {total : Nat}

/-- A cursor before some zeros and data. -/
def before (zeros : Nat) (bs : Bytes) : Cursor := ⟨whole (List.replicate zeros 0 ++ bs), zeros⟩

theorem advance_before (zeros : Nat) (bs : Bytes) :
    (before zeros bs).advance = .ok (whole bs) := by
  rw [Cursor.advance, before, collect_whole _ (by decide)]
  dsimp only
  rw [List.take_left' List.length_replicate, List.drop_left' List.length_replicate,
    List.length_replicate, if_neg (Nat.lt_irrefl _)]

theorem readBlock_whole {b : Bytes} (h : b.length = block) (bs : Bytes) :
    readBlock (whole (b ++ bs)) = .ok (some b, whole bs) := by
  have hempty : b.isEmpty = false := by
    rw [List.isEmpty_eq_false_iff]
    rintro rfl
    cases h
  rw [readBlock, collect_whole _ (by decide)]
  dsimp only
  rw [List.take_left' h, List.drop_left' h, hempty, h, if_neg Bool.false_ne_true,
    if_neg (Nat.lt_irrefl _)]

/-- Reading the header of a file. -/
theorem readMember_header (h : f.Plain) (hsize : f.content.length < sizeLimit) {position : Nat}
    (zeros : Nat) (rest : Bytes)
    (hposition : position + block + rounded f.content.length ≤ maxSize) :
    readMember none position (before zeros (header f ++ rest)) =
      .ok (some ⟨headerOf f, f.content.length⟩, ⟨whole rest, rounded f.content.length⟩) := by
  have hlimit : f.content.length + (block - 1) ≤ maxSize := by
    have : sizeLimit + (block - 1) ≤ maxSize := by decide
    omega
  have hchecksum : (⟨header f⟩ : Header).checksum = .ok (headerSum f) := checksum_headerOf h
  have hcomputed : (⟨header f⟩ : Header).computed = headerSum f := computed_headerOf h
  have hown : (⟨header f⟩ : Header).size = .ok f.content.length := size_headerOf h hsize
  unfold readMember
  rw [advance_before]
  dsimp only [bind, Except.bind]
  rw [readBlock_whole (length_header h)]
  dsimp only
  rw [not_zeros h, if_neg Bool.false_ne_true, hchecksum]
  dsimp only
  rw [hcomputed, if_neg (not_not.2 rfl), hown]
  dsimp only
  rw [Option.bind_none, Option.getD_none, ite_self,
    if_neg (not_or.2 ⟨Nat.not_lt.2 hlimit, Nat.not_lt.2 hposition⟩)]
  rfl

/-- There is no member at a block of zeros. -/
theorem readMember_ending (position zeros : Nat) :
    readMember none position (before zeros ending) =
      .ok (none, ⟨whole (List.replicate block 0), 0⟩) := by
  have hending : ending = List.replicate block 0 ++ List.replicate block 0 := by
    rw [List.replicate_append_replicate]
    rfl
  have hzeros : (List.replicate block (0 : UInt8)).all (· == 0) = true := by
    simp
  unfold readMember
  rw [advance_before, hending]
  dsimp only [bind, Except.bind]
  rw [readBlock_whole List.length_replicate]
  dsimp only
  rw [hzeros, if_pos rfl]
  rfl

/-- The header of a file says nothing about another member, and its content has no holes. -/
theorem nextEntry_header (h : f.Plain) (hsize : f.content.length < sizeLimit) (fuel zeros : Nat)
    (rest : Bytes) (htotal : total ≤ maxSize)
    (hlength : zeros + (header f ++ rest).length ≤ total)
    (hrest : rounded f.content.length ≤ rest.length) :
    nextEntry total (fuel + 1) {} (before zeros (header f ++ rest)) =
      .ok (some (⟨headerOf f, f.content.length⟩, {}),
        ⟨whole rest, rounded f.content.length⟩) := by
  have hcursor : (before zeros (header f ++ rest)).data.bytes.length =
      zeros + (header f ++ rest).length := by
    rw [before, whole, List.length_append, List.length_replicate]
  have hheader := length_header h
  have hposition : total - (before zeros (header f ++ rest)).data.bytes.length + zeros + block +
      rounded f.content.length ≤ maxSize := by
    rw [List.length_append] at hlength hcursor
    omega
  have htype := type_headerOf h
  -- The type is none of those that announce something about the next member.
  have hother {p : Prop} {type : UInt8} (hne : 0 ≠ type) : ¬ (p ∧ (headerOf f).type = type) :=
    fun hc => hne (htype.symm.trans hc.2)
  unfold nextEntry
  dsimp only
  rw [show (before zeros (header f ++ rest)).toNext = zeros from rfl,
    readMember_header h hsize zeros rest hposition]
  dsimp only [bind, Except.bind]
  rw [if_neg (hother (by decide)), if_neg (hother (by decide)), if_neg (hother (by decide))]
  unfold checkSparse
  dsimp only
  rw [htype, if_pos (by decide)]
  rfl

theorem nextEntry_ending (fuel zeros : Nat) :
    nextEntry total (fuel + 1) {} (before zeros ending) =
      .ok (none, ⟨whole (List.replicate block 0), 0⟩) := by
  unfold nextEntry
  dsimp only
  rw [readMember_ending]
  rfl

theorem readContents_whole (content : Bytes) (rest : Bytes) (toNext : Nat) :
    readContents content.length ⟨whole (content ++ rest), toNext⟩ =
      (⟨content, none⟩, ⟨whole rest, toNext - content.length⟩) := by
  rw [readContents, collect_whole _ (by decide)]
  dsimp only
  rw [List.take_left, List.drop_left]

theorem length_member (h : f.Plain) :
    (member f).length = block + rounded f.content.length := by
  have := le_rounded f.content.length
  rw [member, List.length_append, List.length_append, length_header h, length_padding]
  omega

/-- The entries of an archive are its files. Before each header there is what fills up a block. -/
theorem entriesFrom_pack {files : List PackedFile} (h : ∀ f ∈ files, f.Plain)
    (hsizes : ∀ f ∈ files, f.content.length < sizeLimit) (htotal : total ≤ maxSize) (zeros : Nat)
    (hlength : zeros + (pack files).length ≤ total) {fuel : Nat} (hfuel : files.length < fuel) :
    entriesFrom total fuel (before zeros (pack files)) = ⟨files.map entry, none⟩ := by
  induction files generalizing zeros fuel with
  | nil =>
    obtain ⟨fuel, rfl⟩ : ∃ n, fuel = n + 1 := ⟨fuel - 1, by simp at hfuel; omega⟩
    rw [entriesFrom, show pack [] = ending from List.nil_append _, nextEntry_ending]
    rfl
  | cons f files ih =>
    obtain ⟨fuel, rfl⟩ : ∃ n, fuel = n + 1 := ⟨fuel - 1, by rw [List.length_cons] at hfuel; omega⟩
    have hf := h f List.mem_cons_self
    have hsize := hsizes f List.mem_cons_self
    have hle := le_rounded f.content.length
    have hpack : pack (f :: files) =
        header f ++ (f.content ++ (padding f.content.length ++ pack files)) := by
      simp only [pack, member, List.flatMap_cons, List.append_assoc]
    have hrest : rounded f.content.length ≤
        (f.content ++ (padding f.content.length ++ pack files)).length := by
      rw [List.length_append, List.length_append, length_padding]
      omega
    have hnext : entriesFrom total fuel ⟨whole (padding f.content.length ++ pack files),
        rounded f.content.length - f.content.length⟩ = ⟨files.map entry, none⟩ := by
      refine ih (fun g hg => h g (List.mem_cons_of_mem _ hg))
        (fun g hg => hsizes g (List.mem_cons_of_mem _ hg)) _ ?_ (by
          rw [List.length_cons] at hfuel; omega)
      rw [hpack, List.length_append, List.length_append, List.length_append, length_padding]
        at hlength
      omega
    rw [hpack] at hlength ⊢
    rw [entriesFrom, nextEntry_header hf hsize _ _ _ htotal hlength hrest]
    have hpath : (Notes.mk none none none false).path (headerOf f) = f.name := name_headerOf hf
    dsimp only
    rw [hpath, kind_headerOf hf, mode_headerOf hf, if_pos ⟨rfl, hf.isSome_safePath?⟩,
      readContents_whole]
    dsimp only
    rw [hnext]
    rfl

theorem length_le_pack {files : List PackedFile} (h : ∀ f ∈ files, f.Plain) :
    files.length ≤ (pack files).length := by
  have hmembers : files.length ≤ (files.map fun f => (member f).length).sum := by
    refine le_trans (List.length_map _).ge (List.length_le_sum_of_one_le _ ?_)
    simp only [List.forall_mem_map]
    intro f hf
    rw [length_member (h f hf)]
    exact Nat.le_add_right_of_le (by decide)
  rw [pack, List.length_append, List.length_flatMap]
  exact Nat.le_add_right_of_le hmembers

/-- Reading the archive of a list of files gives an entry for each. -/
theorem listing_pack {files : List PackedFile} (h : ∀ f ∈ files, f.Plain)
    (hsizes : ∀ f ∈ files, f.content.length < sizeLimit) (htotal : (pack files).length ≤ maxSize) :
    listing (whole (pack files)) = ⟨files.map entry, none⟩ :=
  entriesFrom_pack h hsizes htotal 0 (Nat.zero_add _).le (Nat.lt_succ_of_le (length_le_pack h))

end Reading

end Tar

end Archive

end Provision
