import Provision.Proofs.Codes
import Provision.Proofs.Stored

/-!
# Deflated data is inflated

The format of deflated data as a grammar: how bits make the output grow, whatever an encoder chooses
among stored blocks, literals and copies, fixed codes and codes of its own.

* `Items`, `Block` and `Blocks` are the rules for contents, each of which relates the output before
  and after to the bits between; `Run`, `Lengths` and `Tables` are those for codes.
* `Deflates` is the format of whole data; `inflate_deflates` says that inflating such data gives
  what it stands for.
* `exists_deflates`: everything has a deflated form.
-/

namespace Provision.Deflate

open Code (word canonical Fits Complete Single)

/-! ## The format -/

/-- The bits of a number of `n` bits, the lowest first. -/
def lowFirst (n m : Nat) : Bits := (List.range n).map fun i => m.testBit i

/-- A symbol has a code word. -/
def Used (lengths : List Nat) (symbol : Nat) : Prop := ∃ n, lengths[symbol]? = some n ∧ n ≠ 0

/-- A number from a table of least values, with the extra bits that it takes. -/
structure InTable (table : Array (Nat × Nat)) (symbol value : Nat) (extra : Bits) : Prop where
  exists_extra : ∃ least width more, table[symbol]? = some (least, width) ∧ more < 2 ^ width ∧
    value = least + more ∧ extra = lowFirst width more

/-- Literals and copies up to the end of a block, in codes of given lengths. -/
inductive Items (literals distances : List Nat) : Array UInt8 → Bits → Array UInt8 → Prop
  | stop {out : Array UInt8} : Used literals 256 →
    Items literals distances out (word literals 256) out
  | literal {out out' : Array UInt8} {bits : Bits} {b : UInt8} : Used literals b.toNat →
    Items literals distances (out.push b) bits out' →
    Items literals distances out (word literals b.toNat ++ bits) out'
  | copy {out out' : Array UInt8} {bits extra extra' : Bits} {s s' length distance : Nat} :
    Used literals (257 + s) → InTable lengthTable s length extra →
    Used distances s' → InTable distanceTable s' distance extra' → distance ≤ out.size →
    Items literals distances (copyBack length distance out) bits out' →
    Items literals distances out
      (word literals (257 + s) ++ (extra ++ (word distances s' ++ (extra' ++ bits)))) out'

/-- Some equal code lengths, in a code of given lengths: how many and which. -/
inductive Run (lengths : List Nat) (previous : Option Nat) : Bits → Nat → Nat → Prop
  | one {n : Nat} : n < 16 → Used lengths n → Run lengths previous (word lengths n) 1 n
  | again {n more : Nat} : previous = some n → more < 4 → Used lengths 16 →
    Run lengths previous (word lengths 16 ++ lowFirst 2 more) (3 + more) n
  | zeros {more : Nat} : more < 8 → Used lengths 17 →
    Run lengths previous (word lengths 17 ++ lowFirst 3 more) (3 + more) 0
  | manyZeros {more : Nat} : more < 128 → Used lengths 18 →
    Run lengths previous (word lengths 18 ++ lowFirst 7 more) (11 + more) 0

/-- All code lengths, when some have come before, the last one first. -/
inductive Lengths (lengths : List Nat) : List Nat → Bits → List Nat → Prop
  | done {all : List Nat} : Lengths lengths all [] all.reverse
  | run {so all : List Nat} {bits bits' : Bits} {count n : Nat} :
    Run lengths so.head? bits count n →
    Lengths lengths (List.replicate count n ++ so) bits' all →
    Lengths lengths so (bits ++ bits') all

/-- The lengths of the code for code lengths, from those that are given in their own order. -/
def orderedLengths (given : List Nat) : List Nat :=
  (List.range 19).map fun symbol => (given[lengthOrder.idxOf symbol]?).getD 0

/-- The codes that come with a block. -/
structure Tables (literals distances : List Nat) (bits : Bits) : Prop where
  literals_length : 257 ≤ literals.length ∧ literals.length ≤ 286
  distances_length : 1 ≤ distances.length ∧ distances.length ≤ 30
  literals_code : Complete literals ∨ Single literals
  distances_code : Complete distances ∨ Single distances
  exists_bits : ∃ given runs, 4 ≤ given.length ∧ given.length ≤ 19 ∧ (∀ n ∈ given, n < 8) ∧
    Complete (orderedLengths given) ∧
    Lengths (orderedLengths given) [] runs (literals ++ distances) ∧
    bits = lowFirst 5 (literals.length - 257) ++ (lowFirst 5 (distances.length - 1) ++
      (lowFirst 4 (given.length - 4) ++ (given.flatMap (lowFirst 3) ++ runs)))

/-- The lengths of the fixed code for distances. -/
def fixedDistances : List Nat := List.replicate 32 5

/-- What a block holds after its type, which is a number of two bits. Stored bytes start at a whole
byte; `position` is where the contents of the block start. -/
inductive Block (position : Nat) : Nat → Array UInt8 → Bits → Array UInt8 → Prop
  | stored {out : Array UInt8} {raw : Bytes} {padding : Bits} : raw.length ≤ 65535 →
    padding.length < 8 → (position + padding.length) % 8 = 0 →
    Block position 0 out (padding ++ (bitsOf (storedLength raw.length) ++ bitsOf raw))
      (out ++ raw.toArray)
  | fixed {out out' : Array UInt8} {bits : Bits} : Items fixedLengths fixedDistances out bits out' →
    Block position 1 out bits out'
  | dynamic {out out' : Array UInt8} {tables bits : Bits} {literals distances : List Nat} :
    Tables literals distances tables → Items literals distances out bits out' →
    Block position 2 out (tables ++ bits) out'

/-- Blocks from a position on. A bit in front of each says whether it is the last. -/
inductive Blocks : Nat → Array UInt8 → Bits → Array UInt8 → Prop
  | last {position type : Nat} {out out' : Array UInt8} {bits : Bits} :
    Block (position + 3) type out bits out' →
    Blocks position out (true :: (lowFirst 2 type ++ bits)) out'
  | more {position type : Nat} {out out' out'' : Array UInt8} {bits bits' : Bits} :
    Block (position + 3) type out bits out' →
    Blocks (position + 3 + bits.length) out' bits' out'' →
    Blocks position out (false :: (lowFirst 2 type ++ (bits ++ bits'))) out''

/-- Some data is a deflated form of a byte string. -/
def Deflates (data raw : Bytes) : Prop :=
  ∃ bits padding, Blocks 0 #[] bits raw.toArray ∧ padding.length < 8 ∧
    bitsOf data = bits ++ padding

/-! ## Reading items -/

theorem ok_bind {α β : Type} (a : α) (f : α → Except Fault β) : (Except.ok a >>= f) = f a := rfl

theorem length_lowFirst (n m : Nat) : (lowFirst n m).length = n := by
  rw [lowFirst, List.length_map, List.length_range]

theorem number_lowFirst {n m : Nat} (h : m < 2 ^ n) (rest : Bits) :
    number n (lowFirst n m ++ rest) = .ok (m, rest) :=
  number_testBit m n h rest

theorem Used.decode {lengths : List Nat} {symbol : Nat} (h : Used lengths symbol)
    (hf : Fits lengths) (rest : Bits) :
    (canonical lengths).decode (word lengths symbol ++ rest) = .ok (some symbol, rest) := by
  obtain ⟨n, hn, hne⟩ := h
  exact Code.decode_word hf hn hne rest

theorem Used.word_length {lengths : List Nat} {symbol : Nat} (h : Used lengths symbol) :
    0 < (word lengths symbol).length := by
  obtain ⟨n, hn, hne⟩ := h
  obtain ⟨n, rfl⟩ := Nat.exists_eq_succ_of_ne_zero hne
  rw [word, hn]
  exact Nat.succ_pos _

theorem InTable.read {table : Array (Nat × Nat)} {symbol value : Nat} {extra : Bits}
    (h : InTable table symbol value extra) (rest : Bits) :
    readTable table (some symbol) (extra ++ rest) = .ok (value, rest) := by
  obtain ⟨least, width, more, hentry, hmore, rfl, rfl⟩ := h.exists_extra
  rw [readTable, Option.bind_some, hentry]
  dsimp only
  rw [number_lowFirst hmore]
  rfl

section Items

variable {literals distances : List Nat} {out out' : Array UInt8} {bits : Bits}

/-- The codes of given lengths. -/
def codesOf (literals distances : List Nat) : Codes := ⟨canonical literals, canonical distances⟩

theorem readItem_stop (hl : Fits literals) (h : Used literals 256) (rest : Bits) :
    readItem (codesOf literals distances) (word literals 256 ++ rest) = .ok (.stop, rest) := by
  rw [readItem, codesOf, h.decode hl]
  rfl

theorem readItem_literal {b : UInt8} (hl : Fits literals) (h : Used literals b.toNat)
    (rest : Bits) :
    readItem (codesOf literals distances) (word literals b.toNat ++ rest) =
      .ok (.literal b, rest) := by
  have hb : b.toNat.toUInt8 = b := by simp
  rw [readItem, codesOf, h.decode hl]
  show (if b.toNat < 256 then Except.ok (Item.literal b.toNat.toUInt8, rest) else _) = _
  rw [if_pos b.toNat_lt, hb]

theorem readItem_copy {s s' length distance : Nat} {extra extra' : Bits} (hl : Fits literals)
    (hd : Fits distances) (hs : Used literals (257 + s))
    (hlength : InTable lengthTable s length extra)
    (hs' : Used distances s') (hdistance : InTable distanceTable s' distance extra') (rest : Bits) :
    readItem (codesOf literals distances)
        (word literals (257 + s) ++ (extra ++ (word distances s' ++ (extra' ++ rest)))) =
      .ok (.copy length distance, rest) := by
  unfold readItem codesOf
  rw [hs.decode hl, ok_bind]
  dsimp only
  rw [if_neg (by omega), if_neg (by omega), Nat.add_sub_cancel_left, hlength.read, ok_bind]
  dsimp only
  rw [hs'.decode hd, ok_bind]
  dsimp only
  rw [hdistance.read, ok_bind]
  rfl

/-- The items of a block are read to its end. Each takes a bit at least. -/
theorem Items.read (h : Items literals distances out bits out') (hl : Fits literals)
    (hd : Fits distances) (rest : Bits) {fuel : Nat} (hfuel : bits.length ≤ fuel) :
    readItems (codesOf literals distances) fuel out (bits ++ rest) = (out', .ok rest) := by
  induction h generalizing fuel with
  | stop hstop =>
    have := hstop.word_length
    obtain ⟨fuel, rfl⟩ : ∃ n, fuel = n + 1 := ⟨fuel - 1, by omega⟩
    rw [readItems, readItem_stop hl hstop]
  | literal hb _ ih =>
    have := hb.word_length
    rw [List.length_append] at hfuel
    obtain ⟨fuel, rfl⟩ : ∃ n, fuel = n + 1 := ⟨fuel - 1, by omega⟩
    rw [List.append_assoc, readItems, readItem_literal hl hb]
    exact ih (by omega)
  | copy hs hlength hs' hdistance hle _ ih =>
    have := hs.word_length
    simp only [List.length_append] at hfuel
    obtain ⟨fuel, rfl⟩ : ∃ n, fuel = n + 1 := ⟨fuel - 1, by omega⟩
    simp only [List.append_assoc]
    rw [readItems, readItem_copy hl hd hs hlength hs' hdistance]
    dsimp only
    rw [if_neg (not_lt.2 hle)]
    exact ih (by omega)

end Items

/-! ## Reading codes -/

section Tables

variable {lengths literals distances : List Nat} {bits : Bits}

theorem Run.count_pos {previous : Option Nat} {count n : Nat}
    (h : Run lengths previous bits count n) : 0 < count := by
  cases h <;> omega

theorem Run.read {previous : Option Nat} {count n : Nat} (h : Run lengths previous bits count n)
    (hf : Fits lengths) (rest : Bits) :
    readRun (canonical lengths) previous (bits ++ rest) = .ok (count, n, rest) := by
  cases h with
  | one hn hused =>
    rw [readRun, hused.decode hf, ok_bind]
    dsimp only [Option.getD_some]
    rw [if_pos hn]
    rfl
  | @again _ more hprevious hmore hused =>
    rw [List.append_assoc, readRun, hused.decode hf, hprevious, ok_bind]
    dsimp only [Option.getD_some]
    rw [if_neg (by decide), if_pos rfl]
    rw [number_lowFirst (n := 2) hmore]
    rfl
  | @zeros more hmore hused =>
    rw [List.append_assoc, readRun, hused.decode hf, ok_bind]
    dsimp only [Option.getD_some]
    rw [number_lowFirst (n := 3) hmore]
    rfl
  | @manyZeros more hmore hused =>
    rw [List.append_assoc, readRun, hused.decode hf, ok_bind]
    dsimp only [Option.getD_some]
    rw [number_lowFirst (n := 7) hmore]
    rfl

theorem Lengths.le_length {so all : List Nat} (h : Lengths lengths so bits all) :
    so.length ≤ all.length := by
  induction h with
  | done => rw [List.length_reverse]
  | run _ _ ih =>
    rw [List.length_append] at ih
    omega

/-- Code lengths are read until all have come. -/
theorem Lengths.read {so all : List Nat} (h : Lengths lengths so bits all) (hf : Fits lengths)
    (rest : Bits) {fuel : Nat} (hfuel : all.length ≤ fuel + so.length) :
    readLengths (canonical lengths) all.length fuel so (bits ++ rest) = .ok (all, rest) := by
  induction h generalizing fuel with
  | done =>
    cases fuel with
    | zero => rfl
    | succ fuel =>
      rw [readLengths, List.length_reverse, if_pos (le_refl _)]
      rfl
  | run hrun hlengths ih =>
    have hpos := hrun.count_pos
    have hroom := hlengths.le_length
    rw [List.length_append, List.length_replicate] at hroom ih
    obtain ⟨fuel, rfl⟩ : ∃ k, fuel = k + 1 := ⟨fuel - 1, by omega⟩
    rw [List.append_assoc, readLengths, if_neg (by omega), hrun.read hf, ok_bind]
    dsimp only
    rw [if_neg (by omega)]
    exact ih (by omega)

theorem readTriples_flatMap {given : List Nat} (h : ∀ n ∈ given, n < 8) (rest : Bits) :
    readTriples given.length (given.flatMap (lowFirst 3) ++ rest) = .ok (given, rest) := by
  induction given with
  | nil => rfl
  | cons n given ih =>
    have hn : n < 2 ^ 3 := h n List.mem_cons_self
    rw [List.length_cons, List.flatMap_cons, List.append_assoc, readTriples, number_lowFirst hn,
      ok_bind]
    dsimp only
    rw [ih fun k hk => h k (List.mem_cons_of_mem _ hk)]
    rfl

/-- The three numbers that open the codes of a block. -/
theorem number_sizes {a b c : Nat} (ha : a < 32) (hb : b < 32) (hc : c < 16) (rest : Bits) :
    number 14 (lowFirst 5 a ++ (lowFirst 5 b ++ (lowFirst 4 c ++ rest))) =
      .ok (a + 32 * (b + 32 * c), rest) :=
  number_add (k := 5) (n := 9) (number_lowFirst (n := 5) ha _)
    (number_add (k := 5) (n := 4) (number_lowFirst (n := 5) hb _) (number_lowFirst (n := 4) hc _))

theorem accepted (h : Complete lengths ∨ Single lengths) :
    Code.ofLengths? true lengths = some (canonical lengths) :=
  h.elim (fun hc => hc.accepted true) Single.accepted

theorem fits (h : Complete lengths ∨ Single lengths) : Fits lengths :=
  h.elim Complete.fits Single.fits

theorem Tables.read (h : Tables literals distances bits) (hstop : Used literals 256)
    (rest : Bits) : readCodes (bits ++ rest) = .ok (codesOf literals distances, rest) := by
  obtain ⟨given, runs, hgiven, hgiven', hsmall, hcode, hruns, rfl⟩ := h.exists_bits
  have hl := h.literals_length
  have hd := h.distances_length
  have hsizes := number_sizes (a := literals.length - 257) (b := distances.length - 1)
    (c := given.length - 4) (by omega) (by omega) (by omega)
    (given.flatMap (lowFirst 3) ++ (runs ++ rest))
  obtain ⟨n, hn⟩ : ∃ n, n = literals.length - 257 + 32 * (distances.length - 1 +
    32 * (given.length - 4)) := ⟨_, rfl⟩
  have hliterals : n % 32 + 257 = literals.length := by omega
  have hdistances : n / 32 % 32 + 1 = distances.length := by omega
  have hcount : n / 1024 + 4 = given.length := by omega
  have htotal : literals.length + distances.length = (literals ++ distances).length :=
    List.length_append.symm
  have hnotZero : (literals ++ distances)[256]? ≠ some 0 := by
    obtain ⟨k, hk, hne⟩ := hstop
    rw [List.getElem?_append_left (by omega), hk]
    simpa using hne
  simp only [List.append_assoc]
  unfold readCodes
  rw [hsizes, ← hn, ok_bind]
  dsimp only
  rw [hliterals, hdistances, hcount, if_neg (by omega), readTriples_flatMap hsmall,
    ok_bind]
  dsimp only
  rw [show lengthsCode? given = some (canonical (orderedLengths given)) from hcode.accepted false]
  dsimp only
  rw [htotal, hruns.read hcode.fits rest (Nat.le_add_right _ _), ok_bind]
  dsimp only
  rw [if_neg hnotZero, List.take_left, List.drop_left, accepted h.literals_code]
  dsimp only
  rw [accepted h.distances_code]
  rfl

theorem Items.used_stop {out out' : Array UInt8} (h : Items literals distances out bits out') :
    Used literals 256 := by
  induction h with
  | stop hstop => exact hstop
  | literal _ _ ih => exact ih
  | copy _ _ _ _ _ _ ih => exact ih

end Tables

/-! ## Reading blocks -/

section Blocks

variable {position type : Nat} {out out' : Array UInt8} {bits rest : Bits}

theorem complete_fixedLengths : Complete fixedLengths := ⟨by decide +kernel, by decide +kernel⟩

theorem complete_fixedDistances : Complete fixedDistances := ⟨by decide, by decide⟩

theorem canonical_fixedDistances :
    canonical fixedDistances = ⟨[0, 0, 0, 0, 32], (List.range 32).toArray⟩ := by
  decide +kernel

theorem fixedCodes_eq : fixedCodes = codesOf fixedLengths fixedDistances := by
  rw [codesOf, canonical_fixedDistances]
  rfl

theorem Block.type_lt (h : Block position type out bits out') : type < 4 := by
  cases h <;> decide

/-- The contents of a block are read; a whole number of bytes ends after the rest. -/
theorem Block.read (h : Block position type out bits out')
    (hwhole : (position + bits.length + rest.length) % 8 = 0) :
    readBlock type out (bits ++ rest) = (out', .ok rest) := by
  cases h with
  | @stored _ raw padding hraw hpadding halign =>
    have hrest : (bitsOf raw ++ rest).length % 8 = 0 := by
      simp only [List.length_append, length_bitsOf] at hwhole ⊢
      omega
    simp only [List.append_assoc]
    rw [readBlock, readStoredLength_append hpadding hraw hrest]
    exact readStored_bitsOf raw rest out
  | fixed hitems =>
    rw [readBlock, fixedCodes_eq]
    refine hitems.read complete_fixedLengths.fits complete_fixedDistances.fits rest ?_
    rw [List.length_append]
    omega
  | dynamic htables hitems =>
    rw [List.append_assoc, readBlock, htables.read hitems.used_stop]
    refine hitems.read (fits htables.literals_code) (fits htables.distances_code) rest ?_
    rw [List.length_append]
    omega

theorem number_blockHeader (last : Bool) {type : Nat} (h : type < 4) (rest : Bits) :
    number 3 (last :: (lowFirst 2 type ++ rest)) = .ok (last.toNat + 2 * type, rest) := by
  rw [number, number_lowFirst (n := 2) h]
  rfl

theorem blockHeader_parts (last : Bool) (type : Nat) :
    (last.toNat + 2 * type) / 2 = type ∧ ((last.toNat + 2 * type) % 2 = 1 ↔ last = true) := by
  cases last
  · simp
  · rw [Bool.toNat_true]
    exact ⟨by omega, by simp⟩

/-- All blocks are read. Each takes three bits at least. -/
theorem Blocks.read (h : Blocks position out bits out')
    (hwhole : (position + bits.length + rest.length) % 8 = 0) {fuel : Nat}
    (hfuel : bits.length ≤ fuel) :
    readBlocks fuel out (bits ++ rest) = (out', .ok rest) := by
  induction h generalizing fuel with
  | last hblock =>
    simp only [List.length_cons, List.length_append, length_lowFirst] at hwhole hfuel
    obtain ⟨fuel, rfl⟩ : ∃ n, fuel = n + 1 := ⟨fuel - 1, by omega⟩
    rw [List.cons_append, List.append_assoc, readBlocks, number_blockHeader true hblock.type_lt]
    dsimp only
    rw [(blockHeader_parts true _).1, hblock.read (by omega)]
    dsimp only
    rw [if_pos ((blockHeader_parts true _).2.2 rfl)]
  | more hblock _ ih =>
    simp only [List.length_cons, List.length_append, length_lowFirst] at hwhole hfuel
    obtain ⟨fuel, rfl⟩ : ∃ n, fuel = n + 1 := ⟨fuel - 1, by omega⟩
    rw [List.cons_append, List.append_assoc, List.append_assoc, readBlocks,
      number_blockHeader false hblock.type_lt]
    dsimp only
    rw [(blockHeader_parts false _).1, hblock.read (by rw [List.length_append]; omega)]
    dsimp only
    rw [if_neg fun h => Bool.false_ne_true ((blockHeader_parts false _).2.1 h)]
    exact ih (by omega) (by omega)

end Blocks

/-- Inflating data gives what it is a deflated form of, and leaves what follows. -/
theorem inflate_deflates {data raw : Bytes} (h : Deflates data raw) (rest : Bytes) :
    inflate (data ++ rest) = ⟨raw, .ok rest⟩ := by
  obtain ⟨bits, padding, hblocks, hpadding, hdata⟩ := h
  have hlength := congrArg List.length hdata
  rw [length_bitsOf, List.length_append] at hlength
  have hread : readBlocks ((bitsOf (data ++ rest)).length + 1) #[]
      (bits ++ (padding ++ bitsOf rest)) = (raw.toArray, .ok (padding ++ bitsOf rest)) :=
    hblocks.read (by rw [List.length_append, length_bitsOf]; omega)
      (by rw [length_bitsOf, List.length_append]; omega)
  have hbits : bitsOf (data ++ rest) = bits ++ (padding ++ bitsOf rest) := by
    rw [bitsOf_append, hdata, List.append_assoc]
  have hleft : (data ++ rest).length - (padding ++ bitsOf rest).length / 8 = data.length := by
    rw [List.length_append, List.length_append, length_bitsOf]
    omega
  rw [← hbits] at hread
  unfold inflate
  dsimp only
  rw [hread]
  dsimp only
  rw [hleft, List.drop_left]

/-! ## Deflating -/

/-- At a whole byte a stored block starts with a byte of its own. -/
theorem bitsOf_stored (last : Bool) (n : Nat) (raw : Bytes) :
    bitsOf (last.toNat.toUInt8 :: (storedLength n ++ raw)) =
      last :: (lowFirst 2 0 ++ (List.replicate 5 false ++
        (bitsOf (storedLength n) ++ bitsOf raw))) := by
  rw [bitsOf_cons, bitsOf_append]
  cases last <;> rfl

theorem blocks_stored {position : Nat} (hposition : position % 8 = 0) (out : Array UInt8)
    {raw : Bytes} (h : raw.length ≤ 65535) :
    Blocks position out (bitsOf (stored raw)) (out ++ raw.toArray) := by
  rw [show stored raw = true.toNat.toUInt8 :: (storedLength raw.length ++ raw) from rfl,
    bitsOf_stored]
  exact .last (.stored h (by simp) (by rw [List.length_replicate]; omega))

/-- A byte string of any length can be stored in blocks. -/
theorem exists_blocks {position : Nat} (hposition : position % 8 = 0) (out : Array UInt8)
    (raw : Bytes) : ∃ data, Blocks position out (bitsOf data) (out ++ raw.toArray) := by
  obtain ⟨n, hn⟩ : ∃ n, raw.length ≤ n := ⟨_, le_refl _⟩
  induction n generalizing raw position out with
  | zero => exact ⟨_, blocks_stored hposition out (by omega)⟩
  | succ n ih =>
    by_cases hshort : raw.length ≤ 65535
    · exact ⟨_, blocks_stored hposition out hshort⟩
    have hfirst : (raw.take 65535).length = 65535 := by
      rw [List.length_take]
      omega
    obtain ⟨contents, hcontents⟩ : ∃ contents, contents = List.replicate 5 false ++
      (bitsOf (storedLength 65535) ++ bitsOf (raw.take 65535)) := ⟨_, rfl⟩
    have hwhole : (position + 3 + contents.length) % 8 = 0 := by
      rw [hcontents]
      simp only [List.length_append, length_bitsOf, List.length_replicate]
      omega
    obtain ⟨data, hdata⟩ := ih hwhole (out ++ (raw.take 65535).toArray) (raw.drop 65535)
      (by rw [List.length_drop]; omega)
    have hblock : Block (position + 3) 0 out contents (out ++ (raw.take 65535).toArray) := by
      have := @Block.stored (position + 3) out (raw.take 65535) (List.replicate 5 false) hfirst.le
        (by simp) (by rw [List.length_replicate]; omega)
      rwa [hfirst, ← hcontents] at this
    have hraw : out ++ (raw.take 65535).toArray ++ (raw.drop 65535).toArray =
        out ++ raw.toArray := by
      rw [Array.append_assoc, List.append_toArray (raw.take 65535), List.take_append_drop]
    refine ⟨false.toNat.toUInt8 :: (storedLength 65535 ++ raw.take 65535) ++ data, ?_⟩
    rw [bitsOf_append, bitsOf_stored, ← hcontents, List.cons_append, List.append_assoc, ← hraw]
    exact .more hblock hdata

/-- Everything can be deflated. -/
theorem exists_deflates (raw : Bytes) : ∃ data, Deflates data raw := by
  obtain ⟨data, hdata⟩ := exists_blocks (Nat.zero_mod 8) #[] raw
  exact ⟨data, bitsOf data, [], by simpa using hdata, by simp, (List.append_nil _).symm⟩

theorem deflates_stored {raw : Bytes} (h : raw.length ≤ 65535) : Deflates (stored raw) raw :=
  ⟨bitsOf (stored raw), [], by simpa using blocks_stored (Nat.zero_mod 8) #[] h, by simp,
    (List.append_nil _).symm⟩

end Provision.Deflate
