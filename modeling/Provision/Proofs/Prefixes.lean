import Provision.Archive.Inflated
import Provision.Proofs.Deflating

/-!
# Inflating the start of data

Inflating does not look ahead: whatever follows some data, the output begins with what the data
alone gives.

* `Deflate.Steady` says that a reader gives the same when more follows; so do all parts of a block
  that are read to their end.
* `Deflate.Further` compares what a decoder gives for some data and for more of it, whether or not
  it comes to an end; `Deflate.inflate_append` is the result.
-/

namespace Provision

variable {ε α β : Type}

/-- Two steps that have succeeded together have both succeeded. -/
theorem exists_of_bind {x : Except ε α} {f : α → Except ε β} {b : β} (h : x >>= f = .ok b) :
    ∃ a, x = .ok a ∧ f a = .ok b := by
  cases x with
  | error e => cases h
  | ok a => exact ⟨a, rfl, h⟩

theorem bind_of_ok {x : Except ε α} {f : α → Except ε β} {a : α} {b : β} (hx : x = .ok a)
    (h : f a = .ok b) : x >>= f = .ok b := by
  rw [hx]
  exact h

/-- A step that has succeeded after a check has passed the check. -/
theorem ok_of_ite {c : Prop} [Decidable c] {x y : Except ε α} {a : α}
    (h : (if c then x else y) = .ok a) (hx : x ≠ .ok a) : ¬ c ∧ y = .ok a := by
  split_ifs at h with hc
  · exact absurd h hx
  · exact ⟨hc, h⟩

namespace Deflate

/-! ## Readers -/

/-- A reader does not look beyond what it takes: when more data follows, in whole bytes, it gives
the same and leaves that as well. -/
structure Steady (p : Bits → Except Fault (α × Bits)) : Prop where
  extend : ∀ {bits more : Bits} {a : α} {rest : Bits}, more.length % 8 = 0 →
    p bits = .ok (a, rest) → p (bits ++ more) = .ok (a, rest ++ more)

theorem steady_pure (a : α) : Steady fun bits => .ok (a, bits) where
  extend _ h := by
    cases h
    rfl

theorem steady_error (e : Fault) : Steady fun _ : Bits => (.error e : Except Fault (α × Bits)) where
  extend _ h := by cases h

/-- The first step of a reader that has succeeded, on the data and on more data. -/
theorem Steady.next {p : Bits → Except Fault (α × Bits)} {f : α × Bits → Except Fault β}
    {bits more : Bits} {b : β} (hp : Steady p) (hmore : more.length % 8 = 0)
    (h : p bits >>= f = .ok b) :
    ∃ a left, p (bits ++ more) = .ok (a, left ++ more) ∧ f (a, left) = .ok b := by
  obtain ⟨⟨a, left⟩, hfirst, h⟩ := exists_of_bind h
  exact ⟨a, left, hp.extend hmore hfirst, h⟩

theorem Steady.bind {p : Bits → Except Fault (α × Bits)}
    {q : α → Bits → Except Fault (β × Bits)} (hp : Steady p) (hq : ∀ a, Steady (q a)) :
    Steady fun bits => p bits >>= fun
      | (a, bits) => q a bits where
  extend {bits more b rest} hmore h := by
    obtain ⟨a, left, hread, h⟩ := hp.next hmore h
    dsimp only
    rw [hread]
    exact (hq a).extend hmore h

theorem steady_number (n : Nat) : Steady (number n) := by
  induction n with
  | zero => exact steady_pure 0
  | succ n ih =>
    constructor
    intro bits more a rest hmore h
    cases bits with
    | nil => cases h
    | cons bit bits =>
      have hbit := ih.bind fun high => steady_pure (bit.toNat + 2 * high)
      exact hbit.extend hmore h

theorem steady_decodeFrom (symbols : Array Nat) (counts : List Nat) (word first index : Nat) :
    Steady (Code.decodeFrom symbols counts word first index) := by
  induction counts generalizing word first index with
  | nil => exact steady_pure none
  | cons count counts ih =>
    constructor
    intro bits more a rest hmore h
    cases bits with
    | nil => cases h
    | cons bit bits =>
      rw [List.cons_append, Code.decodeFrom]
      rw [Code.decodeFrom] at h
      split_ifs at h ⊢
      · exact (steady_pure _).extend hmore h
      · exact (ih _ _ _).extend hmore h

theorem steady_decode (c : Code) : Steady c.decode := by
  constructor
  intro bits more a rest hmore h
  unfold Code.decode at h ⊢
  cases hcounts : c.counts with
  | nil =>
    rw [hcounts] at h
    cases bits with
    | nil => cases h
    | cons bit bits =>
      cases h
      rfl
  | cons count counts =>
    rw [hcounts] at h
    exact (steady_decodeFrom c.symbols (count :: counts) 0 0 0).extend hmore h

theorem steady_readTriples (n : Nat) : Steady (readTriples n) := by
  induction n with
  | zero => exact steady_pure []
  | succ n ih =>
    exact (steady_number 3).bind fun length => ih.bind fun rest => steady_pure (length :: rest)

theorem steady_readTable (table : Array (Nat × Nat)) (symbol : Option Nat) :
    Steady (readTable table symbol) := by
  unfold readTable
  cases symbol.bind fun s => table[s]? with
  | none => exact steady_error _
  | some entry => exact (steady_number entry.2).bind fun extra => steady_pure (entry.1 + extra)

theorem steady_readItem (codes : Codes) : Steady (readItem codes) := by
  constructor
  intro bits more a rest hmore h
  unfold readItem at h ⊢
  obtain ⟨symbol, left, hread, h⟩ := (steady_decode codes.lengths).next hmore h
  rw [hread, ok_bind]
  cases symbol with
  | none => cases h
  | some symbol =>
    dsimp only at h ⊢
    split_ifs at h ⊢
    · cases h
      rfl
    · cases h
      rfl
    · obtain ⟨length, left, hread, h⟩ := (steady_readTable lengthTable _).next hmore h
      rw [hread, ok_bind]
      obtain ⟨symbol, left, hread, h⟩ := (steady_decode codes.distances).next hmore h
      rw [hread, ok_bind]
      obtain ⟨distance, left, hread, h⟩ := (steady_readTable distanceTable symbol).next hmore h
      rw [hread, ok_bind]
      cases h
      rfl

/-- Where the next whole byte starts does not depend on how many follow. -/
theorem alignToByte_append_whole (bits : Bits) {more : Bits} (hmore : more.length % 8 = 0) :
    alignToByte (bits ++ more) = alignToByte bits ++ more := by
  have hlength : (bits ++ more).length % 8 = bits.length % 8 := by
    rw [List.length_append]
    omega
  unfold alignToByte
  rw [hlength, List.drop_append_of_le_length (Nat.mod_le _ _)]

theorem steady_readStoredLength : Steady readStoredLength := by
  constructor
  intro bits more a rest hmore h
  unfold readStoredLength at h ⊢
  rw [alignToByte_append_whole bits hmore]
  obtain ⟨n, left, hread, h⟩ := (steady_number 32).next hmore h
  rw [hread, ok_bind]
  dsimp only at h ⊢
  split_ifs at h ⊢
  cases h
  rfl

/-! ## The codes of a block -/

theorem readRun_append {code : Code} {previous : Option Nat} {bits more left : Bits}
    {count length : Nat} (hmore : more.length % 8 = 0)
    (h : readRun code previous bits = .ok (count, length, left)) :
    readRun code previous (bits ++ more) = .ok (count, length, left ++ more) := by
  unfold readRun at h ⊢
  obtain ⟨symbol, left, hread, h⟩ := (steady_decode code).next hmore h
  rw [hread, ok_bind]
  dsimp only at h ⊢
  split_ifs at h ⊢
  · cases h
    rfl
  · obtain ⟨extra, left, hread, h⟩ := (steady_number 2).next hmore h
    rw [hread, ok_bind]
    cases previous with
    | none => cases h
    | some length =>
      cases h
      rfl
  · obtain ⟨extra, left, hread, h⟩ := (steady_number 3).next hmore h
    rw [hread, ok_bind]
    cases h
    rfl
  · obtain ⟨extra, left, hread, h⟩ := (steady_number 7).next hmore h
    rw [hread, ok_bind]
    cases h
    rfl

theorem steady_readLengths (code : Code) (total fuel : Nat) (done : List Nat) :
    Steady (readLengths code total fuel done) := by
  induction fuel generalizing done with
  | zero => exact steady_pure _
  | succ fuel ih =>
    constructor
    intro bits more a rest hmore h
    unfold readLengths at h ⊢
    split_ifs at h ⊢
    · cases h
      rfl
    · obtain ⟨⟨count, length, left⟩, hrun, h⟩ := exists_of_bind h
      rw [readRun_append hmore hrun, ok_bind]
      dsimp only at h ⊢
      split_ifs at h ⊢
      · cases h
      · exact (ih _).extend hmore h

theorem steady_readCodes : Steady readCodes := by
  constructor
  intro bits more a rest hmore h
  unfold readCodes at h ⊢
  obtain ⟨n, left, hread, h⟩ := (steady_number 14).next hmore h
  rw [hread, ok_bind]
  dsimp only at h ⊢
  split_ifs at h ⊢
  · cases h
  · obtain ⟨given, left, hread, h⟩ := (steady_readTriples _).next hmore h
    rw [hread, ok_bind]
    dsimp only at h ⊢
    cases hcode : lengthsCode? given with
    | none =>
      rw [hcode] at h
      cases h
    | some code =>
      rw [hcode] at h
      dsimp only at h ⊢
      obtain ⟨lengths, left, hread, h⟩ := (steady_readLengths code _ _ _).next hmore h
      rw [hread, ok_bind]
      dsimp only at h ⊢
      split_ifs at h ⊢
      · cases h
      · split at h
        · split at h
          · cases h
            rfl
          · cases h
        · cases h

/-! ## Output -/

/-- What a decoder gives for more data: what it gave before and perhaps more, and no more once the
part was complete. -/
structure Further (more : Bits) (part all : Array UInt8 × Except Fault Bits) : Prop where
  output : part.1.toList <+: all.1.toList
  complete : ∀ {left : Bits}, part.2 = .ok left → all = (part.1, .ok (left ++ more))

theorem Further.stopped {out : Array UInt8} {e : Fault} {more : Bits}
    {all : Array UInt8 × Except Fault Bits} (h : out.toList <+: all.1.toList) :
    Further more (out, .error e) all where
  output := h
  complete h := by cases h

theorem Further.done {out : Array UInt8} {left more : Bits} :
    Further more (out, .ok left) (out, .ok (left ++ more)) where
  output := List.prefix_refl _
  complete h := by
    cases h
    rfl

theorem copyBack_output (length distance : Nat) (out : Array UInt8) :
    out.toList <+: (copyBack length distance out).toList := by
  induction length generalizing out with
  | zero => exact List.prefix_refl _
  | succ length ih =>
    refine List.IsPrefix.trans ?_ (ih _)
    rw [Array.toList_push]
    exact List.prefix_append _ _

theorem readItems_output (codes : Codes) (fuel : Nat) (out : Array UInt8) (bits : Bits) :
    out.toList <+: (readItems codes fuel out bits).1.toList := by
  induction fuel generalizing out bits with
  | zero => exact List.prefix_refl _
  | succ fuel ih =>
    unfold readItems
    split
    · exact List.prefix_refl _
    · exact List.prefix_refl _
    · refine List.IsPrefix.trans ?_ (ih _ _)
      rw [Array.toList_push]
      exact List.prefix_append _ _
    · split_ifs
      · exact List.prefix_refl _
      · exact (copyBack_output _ _ _).trans (ih _ _)

theorem readStored_output (count : Nat) (out : Array UInt8) (bits : Bits) :
    out.toList <+: (readStored count out bits).1.toList := by
  induction count generalizing out bits with
  | zero => exact List.prefix_refl _
  | succ count ih =>
    unfold readStored
    split
    · exact List.prefix_refl _
    · refine List.IsPrefix.trans ?_ (ih _ _)
      rw [Array.toList_push]
      exact List.prefix_append _ _

theorem readBlock_output (type : Nat) (out : Array UInt8) (bits : Bits) :
    out.toList <+: (readBlock type out bits).1.toList := by
  unfold readBlock
  split
  · split
    · exact List.prefix_refl _
    · exact readStored_output _ _ _
  · exact readItems_output _ _ _ _
  · split
    · exact List.prefix_refl _
    · exact readItems_output _ _ _ _
  · exact List.prefix_refl _

theorem readBlocks_output (fuel : Nat) (out : Array UInt8) (bits : Bits) :
    out.toList <+: (readBlocks fuel out bits).1.toList := by
  induction fuel generalizing out bits with
  | zero => exact List.prefix_refl _
  | succ fuel ih =>
    unfold readBlocks
    split
    · exact List.prefix_refl _
    · rename_i header bits _
      have hblock := readBlock_output (header / 2) out bits
      split
      · rename_i hread
        rw [hread] at hblock
        exact hblock
      · rename_i hread
        rw [hread] at hblock
        split_ifs
        · exact hblock
        · exact hblock.trans (ih _ _)

/-! ## More data -/

variable {more : Bits}

theorem further_readItems (hmore : more.length % 8 = 0) (codes : Codes) {fuel fuel' : Nat}
    (hfuel : fuel ≤ fuel') (out : Array UInt8) (bits : Bits) :
    Further more (readItems codes fuel out bits) (readItems codes fuel' out (bits ++ more)) := by
  induction fuel generalizing fuel' out bits with
  | zero => exact Further.stopped (readItems_output _ _ _ _)
  | succ fuel ih =>
    obtain ⟨fuel', rfl⟩ : ∃ k, fuel' = k + 1 := ⟨fuel' - 1, by omega⟩
    have hless : fuel ≤ fuel' := by omega
    cases hitem : readItem codes bits with
    | error e =>
      rw [readItems, hitem]
      exact Further.stopped (readItems_output _ _ _ _)
    | ok r =>
      obtain ⟨item, left⟩ := r
      rw [readItems, readItems, hitem, (steady_readItem codes).extend hmore hitem]
      cases item with
      | stop => exact Further.done
      | literal b => exact ih hless _ _
      | copy length distance =>
        dsimp only
        split_ifs
        · exact Further.stopped (List.prefix_refl _)
        · exact ih hless _ _

theorem further_readStored (hmore : more.length % 8 = 0) (count : Nat) (out : Array UInt8)
    (bits : Bits) :
    Further more (readStored count out bits) (readStored count out (bits ++ more)) := by
  induction count generalizing out bits with
  | zero => exact Further.done
  | succ count ih =>
    cases hbyte : number 8 bits with
    | error e =>
      rw [readStored, hbyte]
      exact Further.stopped (readStored_output _ _ _)
    | ok r =>
      obtain ⟨b, left⟩ := r
      rw [readStored, readStored, hbyte, (steady_number 8).extend hmore hbyte]
      exact ih _ _

theorem further_readBlock (hmore : more.length % 8 = 0) (type : Nat) (out : Array UInt8)
    (bits : Bits) :
    Further more (readBlock type out bits) (readBlock type out (bits ++ more)) := by
  have hfuel (bits : Bits) : bits.length + 1 ≤ (bits ++ more).length + 1 := by
    rw [List.length_append]
    omega
  match type with
  | 0 =>
    cases hlength : readStoredLength bits with
    | error e =>
      rw [readBlock, hlength]
      exact Further.stopped (readBlock_output _ _ _)
    | ok r =>
      rw [readBlock, readBlock, hlength, steady_readStoredLength.extend hmore hlength]
      exact further_readStored hmore _ _ _
  | 1 =>
    rw [readBlock, readBlock]
    exact further_readItems hmore _ (hfuel bits) _ _
  | 2 =>
    cases hcodes : readCodes bits with
    | error e =>
      rw [readBlock, hcodes]
      exact Further.stopped (readBlock_output _ _ _)
    | ok r =>
      rw [readBlock, readBlock, hcodes, steady_readCodes.extend hmore hcodes]
      exact further_readItems hmore r.1 (hfuel r.2) _ _
  | _ + 3 => exact Further.stopped (List.prefix_refl _)

theorem further_readBlocks (hmore : more.length % 8 = 0) {fuel fuel' : Nat}
    (hfuel : fuel ≤ fuel') (out : Array UInt8) (bits : Bits) :
    Further more (readBlocks fuel out bits) (readBlocks fuel' out (bits ++ more)) := by
  induction fuel generalizing fuel' out bits with
  | zero => exact Further.stopped (readBlocks_output _ _ _)
  | succ fuel ih =>
    obtain ⟨fuel', rfl⟩ : ∃ k, fuel' = k + 1 := ⟨fuel' - 1, by omega⟩
    cases hheader : number 3 bits with
    | error e =>
      rw [readBlocks, hheader]
      exact Further.stopped (readBlocks_output _ _ _)
    | ok r =>
      obtain ⟨header, left⟩ := r
      rw [readBlocks, readBlocks, hheader, (steady_number 3).extend hmore hheader]
      have hblock := further_readBlock hmore (header / 2) out left
      dsimp only
      cases hpart : readBlock (header / 2) out left with
      | mk out' result =>
        rw [hpart] at hblock
        cases result with
        | error e =>
          refine Further.stopped ?_
          generalize readBlock (header / 2) out (left ++ more) = all at hblock ⊢
          obtain ⟨out'', e' | left'⟩ := all
          · exact hblock.output
          · dsimp only
            split_ifs
            · exact hblock.output
            · exact hblock.output.trans (readBlocks_output _ _ _)
        | ok left' =>
          rw [hblock.complete rfl]
          dsimp only
          split_ifs
          · exact Further.done
          · exact ih (by omega) _ _

/-- The start of data inflates to the start of what the data inflates to. -/
theorem inflate_append (data more : Bytes) :
    (inflate data).bytes <+: (inflate (data ++ more)).bytes := by
  have hmore : (bitsOf more).length % 8 = 0 := by
    rw [length_bitsOf]
    omega
  have hfuel : (bitsOf data).length + 1 ≤ (bitsOf (data ++ more)).length + 1 := by
    rw [bitsOf_append, List.length_append]
    omega
  have hread := (further_readBlocks hmore hfuel #[] (bitsOf data)).output
  rw [← bitsOf_append] at hread
  have hbytes (data : Bytes) : (inflate data).bytes =
      (readBlocks ((bitsOf data).length + 1) #[] (bitsOf data)).1.toList := by
    unfold inflate
    dsimp only
    split
    · rename_i h
      rw [h]
    · rename_i h
      rw [h]
  rw [hbytes, hbytes]
  exact hread

end Deflate

end Provision
