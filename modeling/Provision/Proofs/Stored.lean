import Mathlib.Data.List.TakeWhile
import Mathlib.Tactic.Ring
import Provision.Archive.Deflate

/-!
# Stored data

Numbers as bytes and bits, and the part of deflated data that is stored without compression.

* `Bytes.ofLe` gives the digits that `Bytes.le` reads; `Bytes.slice_append_left` and the like are
  about the fields of a record, and `Bytes.untilNul_append` about a text that ends with a NUL.
* `number_testBit` and `number_bitsOf` are about reading numbers from bits.
* `Deflate.stored` is data in one stored block; `readStoredLength_append` and `readStored_bitsOf`
  are about reading its parts.
-/

namespace Provision

/-! ## Numbers and fields in bytes -/

namespace Bytes

/-- The `k` lowest digits of a number, the lowest first. -/
def ofLe : Nat → Nat → Bytes
  | 0, _ => []
  | k + 1, n => (n % 256).toUInt8 :: ofLe k (n / 256)

@[simp] theorem length_ofLe (k n : Nat) : (ofLe k n).length = k := by
  induction k generalizing n with
  | zero => rfl
  | succ k ih => rw [ofLe, List.length_cons, ih]

theorem le_ofLe_mod (k n : Nat) : le (ofLe k n) = n % 256 ^ k := by
  induction k generalizing n with
  | zero => rw [Nat.pow_zero, Nat.mod_one, ofLe, le]
  | succ k ih =>
    have hlow : (n % 256).toUInt8.toNat = n % 256 := by simp
    rw [ofLe, le, hlow, ih, Nat.pow_succ, Nat.mul_comm (256 ^ k), Nat.mod_mul]

theorem le_ofLe {k n : Nat} (h : n < 256 ^ k) : le (ofLe k n) = n := by
  rw [le_ofLe_mod, Nat.mod_eq_of_lt h]

theorem le_lt (bs : Bytes) : le bs < 256 ^ bs.length := by
  induction bs with
  | nil => exact Nat.one_pos
  | cons b bs ih =>
    have hb : b.toNat < 256 := UInt8.toNat_lt b
    rw [le, List.length_cons, Nat.pow_succ]
    omega

theorem ofLe_le (bs : Bytes) : ofLe bs.length (le bs) = bs := by
  induction bs with
  | nil => rfl
  | cons b bs ih =>
    have hb : b.toNat < 256 := UInt8.toNat_lt b
    have hlow : (b.toNat + 256 * le bs) % 256 = b.toNat := by omega
    have hhigh : (b.toNat + 256 * le bs) / 256 = le bs := by omega
    rw [le, List.length_cons, ofLe, hlow, hhigh, ih]
    simp

theorem ofLe_mod (k n : Nat) : ofLe k (n % 256 ^ k) = ofLe k n := by
  have h := ofLe_le (ofLe k n)
  rwa [length_ofLe, le_ofLe_mod] at h

theorem slice_append_left {a : Bytes} {start len : Nat} (h : start + len ≤ a.length) (b : Bytes) :
    (a ++ b).slice start len = a.slice start len := by
  rw [slice, slice, List.drop_append_of_le_length (by omega),
    List.take_append_of_le_length (by rw [List.length_drop]; omega)]

theorem slice_append_right {a : Bytes} {start : Nat} (h : a.length ≤ start) (b : Bytes)
    (len : Nat) : (a ++ b).slice start len = b.slice (start - a.length) len := by
  rw [slice, slice, List.drop_append, List.drop_eq_nil_of_le h, List.nil_append]

theorem slice_zero_append {a : Bytes} {len : Nat} (h : a.length = len) (b : Bytes) :
    (a ++ b).slice 0 len = a := by
  rw [slice, List.drop_zero, List.take_left' h]

/-- A text ends before its first NUL. -/
theorem untilNul_append {a b : Bytes} (h : ∀ x ∈ a, x ≠ 0) : (a ++ 0 :: b).untilNul = a := by
  rw [untilNul, List.takeWhile_append_of_pos (by simpa using h)]
  simp

theorem ne_zero_of_mem_untilNul (bs : Bytes) : ∀ b ∈ bs.untilNul, b ≠ 0 := fun b hb => by
  simpa using List.mem_takeWhile_imp hb

/-- All bytes belong to the text, or it ends with a NUL. -/
theorem untilNul_cases (bs : Bytes) :
    bs = bs.untilNul ∨ ∃ rest, bs = bs.untilNul ++ 0 :: rest := by
  induction bs with
  | nil => exact .inl rfl
  | cons b bs ih =>
    rw [untilNul, List.takeWhile_cons]
    by_cases hb : b = 0
    · exact .inr ⟨bs, by simp [hb]⟩
    · rw [if_pos (by simpa using hb)]
      exact ih.imp (congrArg _) fun ⟨rest, hrest⟩ => ⟨rest, congrArg _ hrest⟩

end Bytes

/-! ## Numbers in bits -/

namespace Deflate

theorem number_testBit (m n : Nat) (h : m < 2 ^ n) (rest : Bits) :
    number n ((List.range n).map (fun i => m.testBit i) ++ rest) = .ok (m, rest) := by
  induction n generalizing m with
  | zero =>
    have hm : m = 0 := by omega
    rw [hm]
    rfl
  | succ n ih =>
    have hhalf : m / 2 < 2 ^ n := by omega
    have hbits : (List.range n).map (fun i => m.testBit (i + 1)) =
        (List.range n).map (fun i => (m / 2).testBit i) := by
      refine List.map_congr_left fun i _ => ?_
      rw [Nat.testBit_succ]
    have hlow : (m.testBit 0).toNat = m % 2 := by
      rw [Nat.testBit_zero]
      rcases Nat.mod_two_eq_zero_or_one m with h0 | h1
      · simp [h0]
      · simp [h1]
    have hmap : (List.range n).map ((fun i => m.testBit i) ∘ Nat.succ) =
        (List.range n).map (fun i => (m / 2).testBit i) := hbits
    rw [List.range_succ_eq_map, List.map_cons, List.map_map, List.cons_append, hmap, number,
      ih _ hhalf, hlow]
    show Except.ok (m % 2 + 2 * (m / 2), rest) = _
    rw [Nat.mod_add_div]

/-- Numbers that follow one another can be read as one. -/
theorem number_add {k n low high : Nat} {bits bits' bits'' : Bits}
    (hlow : number k bits = .ok (low, bits')) (hhigh : number n bits' = .ok (high, bits'')) :
    number (k + n) bits = .ok (low + 2 ^ k * high, bits'') := by
  induction k generalizing bits low with
  | zero =>
    cases hlow
    rw [Nat.zero_add, hhigh, Nat.pow_zero, Nat.one_mul, Nat.zero_add]
  | succ k ih =>
    cases bits with
    | nil => cases hlow
    | cons bit bits =>
      rw [Nat.succ_add_eq_add_succ, Nat.add_succ]
      cases hk : number k bits with
      | error e =>
        rw [number, hk] at hlow
        cases hlow
      | ok r =>
        rw [number, hk] at hlow
        cases hlow
        rw [number, ih hk]
        show Except.ok (bit.toNat + 2 * (r.1 + 2 ^ k * high), bits'') = _
        congr 2
        ring

theorem bitsOf_cons (b : UInt8) (bs : Bytes) : bitsOf (b :: bs) = byteBits b ++ bitsOf bs := rfl

theorem number_byteBits (b : UInt8) (rest : Bits) :
    number 8 (byteBits b ++ rest) = .ok (b.toNat, rest) :=
  number_testBit b.toNat 8 b.toNat_lt rest

theorem bitsOf_append (bs bs' : Bytes) : bitsOf (bs ++ bs') = bitsOf bs ++ bitsOf bs' :=
  List.flatMap_append

/-- Whole bytes are read as their little-endian number. -/
theorem number_bitsOf (bs : Bytes) (rest : Bits) :
    number (8 * bs.length) (bitsOf bs ++ rest) = .ok (Bytes.le bs, rest) := by
  induction bs with
  | nil => rfl
  | cons b bs ih =>
    rw [List.length_cons, Nat.mul_succ, Nat.add_comm, bitsOf_cons, List.append_assoc, Bytes.le]
    exact number_add (number_byteBits b _) ih

theorem length_bitsOf (bs : Bytes) : (bitsOf bs).length = 8 * bs.length := by
  induction bs with
  | nil => rfl
  | cons b bs ih =>
    have hbyte : (byteBits b).length = 8 := by simp [byteBits]
    rw [bitsOf_cons, List.length_append, hbyte, ih, List.length_cons]
    omega

/-! ## Stored blocks -/

/-- The deflated form of at most 65535 bytes as one stored block. -/
def stored (raw : Bytes) : Bytes :=
  1 :: Bytes.ofLe 4 (raw.length + 65536 * (65535 - raw.length)) ++ raw

theorem readStored_bitsOf (raw : Bytes) (rest : Bits) (out : Array UInt8) :
    readStored raw.length out (bitsOf raw ++ rest) = (out ++ raw.toArray, .ok rest) := by
  induction raw generalizing out with
  | nil => simp [readStored, bitsOf]
  | cons b raw ih =>
    rw [List.length_cons, bitsOf_cons, List.append_assoc, readStored, number_byteBits]
    show readStored raw.length (out.push b.toNat.toUInt8) (bitsOf raw ++ rest) = _
    have hbyte : b.toNat.toUInt8 = b := by simp
    rw [ih, hbyte]
    simp

/-- What is left of the first byte is passed over. -/
theorem alignToByte_append {bits rest : Bits} (h : bits.length < 8) (hrest : rest.length % 8 = 0) :
    alignToByte (bits ++ rest) = rest := by
  have hlength : (bits ++ rest).length % 8 = bits.length := by
    rw [List.length_append]
    omega
  rw [alignToByte, hlength, List.drop_left]

/-- The length of stored bytes with its complement. -/
def storedLength (n : Nat) : Bytes := Bytes.ofLe 4 (n + 65536 * (65535 - n))

theorem readStoredLength_append {bits rest : Bits} {n : Nat} (hbits : bits.length < 8)
    (hn : n ≤ 65535) (hrest : rest.length % 8 = 0) :
    readStoredLength (bits ++ (bitsOf (storedLength n) ++ rest)) = .ok (n, rest) := by
  have hlength : (bitsOf (storedLength n) ++ rest).length % 8 = 0 := by
    rw [List.length_append, length_bitsOf]
    omega
  have hnumber := number_bitsOf (storedLength n) rest
  rw [storedLength, Bytes.length_ofLe, Bytes.le_ofLe (by omega)] at hnumber
  have hlow : (n + 65536 * (65535 - n)) % 65536 = n := by omega
  have hhigh : (n + 65536 * (65535 - n)) / 65536 = 65535 - n := by omega
  have hsum : n + (65535 - n) = 65535 := by omega
  rw [readStoredLength, alignToByte_append hbits hlength, storedLength, hnumber]
  show (if _ % 65536 + _ / 65536 = 65535 then Except.ok (_ % 65536, rest) else _) = _
  rw [hlow, hhigh, if_pos hsum]

end Deflate

end Provision
