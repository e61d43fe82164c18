import Mathlib.Tactic.Ring
import Provision.Archive.Deflate

/-!
# Canonical codes

A canonical code is given by the lengths of its words alone: words of one length are numbered in the
order of their symbols, from twice the number that comes after the last word that is one bit
shorter.

* `Code.word` is the word of a symbol, with its highest bit first.
* `Code.decode_word`: if there is room for all words, decoding a word gives its symbol.
* `Complete.accepted`: lengths that leave no room are accepted; `Single.accepted` is the exception
  for a single word.
-/

namespace Provision.Deflate.Code

variable {lengths : List Nat}

/-- The code that a set of lengths stands for. -/
def canonical (lengths : List Nat) : Code := ⟨countLengths lengths, (sortSymbols lengths).toArray⟩

/-- The number after the last word of at most `n` bits, as a number of `n` bits. -/
def reach (lengths : List Nat) : Nat → Nat
  | 0 => 0
  | n + 1 => 2 * reach lengths n + lengths.count (n + 1)

/-- How many words have at most `n` bits. -/
def wordsUpTo (lengths : List Nat) : Nat → Nat
  | 0 => 0
  | n + 1 => wordsUpTo lengths n + lengths.count (n + 1)

/-- How many of the symbols before a symbol have words of length `n`. -/
def rank (lengths : List Nat) (symbol n : Nat) : Nat := (lengths.take symbol).count n

/-- The number of the word of a symbol, given that it has length `n + 1`. -/
def wordNumber (lengths : List Nat) (symbol n : Nat) : Nat :=
  2 * reach lengths n + rank lengths symbol (n + 1)

/-- The `n` lowest binary digits of a number, the highest first. -/
def digits : Nat → Nat → Bits
  | 0, _ => []
  | n + 1, v => v.testBit n :: digits n v

/-- The code word of a symbol; an unused symbol has none. -/
def word (lengths : List Nat) (symbol : Nat) : Bits :=
  match lengths[symbol]? with
  | some (n + 1) => digits (n + 1) (wordNumber lengths symbol n)
  | _ => []

/-- The room that all words take, in words of the greatest length. -/
def weight (lengths : List Nat) : Nat :=
  (lengths.map fun n => if n = 0 then 0 else 2 ^ (maxLength - n)).sum

/-- The lengths leave room for all words. -/
structure Fits (lengths : List Nat) : Prop where
  le_max : ∀ n ∈ lengths, n ≤ maxLength
  weight_le : weight lengths ≤ 2 ^ maxLength

/-- The words use all the room. -/
structure Complete (lengths : List Nat) : Prop where
  le_max : ∀ n ∈ lengths, n ≤ maxLength
  weight_eq : weight lengths = 2 ^ maxLength

/-- There is at most one word, of one bit. -/
structure Single (lengths : List Nat) : Prop where
  le_one : ∀ n ∈ lengths, n ≤ 1
  count_le : lengths.count 1 ≤ 1

theorem Complete.fits (h : Complete lengths) : Fits lengths := ⟨h.le_max, h.weight_eq.le⟩

/-! ## Room -/

theorem reach_cons (n : Nat) (lengths : List Nat) (m : Nat) :
    reach (n :: lengths) m =
      reach lengths m + if 0 < n ∧ n ≤ m then 2 ^ (m - n) else 0 := by
  induction m with
  | zero =>
    rw [if_neg (by omega)]
    rfl
  | succ m ih =>
    rw [reach, reach, ih, List.count_cons]
    rcases Nat.lt_trichotomy n (m + 1) with hlt | heq | hgt
    · have hpow : 2 ^ (m + 1 - n) = 2 * 2 ^ (m - n) := by
        rw [Nat.succ_sub (by omega), Nat.pow_succ, Nat.mul_comm]
      have hne : (n == m + 1) = false := by simpa using hlt.ne
      by_cases hpos : 0 < n
      · simp only [hne, Bool.false_eq_true, if_false,
          if_pos (And.intro hpos (Nat.le_of_lt_succ hlt)),
          if_pos (And.intro hpos hlt.le), hpow]
        ring
      · simp only [hne, Bool.false_eq_true, if_false, hpos, false_and]
        rfl
    · simp only [heq, beq_self_eq_true, if_true, Nat.succ_pos, le_refl, and_self, Nat.sub_self]
      rw [if_neg (by omega)]
      ring
    · have hne : (n == m + 1) = false := by simpa using hgt.ne'
      simp only [hne, Bool.false_eq_true, if_false, if_neg (show ¬ (0 < n ∧ n ≤ m) by omega),
        if_neg (show ¬ (0 < n ∧ n ≤ m + 1) by omega)]
      rfl

/-- What the words reach with the greatest length is the room they take. -/
theorem reach_maxLength (h : ∀ n ∈ lengths, n ≤ maxLength) :
    reach lengths maxLength = weight lengths := by
  induction lengths with
  | nil => rfl
  | cons n lengths ih =>
    have hn : n ≤ maxLength := h n List.mem_cons_self
    rw [reach_cons, ih fun k hk => h k (List.mem_cons_of_mem _ hk), weight, weight, List.map_cons,
      List.sum_cons, Nat.add_comm]
    congr 1
    by_cases hpos : n = 0
    · rw [if_pos hpos, if_neg (by omega)]
    · rw [if_neg hpos, if_pos ⟨by omega, hn⟩]

theorem reach_mul_le (lengths : List Nat) (n m : Nat) :
    reach lengths n * 2 ^ m ≤ reach lengths (n + m) := by
  induction m with
  | zero => simp
  | succ m ih =>
    rw [← Nat.add_assoc, reach, Nat.pow_succ]
    calc reach lengths n * (2 ^ m * 2) = 2 * (reach lengths n * 2 ^ m) := by ring
      _ ≤ 2 * reach lengths (n + m) := Nat.mul_le_mul_left 2 ih
      _ ≤ _ := Nat.le_add_right _ _

/-- Where no word is longer, the numbers only double. -/
theorem reach_add {n : Nat} (h : ∀ k ∈ lengths, k ≤ n) (m : Nat) :
    reach lengths (n + m) = reach lengths n * 2 ^ m := by
  induction m with
  | zero => simp
  | succ m ih =>
    have hnone : lengths.count (n + m + 1) = 0 := by
      refine List.count_eq_zero.2 fun hmem => ?_
      have := h _ hmem
      omega
    rw [← Nat.add_assoc, reach, ih, hnone, Nat.pow_succ]
    ring

theorem Fits.reach_le (h : Fits lengths) {n : Nat} (hn : n ≤ maxLength) :
    reach lengths n ≤ 2 ^ n := by
  have hroom : reach lengths n * 2 ^ (maxLength - n) ≤ 2 ^ n * 2 ^ (maxLength - n) := by
    calc reach lengths n * 2 ^ (maxLength - n) ≤ reach lengths (n + (maxLength - n)) :=
          reach_mul_le _ _ _
      _ = reach lengths maxLength := by rw [Nat.add_sub_cancel' hn]
      _ ≤ 2 ^ maxLength := (reach_maxLength h.le_max).le.trans h.weight_le
      _ = 2 ^ n * 2 ^ (maxLength - n) := by rw [← Nat.pow_add, Nat.add_sub_cancel' hn]
  exact Nat.le_of_mul_le_mul_right hroom (Nat.two_pow_pos _)

/-! ## Lengths that are accepted -/

theorem le_foldl_max (l : List Nat) (a : Nat) :
    a ≤ l.foldl max a ∧ ∀ n ∈ l, n ≤ l.foldl max a := by
  induction l generalizing a with
  | nil => simp
  | cons b l ih =>
    obtain ⟨hb, hl⟩ := ih (max a b)
    refine ⟨(Nat.le_max_left a b).trans hb, fun n hn => ?_⟩
    rcases List.mem_cons.1 hn with rfl | hn
    · exact (Nat.le_max_right a n).trans hb
    · exact hl n hn

theorem foldl_max_le {l : List Nat} {a m : Nat} (ha : a ≤ m) (h : ∀ n ∈ l, n ≤ m) :
    l.foldl max a ≤ m := by
  induction l generalizing a with
  | nil => exact ha
  | cons b l ih =>
    exact ih (Nat.max_le.2 ⟨ha, h b List.mem_cons_self⟩) fun n hn => h n (List.mem_cons_of_mem _ hn)

/-- The counts from length `n + 1` on, `m` of them. -/
def countsFrom (lengths : List Nat) (n m : Nat) : List Nat :=
  (List.range m).map fun i => lengths.count (n + i + 1)

theorem countsFrom_succ (lengths : List Nat) (n m : Nat) :
    countsFrom lengths n (m + 1) = lengths.count (n + 1) :: countsFrom lengths (n + 1) m := by
  rw [countsFrom, List.range_succ_eq_map, List.map_cons, List.map_map]
  congr 1
  refine List.map_congr_left fun i _ => ?_
  show lengths.count (n + (i + 1) + 1) = lengths.count (n + 1 + i + 1)
  congr 1
  omega

theorem countLengths_eq (lengths : List Nat) :
    countLengths lengths = countsFrom lengths 0 (lengths.foldl max 0) := by
  unfold countLengths countsFrom
  refine List.map_congr_left fun i _ => ?_
  rw [Nat.zero_add]
  rfl

/-- The room that is left is what the words do not reach. -/
theorem room?_countsFrom {n m : Nat} (h : ∀ k ≤ n + m, reach lengths k ≤ 2 ^ k) :
    room? (2 ^ n - reach lengths n) (countsFrom lengths n m) =
      some (2 ^ (n + m) - reach lengths (n + m)) := by
  induction m generalizing n with
  | zero => rfl
  | succ m ih =>
    have hroom : reach lengths (n + 1) ≤ 2 ^ (n + 1) := h (n + 1) (by omega)
    have hnext : 2 * (2 ^ n - reach lengths n) - lengths.count (n + 1) =
        2 ^ (n + 1) - reach lengths (n + 1) := by
      rw [reach, Nat.pow_succ]
      omega
    rw [reach, Nat.pow_succ] at hroom
    rw [countsFrom_succ, room?, if_neg (by omega), hnext, ih fun k hk => h k (by omega)]
    congr 3
    all_goals omega

theorem Complete.accepted (h : Complete lengths) (single : Bool) :
    ofLengths? single lengths = some (canonical lengths) := by
  have hmax := (le_foldl_max lengths 0).2
  have hle : lengths.foldl max 0 ≤ maxLength := foldl_max_le (Nat.zero_le _) h.le_max
  obtain ⟨g, hg⟩ : ∃ g, g = lengths.foldl max 0 := ⟨_, rfl⟩
  rw [← hg] at hmax hle
  have hreach : reach lengths g = 2 ^ g := by
    have hall : reach lengths g * 2 ^ (maxLength - g) = 2 ^ g * 2 ^ (maxLength - g) := by
      rw [← reach_add hmax, Nat.add_sub_cancel' hle, reach_maxLength h.le_max, h.weight_eq,
        ← Nat.pow_add, Nat.add_sub_cancel' hle]
    exact Nat.eq_of_mul_eq_mul_right (Nat.two_pow_pos _) hall
  have hroom : room? 1 (countLengths lengths) = some 0 := by
    have := room?_countsFrom (n := 0) (m := g) fun k hk => h.fits.reach_le (n := k) (by omega)
    rw [Nat.zero_add, hreach, Nat.sub_self, hg, ← countLengths_eq] at this
    exact this
  unfold Code.ofLengths?
  dsimp only
  rw [hroom]
  dsimp only
  rw [ite_self]
  rfl

theorem Single.accepted (h : Single lengths) :
    ofLengths? true lengths = some (canonical lengths) := by
  have hle : lengths.foldl max 0 ≤ 1 := foldl_max_le (Nat.zero_le _) h.le_one
  unfold Code.ofLengths?
  rcases Nat.le_one_iff_eq_zero_or_eq_one.1 hle with h0 | h1
  · have hcounts : countLengths lengths = [] := by
      rw [countLengths_eq, h0]
      rfl
    rw [hcounts, canonical, hcounts]
    rfl
  · have hcounts : countLengths lengths = [lengths.count 1] := by
      rw [countLengths_eq, h1]
      rfl
    have hroom : room? 1 [lengths.count 1] = some (1 - lengths.count 1 + 1) := by
      have := h.count_le
      rw [room?, if_neg (by omega), room?]
      congr 1
      omega
    rw [canonical, hcounts]
    dsimp only
    rw [hroom]
    rfl

theorem Single.fits (h : Single lengths) : Fits lengths where
  le_max n hn := (h.le_one n hn).trans (by decide)
  weight_le := by
    have hle : ∀ n ∈ lengths, n ≤ maxLength := fun n hn => (h.le_one n hn).trans (by decide)
    have hone : reach lengths 1 = lengths.count 1 := by
      rw [reach, reach, Nat.mul_zero, Nat.zero_add]
    have := h.count_le
    rw [← reach_maxLength hle, show maxLength = 1 + 14 from rfl, reach_add h.le_one, hone]
    omega

/-! ## Decoding words -/

/-- The symbols with words of length `n + 1`, in order. -/
def symbolsOf (lengths : List Nat) (n : Nat) : List Nat :=
  (lengths.zipIdx.filter fun e => e.1 == n + 1).map (·.2)

theorem length_filter_zipIdx (lengths : List Nat) (start n : Nat) :
    ((lengths.zipIdx start).filter fun e => e.1 == n).length = lengths.count n := by
  induction lengths generalizing start with
  | nil => rfl
  | cons a lengths ih =>
    rw [List.zipIdx_cons, List.filter_cons, List.count_cons]
    cases ha : a == n with
    | true => simp [ih]
    | false => simp [ih]

theorem length_symbolsOf (lengths : List Nat) (n : Nat) :
    (symbolsOf lengths n).length = lengths.count (n + 1) := by
  rw [symbolsOf, List.length_map, length_filter_zipIdx]

/-- Among the symbols with words of one length a symbol stands at its rank. -/
theorem symbolsOf_rank {symbol n : Nat} (h : lengths[symbol]? = some (n + 1)) :
    (symbolsOf lengths n)[rank lengths symbol (n + 1)]? = some symbol := by
  obtain ⟨hlt, hget⟩ := List.getElem?_eq_some_iff.1 h
  have hsplit : lengths = lengths.take symbol ++ (n + 1) :: lengths.drop (symbol + 1) := by
    rw [← hget, List.getElem_cons_drop, List.take_append_drop]
  have hlength : (lengths.take symbol).length = symbol := by
    rw [List.length_take]
    omega
  have hrank := length_filter_zipIdx (lengths.take symbol) 0 (n + 1)
  have hzip : lengths.zipIdx = (lengths.take symbol).zipIdx ++
      (n + 1, symbol) :: (lengths.drop (symbol + 1)).zipIdx (symbol + 1) := by
    conv_lhs => rw [hsplit]
    rw [List.zipIdx_append, List.zipIdx_cons, hlength, Nat.zero_add]
  rw [symbolsOf, List.getElem?_map, rank, ← hrank, hzip, List.filter_append,
    List.filter_cons_of_pos (by simp), List.getElem?_append_right (le_refl _), Nat.sub_self]
  rfl

/-- The symbols with words of at most `n` bits, shorter words first. -/
def symbolsUpTo (lengths : List Nat) (n : Nat) : List Nat :=
  (List.range n).flatMap (symbolsOf lengths)

theorem symbolsUpTo_succ (lengths : List Nat) (n : Nat) :
    symbolsUpTo lengths (n + 1) = symbolsUpTo lengths n ++ symbolsOf lengths n := by
  rw [symbolsUpTo, List.range_succ, List.flatMap_append, List.flatMap_singleton]
  rfl

theorem length_symbolsUpTo (lengths : List Nat) (n : Nat) :
    (symbolsUpTo lengths n).length = wordsUpTo lengths n := by
  induction n with
  | zero => rfl
  | succ n ih => rw [symbolsUpTo_succ, List.length_append, ih, length_symbolsOf, wordsUpTo]

theorem symbolsUpTo_prefix (lengths : List Nat) (n m : Nat) :
    symbolsUpTo lengths n <+: symbolsUpTo lengths (n + m) := by
  induction m with
  | zero => exact List.prefix_refl _
  | succ m ih =>
    rw [← Nat.add_assoc, symbolsUpTo_succ]
    exact ih.trans (List.prefix_append _ _)

/-- The symbols are sorted by the lengths of their words, then by rank. -/
theorem sortSymbols_rank {symbol n : Nat} (h : lengths[symbol]? = some (n + 1))
    (hn : n < maxLength) :
    (sortSymbols lengths)[wordsUpTo lengths n + rank lengths symbol (n + 1)]? = some symbol := by
  have hself : (symbolsUpTo lengths (n + 1))[wordsUpTo lengths n + rank lengths symbol (n + 1)]? =
      some symbol := by
    rw [symbolsUpTo_succ, List.getElem?_append_right (by rw [length_symbolsUpTo]; omega),
      length_symbolsUpTo, Nat.add_sub_cancel_left, symbolsOf_rank h]
  obtain ⟨rest, hrest⟩ := symbolsUpTo_prefix lengths (n + 1) (maxLength - (n + 1))
  rw [Nat.add_sub_cancel' hn] at hrest
  show (symbolsUpTo lengths maxLength)[_]? = some symbol
  rw [← hrest, List.getElem?_append_left (List.getElem?_eq_some_iff.1 hself).1, hself]

theorem rank_lt {symbol n : Nat} (h : lengths[symbol]? = some n) :
    rank lengths symbol n < lengths.count n := by
  obtain ⟨hlt, hget⟩ := List.getElem?_eq_some_iff.1 h
  conv_rhs => rw [← List.take_append_drop symbol lengths, List.drop_eq_getElem_cons hlt, hget,
    List.count_append, List.count_cons_self]
  rw [rank]
  omega

theorem testBit_shift (v m : Nat) : 2 * (v / 2 ^ (m + 1)) + (v.testBit m).toNat = v / 2 ^ m := by
  have hhalf : v / 2 ^ (m + 1) = v / 2 ^ m / 2 := by rw [Nat.pow_succ, Nat.div_div_eq_div_mul]
  rw [hhalf, Nat.toNat_testBit, Nat.div_add_mod]

/-- Decoding the last `m + 1` bits of a word of `n + m + 1` bits. -/
theorem decodeFrom_digits {symbols : Array Nat} {v n m g : Nat}
    (hlow : 2 * reach lengths (n + m) ≤ v) (hhigh : v < reach lengths (n + m + 1))
    (hg : m < g) (rest : Bits) :
    decodeFrom symbols (countsFrom lengths n g) (v / 2 ^ (m + 1)) (reach lengths n)
        (wordsUpTo lengths n) (digits (m + 1) v ++ rest) =
      .ok (symbols[wordsUpTo lengths (n + m) + (v - 2 * reach lengths (n + m))]?, rest) := by
  obtain ⟨g, rfl⟩ : ∃ g', g = g' + 1 := ⟨g - 1, by omega⟩
  induction m generalizing n g with
  | zero =>
    rw [Nat.add_zero, reach] at hhigh
    rw [countsFrom_succ, digits, List.cons_append, decodeFrom, testBit_shift, Nat.pow_zero,
      Nat.div_one]
    exact if_pos hhigh
  | succ m ih =>
    have hpassed : reach lengths (n + 1) * 2 ^ (m + 1) ≤ v := by
      calc reach lengths (n + 1) * 2 ^ (m + 1) = 2 * (reach lengths (n + 1) * 2 ^ m) := by ring
        _ ≤ 2 * reach lengths (n + 1 + m) := Nat.mul_le_mul_left 2 (reach_mul_le _ _ _)
        _ = 2 * reach lengths (n + (m + 1)) := by rw [Nat.add_right_comm, Nat.add_assoc]
        _ ≤ v := hlow
    have hnot : ¬ v / 2 ^ (m + 1) < reach lengths (n + 1) :=
      not_lt.2 ((Nat.le_div_iff_mul_le (Nat.two_pow_pos _)).2 hpassed)
    obtain ⟨g, rfl⟩ : ∃ g', g = g' + 1 := ⟨g - 1, by omega⟩
    have hnext : n + (m + 1) = n + 1 + m := by omega
    rw [countsFrom_succ, digits, List.cons_append, decodeFrom, testBit_shift]
    rw [show 2 * reach lengths n + lengths.count (n + 1) = reach lengths (n + 1) from rfl,
      if_neg hnot,
      show wordsUpTo lengths n + lengths.count (n + 1) = wordsUpTo lengths (n + 1) from rfl, hnext]
    rw [hnext] at hlow hhigh
    exact ih hlow hhigh g (by omega)

/-- Decoding the word of a symbol gives the symbol. -/
theorem decode_word (h : Fits lengths) {symbol n : Nat} (hsymbol : lengths[symbol]? = some n)
    (hn : n ≠ 0) (rest : Bits) :
    (canonical lengths).decode (word lengths symbol ++ rest) = .ok (some symbol, rest) := by
  obtain ⟨n, rfl⟩ := Nat.exists_eq_succ_of_ne_zero hn
  have hmem : n + 1 ∈ lengths := List.mem_of_getElem? hsymbol
  have hle : n + 1 ≤ maxLength := h.le_max _ hmem
  have hgreatest : n < lengths.foldl max 0 := (le_foldl_max lengths 0).2 _ hmem
  have hrank := rank_lt hsymbol
  have hhigh : wordNumber lengths symbol n < reach lengths (0 + n + 1) := by
    rw [Nat.zero_add, reach, wordNumber]
    exact Nat.add_lt_add_left hrank _
  have hfit : wordNumber lengths symbol n / 2 ^ (n + 1) = 0 := by
    rw [Nat.zero_add] at hhigh
    exact Nat.div_eq_of_lt (hhigh.trans_le (h.reach_le hle))
  have hdecode := @decodeFrom_digits lengths (sortSymbols lengths).toArray _ 0 n _
    (by rw [Nat.zero_add, wordNumber]; omega) hhigh hgreatest rest
  rw [hfit, Nat.zero_add, wordNumber, Nat.add_sub_cancel_left, List.getElem?_toArray,
    sortSymbols_rank hsymbol hle] at hdecode
  rw [word, hsymbol]
  dsimp only
  unfold decode canonical
  dsimp only
  rw [countLengths_eq]
  cases hcounts : countsFrom lengths 0 (lengths.foldl max 0) with
  | nil =>
    have hlength := congrArg List.length hcounts
    rw [countsFrom, List.length_map, List.length_range, List.length_nil] at hlength
    omega
  | cons count counts =>
    rw [hcounts] at hdecode
    exact hdecode

end Provision.Deflate.Code
