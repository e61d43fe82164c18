import Provision.Json.Reader
import Provision.Proofs.JsonTexts

/-!
# Reading JSON strings and numbers

The readers of single tokens, on tokens as they are written and whatever comes behind them.

* `readString_spelling`: a string is read as the characters that it stands for, and not at all if it
  stands for none. `skipString_spelling`: it is passed over in either case.
* `skipNumber_magnitude`: a number is passed over up to its end, if what comes behind it
  (`Ends`) cannot be a part of it.
-/

namespace Provision.Json

open Bytes (encode)

variable {rest : Bytes}

/-! ## White space -/

theorem encode_blank (b : Blank) : ∃ x, String.utf8EncodeChar b.char = [x] ∧ isBlank x = true := by
  cases b <;> exact ⟨_, rfl, by decide⟩

theorem skipBlank_blanks (bs : List Blank) (rest : Bytes) :
    skipBlank (encode (blanks bs) ++ rest) = skipBlank rest := by
  induction bs with
  | nil => rfl
  | cons b bs ih =>
    obtain ⟨x, hx, hblank⟩ := encode_blank b
    rw [blanks, List.map_cons, Bytes.encode_cons, hx]
    show skipBlank (x :: (encode (blanks bs) ++ rest)) = _
    rw [skipBlank, List.dropWhile_cons_of_pos hblank]
    exact ih

theorem skipBlank_cons {b : UInt8} (h : isBlank b = false) : skipBlank (b :: rest) = b :: rest := by
  rw [skipBlank, List.dropWhile_cons_of_neg (by simp [h])]

/-! ## Strings -/

section Strings

theorem toOption_bind {ε α β : Type} (x : Except ε α) (f : α → Except ε β) :
    (x >>= f).toOption = x.toOption.bind fun a => (f a).toOption := by
  cases x <;> rfl

theorem toOption_prepend (front : Bytes) (r : Except Failure (Bytes × Bytes)) :
    (prepend front r).toOption = r.toOption.map fun (bs, rest) => (front ++ bs, rest) := by
  cases r <;> rfl

theorem readString_escape (e : Escape) : readString (encode (Glyph.escape e).text ++ rest) =
    prepend (String.utf8EncodeChar e.char) (readString rest) := by
  rw [readString.eq_def]
  cases e <;> rfl

theorem skipString_escape (e : Escape) :
    skipString (encode (Glyph.escape e).text ++ rest) = skipString rest := by
  rw [skipString.eq_def]
  cases e <;> rfl

/-- The byte of a digit. -/
def HexDigit.byte (d : HexDigit) : UInt8 := UInt8.ofNat d.char.toNat

theorem HexDigit.encode_char (d : HexDigit) : String.utf8EncodeChar d.char = [d.byte] := by
  obtain ⟨value, capital⟩ := d
  revert value capital
  decide +kernel

theorem HexDigit.hexValue?_byte (d : HexDigit) : hexValue? d.byte = some d.value.val := by
  obtain ⟨value, capital⟩ := d
  revert value capital
  decide +kernel

variable {u v : CodeUnit}

theorem CodeUnit.hex4?_bytes (u : CodeUnit) :
    hex4? u.first.byte u.second.byte u.third.byte u.fourth.byte = some u.value := by
  simp only [hex4?, HexDigit.hexValue?_byte, CodeUnit.value]
  show some _ = some _
  congr 1
  omega

theorem encode_unit (u : CodeUnit) : encode (Glyph.unit u).text =
    0x5C :: 0x75 :: u.first.byte :: u.second.byte :: u.third.byte :: [u.fourth.byte] := by
  show 0x5C :: 0x75 :: encode [_, _, _, _] = _
  simp only [Bytes.encode_cons, HexDigit.encode_char, Bytes.encode_nil, List.cons_append,
    List.nil_append]

theorem isLow_iff (n : Nat) : isLow n = true ↔ 0xDC00 ≤ n ∧ n < 0xE000 := by
  simp only [isLow, Bool.and_eq_true, decide_eq_true_eq]
  omega

theorem isHigh_iff (n : Nat) : isHigh n = true ↔ 0xD800 ≤ n ∧ n < 0xDC00 := by
  simp only [isHigh, Bool.and_eq_true, decide_eq_true_eq]
  omega

/-- The first half of a pair is not a second half. -/
theorem CodeUnit.IsLeading.isLow_eq_false (h : u.IsLeading) : isLow u.value = false := by
  rw [Bool.eq_false_iff]
  intro hlow
  have := (isLow_iff _).1 hlow
  have := h.2
  omega

theorem encodeScalar_eq (n : Nat) : encodeScalar n = String.utf8EncodeChar (Char.ofNat n) := by
  rw [encodeScalar, Bytes.ofText_ofList, Bytes.encode_cons, Bytes.encode_nil, List.append_nil]

theorem skipString_unit (u : CodeUnit) :
    skipString (encode (Glyph.unit u).text ++ rest) = skipString rest := by
  rw [encode_unit, skipString.eq_def]
  simp [CodeUnit.hex4?_bytes, simpleEscape?]

theorem readString_trailing (h : u.IsTrailing) :
    (readString (encode (Glyph.unit u).text ++ rest)).toOption = none := by
  have hlow : isLow u.value = true := (isLow_iff _).2 h
  rw [encode_unit, readString.eq_def]
  simp [CodeUnit.hex4?_bytes, simpleEscape?, hlow]
  rfl

theorem readString_single (ht : ¬ u.IsTrailing) (hl : ¬ u.IsLeading) :
    readString (encode (Glyph.unit u).text ++ rest) =
      prepend (String.utf8EncodeChar (Char.ofNat u.value)) (readString rest) := by
  have hlow : isLow u.value = false := Bool.eq_false_iff.2 fun h => ht ((isLow_iff _).1 h)
  have hhigh : isHigh u.value = false := Bool.eq_false_iff.2 fun h => hl ((isHigh_iff _).1 h)
  rw [encode_unit, readString.eq_def]
  simp [CodeUnit.hex4?_bytes, simpleEscape?, hlow, hhigh, encodeScalar_eq]

theorem readString_pair (hl : u.IsLeading) (ht : v.IsTrailing) :
    readString (encode (Glyph.unit u).text ++ (encode (Glyph.unit v).text ++ rest)) =
      prepend (String.utf8EncodeChar (u.pair v)) (readString rest) := by
  have hlow := hl.isLow_eq_false
  have hhigh : isHigh u.value = true := (isHigh_iff _).2 hl
  have hlow' : isLow v.value = true := (isLow_iff _).2 ht
  rw [encode_unit, encode_unit, readString.eq_def]
  simp [CodeUnit.hex4?_bytes, simpleEscape?, hlow, hhigh, hlow', encodeScalar_eq, CodeUnit.pair]

theorem isPlain_of_mem {c : Char} {b : UInt8} (h : 0x20 ≤ c.toNat ∧ c ≠ '"' ∧ c ≠ '\\')
    (hb : b ∈ String.utf8EncodeChar c) : IsPlain b := by
  have hquote : c.toNat ≠ 0x22 := fun he => h.2.1 (Char.toNat_inj.1 he)
  have hbackslash : c.toNat ≠ 0x5C := fun he => h.2.2 (Char.toNat_inj.1 he)
  have hb := Bytes.toNat_of_mem_utf8EncodeChar hb
  simp only [IsPlain, ne_eq, ← UInt8.toNat_inj, UInt8.lt_iff_toNat_lt, UInt8.reduceToNat]
  omega

theorem readString_bytes {bs : Bytes} (h : ∀ b ∈ bs, IsPlain b) :
    readString (bs ++ rest) = prepend bs (readString rest) := by
  induction bs with
  | nil =>
    rw [List.nil_append]
    cases readString rest <;> rfl
  | cons b bs ih =>
    rw [List.cons_append, readString_plain (h b List.mem_cons_self),
      ih fun x hx => h x (List.mem_cons_of_mem _ hx)]
    cases readString rest <;> rfl

theorem skipString_bytes {bs : Bytes} (h : ∀ b ∈ bs, IsPlain b) :
    skipString (bs ++ rest) = skipString rest := by
  induction bs with
  | nil => rfl
  | cons b bs ih =>
    rw [List.cons_append, skipString_plain (h b List.mem_cons_self),
      ih fun x hx => h x (List.mem_cons_of_mem _ hx)]

theorem encode_spelling_cons (g : Glyph) (gs : List Glyph) :
    encode (spelling (g :: gs)) = encode g.text ++ encode (spelling gs) := by
  rw [spelling, List.flatMap_cons, Bytes.encode_append]
  rfl

theorem encode_plain (c : Char) (h) :
    encode (Glyph.plain c h).text = String.utf8EncodeChar c := by
  rw [Glyph.text, Bytes.encode_cons, Bytes.encode_nil, List.append_nil]

/-- The first half of a pair is nothing without the second. -/
theorem readString_lone {gs : List Glyph} (hl : u.IsLeading)
    (h : ∀ v gs', gs = .unit v :: gs' → ¬ v.IsTrailing) :
    (readString (encode (Glyph.unit u).text ++ (encode (spelling gs) ++ 0x22 :: rest))).toOption =
      none := by
  have hlow := hl.isLow_eq_false
  have hhigh : isHigh u.value = true := (isHigh_iff _).2 hl
  rw [encode_unit, readString.eq_def]
  cases gs with
  | nil =>
    show Except.toOption (ite _ _ _) = _
    simp [CodeUnit.hex4?_bytes, simpleEscape?, hlow, hhigh, spelling]
    rfl
  | cons g gs =>
    rw [encode_spelling_cons]
    cases g with
    | plain c hc =>
      obtain ⟨b, bs, hbs⟩ := List.exists_cons_of_ne_nil (String.utf8EncodeChar_ne_nil (c := c))
      have hb : b ≠ 0x5C := by
        have hmem : b ∈ String.utf8EncodeChar c := by
          rw [hbs]
          exact List.mem_cons_self
        exact (isPlain_of_mem hc hmem).2.1
      rw [encode_plain, hbs]
      simp [CodeUnit.hex4?_bytes, simpleEscape?, hlow, hhigh, hb]
      rfl
    | escape e =>
      obtain ⟨b, hb, hne⟩ : ∃ b, encode (Glyph.escape e).text = [0x5C, b] ∧ b ≠ 0x75 := by
        cases e <;> exact ⟨_, rfl, by decide⟩
      rw [hb]
      simp [CodeUnit.hex4?_bytes, simpleEscape?, hlow, hhigh, hne]
      rfl
    | unit v =>
      have hlow' : isLow v.value = false :=
        Bool.eq_false_iff.2 fun hv => h v gs rfl ((isLow_iff _).1 hv)
      rw [encode_unit]
      simp [CodeUnit.hex4?_bytes, simpleEscape?, hlow, hhigh, hlow']
      rfl

/-- A string is read as the characters that it stands for; if it stands for none, it cannot be
read. -/
theorem readString_spelling (gs : List Glyph) (rest : Bytes) :
    (readString (encode (spelling gs) ++ 0x22 :: rest)).toOption =
      (decode? gs).map fun cs => (encode cs, rest) := by
  fun_induction decode? gs with
  | case1 =>
    show (readString (0x22 :: rest)).toOption = _
    rw [readString_quote]
    rfl
  | case2 c h gs ih =>
    rw [encode_spelling_cons, encode_plain, List.append_assoc,
      readString_bytes fun b hb => isPlain_of_mem h hb, toOption_prepend, ih, Option.map_map,
      Option.map_map]
    rfl
  | case3 e gs ih =>
    rw [encode_spelling_cons, List.append_assoc, readString_escape, toOption_prepend, ih,
      Option.map_map, Option.map_map]
    rfl
  | case4 u gs ht =>
    rw [encode_spelling_cons, List.append_assoc, readString_trailing ht]
    rfl
  | case5 u ht hl v gs hv ih =>
    rw [encode_spelling_cons, encode_spelling_cons, List.append_assoc, List.append_assoc,
      readString_pair hl hv, toOption_prepend, ih, Option.map_map, Option.map_map]
    rfl
  | case6 u ht hl v gs hv =>
    rw [encode_spelling_cons, List.append_assoc, readString_lone hl]
    · rfl
    · rintro v' gs' ⟨⟩
      exact hv
  | case7 gs u ht hl hne =>
    rw [encode_spelling_cons, List.append_assoc, readString_lone hl]
    · rfl
    · rintro v' gs' rfl
      exact absurd rfl (hne v' gs')
  | case8 u gs ht hl ih =>
    rw [encode_spelling_cons, List.append_assoc, readString_single ht hl, toOption_prepend, ih,
      Option.map_map, Option.map_map]
    rfl

theorem skipString_spelling (gs : List Glyph) (rest : Bytes) :
    skipString (encode (spelling gs) ++ 0x22 :: rest) = .ok rest := by
  induction gs with
  | nil => exact skipString_quote
  | cons g gs ih =>
    rw [encode_spelling_cons, List.append_assoc]
    cases g with
    | plain c h => rw [encode_plain, skipString_bytes fun b hb => isPlain_of_mem h hb, ih]
    | escape e => rw [skipString_escape, ih]
    | unit u => rw [skipString_unit, ih]

end Strings

/-! ## Numbers -/

section Numbers

/-- What may follow a value: nothing, white space, a comma or a closing bracket. -/
def Ends (rest : Bytes) : Prop :=
  ∀ b ∈ rest.head?, isBlank b = true ∨ b = 0x2C ∨ b = 0x5D ∨ b = 0x7D

/-- What may follow a number cannot be a part of it. -/
theorem Ends.stops (h : Ends rest) :
    ∀ b ∈ rest.head?, isDigit b = false ∧ b ≠ 0x2E ∧ b ≠ 0x65 ∧ b ≠ 0x45 := by
  intro b hb
  have hends := h b hb
  simp only [isBlank, Bool.or_eq_true, beq_iff_eq] at hends
  rcases hends with ((((rfl | rfl) | rfl) | rfl) | rfl | rfl | rfl) <;> decide

/-- The byte of a digit. -/
def Digit.byte (d : Digit) : UInt8 := UInt8.ofNat (0x30 + d.val)

theorem Digit.encode_char (d : Digit) : String.utf8EncodeChar d.char = [d.byte] := by
  revert d
  decide +kernel

theorem Digit.isDigit_byte (d : Digit) : isDigit d.byte = true := by
  revert d
  decide +kernel

theorem Digit.byte_ne (d : Digit) : d.byte ≠ 0x2B ∧ d.byte ≠ 0x2D ∧ (d ≠ 0 → d.byte ≠ 0x30) := by
  revert d
  decide +kernel

theorem dropWhile_digits (ds : List Digit) (h : ∀ b ∈ rest.head?, isDigit b = false) :
    (encode (ds.map Digit.char) ++ rest).dropWhile isDigit = rest := by
  induction ds with
  | nil =>
    cases rest with
    | nil => rfl
    | cons b rest => exact List.dropWhile_cons_of_neg (by simp [h b rfl])
  | cons d ds ih =>
    rw [List.map_cons, Bytes.encode_cons, d.encode_char, List.cons_append, List.cons_append,
      List.dropWhile_cons_of_pos d.isDigit_byte]
    exact ih

theorem Digits.encode_text (ds : Digits) :
    encode ds.text = ds.first.byte :: encode (ds.more.map Digit.char) := by
  rw [Digits.text, List.map_cons, Bytes.encode_cons, ds.first.encode_char]
  rfl

theorem skipExponent_tail (e : Exponent) (h : ∀ b ∈ rest.head?, isDigit b = false) :
    skipExponent (encode e.tail ++ rest) = .ok rest := by
  obtain ⟨hplus, hminus, -⟩ := e.digits.first.byte_ne
  have hdigits : skipExponent (encode e.digits.text ++ rest) = .ok rest := by
    rw [Digits.encode_text]
    simp [skipExponent, hplus, hminus, Digit.isDigit_byte, dropWhile_digits _ h]
  have hsigned {b : UInt8} (hb : b = 0x2B ∨ b = 0x2D) :
      skipExponent (b :: (encode e.digits.text ++ rest)) = .ok rest := by
    rw [Digits.encode_text]
    simp [skipExponent, hb, Digit.isDigit_byte, dropWhile_digits _ h]
  rw [Exponent.tail, Bytes.encode_append, Exponent.signText]
  rcases e.sign with _ | minus
  · exact hdigits
  · cases minus
    · exact hsigned (.inl rfl)
    · exact hsigned (.inr rfl)

theorem Exponent.encode_letter (e : Exponent) :
    ∃ b, String.utf8EncodeChar e.letter = [b] ∧ isDigit b = false ∧ b ≠ 0x2E ∧
      (b == 0x65 || b == 0x45) = true := by
  rw [Exponent.letter]
  cases e.capital <;> exact ⟨_, rfl, by decide, by decide, by decide⟩

variable (n : Numeral)

theorem stops_exponent (h : Ends rest) :
    ∀ b ∈ (encode n.exponentText ++ rest).head?, isDigit b = false := by
  rw [Numeral.exponentText]
  rcases n.exponent with _ | e
  · exact fun b hb => (h.stops b hb).1
  · obtain ⟨x, hx, hdigit, -⟩ := e.encode_letter
    rw [Bytes.encode_cons, hx]
    rintro b ⟨⟩
    exact hdigit

/-- Behind the whole digits of a number there is no further digit. -/
theorem stops_fraction (h : Ends rest) :
    ∀ b ∈ (encode (n.fractionText ++ n.exponentText) ++ rest).head?, isDigit b = false := by
  rw [Numeral.fractionText]
  rcases n.fraction with _ | ds
  · exact stops_exponent n h
  · rintro b ⟨⟩
    decide

/-- The exponent after a fraction is skipped as it is without one. -/
theorem skipFraction_digits (ds : Digits) {after : Bytes}
    (hdigit : ∀ b ∈ after.head?, isDigit b = false) (hpoint : ∀ b ∈ after.head?, b ≠ 0x2E) :
    skipFraction (0x2E :: (encode ds.text ++ after)) = skipFraction after := by
  have hdrop : (encode ds.text ++ after).dropWhile isDigit = after :=
    dropWhile_digits (ds.first :: ds.more) hdigit
  have hlen : after.length ≠ (encode ds.text ++ after).length := by
    rw [Digits.encode_text]
    simp only [List.cons_append, List.length_cons, List.length_append]
    omega
  rw [skipFraction.eq_def (0x2E :: _)]
  simp only [beq_self_eq_true, if_true, hdrop, if_neg hlen]
  cases after with
  | nil => rfl
  | cons b after => simp [skipFraction, hpoint b rfl]

theorem skipFraction_exponent (h : Ends rest) :
    skipFraction (encode n.exponentText ++ rest) = .ok rest := by
  rw [Numeral.exponentText]
  rcases n.exponent with _ | e
  · show skipFraction rest = _
    cases rest with
    | nil => rfl
    | cons b rest =>
      obtain ⟨-, hpoint, he, hE⟩ := h.stops b rfl
      simp [skipFraction, hpoint, he, hE]
  · obtain ⟨x, hx, -, hpoint, he⟩ := e.encode_letter
    rw [Bytes.encode_cons, hx]
    show skipFraction (x :: (encode e.tail ++ rest)) = _
    rw [skipFraction, if_neg (by simpa using hpoint), if_pos he]
    exact skipExponent_tail e fun b hb => (h.stops b hb).1

theorem skipFraction_text (h : Ends rest) :
    skipFraction (encode (n.fractionText ++ n.exponentText) ++ rest) = .ok rest := by
  rw [← skipFraction_exponent n h, Numeral.fractionText]
  rcases n.fraction with _ | ds
  · rfl
  · rw [Bytes.encode_append, List.append_assoc]
    refine skipFraction_digits ds (stops_exponent n h) ?_
    rw [Numeral.exponentText]
    rcases n.exponent with _ | e
    · exact fun b hb => (h.stops b hb).2.1
    · obtain ⟨x, hx, -, hpoint, -⟩ := e.encode_letter
      rw [Bytes.encode_cons, hx]
      rintro b ⟨⟩
      exact hpoint

theorem skipNumber_magnitude (h : Ends rest) :
    skipNumber (encode n.magnitude ++ rest) = .ok rest := by
  have hstop := stops_fraction n h
  have hskip := skipFraction_text n h
  rw [Numeral.magnitude, Bytes.encode_append, List.append_assoc]
  generalize encode (n.fractionText ++ n.exponentText) ++ rest = after at hstop hskip ⊢
  cases n.whole with
  | zero =>
    show skipNumber (0x30 :: after) = _
    cases after with
    | nil => exact hskip
    | cons b after => simp [skipNumber, hstop b rfl, hskip]
  | positive ds hds =>
    have hzero := ds.first.byte_ne.2.2 hds
    show skipNumber (encode ds.text ++ after) = _
    rw [Digits.encode_text]
    simp [skipNumber, hzero, Digit.isDigit_byte, dropWhile_digits _ hstop, hskip]

end Numbers

end Provision.Json
