import Provision.Proofs.JsonScalars

/-!
# Reading JSON values

A value of any kind and depth is passed over up to its end. The reader keeps a list of the brackets
that are open and takes one step for each value; behind a value it goes on with the brackets around
it (`skipRest`).

* `Value.skipNested_text`, `Elements.skipNested_text` and `Members.skipNested_text`: what the steps
  of a value come to, by induction on the grammar.
* `skipValue_text`: there are always enough steps.
* `readText_text` and `readTextOrNull_text`: what is read where a text is wanted.
-/

namespace Provision.Json

open Bytes (encode)

variable {fuel : Nat} {frame : Frame} {frames : List Frame} {bs rest : Bytes} {b : UInt8}

/-! ## Steps -/

theorem skipBlank_skipBlank (bs : Bytes) : skipBlank (skipBlank bs) = skipBlank bs := by
  cases h : skipBlank bs with
  | nil => rfl
  | cons b rest =>
    have hb := List.head?_dropWhile_not isBlank bs
    rw [← skipBlank, h] at hb
    exact skipBlank_cons (by simpa using hb)

/-- What follows the closing of brackets: the end, the next element or the next member. -/
def advance (fuel : Nat) : Option (List Frame) × Bytes → Except Failure Bytes
  | (none, rest) => .ok rest
  | (some [], rest) => .ok rest
  | (some (.list :: outer), rest) => skipNested fuel (.list :: outer) rest
  | (some (.object :: outer), rest) => do skipNested fuel (.object :: outer) (← skipKey rest)

/-- What is skipped behind a value: the rest of the brackets around it. -/
def skipRest (fuel : Nat) (frames : List Frame) (bs : Bytes) : Except Failure Bytes :=
  closeFrames true frames bs >>= advance fuel

theorem skipRest_nil (fuel : Nat) (bs : Bytes) : skipRest fuel [] bs = .ok bs := by
  rw [skipRest, closeFrames]
  rfl

theorem skipKey_skipBlank : skipKey (skipBlank bs) = skipKey bs := by
  rw [skipKey, skipKey, skipBlank_skipBlank]

theorem skipNested_cons (h : skipBlank bs = b :: rest) : skipNested (fuel + 1) frames bs =
    (if b == 0x5B then closeFrames false (.list :: frames) rest
      else if b == 0x7B then closeFrames false (.object :: frames) rest
      else do closeFrames true frames (← skipScalar b rest)) >>= advance fuel := by
  rw [skipNested, h]
  dsimp only
  split_ifs
  · refine congrArg _ (funext fun x => ?_)
    rcases x with ⟨_ | _ | ⟨_ | _, _⟩, _⟩ <;> rfl
  · refine congrArg _ (funext fun x => ?_)
    rcases x with ⟨_ | _ | ⟨_ | _, _⟩, _⟩ <;> rfl
  · rw [bind_assoc]
    refine congrArg _ (funext fun rest => congrArg _ (funext fun x => ?_))
    rcases x with ⟨_ | _ | ⟨_ | _, _⟩, _⟩ <;> rfl

theorem skipNested_list :
    skipNested (fuel + 1) frames (0x5B :: bs) =
      closeFrames false (.list :: frames) bs >>= advance fuel :=
  skipNested_cons (skipBlank_cons (by decide))

theorem skipNested_object :
    skipNested (fuel + 1) frames (0x7B :: bs) =
      closeFrames false (.object :: frames) bs >>= advance fuel :=
  skipNested_cons (skipBlank_cons (by decide))

theorem skipNested_scalar {after : Bytes} (hb : isBlank b = false) (hlist : b ≠ 0x5B)
    (hobject : b ≠ 0x7B) (h : skipScalar b rest = .ok after) :
    skipNested (fuel + 1) frames (b :: rest) = skipRest fuel frames after := by
  rw [skipNested_cons (skipBlank_cons hb), if_neg (by simpa using hlist),
    if_neg (by simpa using hobject), h]
  rfl

/-! ## Brackets -/

theorem closeFrames_comma (after : List Blank) :
    closeFrames true (frame :: frames) (encode (blanks after) ++ 0x2C :: rest) =
      .ok (some (frame :: frames), rest) := by
  rw [closeFrames, skipBlank_blanks, skipBlank_cons (by decide)]
  simp

theorem closeFrames_close (frame : Frame) (comma : Bool) (after : List Blank) :
    closeFrames comma (frame :: frames) (encode (blanks after) ++ frame.close :: rest) =
      closeFrames true frames rest := by
  have hblank : isBlank frame.close = false := by cases frame <;> decide
  have hcomma : frame.close ≠ 0x2C := by cases frame <;> decide
  rw [closeFrames, skipBlank_blanks, skipBlank_cons hblank]
  simp [hcomma]

/-- Behind an opening bracket, whatever does not close it is left for the next step. -/
theorem closeFrames_open (frame : Frame) (h : skipBlank bs = b :: rest) (hb : b ≠ frame.close) :
    closeFrames false (frame :: frames) bs = .ok (some (frame :: frames), skipBlank bs) := by
  rw [closeFrames, h]
  simp [hb]

theorem skipRest_comma_list (after : List Blank) :
    skipRest fuel (.list :: frames) (encode (blanks after) ++ 0x2C :: rest) =
      skipNested fuel (.list :: frames) rest := by
  rw [skipRest, closeFrames_comma]
  rfl

theorem skipRest_comma_object (after : List Blank) :
    skipRest fuel (.object :: frames) (encode (blanks after) ++ 0x2C :: rest) =
      skipKey rest >>= skipNested fuel (.object :: frames) := by
  rw [skipRest, closeFrames_comma]
  rfl

theorem skipRest_close (after : List Blank) :
    skipRest fuel (frame :: frames) (encode (blanks after) ++ frame.close :: rest) =
      skipRest fuel frames rest := by
  rw [skipRest, closeFrames_close, skipRest]

theorem Label.encode_text (l : Label) (rest : Bytes) : encode l.text ++ rest =
    0x22 :: (encode (spelling l.glyphs) ++ 0x22 :: (encode (blanks l.after) ++ 0x3A :: rest)) := by
  have hquote : String.utf8EncodeChar '"' = [0x22] := rfl
  have hcolon : String.utf8EncodeChar ':' = [0x3A] := rfl
  simp [Label.text, hquote, hcolon]

theorem skipKey_label (before : List Blank) (l : Label) :
    skipKey (encode (blanks before) ++ (encode l.text ++ rest)) = .ok rest := by
  rw [skipKey, skipBlank_blanks, l.encode_text]
  show (skipString (encode (spelling l.glyphs) ++ 0x22 :: _) >>= _) = _
  rw [skipString_spelling]
  dsimp only [bind, Except.bind]
  rw [skipBlank_blanks]
  rfl

/-! ## Scalars -/

theorem skipScalar_literal (l : Literal) (rest : Bytes) :
    ∃ x bs, encode l.text = x :: bs ∧ isBlank x = false ∧ x ≠ 0x5B ∧ x ≠ 0x7B ∧
      skipScalar x (bs ++ rest) = .ok rest := by
  cases l <;> exact ⟨_, _, rfl, by decide, by decide, by decide, rfl⟩

theorem isDigit_iff (b : UInt8) : isDigit b = true ↔ 0x30 ≤ b.toNat ∧ b.toNat ≤ 0x39 := by
  simp only [isDigit, Bool.and_eq_true, decide_eq_true_eq, UInt8.le_iff_toNat_le,
    UInt8.reduceToNat]

theorem skipScalar_digit (h : isDigit b = true) : skipScalar b bs = skipNumber (b :: bs) := by
  have hb := (isDigit_iff b).1 h
  have hne {x : UInt8} (hx : 0x39 < x.toNat ∨ x.toNat < 0x30) : (b == x) = false := by
    rw [beq_eq_false_iff_ne, ne_eq, ← UInt8.toNat_inj]
    omega
  rw [skipScalar, literalTail?, hne (by decide), hne (by decide), hne (by decide)]
  simp [hne, h]

/-- The bytes of a number that may come first. -/
def LeadsNumber (b : UInt8) : Prop := b = 0x2D ∨ isDigit b = true

theorem Numeral.encode_text_eq_cons (n : Numeral) : ∃ x bs, encode n.text = x :: bs ∧
    LeadsNumber x ∧ ∀ rest, Ends rest → skipScalar x (bs ++ rest) = .ok rest := by
  rw [Numeral.text]
  cases n.negative with
  | true => exact ⟨_, _, rfl, .inl rfl, fun rest h => skipNumber_magnitude n h⟩
  | false =>
    obtain ⟨x, bs, hbs, hx⟩ : ∃ x bs, encode n.magnitude = x :: bs ∧ isDigit x = true := by
      rw [Numeral.magnitude, Bytes.encode_append]
      cases n.whole with
      | zero => exact ⟨0x30, _, rfl, by decide⟩
      | positive ds hds =>
        rw [Whole.text, Digits.encode_text]
        exact ⟨_, _, rfl, ds.first.isDigit_byte⟩
    refine ⟨x, bs, hbs, .inr hx, fun rest h => ?_⟩
    rw [skipScalar_digit hx, ← List.cons_append, ← hbs]
    exact skipNumber_magnitude n h

theorem LeadsNumber.spec (h : LeadsNumber b) : isBlank b = false ∧ b ≠ 0x5B ∧ b ≠ 0x7B ∧
    b ≠ 0x5D ∧ b ≠ 0x22 ∧ b ≠ 0x6E := by
  rcases h with rfl | h
  · decide
  · have hb := (isDigit_iff b).1 h
    simp only [isBlank, Bool.or_eq_false_iff, beq_eq_false_iff_ne, ne_eq, ← UInt8.toNat_inj,
      UInt8.reduceToNat]
    omega

/-- What the first byte of a value says about the value. -/
theorem Value.encode_text_eq_cons (v : Value) : ∃ x bs, encode v.text = x :: bs ∧
    isBlank x = false ∧ x ≠ 0x5D ∧ (x = 0x22 → ∃ gs, v = .string gs) ∧
    (x = 0x6E → v = .literal .null) := by
  cases v with
  | literal l =>
    cases l with
    | null =>
      exact ⟨_, _, rfl, by decide, by decide, fun h => absurd h (by decide), fun _ => rfl⟩
    | true | false =>
      exact ⟨_, _, rfl, by decide, by decide, fun h => absurd h (by decide),
        fun h => absurd h (by decide)⟩
  | number n =>
    obtain ⟨x, bs, hbs, hx, -⟩ := n.encode_text_eq_cons
    obtain ⟨hblank, -, -, hclose, hquote, hnull⟩ := hx.spec
    exact ⟨x, bs, hbs, hblank, hclose, fun h => absurd h hquote, fun h => absurd h hnull⟩
  | string gs =>
    exact ⟨_, _, rfl, by decide, by decide, fun _ => ⟨gs, rfl⟩, fun h => absurd h (by decide)⟩
  | emptyList _ | list _ | emptyObject _ | object _ =>
    exact ⟨_, _, rfl, by decide, by decide, fun h => absurd h (by decide),
      fun h => absurd h (by decide)⟩

/-! ## Nested values -/

mutual

/-- In how many steps a value is passed over: one for each value in it, itself included. -/
def Value.steps : Value → Nat
  | .literal _ | .number _ | .string _ | .emptyList _ | .emptyObject _ => 1
  | .list es => es.steps + 1
  | .object ms => ms.steps + 1

/-- In how many steps elements are passed over. -/
def Elements.steps : Elements → Nat
  | .last _ v _ => v.steps
  | .more _ v _ es => v.steps + es.steps

/-- In how many steps members are passed over. -/
def Members.steps : Members → Nat
  | .last _ _ v _ => v.steps
  | .more _ _ v _ ms => v.steps + ms.steps

end

theorem Value.steps_pos (v : Value) : 0 < v.steps := by
  cases v <;> exact Nat.succ_pos _

theorem Elements.steps_pos (es : Elements) : 0 < es.steps := by
  cases es with
  | last _ v _ => exact v.steps_pos
  | more _ v _ es => exact Nat.add_pos_left v.steps_pos _

/-- White space in front of a value makes no difference while there are steps left. -/
theorem skipNested_skipBlank (h : 0 < fuel) :
    skipNested fuel frames (skipBlank bs) = skipNested fuel frames bs := by
  obtain ⟨fuel, rfl⟩ := Nat.exists_eq_add_of_lt h
  rw [skipNested, skipNested, skipBlank_skipBlank]

theorem skipNested_blanks (before : List Blank) (h : 0 < fuel) :
    skipNested fuel frames (encode (blanks before) ++ bs) = skipNested fuel frames bs := by
  rw [← skipNested_skipBlank h, skipBlank_blanks, skipNested_skipBlank h]

/-- Between brackets or quotes. -/
theorem encode_enclosed {a z : Char} {x y : UInt8} (ha : String.utf8EncodeChar a = [x])
    (hz : String.utf8EncodeChar z = [y]) (cs : List Char) (rest : Bytes) :
    encode (a :: (cs ++ [z])) ++ rest = x :: (encode cs ++ y :: rest) := by
  simp [ha, hz]

theorem Value.skipBlank_text_eq_cons (before : List Blank) (v : Value) (rest : Bytes) :
    ∃ x bs, skipBlank (encode (blanks before) ++ (encode v.text ++ rest)) = x :: bs ∧
      x ≠ 0x5D := by
  obtain ⟨x, bs, hbs, hblank, hx, -⟩ := v.encode_text_eq_cons
  rw [skipBlank_blanks, hbs]
  exact ⟨x, bs ++ rest, skipBlank_cons hblank, hx⟩

theorem Elements.skipBlank_text_eq_cons (es : Elements) (rest : Bytes) :
    ∃ x bs, skipBlank (encode es.text ++ rest) = x :: bs ∧ x ≠ 0x5D := by
  cases es with
  | last before v after =>
    rw [Elements.text, Bytes.encode_append, List.append_assoc, Bytes.encode_append,
      List.append_assoc]
    exact v.skipBlank_text_eq_cons before _
  | more before v after es =>
    rw [Elements.text, Bytes.encode_append, List.append_assoc, Bytes.encode_append,
      List.append_assoc]
    exact v.skipBlank_text_eq_cons before _

theorem Members.skipBlank_text_eq_cons (ms : Members) (rest : Bytes) :
    ∃ bs, skipBlank (encode ms.text ++ rest) = 0x22 :: bs := by
  cases ms <;>
  · rw [Members.text, Bytes.encode_append, List.append_assoc, skipBlank_blanks]
    exact ⟨_, skipBlank_cons (by decide)⟩

theorem ends_blanks (after : List Blank) (h : Ends rest) :
    Ends (encode (blanks after) ++ rest) := by
  cases after with
  | nil => exact h
  | cons c cs =>
    obtain ⟨x, hx, hblank⟩ := encode_blank c
    rw [blanks, List.map_cons, Bytes.encode_cons, hx]
    rintro b ⟨⟩
    exact .inl hblank

theorem ends_comma : Ends (0x2C :: rest) := by
  rintro b ⟨⟩
  decide

theorem ends_close (frame : Frame) : Ends (frame.close :: rest) := by
  rintro b ⟨⟩
  cases frame <;> decide

mutual

/-- A value is passed over in its steps, whatever the brackets around it are. -/
theorem Value.skipNested_text (v : Value) (fuel : Nat) (frames : List Frame) (rest : Bytes)
    (h : Ends rest) :
    skipNested (v.steps + fuel) frames (encode v.text ++ rest) = skipRest fuel frames rest := by
  match v with
  | .literal l =>
    obtain ⟨x, bs, hbs, hblank, hlist, hobject, hskip⟩ := skipScalar_literal l rest
    rw [Value.text, hbs, Value.steps, Nat.add_comm]
    exact skipNested_scalar hblank hlist hobject hskip
  | .number n =>
    obtain ⟨x, bs, hbs, hx, hskip⟩ := n.encode_text_eq_cons
    obtain ⟨hblank, hlist, hobject, -⟩ := hx.spec
    rw [Value.text, hbs, Value.steps, Nat.add_comm]
    exact skipNested_scalar hblank hlist hobject (hskip rest h)
  | .string gs =>
    rw [Value.text, encode_enclosed rfl rfl, Value.steps, Nat.add_comm]
    exact skipNested_scalar (by decide) (by decide) (by decide) (skipString_spelling gs rest)
  | .emptyList inner =>
    rw [Value.text, encode_enclosed (x := 0x5B) (y := 0x5D) rfl rfl, Value.steps, Nat.add_comm,
      skipNested_list]
    exact congrArg (· >>= _) (closeFrames_close .list false inner)
  | .list es =>
    obtain ⟨x, bs, hbs, hx⟩ := es.skipBlank_text_eq_cons (0x5D :: rest)
    rw [Value.text, encode_enclosed (x := 0x5B) (y := 0x5D) rfl rfl, Value.steps,
      Nat.add_right_comm, skipNested_list, closeFrames_open .list hbs hx]
    refine (skipNested_skipBlank (Nat.add_pos_left es.steps_pos _)).trans ?_
    exact es.skipNested_text fuel frames rest
  | .emptyObject inner =>
    rw [Value.text, encode_enclosed (x := 0x7B) (y := 0x7D) rfl rfl, Value.steps, Nat.add_comm,
      skipNested_object]
    exact congrArg (· >>= _) (closeFrames_close .object false inner)
  | .object ms =>
    obtain ⟨bs, hbs⟩ := ms.skipBlank_text_eq_cons (0x7D :: rest)
    rw [Value.text, encode_enclosed (x := 0x7B) (y := 0x7D) rfl rfl, Value.steps,
      Nat.add_right_comm, skipNested_object, closeFrames_open .object hbs (by decide)]
    show (skipKey (skipBlank _) >>= _) = _
    rw [skipKey_skipBlank]
    exact ms.skipNested_text fuel frames rest

theorem Elements.skipNested_text (es : Elements) (fuel : Nat) (frames : List Frame)
    (rest : Bytes) :
    skipNested (es.steps + fuel) (.list :: frames) (encode es.text ++ 0x5D :: rest) =
      skipRest fuel frames rest := by
  match es with
  | .last before v after =>
    rw [Elements.steps, Elements.text, Bytes.encode_append, List.append_assoc,
      skipNested_blanks before (Nat.add_pos_left v.steps_pos _), Bytes.encode_append,
      List.append_assoc, v.skipNested_text]
    · exact skipRest_close after
    · exact ends_blanks after (ends_close .list)
  | .more before v after es =>
    rw [Elements.steps, Elements.text, Bytes.encode_append, List.append_assoc, Nat.add_assoc,
      skipNested_blanks before (Nat.add_pos_left v.steps_pos _), Bytes.encode_append,
      List.append_assoc, Bytes.encode_append, List.append_assoc, v.skipNested_text]
    · refine (skipRest_comma_list after).trans ?_
      exact es.skipNested_text fuel frames rest
    · exact ends_blanks after ends_comma

theorem Members.skipNested_text (ms : Members) (fuel : Nat) (frames : List Frame)
    (rest : Bytes) :
    (skipKey (encode ms.text ++ 0x7D :: rest) >>=
      skipNested (ms.steps + fuel) (.object :: frames)) = skipRest fuel frames rest := by
  match ms with
  | .last l before v after =>
    rw [Members.steps, Members.text, Bytes.encode_append, List.append_assoc, Bytes.encode_append,
      List.append_assoc, skipKey_label]
    show skipNested _ _ _ = _
    rw [Bytes.encode_append, List.append_assoc,
      skipNested_blanks before (Nat.add_pos_left v.steps_pos _), Bytes.encode_append,
      List.append_assoc, v.skipNested_text]
    · exact skipRest_close after
    · exact ends_blanks after (ends_close .object)
  | .more l before v after ms =>
    rw [Members.steps, Members.text, Bytes.encode_append, List.append_assoc, Bytes.encode_append,
      List.append_assoc, skipKey_label]
    show skipNested _ _ _ = _
    rw [Nat.add_assoc, Bytes.encode_append, List.append_assoc,
      skipNested_blanks before (Nat.add_pos_left v.steps_pos _), Bytes.encode_append,
      List.append_assoc, Bytes.encode_append, List.append_assoc, v.skipNested_text]
    · refine (skipRest_comma_object after).trans ?_
      exact ms.skipNested_text fuel frames rest
    · exact ends_blanks after ends_comma

end

/-! ## Whole values -/

mutual

theorem Value.steps_le (v : Value) : v.steps ≤ v.text.length := by
  match v with
  | .literal l => cases l <;> decide
  | .number n =>
    obtain ⟨x, bs, hbs, -⟩ := n.encode_text_eq_cons
    rw [Value.text, Value.steps, Nat.one_le_iff_ne_zero, ne_eq, List.length_eq_zero_iff]
    intro h
    rw [h] at hbs
    exact absurd hbs (by simp)
  | .string _ | .emptyList _ | .emptyObject _ => simp [Value.steps, Value.text]
  | .list es =>
    have := es.steps_le
    simp only [Value.steps, Value.text, List.length_cons, List.length_append]
    omega
  | .object ms =>
    have := ms.steps_le
    simp only [Value.steps, Value.text, List.length_cons, List.length_append]
    omega

theorem Elements.steps_le (es : Elements) : es.steps ≤ es.text.length := by
  match es with
  | .last _ v _ =>
    have := v.steps_le
    simp only [Elements.steps, Elements.text, List.length_append]
    omega
  | .more _ v _ es =>
    have := v.steps_le
    have := es.steps_le
    simp only [Elements.steps, Elements.text, List.length_cons, List.length_append]
    omega

theorem Members.steps_le (ms : Members) : ms.steps ≤ ms.text.length := by
  match ms with
  | .last _ _ v _ =>
    have := v.steps_le
    simp only [Members.steps, Members.text, List.length_append]
    omega
  | .more _ _ v _ ms =>
    have := v.steps_le
    have := ms.steps_le
    simp only [Members.steps, Members.text, List.length_cons, List.length_append]
    omega

end

theorem Members.toList_length_pos (ms : Members) : 0 < ms.toList.length := by
  cases ms <;> exact Nat.succ_pos _

theorem Members.toList_length_le (ms : Members) : ms.toList.length ≤ ms.steps := by
  match ms with
  | .last _ _ v _ => exact v.steps_pos
  | .more _ _ v _ ms =>
    have := v.steps_pos
    have := ms.toList_length_le
    simp only [Members.toList, Members.steps, List.length_cons]
    omega

/-- Every character has a byte. -/
theorem length_le_encode (cs : List Char) : cs.length ≤ (encode cs).length := by
  induction cs with
  | nil => exact Nat.le_refl 0
  | cons c cs ih =>
    have hpos : 0 < (String.utf8EncodeChar c).length :=
      List.length_pos_of_ne_nil String.utf8EncodeChar_ne_nil
    rw [Bytes.encode_cons, List.length_cons, List.length_append]
    omega

/-- Every value is passed over, with the white space in front of it. -/
theorem skipValue_text (before : List Blank) (v : Value) (h : Ends rest) :
    skipValue (encode (blanks before) ++ (encode v.text ++ rest)) = .ok rest := by
  have hsteps := Nat.le_trans v.steps_le (length_le_encode v.text)
  obtain ⟨fuel, hfuel⟩ : ∃ fuel,
      (encode (blanks before) ++ (encode v.text ++ rest)).length + 1 = v.steps + fuel := by
    refine Nat.exists_eq_add_of_le ?_
    simp only [List.length_append]
    omega
  rw [skipValue, hfuel, skipNested_blanks before (Nat.add_pos_left v.steps_pos _),
    v.skipNested_text fuel [] rest h, skipRest_nil]

/-! ## Texts -/

theorem toOption_typeError {α : Type} (expected : String) (bs : Bytes) :
    (typeError expected bs : Except Failure α).toOption = none := by
  rw [typeError, toOption_bind]
  exact Option.bind_fun_none _

/-- A value is read as a text if it is one. -/
theorem readText_text (before : List Blank) (v : Value) (rest : Bytes) :
    (readText (encode (blanks before) ++ (encode v.text ++ rest))).toOption =
      v.asText?.map fun s => (s, rest) := by
  by_cases hv : ∃ gs, v = .string gs
  · obtain ⟨gs, rfl⟩ := hv
    rw [readText, skipBlank_blanks, Value.text, encode_enclosed (x := 0x22) (y := 0x22) rfl rfl,
      skipBlank_cons (by decide)]
    show Except.toOption (readString _ >>= _) = _
    rw [toOption_bind, readString_spelling, Value.asText?, textOf?]
    cases decode? gs with
    | none => rfl
    | some cs => exact congrArg (fun s => some (s, rest)) (Utf8.lossy_encode cs)
  · obtain ⟨x, bs, hbs, hblank, -, hquote, -⟩ := v.encode_text_eq_cons
    have hx : x ≠ 0x22 := fun h => hv (hquote h)
    have hnone : v.asText? = none := by
      cases v with
      | string gs => exact absurd ⟨gs, rfl⟩ hv
      | _ => rfl
    rw [readText, skipBlank_blanks, hbs, List.cons_append, skipBlank_cons hblank, hnone]
    simp only [beq_iff_eq, hx, if_false]
    exact toOption_typeError _ _

/-- A value is read as a text or nothing if it is a text or `null`. -/
theorem readTextOrNull_text (before : List Blank) (v : Value) (rest : Bytes) :
    (readTextOrNull (encode (blanks before) ++ (encode v.text ++ rest))).toOption =
      v.asTextOrNull?.map fun s => (s, rest) := by
  by_cases hv : v = .literal .null
  · subst hv
    rw [readTextOrNull, skipBlank_blanks]
    rfl
  · obtain ⟨x, bs, hbs, hblank, -, -, hnull⟩ := v.encode_text_eq_cons
    have hx : x ≠ 0x6E := fun h => hv (hnull h)
    have hsome : v.asTextOrNull? = v.asText?.map some := by
      cases v with
      | literal l =>
        cases l with
        | null => exact absurd rfl hv
        | true | false => rfl
      | _ => rfl
    have hread := readText_text [] v rest
    rw [readTextOrNull, skipBlank_blanks, hbs, List.cons_append, skipBlank_cons hblank, hsome]
    simp only [beq_iff_eq, hx, if_false]
    rw [hbs] at hread
    show Except.toOption (readText (x :: (bs ++ rest)) >>= _) = _
    rw [toOption_bind]
    refine (congrArg (Option.bind · _) hread).trans ?_
    cases v.asText? <;> rfl

end Provision.Json
