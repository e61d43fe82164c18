import Mathlib.Data.List.Basic
import Provision.Proofs.Layout

/-!
# Texts and their bytes

A text is found again in its UTF-8 form.

* `Utf8.pieces_ofText`: the pieces of such bytes are the characters of the text, so that decoding
  (`decode?_ofText`) and showing (`lossy_ofText`) give it back.
* `Bytes.encode` is the form of a list of characters.
-/

namespace Provision

namespace Bytes

/-- The UTF-8 form of some characters. -/
def encode (cs : List Char) : Bytes := cs.flatMap String.utf8EncodeChar

theorem ofText_eq_encode (s : String) : ofText s = encode s.toList :=
  ofText_eq_flatMap s

theorem ofText_ofList (cs : List Char) : ofText (String.ofList cs) = encode cs := by
  rw [ofText_eq_encode, String.toList_ofList]

@[simp] theorem encode_nil : encode [] = [] := rfl

@[simp] theorem encode_cons (c : Char) (cs : List Char) :
    encode (c :: cs) = String.utf8EncodeChar c ++ encode cs := rfl

@[simp] theorem encode_append (as bs : List Char) :
    encode (as ++ bs) = encode as ++ encode bs := by
  simp [encode]

end Bytes

namespace Utf8

/-! ## One character -/

/-- A form with `n` more bytes may begin with `a` and go on with `b`. -/
def Leads (n : Nat) (a b : UInt8) : Prop :=
  ∃ lo hi, follow? a = some (n, lo, hi) ∧ lo.toNat ≤ b.toNat ∧ b.toNat ≤ hi.toNat

variable {a b c d : UInt8} {rest : Bytes}

theorem not_lt_of_le (h : 0x80 ≤ a.toNat) : ¬ a < 0x80 := by
  simp only [UInt8.lt_iff_toNat_lt, UInt8.reduceToNat]
  omega

theorem pieces_one (ha : a.toNat < 0x80) :
    pieces (a :: rest) = .scalar (Char.ofNat a.toNat) :: pieces rest := by
  rw [pieces, if_pos (UInt8.lt_iff_toNat_lt.2 ha)]

theorem pieces_two (ha : 0x80 ≤ a.toNat) (h : Leads 1 a b) :
    pieces (a :: b :: rest) =
      .scalar (Char.ofNat (a.toNat % 32 * 64 + payload b)) :: pieces rest := by
  obtain ⟨lo, hi, hf, hb⟩ := h
  rw [← UInt8.le_iff_toNat_le, ← UInt8.le_iff_toNat_le] at hb
  rw [pieces, if_neg (not_lt_of_le ha)]
  simp [hf, hb]

theorem pieces_three (ha : 0x80 ≤ a.toNat) (h : Leads 2 a b) (hc : isContinuation c = true) :
    pieces (a :: b :: c :: rest) =
      .scalar (Char.ofNat (a.toNat % 16 * 4096 + payload b * 64 + payload c)) :: pieces rest := by
  obtain ⟨lo, hi, hf, hb⟩ := h
  rw [← UInt8.le_iff_toNat_le, ← UInt8.le_iff_toNat_le] at hb
  rw [pieces, if_neg (not_lt_of_le ha)]
  simp [hf, hb, hc]

theorem pieces_four (ha : 0x80 ≤ a.toNat) (h : Leads 3 a b) (hc : isContinuation c = true)
    (hd : isContinuation d = true) :
    pieces (a :: b :: c :: d :: rest) =
      .scalar (Char.ofNat (a.toNat % 8 * 262144 + payload b * 4096 + payload c * 64 + payload d)) ::
        pieces rest := by
  obtain ⟨lo, hi, hf, hb⟩ := h
  rw [← UInt8.le_iff_toNat_le, ← UInt8.le_iff_toNat_le] at hb
  rw [pieces, if_neg (not_lt_of_le ha)]
  simp [hf, hb, hc, hd]

theorem toNat_ofNat {n : Nat} (h : n < 256) : (UInt8.ofNat n).toNat = n := by
  simp [Nat.mod_eq_of_lt h]

theorem isContinuation_ofNat (n : Nat) : isContinuation (UInt8.ofNat (n % 64 + 128)) = true := by
  have hn : (UInt8.ofNat (n % 64 + 128)).toNat = n % 64 + 128 := toNat_ofNat (by omega)
  simp only [isContinuation, Bool.and_eq_true, decide_eq_true_eq, UInt8.le_iff_toNat_le, hn,
    UInt8.reduceToNat]
  omega

theorem payload_ofNat (n : Nat) : payload (UInt8.ofNat (n % 64 + 128)) = n % 64 := by
  rw [payload, toNat_ofNat (by omega)]
  omega

theorem follow?_toNat (a : UInt8) : follow? a =
    if a.toNat < 0xC2 then none
    else if a.toNat < 0xE0 then some (1, 0x80, 0xBF)
    else if a.toNat = 0xE0 then some (2, 0xA0, 0xBF)
    else if a.toNat = 0xED then some (2, 0x80, 0x9F)
    else if a.toNat < 0xF0 then some (2, 0x80, 0xBF)
    else if a.toNat = 0xF0 then some (3, 0x90, 0xBF)
    else if a.toNat < 0xF4 then some (3, 0x80, 0xBF)
    else if a.toNat = 0xF4 then some (3, 0x80, 0x8F)
    else none := by
  simp only [follow?, UInt8.lt_iff_toNat_lt, ← UInt8.toNat_inj, UInt8.reduceToNat]

section Leads

variable {v : Nat}

theorem leads_two (h : 0x7F < v) (h' : v ≤ 0x7FF) :
    Leads 1 (UInt8.ofNat (v / 64 % 32 + 192)) (UInt8.ofNat (v % 64 + 128)) := by
  rw [Leads, follow?_toNat, toNat_ofNat (by omega), toNat_ofNat (by omega), if_neg (by omega),
    if_pos (by omega)]
  exact ⟨_, _, rfl, by simp, by simp; omega⟩

/-- The second of three bytes is bounded where the form would be too long or a surrogate. -/
theorem leads_three (h : 0x7FF < v) (h' : v ≤ 0xFFFF) (hvalid : v < 0xD800 ∨ 0xDFFF < v) :
    Leads 2 (UInt8.ofNat (v / 4096 % 16 + 224)) (UInt8.ofNat (v / 64 % 64 + 128)) := by
  rw [Leads, follow?_toNat, toNat_ofNat (by omega), toNat_ofNat (by omega), if_neg (by omega),
    if_neg (by omega)]
  split_ifs
  · exact ⟨_, _, rfl, by simp; omega, by simp; omega⟩
  · exact ⟨_, _, rfl, by simp, by simp; omega⟩
  · exact ⟨_, _, rfl, by simp, by simp; omega⟩
  all_goals omega

/-- The second of four bytes is bounded where the form would be too long or beyond all
characters. -/
theorem leads_four (h : 0xFFFF < v) (h' : v < 0x110000) :
    Leads 3 (UInt8.ofNat (v / 262144 % 8 + 240)) (UInt8.ofNat (v / 4096 % 64 + 128)) := by
  rw [Leads, follow?_toNat, toNat_ofNat (by omega), toNat_ofNat (by omega), if_neg (by omega),
    if_neg (by omega), if_neg (by omega), if_neg (by omega), if_neg (by omega)]
  split_ifs
  · exact ⟨_, _, rfl, by simp; omega, by simp; omega⟩
  · exact ⟨_, _, rfl, by simp, by simp; omega⟩
  · exact ⟨_, _, rfl, by simp, by simp; omega⟩
  all_goals omega

end Leads

/-- The bytes of a character are read as this character. -/
theorem pieces_utf8EncodeChar (c : Char) (rest : Bytes) :
    pieces (String.utf8EncodeChar c ++ rest) = .scalar c :: pieces rest := by
  have hvalid : c.val.toNat.isValidChar := c.valid
  have hchar : Char.ofNat c.val.toNat = c := Char.ofNat_toNat c
  unfold String.utf8EncodeChar
  generalize c.val.toNat = v at hvalid hchar
  unfold Nat.isValidChar at hvalid
  dsimp only
  split_ifs with h₁ h₂ h₃
  · show pieces (_ :: rest) = _
    have ha : (UInt8.ofNat v).toNat = v := toNat_ofNat (by omega)
    rw [pieces_one (by omega), ha, hchar]
  · show pieces (_ :: _ :: rest) = _
    rw [pieces_two (by rw [toNat_ofNat] <;> omega) (leads_two (by omega) h₂), payload_ofNat,
      toNat_ofNat (by omega), ← hchar]
    congr 3
    omega
  · show pieces (_ :: _ :: _ :: rest) = _
    rw [pieces_three (by rw [toNat_ofNat] <;> omega) (leads_three (by omega) h₃ (by omega))
      (isContinuation_ofNat _), payload_ofNat, payload_ofNat, toNat_ofNat (by omega), ← hchar]
    congr 3
    omega
  · show pieces (_ :: _ :: _ :: _ :: rest) = _
    rw [pieces_four (by rw [toNat_ofNat] <;> omega) (leads_four (by omega) (by omega))
      (isContinuation_ofNat _) (isContinuation_ofNat _), payload_ofNat, payload_ofNat,
      payload_ofNat, toNat_ofNat (by omega), ← hchar]
    congr 3
    omega

/-! ## Texts -/

theorem pieces_encode (cs : List Char) : pieces (Bytes.encode cs) = cs.map .scalar := by
  induction cs with
  | nil => rfl
  | cons c cs ih => rw [Bytes.encode_cons, pieces_utf8EncodeChar, ih, List.map_cons]

theorem pieces_ofText (s : String) : pieces (Bytes.ofText s) = s.toList.map .scalar := by
  rw [Bytes.ofText_eq_encode, pieces_encode]

theorem mapM_char?_scalar (cs : List Char) : (cs.map Piece.scalar).mapM Piece.char? = some cs := by
  induction cs with
  | nil => rfl
  | cons c cs ih => simp [Piece.char?, ih]

/-- A text is read from its bytes. -/
theorem decode?_ofText (s : String) : decode? (Bytes.ofText s) = some s := by
  rw [decode?, pieces_ofText, mapM_char?_scalar]
  simp

theorem lossy_encode (cs : List Char) : lossy (Bytes.encode cs) = String.ofList cs := by
  rw [lossy, pieces_encode, List.map_map]
  have hself : ((fun p : Piece => p.char?.getD (Char.ofNat 0xFFFD)) ∘ Piece.scalar) = id := by
    funext c
    rfl
  rw [hself, List.map_id]

/-- A text is shown as it is. -/
theorem lossy_ofText (s : String) : lossy (Bytes.ofText s) = s := by
  rw [Bytes.ofText_eq_encode, lossy_encode, String.ofList_toList]

end Utf8

namespace Bytes

/-- Characters are determined by their bytes. -/
theorem encode_inj {as bs : List Char} : encode as = encode bs ↔ as = bs := by
  constructor
  · intro h
    have hpieces := congrArg Utf8.pieces h
    rw [Utf8.pieces_encode, Utf8.pieces_encode] at hpieces
    exact List.map_injective_iff.2 (fun a b hab => Utf8.Piece.scalar.inj hab) hpieces
  · rintro rfl
    rfl

theorem encode_eq_ofText_iff {cs : List Char} {s : String} :
    encode cs = ofText s ↔ String.ofList cs = s := by
  rw [ofText_eq_encode, encode_inj, ← String.toList_inj, String.toList_ofList]

end Bytes

theorem Path.display_ofText (s : String) : (ofText s).display = s :=
  Utf8.lossy_ofText s

end Provision
