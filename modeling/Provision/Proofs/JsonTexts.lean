import Provision.Proofs.Encoding

/-!
# JSON texts

The grammar of JSON. A value is given as it is written, with its white space and the spelling of
every character of its strings, so that each such value is one text and each text of the grammar is
that of some value.

* `Glyph` is a character of a string as it is spelled, `Numeral` a number.
* `Value`, `Elements` and `Members` are values and what lists and objects consist of;
  `Value.text` and its like are their characters.
* `decode?` gives the characters that a string stands for. The grammar also lets strings spell a
  surrogate without its partner, and such a string stands for no text.
* `Document` is a text that is an object, `Document.members` are its members.
-/

namespace Provision.Json

/-! ## White space -/

/-- A character of white space. -/
inductive Blank where
  | space
  | tab
  | lineFeed
  | carriageReturn
deriving DecidableEq, Repr

/-- The character itself. -/
def Blank.char : Blank → Char
  | .space => ' '
  | .tab => '\t'
  | .lineFeed => '\n'
  | .carriageReturn => '\r'

/-- The characters of white space. -/
def blanks (bs : List Blank) : List Char := bs.map Blank.char

/-! ## Strings -/

/-- A hexadecimal digit. The ones above nine are small or capital letters. -/
structure HexDigit where
  value : Fin 16
  capital : Bool
deriving DecidableEq, Repr

/-- The character itself. -/
def HexDigit.char (d : HexDigit) : Char :=
  if d.capital then (Nat.digitChar d.value).toUpper else Nat.digitChar d.value

/-- Four hexadecimal digits: a code unit of UTF-16. -/
structure CodeUnit where
  first : HexDigit
  second : HexDigit
  third : HexDigit
  fourth : HexDigit
deriving DecidableEq, Repr

namespace CodeUnit

/-- The number that the digits stand for. -/
def value (u : CodeUnit) : Nat :=
  ((u.first.value * 16 + u.second.value) * 16 + u.third.value) * 16 + u.fourth.value

/-- The first half of a pair of surrogates. -/
def IsLeading (u : CodeUnit) : Prop := 0xD800 ≤ u.value ∧ u.value < 0xDC00

/-- The second half of a pair of surrogates. -/
def IsTrailing (u : CodeUnit) : Prop := 0xDC00 ≤ u.value ∧ u.value < 0xE000

instance : DecidablePred IsLeading := fun _ => inferInstanceAs (Decidable (_ ∧ _))

instance : DecidablePred IsTrailing := fun _ => inferInstanceAs (Decidable (_ ∧ _))

/-- The character that a pair of surrogates stands for. -/
def pair (u v : CodeUnit) : Char :=
  Char.ofNat (0x10000 + (u.value - 0xD800) * 0x400 + (v.value - 0xDC00))

/-- The characters of the digits. -/
def text (u : CodeUnit) : List Char := [u.first.char, u.second.char, u.third.char, u.fourth.char]

end CodeUnit

/-- What a backslash and a single letter stand for. -/
inductive Escape where
  | quote
  | backslash
  | slash
  | backspace
  | formFeed
  | lineFeed
  | carriageReturn
  | tab
deriving DecidableEq, Repr

namespace Escape

/-- The letter behind the backslash. -/
def letter : Escape → Char
  | .quote => '"'
  | .backslash => '\\'
  | .slash => '/'
  | .backspace => 'b'
  | .formFeed => 'f'
  | .lineFeed => 'n'
  | .carriageReturn => 'r'
  | .tab => 't'

/-- The character that is meant. -/
def char : Escape → Char
  | .quote => '"'
  | .backslash => '\\'
  | .slash => '/'
  | .backspace => '\x08'
  | .formFeed => '\x0C'
  | .lineFeed => '\n'
  | .carriageReturn => '\r'
  | .tab => '\t'

end Escape

/-- A character of a string as it is spelled: as it is, unless it is a control character or has a
meaning in strings, by an escape, or by its code units. -/
inductive Glyph where
  | plain (c : Char) (h : 0x20 ≤ c.toNat ∧ c ≠ '"' ∧ c ≠ '\\')
  | escape (e : Escape)
  | unit (u : CodeUnit)
deriving DecidableEq

/-- The characters that spell a glyph. -/
def Glyph.text : Glyph → List Char
  | .plain c _ => [c]
  | .escape e => ['\\', e.letter]
  | .unit u => '\\' :: 'u' :: u.text

/-- The characters between the quotes of a string. -/
def spelling (gs : List Glyph) : List Char := gs.flatMap Glyph.text

/-- The characters that a string stands for. Two surrogates that make a pair are one character; any
other surrogate is none. -/
def decode? : List Glyph → Option (List Char)
  | [] => some []
  | .plain c _ :: gs => (decode? gs).map (c :: ·)
  | .escape e :: gs => (decode? gs).map (e.char :: ·)
  | .unit u :: gs =>
    if u.IsTrailing then none
    else if u.IsLeading then
      match gs with
      | .unit v :: gs => if v.IsTrailing then (decode? gs).map (u.pair v :: ·) else none
      | _ => none
    else (decode? gs).map (Char.ofNat u.value :: ·)

/-! ## Numbers -/

/-- A decimal digit. -/
abbrev Digit := Fin 10

/-- The character itself. -/
def Digit.char (d : Digit) : Char := Nat.digitChar d

/-- One digit or more. -/
structure Digits where
  first : Digit
  more : List Digit
deriving DecidableEq, Repr

/-- The characters of some digits. -/
def Digits.text (ds : Digits) : List Char := (ds.first :: ds.more).map Digit.char

/-- The whole part of a number. It begins with a zero only if it is zero. -/
inductive Whole where
  | zero
  | positive (ds : Digits) (h : ds.first ≠ 0)
deriving DecidableEq, Repr

/-- The characters of a whole part. -/
def Whole.text : Whole → List Char
  | .zero => ['0']
  | .positive ds _ => ds.text

/-- The exponent of a number. -/
structure Exponent where
  capital : Bool
  /-- The sign, if there is one; is it a minus? -/
  sign : Option Bool
  digits : Digits
deriving DecidableEq, Repr

namespace Exponent

/-- The letter in front of the exponent. -/
def letter (e : Exponent) : Char := if e.capital then 'E' else 'e'

/-- The characters of the sign. -/
def signText (e : Exponent) : List Char :=
  match e.sign with
  | none => []
  | some minus => if minus then ['-'] else ['+']

/-- The characters behind the letter. -/
def tail (e : Exponent) : List Char := e.signText ++ e.digits.text

end Exponent

/-- A number as it is written. -/
structure Numeral where
  negative : Bool
  whole : Whole
  fraction : Option Digits
  exponent : Option Exponent
deriving DecidableEq, Repr

namespace Numeral

/-- The characters of the fraction. -/
def fractionText (n : Numeral) : List Char :=
  match n.fraction with
  | none => []
  | some ds => '.' :: ds.text

/-- The characters of the exponent. -/
def exponentText (n : Numeral) : List Char :=
  match n.exponent with
  | none => []
  | some e => e.letter :: e.tail

/-- The characters of the number without its sign. -/
def magnitude (n : Numeral) : List Char := n.whole.text ++ (n.fractionText ++ n.exponentText)

/-- The characters of the number. -/
def text (n : Numeral) : List Char := if n.negative then '-' :: n.magnitude else n.magnitude

end Numeral

/-! ## Values -/

/-- One of the three words. -/
inductive Literal where
  | null
  | true
  | false
deriving DecidableEq, Repr

/-- The characters of the word. -/
def Literal.text : Literal → List Char
  | .null => ['n', 'u', 'l', 'l']
  | .true => ['t', 'r', 'u', 'e']
  | .false => ['f', 'a', 'l', 's', 'e']

/-- The name of a member with its white space. -/
structure Label where
  before : List Blank
  glyphs : List Glyph
  after : List Blank

/-- The characters of a name behind its white space, up to the colon. -/
def Label.text (l : Label) : List Char :=
  '"' :: (spelling l.glyphs ++ '"' :: (blanks l.after ++ [':']))

mutual

/-- A value as it is written. -/
inductive Value where
  | literal (l : Literal)
  | number (n : Numeral)
  | string (gs : List Glyph)
  | emptyList (inner : List Blank)
  | list (es : Elements)
  | emptyObject (inner : List Blank)
  | object (ms : Members)

/-- The elements of a list, with white space around each. -/
inductive Elements where
  | last (before : List Blank) (v : Value) (after : List Blank)
  | more (before : List Blank) (v : Value) (after : List Blank) (es : Elements)

/-- The members of an object, with white space around each name and each value. -/
inductive Members where
  | last (l : Label) (before : List Blank) (v : Value) (after : List Blank)
  | more (l : Label) (before : List Blank) (v : Value) (after : List Blank) (ms : Members)

end

mutual

/-- The characters of a value. -/
def Value.text : Value → List Char
  | .literal l => l.text
  | .number n => n.text
  | .string gs => '"' :: (spelling gs ++ ['"'])
  | .emptyList inner => '[' :: (blanks inner ++ [']'])
  | .list es => '[' :: (es.text ++ [']'])
  | .emptyObject inner => '\x7b' :: (blanks inner ++ ['\x7d'])
  | .object ms => '\x7b' :: (ms.text ++ ['\x7d'])

/-- The characters of elements and the commas between them. -/
def Elements.text : Elements → List Char
  | .last before v after => blanks before ++ (v.text ++ blanks after)
  | .more before v after es => blanks before ++ (v.text ++ (blanks after ++ ',' :: es.text))

/-- The characters of members and the commas between them. -/
def Members.text : Members → List Char
  | .last l before v after =>
    blanks l.before ++ (l.text ++ (blanks before ++ (v.text ++ blanks after)))
  | .more l before v after ms =>
    blanks l.before ++ (l.text ++ (blanks before ++ (v.text ++ (blanks after ++ ',' :: ms.text))))

end

/-! ## What values stand for -/

/-- The text that a string stands for. -/
def textOf? (gs : List Glyph) : Option String := (decode? gs).map String.ofList

/-- The text that a value stands for, if it is a string and stands for one. -/
def Value.asText? : Value → Option String
  | .string gs => textOf? gs
  | _ => none

/-- The text that a value stands for, or none for `null`. -/
def Value.asTextOrNull? : Value → Option (Option String)
  | .literal .null => some none
  | .string gs => (textOf? gs).map some
  | _ => none

/-- A member of an object: its name and its value. -/
structure Member where
  name : List Glyph
  value : Value

/-- The text that the name of a member stands for. -/
def Member.key? (m : Member) : Option String := textOf? m.name

/-- The members one by one. -/
def Members.toList : Members → List Member
  | .last l _ v _ => [⟨l.glyphs, v⟩]
  | .more l _ v _ ms => ⟨l.glyphs, v⟩ :: ms.toList

/-- The values of the members with a given key, in order. -/
def valuesOf (key : String) (ms : List Member) : List Value :=
  (ms.filter fun m => m.key? = some key).map Member.value

theorem valuesOf_cons (key : String) (m : Member) (ms : List Member) : valuesOf key (m :: ms) =
    if m.key? = some key then m.value :: valuesOf key ms else valuesOf key ms := by
  rw [valuesOf, List.filter_cons]
  simp only [decide_eq_true_eq]
  split_ifs <;> rfl

/-- A text that is an object. -/
inductive Document where
  | empty (before inner after : List Blank)
  | object (before : List Blank) (ms : Members) (after : List Blank)

namespace Document

/-- The characters of an object and of the white space around it. -/
def chars : Document → List Char
  | .empty before inner after => blanks before ++ ((Value.emptyObject inner).text ++ blanks after)
  | .object before ms after => blanks before ++ ((Value.object ms).text ++ blanks after)

/-- The text itself. -/
def text (d : Document) : String := String.ofList d.chars

/-- The members of the object. -/
def members : Document → List Member
  | .empty .. => []
  | .object _ ms _ => ms.toList

end Document

end Provision.Json
