import Provision.Text.Direction
import Provision.Text.Joining
import Provision.Url.Folding
import Provision.Url.Punycode

/-!
# Labels of registered names

The dots of a registered name separate labels. A label outside ASCII is written in Punycode behind
`xn--`, and a label that starts so stands for the text that it was made of.

* `Label.content?` is the text that a label stands for.
* `Label.isSound` decides whether a text can be a label by itself, `Label.areSettled` whether labels
  can stand in one name.
* `Label.ascii` is the ASCII form of a label.
-/

namespace Provision.Label

/-- What labels in Punycode start with. -/
def mark : List Char := ['x', 'n', '-', '-']

/-- The longest text in Punycode that is read. -/
def maxForm : Nat := 2000

/-- The longest label outside ASCII. -/
def maxLength : Nat := 1000

/-- The text that a label stands for. A text in Punycode must be folded and composed, or there would
be another form for the same label. -/
def content? (label : List Char) : Option (List Char) :=
  if mark.isPrefixOf label then
    let form := label.drop mark.length
    if label.getLast? = some '-' || maxForm < form.length then none
    else (Punycode.decode? form).filter fun cs => cs.all Folding.isStable && Text.composed cs == cs
  else some label

/-- Can the text be a label? It does not start with a mark, and joiners are of use in it. -/
def isSound (cs : List Char) : Bool :=
  !cs.head?.any Text.isMark && Text.joinersFit cs
    && (cs.all Punycode.isBasic || cs.length ≤ maxLength)

/-- Can the labels of a name be read in one way only? -/
def areSettled (labels : List (List Char)) : Bool :=
  !labels.any (·.any fun c => (Text.direction c).isRightward) || labels.all Text.isSettled

/-- The ASCII form of a label. -/
def ascii (label : List Char) : List Char :=
  if label.all Punycode.isBasic then label else mark ++ Punycode.encode label

end Provision.Label
