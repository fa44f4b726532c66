import PageSweep.Text.Composition
import PageSweep.Text.Direction
import PageSweep.Text.Joining
import PageSweep.Url.Label.Permitted
import PageSweep.Url.Punycode

/-!
# Labels of Domain Names

A domain name is a list of labels. A label that begins with `xn--` spells a name
outside ASCII, and only one that has to be spelled so: it consists of permitted
characters in composed form, does not begin with a mark or with another `xn--`, and
its invisible characters mean something. If any label of a domain name is written
from the right, each label has to keep to one direction.

## Main definitions

* `Url.Label.name?`: The name that a label stands for.
* `Url.Label.areValid`: Whether labels can make up a domain name.
-/

namespace PageSweep

namespace Url

namespace Label

/-- The longest spelling that is looked at. -/
def maxSpelling : Nat := 2000

/-- Whether a name outside ASCII can stand in a label. -/
def isName (name : List Char) : Bool :=
  name.any (0x80 ≤ ·.toNat) && name.all (fun c => c.toNat < 0x80 || isPermitted c) &&
    !(name.head?.any Mark.isMark) && !"xn--".toList.isPrefixOf name &&
    Joining.isMeaningful name && Composition.isComposed name

/-- The name that a label stands for. -/
def name? (label : List Char) : Option (List Char) :=
  match label with
  | 'x' :: 'n' :: '-' :: '-' :: spelling =>
    if maxSpelling < spelling.length then none
    else (Punycode.decode spelling).filter isName
  | label => some label

/-- Whether labels can make up a domain name. -/
def areValid (labels : List (List Char)) : Bool :=
  match labels.mapM name? with
  | none => false
  | some names => !names.any Direction.turns || names.all Direction.isLevel

end Label

end Url

end PageSweep
