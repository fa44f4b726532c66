import PageSweep.Text.Pieces
import PageSweep.Url.Label
import PageSweep.Url.Percent

/-!
# Domain Names

A domain name is looked up by its ASCII form. A name in ASCII is put in small letters, and
consists of characters and labels that a name can have. Any other name is mapped to ASCII,
with tables that span all of Unicode. The tables are not part of this library: whoever
reads a URL brings an `Idna` along, and nothing here depends on which names it maps.

## Main definitions

* `Url.Domain.inName`: Whether a name can have a character.
* `Url.Idna`: How names outside ASCII are mapped.
* `Url.Idna.none`: The mapping that refuses them all.
* `Url.Domain.form?`: The ASCII form of a name.
-/

namespace PageSweep

namespace Url

namespace Domain

/-- Whether a domain name can have a character. -/
def inName (c : Char) : Bool :=
  Percent.visible c && !" #%/:<>?@[\\]^|".toList.contains c

/-- Whether a text can be the ASCII form of a domain name. -/
def isForm (text : List Char) : Bool :=
  text.all fun c => inName c && !c.isUpper

end Domain

/-- How domain names outside ASCII are mapped. -/
structure Idna where
  /-- The ASCII form of a name; none if the name is not allowed. -/
  form? : String → Option String
  isForm : ∀ name form, form? name = some form → Domain.isForm form.toList = true

/-- The mapping that refuses every name. -/
def Idna.none : Idna :=
  ⟨fun _ => Option.none, fun _ _ h => nomatch h⟩

namespace Domain

/-- The ASCII form of a name; none if the name is not allowed. -/
def form? (idna : Idna) (name : String) : Option String :=
  if name.toList.all (·.toNat < 0x80) then
    let small := name.toList.map Char.toLower
    if small.all inName && Label.areValid (Text.pieces (· = '.') small) then
      some (String.ofList small)
    else none
  else idna.form? name

end Domain

end Url

end PageSweep
