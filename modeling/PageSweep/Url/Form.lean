import PageSweep.Text.Pieces
import PageSweep.Url.Percent

/-!
# Form Encoding

The query of a page request is a list of named values, written `name=value` with
`&` between them. A space is written `+`, and every character but letters, digits
and `*-._` is percent-encoded, so neither `&` nor `=` occurs inside a name or a
value.

Reading is lenient: empty pieces are skipped, a piece without `=` has an empty
value, a percent sign without two digits stands for itself, and bytes that are not
UTF-8 are replaced.

## Main definitions

* `Form.encode`: The query of a list of pairs.
* `Form.decode`: The pairs of a query.
-/

namespace PageSweep

namespace Form

/-- Whether a name or a value keeps a character. -/
def keeps (c : Char) : Bool :=
  c.isAlphanum || c = '*' || c = '-' || c = '.' || c = '_'

/-- One character of a name or a value. -/
def character (c : Char) : List Char :=
  if keeps c then [c]
  else if c = ' ' then ['+']
  else (String.utf8EncodeChar c).flatMap Percent.byte

/-- A name or a value. -/
def component (text : String) : List Char :=
  text.toList.flatMap character

/-- A name and its value. -/
def pair (entry : String × String) : List Char :=
  component entry.1 ++ '=' :: component entry.2

/-- Pairs with `&` between them. -/
def encode : List (String × String) → List Char
  | [] => []
  | [entry] => pair entry
  | entry :: rest => pair entry ++ '&' :: encode rest

/-- A plus sign stands for a space. -/
def unplus (c : Char) : Char :=
  if c = '+' then ' ' else c

/-- The name or value that a text stands for. -/
def decodeComponent (text : List Char) : String :=
  Utf8.lossy ⟨(Percent.decode (text.map unplus)).toArray⟩

/-- The name and the value of a piece. -/
def decodePair (piece : List Char) : String × String :=
  match Text.cut? '=' piece with
  | none => (decodeComponent piece, "")
  | some (name, value) => (decodeComponent name, decodeComponent value)

/-- The pairs of a query. -/
def decode (query : List Char) : List (String × String) :=
  ((Text.pieces (· = '&') query).filter fun piece => !piece.isEmpty).map decodePair

end Form

end PageSweep
