import PageSweep.Text.Numeral
import PageSweep.Text.Utf8

/-!
# Percent Encoding

Where a part of a URL cannot hold a character, the bytes of the character are
written as `%XX`. Each part keeps characters of its own; a character outside ASCII
or a control character is kept nowhere. A percent sign is kept, so text that is
encoded already stays as it is.

## Main definitions

* `Percent.encode`: Encoding the characters that are not kept.
* `Percent.decode`: The bytes that an encoded text stands for.
* `Percent.inFragment`, `inQuery`, `inPath`, `inUserinfo`: What each part keeps.
-/

namespace PageSweep

namespace Percent

/-- A byte as `%XX`. -/
def byte (b : UInt8) : List Char :=
  ['%', Numeral.upper (b.toNat / 16), Numeral.upper (b.toNat % 16)]

/-- The text with the characters outside `keep` encoded. -/
def encode (keep : Char → Bool) (text : List Char) : List Char :=
  text.flatMap fun c => if keep c then [c] else (String.utf8EncodeChar c).flatMap byte

/-- The byte that two hexadecimal digits stand for. -/
def pair? (a b : Char) : Option UInt8 := do
  return UInt8.ofNat ((← Numeral.digit? a) * 16 + (← Numeral.digit? b))

/-- The bytes that a text stands for. A percent sign without two digits after it
stands for itself. -/
def decode : List Char → List UInt8
  | [] => []
  | '%' :: rest =>
    match rest with
    | a :: b :: after =>
      match pair? a b with
      | some byte => byte :: decode after
      | none => 0x25 :: decode (a :: b :: after)
    | rest => 0x25 :: decode rest
  | c :: rest => String.utf8EncodeChar c ++ decode rest

/-- Characters that are neither controls nor outside ASCII. -/
def visible (c : Char) : Bool :=
  0x20 ≤ c.toNat && c.toNat < 0x7F

/-- What a fragment keeps. -/
def inFragment (c : Char) : Bool :=
  visible c && !(c = ' ' || c = '"' || c = '<' || c = '>' || c = '\x60')

/-- What a query keeps. The schemes of the web do not keep the single quote. -/
def inQuery (web : Bool) (c : Char) : Bool :=
  visible c && !(c = ' ' || c = '"' || c = '#' || c = '<' || c = '>' || (web && c = '\''))

/-- What a path keeps. -/
def inPath (c : Char) : Bool :=
  inFragment c && !(c = '#' || c = '?' || c = '\x7b' || c = '\x7d')

/-- What a user name or a password keeps. -/
def inUserinfo (c : Char) : Bool :=
  inPath c && !(c = '/' || c = ':' || c = ';' || c = '=' || c = '@' || c = '[' || c = '\\' ||
    c = ']' || c = '^' || c = '|')

end Percent

end PageSweep
