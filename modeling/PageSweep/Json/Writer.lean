import PageSweep.Json
import PageSweep.Decimal.Scientific
import PageSweep.Text.Numeral

/-!
# Writing JSON

Compact JSON text: no blanks, members in the order in which they stand, and only
those characters escaped that a string cannot hold.

Doubles have the fewest digits that read back. They are written positionally from
`0.00001` up to below `10 ^ 16` and with an exponent otherwise, and always with a
point or an exponent, so that they read back as doubles.

## Main definitions

* `Json.Writer.string`: A quoted string.
* `Json.Writer.number`: A number.
* `Json.chars`: The characters of a value.
* `Json.text`: The text of a value.
-/

namespace PageSweep

namespace Json

namespace Writer

/-- A character inside a string. Quotes, backslashes and control characters are
escaped, the usual five control characters by a letter. -/
def character (c : Char) : List Char :=
  if c = '"' then ['\\', '"']
  else if c = '\\' then ['\\', '\\']
  else if c = '\x08' then ['\\', 'b']
  else if c = '\x0c' then ['\\', 'f']
  else if c = '\n' then ['\\', 'n']
  else if c = '\r' then ['\\', 'r']
  else if c = '\t' then ['\\', 't']
  else if c.toNat < 0x20 then
    ['\\', 'u', '0', '0', Numeral.lower (c.toNat / 16), Numeral.lower (c.toNat % 16)]
  else [c]

/-- A quoted string. -/
def string (s : String) : List Char :=
  '"' :: (s.toList.flatMap character ++ ['"'])

/-- Where doubles are written positionally. -/
def style : Decimal.Style := ⟨-5, 16⟩

/-- A number. No JSON text stands for an infinity or a NaN; null is written for
them. -/
def number : Number → List Char
  | .int n => (toString n).toList
  | .float x => ((Decimal.text? style x).getD "null").toList

end Writer

mutual

/-- The characters of a value. -/
def chars : Json → List Char
  | .null => ['n', 'u', 'l', 'l']
  | .bool true => ['t', 'r', 'u', 'e']
  | .bool false => ['f', 'a', 'l', 's', 'e']
  | .number n => Writer.number n
  | .string s => Writer.string s
  | .array [] => ['[', ']']
  | .array (v :: rest) => '[' :: (chars v ++ itemsChars rest)
  | .object [] => ['{', '}']
  | .object ((name, v) :: rest) =>
    '{' :: (Writer.string name ++ ':' :: (chars v ++ membersChars rest))

/-- The items after the first, with the closing bracket. -/
def itemsChars : List Json → List Char
  | [] => [']']
  | v :: rest => ',' :: (chars v ++ itemsChars rest)

/-- The members after the first, with the closing bracket. -/
def membersChars : List (String × Json) → List Char
  | [] => ['}']
  | (name, v) :: rest => ',' :: (Writer.string name ++ ':' :: (chars v ++ membersChars rest))

end

/-- The text of a value. -/
def text (v : Json) : String :=
  String.ofList v.chars

end Json

end PageSweep
