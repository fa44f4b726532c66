import PageSweep.Text.Invisible

/-!
# Quoted Text

Messages quote what the user wrote. Inside the quotes, whatever would not be seen as
itself is escaped: quotes and backslashes with a backslash, tabs, line breaks and
NUL by a letter or digit, and other characters without a shape of their own by
their code point, `\u{301}`.

## Main definitions

* `Quoted.character`: A character inside quotes.
* `Quoted.text`: A text in quotes.
-/

namespace PageSweep

namespace Quoted

/-- A character inside quotes. -/
def character (c : Char) : List Char :=
  if c = '"' then ['\\', '"']
  else if c = '\\' then ['\\', '\\']
  else if c = '\t' then ['\\', 't']
  else if c = '\n' then ['\\', 'n']
  else if c = '\r' then ['\\', 'r']
  else if c = '\x00' then ['\\', '0']
  else if Invisible.contains c then
    ['\\', 'u', '\x7b'] ++ Nat.toDigits 16 c.toNat ++ ['\x7d']
  else [c]

/-- A text in quotes. -/
def text (s : String) : String :=
  String.ofList ('"' :: (s.toList.flatMap character ++ ['"']))

end Quoted

end PageSweep
