/-!
# Blanks

The characters that separate words in any script: the blanks and line breaks of
ASCII, the no-break spaces, and the spaces of fixed width.

## Main definitions

* `Text.isBlank`: Whether a character is a blank.
-/

namespace PageSweep

namespace Text

/-- Whether a character is a blank. -/
def isBlank (c : Char) : Bool :=
  let n := c.toNat
  (0x09 ≤ n && n ≤ 0x0D) || n = 0x20 || n = 0x85 || n = 0xA0 || n = 0x1680 ||
    (0x2000 ≤ n && n ≤ 0x200A) || n = 0x2028 || n = 0x2029 || n = 0x202F || n = 0x205F ||
    n = 0x3000

end Text

end PageSweep
