/-!
# Machine Words

Sizes and counts are words of 64 bits. Where words are added that may be any, the sum
is only there if it is a word: the program stops at one that is not.

## Main definitions

* `Word.add?`: The sum of two words.
* `Word.sum?`: The sum of a list of words.
-/

namespace PageSweep

namespace Word

/-- The sum of two words, if it is a word. -/
def add? (a b : UInt64) : Option UInt64 :=
  if a.toNat + b.toNat < 0x10000000000000000 then some (a + b) else none

/-- The sum of words from the first one on, if it is a word all the way. -/
def sum? (words : List UInt64) : Option UInt64 :=
  words.foldlM add? 0

end Word

end PageSweep
