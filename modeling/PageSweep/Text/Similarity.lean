/-!
# Similarity of Words

How alike two words are, between 0 and 1, after Jaro. Equal characters match if
they stand not too far apart: within half of the longer word. The more characters
match and the fewer matches stand in another order, the more alike the words are.

## Main definitions

* `Similarity.matches`: The matching characters of two words.
* `Similarity.jaro`: How alike two words are.
-/

namespace PageSweep

namespace Similarity

/-- Looks for `c` at the places `low` to `high` of the second word; a place that is
taken holds nothing. Gives the place and the word with that place taken. -/
def take (c : Char) (low high : Nat) : Nat → List (Option Char) → Option (Nat × List (Option Char))
  | _, [] => none
  | place, x :: rest =>
    if low ≤ place ∧ place ≤ high ∧ x = some c then some (place, none :: rest)
    else (take c low high (place + 1) rest).map fun (spot, rest) => (spot, x :: rest)

/-- The matching characters of the first word in their order, each with the place
of its match in the second word. -/
def pairs (reach : Nat) : Nat → List Char → List (Option Char) → List (Char × Nat)
  | _, [], _ => []
  | place, c :: rest, word =>
    match take c (place - reach) (place + reach) 0 word with
    | none => pairs reach (place + 1) rest word
    | some (spot, word) => (c, spot) :: pairs reach (place + 1) rest word

/-- How alike two words are. -/
def jaro (a b : String) : Float :=
  let x := a.toList
  let y := b.toList
  if x.isEmpty ∧ y.isEmpty then 1.0
  else if x.isEmpty ∨ y.isEmpty then 0.0
  else
    let found := pairs (max x.length y.length / 2 - 1) 0 x (y.map some)
    if found.isEmpty then 0.0
    else
      let ordered := (found.mergeSort fun p q => p.2 ≤ q.2).map Prod.fst
      let moved := ((found.map Prod.fst).zip ordered).filter fun (p, q) => p != q
      let n := Float.ofNat found.length
      let crossings := Float.ofNat (moved.length / 2)
      (n / Float.ofNat x.length + n / Float.ofNat y.length + (n - crossings) / n) / 3.0

end Similarity

end PageSweep
