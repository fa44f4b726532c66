/-!
# Punycode

An `xn--` label of a domain name spells characters outside ASCII with letters and
digits. Its plain characters stand before the last hyphen; after it, numbers in a
base-36 notation of variable length say which character goes where next.

## Main definitions

* `Punycode.decode`: The characters that a label spells.
-/

namespace PageSweep

namespace Punycode

/-- The value of a base-36 digit: letters first. -/
def digit? (c : Char) : Option Nat :=
  if 'a' ≤ c ∧ c ≤ 'z' then some (c.toNat - 'a'.toNat)
  else if '0' ≤ c ∧ c ≤ '9' then some (c.toNat - '0'.toNat + 26)
  else none

/-- One number of variable length: the value so far, the weight of the next digit
and its position decide when a digit is the last. -/
def number (bias value weight k : Nat) : List Char → Option (Nat × List Char)
  | [] => none
  | c :: rest =>
    match digit? c with
    | none => none
    | some d =>
      let threshold := if k ≤ bias then 1 else if bias + 26 ≤ k then 26 else k - bias
      let value := value + d * weight
      if 0x100000000 ≤ value then none
      else if d < threshold then some (value, rest)
      else if 0x100000000 ≤ weight * (36 - threshold) then none
      else number bias value (weight * (36 - threshold)) (k + 36) rest

/-- Scales a difference down, counting the steps. -/
def scale : Nat → Nat → Nat → Nat
  | 0, delta, k => k + 36 * delta / (delta + 38)
  | steps + 1, delta, k =>
    if 455 < delta then scale steps (delta / 35) (k + 36) else k + 36 * delta / (delta + 38)

/-- The bias after a number. -/
def adapt (delta count : Nat) (first : Bool) : Nat :=
  let delta := if first then delta / 700 else delta / 2
  scale 32 (delta + delta / count) 0

/-- Puts the characters that the numbers of `text` describe among `done`. -/
def place : Nat → Nat → Nat → Nat → List Char → List Char → Option (List Char)
  | 0, _, _, _, _, _ => none
  | more + 1, point, index, bias, done, text =>
    match text with
    | [] => some done
    | text => do
      let (step, rest) ← number bias 0 1 36 text
      let count := done.length + 1
      let total := index + step
      let point := point + total / count
      let spot := total % count
      if h : point.isValidChar then
        let c := Char.ofNatAux point h
        place more point (spot + 1) (adapt step count (index = 0))
          (done.take spot ++ c :: done.drop spot) rest
      else none

/-- The characters that a label spells after its `xn--`. A hyphen with nothing in front
of it does not separate. -/
def decode (label : List Char) : Option (List Char) :=
  let tail := (label.reverse.takeWhile (· != '-')).reverse
  let plain := label.take (label.length - tail.length - 1)
  place (label.length + 1) 128 0 72 plain (if plain.isEmpty then label else tail)

end Punycode

end PageSweep
