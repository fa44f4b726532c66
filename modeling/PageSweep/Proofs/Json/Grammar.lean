import Mathlib.Algebra.Group.Int.Defs
import Mathlib.Algebra.Group.Nat.Defs
import Mathlib.Data.List.Forall2
import PageSweep.Json.Reader

/-!
# The Grammar of JSON

What a JSON text is and which value it has, said without a reader: each definition
relates a piece of text to what it spells, and a text is put together from the texts of
its parts. Blanks may stand around every value and every name and between empty brackets.

Two places of the grammar decide what a text means. A number without fraction and
exponent that fits in 64 bits is exact, and every other one is a double, which has to be
finite. A zero with a minus sign is no exact number. Of several members with one name an
object has the last one.

Which double a number is depends on how it is converted: a significand of 64 bits is
rounded to a double, and then multiplied or divided by a power of ten. A number may be
zero that way, or beyond the doubles, if it is close to being so.

Half of a surrogate pair needs no rule of its own. An escape spells the character with
its number, and no character has the number of a surrogate.

## Main definitions

* `Letter`: How a character is spelled inside a string.
* `Quoted`: How a string is spelled.
* `Literal`: The parts of a number, with `Literal.text` and `Literal.Means`.
* `Gathered`: The digits that a significand has room for.
* `Scaled`: A double times a power of ten.
* `Listed`: Things separated by commas.
* `Entry`: A member of an object.
* `Last`: The last member of a name.
* `Resolved`: The members that an object has.
* `Spells`: How a value is spelled.
* `Document`: A whole text.
* `ObjectText`: A whole text that is an object, with its members as they stand there.
-/

namespace PageSweep

namespace Json

namespace Grammar

/-- A text of blanks, which may be empty. -/
def Blank (text : List Char) : Prop :=
  ∀ c ∈ text, c = ' ' ∨ c = '\t' ∨ c = '\n' ∨ c = '\r'

/-- Four hexadecimal digits and their number. -/
def Hex (a b c d : Char) (n : Nat) : Prop :=
  ∃ i j k l, Numeral.digit? a = some i ∧ Numeral.digit? b = some j ∧
    Numeral.digit? c = some k ∧ Numeral.digit? d = some l ∧ n = ((i * 16 + j) * 16 + k) * 16 + l

/-- The letters that may follow a backslash, with the characters they stand for. -/
def letters : List (Char × Char) :=
  [('"', '"'), ('\\', '\\'), ('/', '/'), ('b', '\x08'), ('f', '\x0c'), ('n', '\n'), ('r', '\r'),
    ('t', '\t')]

/-- How a character is spelled inside a string. -/
inductive Letter : List Char → Char → Prop where
  /-- By itself. -/
  | plain (c : Char) (hc : 0x20 ≤ c.toNat) (hquote : c ≠ '"') (hslash : c ≠ '\\') : Letter [c] c
  /-- By a letter. -/
  | escape (c x : Char) (h : (c, x) ∈ letters) : Letter ['\\', c] x
  /-- By its number. -/
  | unit (a b c d x : Char) (h : Hex a b c d x.toNat) : Letter ['\\', 'u', a, b, c, d] x
  /-- By the two halves of a surrogate pair. -/
  | pair (a b c d e f g h x : Char) (high low : Nat) (hhigh : Hex a b c d high)
      (hlow : Hex e f g h low) (hhighs : 0xD800 ≤ high ∧ high < 0xDC00)
      (hlows : 0xDC00 ≤ low ∧ low < 0xE000)
      (hx : x.toNat = 0x10000 + (high - 0xD800) * 0x400 + (low - 0xDC00)) :
      Letter ['\\', 'u', a, b, c, d, '\\', 'u', e, f, g, h] x

/-- How a string is spelled. -/
def Quoted (text : List Char) (s : String) : Prop :=
  ∃ pieces, List.Forall₂ Letter pieces s.toList ∧ text = '"' :: (pieces.flatten ++ ['"'])

/-- At least one digit and nothing else. -/
def Digits (text : List Char) : Prop :=
  text ≠ [] ∧ ∀ c ∈ text, c.isDigit = true

/-- The exponent of a number: `e` or `E`, perhaps a sign, and digits. -/
structure Exponent where
  mark : Char
  sign : Option Char
  digits : List Char

/-- The digits that a significand has room for behind `front`, and those that are left:
one more digit, and it would not fit in 64 bits. -/
structure Gathered (front kept left : List Char) : Prop where
  fits : Numeral.decimal (front ++ kept) < 2 ^ 64
  full : ∀ c rest, left = c :: rest → 2 ^ 64 ≤ Numeral.decimal (front ++ kept ++ [c])

/-- A double times a power of ten. It is multiplied by one power of at most 308 zeros, and
divided by as many as it takes, unless it is zero. -/
inductive Scaled : Float → Int → Float → Prop where
  | multiplied (x : Float) (k : Nat) (hk : k ≤ 308)
      (hfinite : Decimal.isFinite (x * tenTo k) = true) : Scaled x k (x * tenTo k)
  | divided (x : Float) (k : Nat) (hpos : 0 < k) (hk : k ≤ 308) : Scaled x (-k) (x / tenTo k)
  | zero (x : Float) (scale : Int) (hscale : 308 < scale.natAbs) (hx : (x == 0.0) = true) :
      Scaled x scale x
  | more (x y : Float) (scale : Int) (hscale : scale < -308) (hx : (x == 0.0) = false)
      (h : Scaled (x / tenTo 308) (scale + 308) y) : Scaled x scale y

/-- The parts of a number. No fraction is an empty one. -/
structure Literal where
  negative : Bool
  whole : List Char
  fraction : List Char
  exponent : Option Exponent

/-- Whether the parts of an exponent are what they should be. -/
structure Exponent.WellFormed (e : Exponent) : Prop where
  mark : e.mark = 'e' ∨ e.mark = 'E'
  sign : e.sign = none ∨ e.sign = some '+' ∨ e.sign = some '-'
  digits : Digits e.digits

/-- The text of an exponent. -/
def Exponent.text (e : Exponent) : List Char :=
  e.mark :: (e.sign.toList ++ e.digits)

/-- The number of an exponent. -/
def Exponent.value (e : Exponent) : Int :=
  if e.sign = some '-' then -Numeral.decimal e.digits else Numeral.decimal e.digits

namespace Literal

/-- Whether the parts of a number are what they should be. No zero stands in front of
other digits. -/
structure WellFormed (l : Literal) : Prop where
  whole : l.whole = ['0'] ∨ Digits l.whole ∧ l.whole.head? ≠ some '0'
  fraction : ∀ c ∈ l.fraction, c.isDigit = true
  exponent : ∀ e, l.exponent = some e → e.WellFormed

/-- The text of a fraction. -/
def fractionText (l : Literal) : List Char :=
  if l.fraction = [] then [] else '.' :: l.fraction

/-- The text of the exponent, if there is one. -/
def exponentText (l : Literal) : List Char :=
  (l.exponent.map Exponent.text).getD []

/-- The text of a number. -/
def text (l : Literal) : List Char :=
  (if l.negative then ['-'] else []) ++ (l.whole ++ (l.fractionText ++ l.exponentText))

/-- The whole number that a literal stands for exactly: it has neither fraction nor
exponent and fits in 64 bits, signed if it is negative. -/
def Exact (l : Literal) (n : Int) : Prop :=
  l.fraction = [] ∧ l.exponent = none ∧
    (l.negative = false ∧ n = Numeral.decimal l.whole ∧ n < 2 ^ 64 ∨
      l.negative = true ∧ n = -Numeral.decimal l.whole ∧ n < 0 ∧ -2 ^ 63 ≤ n)

/-- The significand of a literal, and the power of ten that goes with it. Whole digits that
are left out count for zeros, digits of the fraction that are left out do not count. -/
def Significand (l : Literal) (n : Nat) (scale : Int) : Prop :=
  ∃ kept dropped counted ignored, l.whole = kept ++ dropped ∧ Gathered [] kept dropped ∧
    l.fraction = counted ++ ignored ∧ Gathered kept counted ignored ∧
    n = Numeral.decimal (kept ++ counted) ∧
    scale = (l.exponent.map Exponent.value).getD 0 + dropped.length - counted.length

/-- The number that a literal stands for. One beyond the doubles stands for none. -/
inductive Means (l : Literal) : Number → Prop where
  | exact (n : Int) (h : l.Exact n) : Means l (.int n)
  | rounded (n : Nat) (scale : Int) (x : Float) (h : ∀ i, ¬ l.Exact i)
      (hn : l.Significand n scale) (hx : Scaled n.toUInt64.toFloat scale x) :
      Means l (.float (if l.negative then -x else x))

end Literal

section Parts

variable {α : Type} (part : List Char → α → Prop)

/-- A thing with blanks around it. -/
def Padded (text : List Char) (x : α) : Prop :=
  ∃ front core back, Blank front ∧ part core x ∧ Blank back ∧ text = front ++ (core ++ back)

/-- One or more things, separated by commas, each with blanks around it. -/
inductive Separated : List Char → List α → Prop where
  | last (text : List Char) (x : α) (h : Padded part text x) : Separated text [x]
  | more (text rest : List Char) (x : α) (xs : List α) (h : Padded part text x)
      (hrest : Separated rest xs) : Separated (text ++ ',' :: rest) (x :: xs)

/-- Any number of things, separated by commas. -/
inductive Listed : List Char → List α → Prop where
  | empty (text : List Char) (h : Blank text) : Listed text []
  | filled (text : List Char) (xs : List α) (h : Separated part text xs) : Listed text xs

/-- A list of things in brackets. -/
def Bracketed (opening closing : Char) (text : List Char) (xs : List α) : Prop :=
  ∃ inner, Listed part inner xs ∧ text = opening :: (inner ++ [closing])

/-- A member of an object: its name, a colon and its value. -/
def Entry (text : List Char) (entry : String × α) : Prop :=
  ∃ name before after core, Quoted name entry.1 ∧ Blank before ∧ Blank after ∧
    part core entry.2 ∧ text = name ++ (before ++ ':' :: (after ++ core))

end Parts

section Members

variable {α : Type}

/-- The last member of a name has the value `x`. -/
def Last (name : String) (entries : List (String × α)) (x : α) : Prop :=
  ∃ before after, entries = before ++ (name, x) :: after ∧ name ∉ after.map Prod.fst

/-- The members that an object has, from those in its text: the last one of each name, in
the order of the names. -/
def Resolved (entries : List (String × α)) (members : Catalog α) : Prop :=
  members.Ascending ∧ ∀ name x, members.find? name = some x ↔ Last name entries x

end Members

/-- How a value is spelled that has at most `depth` containers around each other. -/
def Spells : Nat → List Char → Json → Prop
  | _, text, .null => text = ['n', 'u', 'l', 'l']
  | _, text, .bool true => text = ['t', 'r', 'u', 'e']
  | _, text, .bool false => text = ['f', 'a', 'l', 's', 'e']
  | _, text, .number n => ∃ l : Literal, l.WellFormed ∧ l.Means n ∧ text = l.text
  | _, text, .string s => Quoted text s
  | 0, _, .array _ => False
  | depth + 1, text, .array items => Bracketed (Spells depth) '[' ']' text items
  | 0, _, .object _ => False
  | depth + 1, text, .object members =>
    ∃ entries, Bracketed (Entry (Spells depth)) '{' '}' text entries ∧ Resolved entries members

/-- A whole text: one value, with less than 128 containers around each other. -/
def Document (text : List Char) (v : Json) : Prop :=
  Padded (Spells 127) text v

/-- A whole text that is an object, with its members as they stand there. -/
def ObjectText (text : List Char) (entries : List (String × Json)) : Prop :=
  Padded (Bracketed (Entry (Spells 126)) '{' '}') text entries

end Grammar

end Json

end PageSweep
