import PageSweep.Json
import PageSweep.Json.Conversion

/-!
# Reading JSON

A strict reader of JSON text: one value, blanks around its tokens, and nothing
else. Every reader takes the text that is left and gives back what it read with
the text after it.

A number without fraction and exponent that fits in 64 bits, signed or not, is
kept exactly; any other is converted to a double, and a number beyond the doubles is
refused. Containers may be nested 127 deep. Of several members with one name the
last one counts.

## Main definitions

* `Json.Reader.string`: The rest of a string after its opening quote.
* `Json.Reader.number`: A number.
* `Json.Reader.items`: Things separated by commas up to a closing bracket.
* `Json.Reader.value`: A value.
* `Json.read?`: The value of a whole text.
-/

namespace PageSweep

namespace Json

namespace Reader

/-- The characters that may stand between tokens. -/
def isBlank (c : Char) : Bool :=
  c = ' ' || c = '\t' || c = '\n' || c = '\r'

/-- The text after any blanks. -/
def skipBlanks (text : List Char) : List Char :=
  text.dropWhile isBlank

/-- The value of four hexadecimal digits. -/
def hexUnit? (a b c d : Char) : Option Nat := do
  let a ← Numeral.digit? a
  let b ← Numeral.digit? b
  let c ← Numeral.digit? c
  let d ← Numeral.digit? d
  return ((a * 16 + b) * 16 + c) * 16 + d

/-- Whether a 16-bit unit begins a surrogate pair. -/
def isHighSurrogate (unit : Nat) : Bool :=
  0xD800 ≤ unit && unit < 0xDC00

/-- Whether a 16-bit unit ends a surrogate pair. -/
def isLowSurrogate (unit : Nat) : Bool :=
  0xDC00 ≤ unit && unit < 0xE000

/-- The character of a surrogate pair. -/
def ofSurrogates (high low : Nat) : Char :=
  Char.ofNat (0x10000 + (high - 0xD800) * 0x400 + (low - 0xDC00))

/-- The character that a single-letter escape stands for. -/
def escaped? (c : Char) : Option Char :=
  if c = '"' ∨ c = '\\' ∨ c = '/' then some c
  else if c = 'b' then some '\x08'
  else if c = 'f' then some '\x0c'
  else if c = 'n' then some '\n'
  else if c = 'r' then some '\r'
  else if c = 't' then some '\t'
  else none

/-- The rest of a string after its opening quote. `done` holds the characters so
far, the last one first. Half of a surrogate pair is refused, and so is a raw
control character. -/
def string (done : List Char) : List Char → Option (String × List Char)
  | [] => none
  | '"' :: rest => some (String.ofList done.reverse, rest)
  | '\\' :: 'u' :: a :: b :: c :: d :: rest =>
    match hexUnit? a b c d with
    | none => none
    | some unit =>
      if isHighSurrogate unit then
        match rest with
        | '\\' :: 'u' :: e :: f :: g :: h :: rest =>
          match hexUnit? e f g h with
          | none => none
          | some low =>
            if isLowSurrogate low then string (ofSurrogates unit low :: done) rest else none
        | _ => none
      else if isLowSurrogate unit then none
      else string (Char.ofNat unit :: done) rest
  | '\\' :: c :: rest =>
    match escaped? c with
    | none => none
    | some c => string (c :: done) rest
  | c :: rest => if c.toNat < 0x20 ∨ c = '\\' then none else string (c :: done) rest

/-- A run of at least one digit. -/
def digits (text : List Char) : Option (List Char × List Char) :=
  let run := text.takeWhile Char.isDigit
  if run.isEmpty then none else some (run, text.dropWhile Char.isDigit)

/-- The digits before the point: a single zero, or digits that begin with none. -/
def whole : List Char → Option (List Char × List Char)
  | '0' :: rest => some (['0'], rest)
  | text => digits text

/-- The digits after a point, if there is one. -/
def fraction : List Char → Option (List Char × List Char)
  | '.' :: rest => digits rest
  | rest => some ([], rest)

/-- The exponent of ten, if there is one. -/
def exponent : List Char → Option (Option Int × List Char)
  | c :: rest =>
    if c = 'e' ∨ c = 'E' then
      let (sign, rest) : Int × List Char := match rest with
        | '+' :: rest => (1, rest)
        | '-' :: rest => (-1, rest)
        | rest => (1, rest)
      (digits rest).map fun (run, rest) => (some (sign * Numeral.decimal run), rest)
    else some (none, c :: rest)
  | [] => some (none, [])

/-- The number with the given parts. -/
def assemble (negative : Bool) (whole fraction : List Char) (exponent : Option Int) :
    Option Number :=
  let n := Numeral.decimal whole
  if fraction.isEmpty ∧ exponent.isNone ∧ !negative ∧ n < 0x10000000000000000 then some (.int n)
  else if fraction.isEmpty ∧ exponent.isNone ∧ negative ∧ 0 < n ∧ n ≤ 0x8000000000000000 then
    some (.int (-n))
  else (double? negative whole fraction (exponent.getD 0)).map .float

/-- A number. -/
def number (text : List Char) : Option (Number × List Char) := do
  let (negative, text) : Bool × List Char := match text with
    | '-' :: rest => (true, rest)
    | rest => (false, rest)
  let (w, text) ← whole text
  let (f, text) ← fraction text
  let (e, text) ← exponent text
  return (← assemble negative w f e, text)

variable {α : Type}

/-- One or more things separated by commas, up to and including `close`. At most
as many are read as the first argument allows; `done` holds those read so far,
the last one first. -/
def items (item : List Char → Option (α × List Char)) (close : Char) :
    Nat → List α → List Char → Option (List α × List Char)
  | 0, _, _ => none
  | more + 1, done, text =>
    match item text with
    | none => none
    | some (x, rest) =>
      match skipBlanks rest with
      | [] => none
      | c :: rest =>
        if c = close then some ((x :: done).reverse, rest)
        else if c = ',' then items item close more (x :: done) rest
        else none

/-- A bracketed list of things, after its opening bracket. -/
def bracketed (item : List Char → Option (α × List Char)) (close : Char) (size : Nat)
    (text : List Char) : Option (List α × List Char) :=
  match skipBlanks text with
  | [] => none
  | c :: rest => if c = close then some ([], rest) else items item close size [] (c :: rest)

/-- A member of an object: a string, a colon and a value. -/
def member (value : List Char → Option (α × List Char)) (text : List Char) :
    Option ((String × α) × List Char) :=
  match skipBlanks text with
  | '"' :: rest => do
    let (name, rest) ← string [] rest
    match skipBlanks rest with
    | ':' :: rest =>
      let (v, rest) ← value rest
      return ((name, v), rest)
    | _ => none
  | _ => none

/-- Members in the order of their names, the last of several with one name. -/
def filed (members : List (String × α)) : Catalog α :=
  members.foldl (fun filed (name, v) => filed.insert name v) []

/-- A value with at most `depth` containers around each other. `size` bounds the
number of things in one container. -/
def value (size : Nat) : Nat → List Char → Option (Json × List Char)
  | depth, text =>
    match skipBlanks text with
    | '"' :: rest => (string [] rest).map fun (s, rest) => (.string s, rest)
    | '[' :: rest =>
      match depth with
      | 0 => none
      | depth + 1 =>
        (bracketed (value size depth) ']' size rest).map fun (xs, rest) => (.array xs, rest)
    | '{' :: rest =>
      match depth with
      | 0 => none
      | depth + 1 =>
        (bracketed (member (value size depth)) '}' size rest).map fun (ms, rest) =>
          (.object (filed ms), rest)
    | 'n' :: 'u' :: 'l' :: 'l' :: rest => some (.null, rest)
    | 't' :: 'r' :: 'u' :: 'e' :: rest => some (.bool true, rest)
    | 'f' :: 'a' :: 'l' :: 's' :: 'e' :: rest => some (.bool false, rest)
    | text => (number text).map fun (n, rest) => (.number n, rest)

/-- How deep containers may be nested. -/
def maxDepth : Nat := 127

end Reader

/-- The value of a text that holds one value and nothing else. -/
def read? (text : List Char) : Option Json :=
  match Reader.value text.length Reader.maxDepth text with
  | some (v, rest) => if (Reader.skipBlanks rest).isEmpty then some v else none
  | none => none

end Json

end PageSweep
