import PageSweep.Text.Blank
import PageSweep.Text.Numeral
import PageSweep.Text.Quoted

/-!
# Spans of Time

A span is a whole number of nanoseconds with less than 2^64 whole seconds. It is
written as a list of numbers with units, `1m 30s`.

Reading takes many spellings of the units and a fraction for each number, as long
as the fraction comes out even: in nanoseconds for units up to a minute, in whole
seconds for longer ones. Blanks may stand before and inside a number and after a
unit. Every number that occurs on the way has to fit in 64 bits. Nanoseconds that
come to exactly one second on top of the longest possible span are a fault of its
own, `overflow`.

Writing takes the longest units first and leaves out those that are zero. A month
has 30.44 days and a year 365.25.

## Main definitions

* `Span`: A span of time.
* `Span.Unit`: The units.
* `Span.read`: Reading a span.
* `Span.text`: Writing a span.
* `Span.Fault`: Why a text is no span.
-/

namespace PageSweep

/-- A span of time. -/
structure Span where
  /-- The length in nanoseconds. -/
  nanos : Nat
  deriving DecidableEq, Repr

namespace Span

/-- No time at all. -/
def zero : Span := ⟨0⟩

/-- The whole seconds of a span. -/
def secs (span : Span) : Nat := span.nanos / 1000000000

/-- The nanoseconds after the last whole second. -/
def subsec (span : Span) : Nat := span.nanos % 1000000000

/-- A number of seconds. -/
def ofSecs (n : Nat) : Span := ⟨n * 1000000000⟩

/-- A number of milliseconds. -/
def ofMillis (n : Nat) : Span := ⟨n * 1000000⟩

/-- The whole milliseconds of a span. -/
def millis (span : Span) : Nat := span.nanos / 1000000

/-- The span in milliseconds. -/
def toMillis (span : Span) : Float := Float.ofNat span.nanos / 1000000.0

/-- The units of time. -/
inductive Unit where
  | nanosecond
  | microsecond
  | millisecond
  | second
  | minute
  | hour
  | day
  | week
  | month
  | year
  deriving DecidableEq, Repr

/-- The unit of a spelling. -/
def Unit.ofName? (name : String) : Option Unit :=
  if name ∈ ["nanos", "nsec", "ns"] then some .nanosecond
  else if name ∈ ["usec", "us", "µs"] then some .microsecond
  else if name ∈ ["millis", "msec", "ms"] then some .millisecond
  else if name ∈ ["seconds", "second", "secs", "sec", "s"] then some .second
  else if name ∈ ["minutes", "minute", "min", "mins", "m"] then some .minute
  else if name ∈ ["hours", "hour", "hr", "hrs", "h"] then some .hour
  else if name ∈ ["days", "day", "d"] then some .day
  else if name ∈ ["weeks", "week", "wk", "wks", "w"] then some .week
  else if name ∈ ["months", "month", "M"] then some .month
  else if name ∈ ["years", "year", "yr", "yrs", "y"] then some .year
  else none

/-- The seconds of a unit of at least one second. -/
def Unit.seconds : Unit → Nat
  | .nanosecond | .microsecond | .millisecond => 0
  | .second => 1
  | .minute => 60
  | .hour => 3600
  | .day => 86400
  | .week => 604800
  | .month => 2630016
  | .year => 31557600

/-- The nanoseconds of a unit of up to a minute. -/
def Unit.nanos : Unit → Nat
  | .nanosecond => 1
  | .microsecond => 1000
  | .millisecond => 1000000
  | .second => 1000000000
  | .minute => 60 * 1000000000
  | .hour | .day | .week | .month | .year => 0

/-- Why a text is no span. -/
inductive Fault where
  | empty
  /-- Something other than a digit where a number begins. -/
  | numberExpected (offset : Nat)
  | invalidCharacter (offset : Nat)
  /-- A number without a unit. -/
  | unitNeeded (number : Nat)
  | unknownUnit (name : String)
  /-- A number beyond 64 bits, or a fraction that does not come out even. -/
  | tooLarge
  /-- Nanoseconds that make up one second, one more than a span can hold. -/
  | overflow
  deriving DecidableEq, Repr

/-- The wording of a fault. -/
def Fault.message : Fault → String
  | .empty => "value was empty"
  | .numberExpected offset => "expected number at " ++ toString offset
  | .invalidCharacter offset => "invalid character at " ++ toString offset
  | .unitNeeded n =>
    "time unit needed, for example " ++ toString n ++ "sec or " ++ toString n ++ "ms"
  | .unknownUnit name =>
    "unknown time unit " ++ Quoted.text name ++ ", supported units: ns, us/µs, ms, sec, min, " ++
      "hours, days, weeks, months, years (and few variations)"
  | .tooLarge =>
    "number is too large or cannot be represented without a lack of precision " ++
      "(values below 1ns are not supported)"
  | .overflow => "overflow in a span of time"

/-- A number that fits in 64 bits. -/
def word (n : Nat) : Except Fault Nat :=
  if n < 0x10000000000000000 then .ok n else .error .tooLarge

/-- The decimal fraction `num / den`. -/
structure Fraction where
  num : Nat
  den : Nat

/-- A product divided without a rest, where the product fits in 64 bits. -/
def Fraction.times (f : Fraction) (n : Nat) : Except Fault Nat := do
  let product ← word (f.num * n)
  if product % f.den = 0 then return product / f.den else throw .tooLarge

/-- The sum of the span so far, seconds and nanoseconds. Nanoseconds of more than a
second are carried before the seconds are checked; those of exactly one second are
carried last, where nothing is checked any more. -/
def add (sum : Span) (secs nanos : Nat) : Except Fault Span := do
  let below ← word (sum.subsec + nanos)
  let whole ← word (sum.secs + secs)
  if below = 1000000000 ∧ whole = 0xFFFFFFFFFFFFFFFF then throw .overflow
  let total := sum.nanos + secs * 1000000000 + nanos
  let _ ← word (total / 1000000000)
  return ⟨total⟩

/-- Adds a number of units, with a fraction if there is one. -/
def addUnits (sum : Span) (unit : Unit) (n : Nat) (fraction : Option Fraction) :
    Except Fault Span := do
  let sum ← match unit with
    | .nanosecond | .microsecond | .millisecond => sum.add 0 (← word (n * unit.nanos))
    | _ => sum.add (← word (n * unit.seconds)) 0
  match fraction with
  | none => return sum
  | some f =>
    match unit with
    | .nanosecond => throw .tooLarge
    | .microsecond | .millisecond | .second | .minute => sum.add 0 (← f.times unit.nanos)
    | _ => sum.add (← f.times unit.seconds) 0

namespace Reader

/-- Whether a character can stand in a unit. -/
def isUnitLetter (c : Char) : Bool :=
  c.isAlpha || c = 'µ'

/-- The value of a decimal digit. -/
def digit (c : Char) : Nat :=
  c.toNat - '0'.toNat

/-- The digits before a unit or a point, after those of value `n`; with the place
where they end, counted in bytes. -/
def whole (n offset : Nat) : List Char → Except Fault (Nat × Nat × List Char)
  | [] => .ok (n, offset, [])
  | c :: rest =>
    if c.isDigit then
      if n * 10 + digit c < 0x10000000000000000 then whole (n * 10 + digit c) (offset + 1) rest
      else .error .tooLarge
    else if Text.isBlank c then whole n (offset + c.utf8Size) rest
    else if isUnitLetter c || c = '.' then .ok (n, offset, c :: rest)
    else .error (.invalidCharacter offset)

/-- The digits after a point. `mark` is the place that an error names: that of the
point until something follows it. -/
def fraction (f : Fraction) (mark offset : Nat) :
    List Char → Except Fault (Fraction × Nat × List Char)
  | [] => if f.den = 1 then .error (.invalidCharacter mark) else .ok (f, mark, [])
  | c :: rest =>
    if c.isDigit then
      if f.den * 10 < 0x10000000000000000 ∧ f.num * 10 + digit c < 0x10000000000000000 then
        fraction ⟨f.num * 10 + digit c, f.den * 10⟩ (offset + 1) (offset + 1) rest
      else .error .tooLarge
    else if Text.isBlank c then
      fraction f (offset + c.utf8Size) (offset + c.utf8Size) rest
    else if isUnitLetter c then
      if f.den = 1 then .error (.invalidCharacter mark) else .ok (f, offset, c :: rest)
    else .error (.invalidCharacter mark)

/-- The letters of a unit, up to a digit or a blank; the blank is taken too. -/
def unit (done : List Char) (offset : Nat) : List Char → Except Fault (String × Nat × List Char)
  | [] => .ok (String.ofList done.reverse, offset, [])
  | c :: rest =>
    if c.isDigit then .ok (String.ofList done.reverse, offset, c :: rest)
    else if Text.isBlank c then .ok (String.ofList done.reverse, offset + c.utf8Size, rest)
    else if isUnitLetter c then unit (c :: done) (offset + c.utf8Size) rest
    else .error (.invalidCharacter offset)

/-- The bytes of blanks. -/
def blankSize (blanks : List Char) : Nat :=
  blanks.foldl (fun n c => n + c.utf8Size) 0

/-- A number with its unit, added to the span so far. -/
def item (sum : Span) (offset : Nat) (text : List Char) :
    Except Fault (Span × Nat × List Char) := do
  let (n, mark, text) ← whole 0 offset text
  let (f, mark, text) ← match text with
    | '.' :: rest => do
      let (f, mark, text) ← fraction ⟨0, 1⟩ mark (mark + 1) rest
      pure (some f, mark, text)
    | text => pure (none, mark, text)
  let (name, offset, text) ← unit [] mark text
  if name.isEmpty then throw (.unitNeeded n)
  match Unit.ofName? name with
  | none => throw (.unknownUnit name)
  | some unit => return (← sum.addUnits unit n f, offset, text)

/-- Numbers with units up to the end of the text. The first argument bounds their
number. -/
def items : Nat → Span → Nat → List Char → Except Fault Span
  | 0, sum, _, _ => .ok sum
  | more + 1, sum, offset, text =>
    let blanks := text.takeWhile Text.isBlank
    match text.dropWhile Text.isBlank with
    | [] => .ok sum
    | c :: rest =>
      if c.isDigit then do
        let (sum, offset, text) ← item sum (offset + blankSize blanks) (c :: rest)
        items more sum offset text
      else .error (.numberExpected offset)

end Reader

/-- The span that a text writes. A zero may stand without a unit. -/
def read (text : String) : Except Fault Span :=
  if text = "0" then .ok zero
  else if text.toList.all Text.isBlank then .error .empty
  else Reader.items text.length zero 0 text.toList

/-- A number with the name of a unit, in the plural if there are several; nothing
for zero. -/
def named (n : Nat) (name : String) : List String :=
  if n = 0 then [] else [toString n ++ name ++ (if n = 1 then "" else "s")]

/-- A number with the abbreviation of a unit; nothing for zero. -/
def short (n : Nat) (name : String) : List String :=
  if n = 0 then [] else [toString n ++ name]

/-- The parts of a span, the longest units first. -/
def parts (span : Span) : List String :=
  let secs := span.secs
  let inYear := secs % 31557600
  let inMonth := inYear % 2630016
  let inDay := inMonth % 86400
  named (secs / 31557600) "year" ++ named (inYear / 2630016) "month" ++
    named (inMonth / 86400) "day" ++ short (inDay / 3600) "h" ++ short (inDay % 3600 / 60) "m" ++
    short (inDay % 60) "s" ++ short (span.subsec / 1000000) "ms" ++
    short (span.subsec / 1000 % 1000) "us" ++ short (span.subsec % 1000) "ns"

/-- The text of a span. -/
def text (span : Span) : String :=
  if span.nanos = 0 then "0s" else " ".intercalate span.parts

end Span

end PageSweep
