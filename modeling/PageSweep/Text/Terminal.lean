/-!
# Text for Terminals

A text for a terminal holds control sequences beside what is to be seen: an escape
character begins one, and what follows says where it ends. Away from a terminal only
what would be seen is printed, with the sequences and the other control characters
taken out. Blanks and line breaks are kept, also inside a sequence.

Two such filters differ where a sequence is broken. One looks at a whole text: after
anything seen, even a line break inside a sequence, the text goes on as plain text,
and a character outside ASCII ends a sequence too and loses its first byte. The
other filters a stream: a line break inside a sequence lets the text behind it
through, but the sequence is taken up again at the next control character; inside a
sequence, characters outside ASCII are dropped.

## Main definitions

* `Terminal.bold`, `Terminal.yellow`: Parts of a text that a terminal makes stand out.
* `Terminal.Mode`: Where a text stands in a control sequence.
* `Terminal.Mode.step`: How one character changes that.
* `Terminal.visible`: What is seen of a text.
* `Terminal.streamed`: What is seen of a text sent as a stream.
-/

namespace PageSweep

namespace Terminal

/-- Ends all that stands out. -/
def reset : String := "\x1b[0m"

/-- A text in bold letters. -/
def bold (text : String) : String := "\x1b[1m" ++ text ++ reset

/-- A text in yellow letters. -/
def yellow (text : String) : String := "\x1b[33m" ++ text ++ reset

/-- Where a text stands in a control sequence. -/
inductive Mode where
  /-- Outside of sequences. -/
  | plain
  /-- After the escape character. -/
  | escape
  /-- In an escape sequence of more than two characters. -/
  | intermediate
  /-- In the parameters of a control sequence, after `[`. -/
  | control
  /-- In a command for the operating system, after `]`. -/
  | command
  /-- In a string that only another escape character ends. -/
  | string
  deriving DecidableEq, Repr

/-- Whether a control character is a blank or breaks the line. -/
def isBreak (c : Char) : Bool :=
  c = '\t' || c = '\n' || c = '\x0c' || c = '\r'

/-- What an escape character and the character after it begin. -/
def Mode.opened (c : Char) : Mode :=
  if c = '[' then .control
  else if c = ']' then .command
  else if c = 'P' ∨ c = 'X' ∨ c = '^' ∨ c = '_' then .string
  else if c.toNat < 0x30 then .intermediate
  else .plain

/-- The mode after an ASCII character, and whether that is seen. -/
def Mode.step (mode : Mode) (c : Char) : Mode × Bool :=
  if c = '\x1b' then (.escape, false)
  else if c = '\x18' ∨ c = '\x1a' then (.plain, false)
  else match mode with
    | .command => (if c = '\x07' then .plain else .command, false)
    | .string => (.string, false)
    | mode =>
      if c.toNat < 0x20 then (mode, isBreak c)
      else if c.toNat = 0x7F then (mode, false)
      else match mode with
        | .plain => (.plain, true)
        | .escape => (.opened c, false)
        | .intermediate => (if c.toNat < 0x30 then .intermediate else .plain, false)
        | _ => (if c.toNat < 0x40 then .control else .plain, false)

/-- Whether a character belongs to ASCII. -/
def isAscii (c : Char) : Bool :=
  c.toNat < 0x80

/-- What stands for a character that a sequence takes the first byte of. -/
def maimed (c : Char) : List Char :=
  List.replicate (c.utf8Size - 1) '\ufffd'

/-- What is seen of the rest of a text. -/
def visibleFrom (mode : Mode) : List Char → List Char
  | [] => []
  | c :: rest =>
    if isAscii c then
      let (next, seen) := mode.step c
      if seen then c :: visibleFrom .plain rest else visibleFrom next rest
    else (if mode = .plain then [c] else maimed c) ++ visibleFrom .plain rest

/-- What is seen of a text. -/
def visible (text : String) : String :=
  String.ofList (visibleFrom .plain text.toList)

/-- What is seen of the rest of a stream. While `opened` holds, text is let through
whatever sequence it stands in. -/
def streamedFrom (mode : Mode) (opened : Bool) : List Char → List Char
  | [] => []
  | c :: rest =>
    if !isAscii c then
      if opened || mode = .plain then c :: streamedFrom .plain true rest
      else streamedFrom mode false rest
    else if opened && (Mode.plain.step c).2 then c :: streamedFrom mode true rest
    else
      let (next, seen) := mode.step c
      if seen then c :: streamedFrom next true rest else streamedFrom next false rest

/-- What is seen of a text sent as a stream. -/
def streamed (text : String) : String :=
  String.ofList (streamedFrom .plain false text.toList)

end Terminal

end PageSweep
