/-!
# UTF-8

Text arrives as bytes. `Utf8.strict` takes well-formed bytes only; `Utf8.lossy`
takes any bytes and puts U+FFFD in place of each piece that is not well formed.
A piece is the longest run of bytes that begins a character, or else a single
byte, so a character cut off by the end of the text counts as one piece.

## Main definitions

* `Utf8.strict`: The text of well-formed bytes.
* `Utf8.lossy`: The text of any bytes, with malformed pieces replaced.
* `Utf8.bytes`: The bytes of a text.
-/

namespace PageSweep

namespace Utf8

/-- The bytes of a text. -/
def bytes (text : String) : List UInt8 :=
  text.toUTF8.toList

/-- The text of well-formed bytes. -/
def strict (bytes : ByteArray) : Option String :=
  String.fromUTF8? bytes

/-- Whether a byte can stand after the first byte of a character. -/
def isContinuation (b : UInt8) : Bool :=
  0x80 ≤ b && b ≤ 0xBF

/-- Whether `second` can follow the first byte `first` of a character of three
or four bytes: neither a longer form than needed, nor half of a surrogate pair,
nor beyond the last code point. -/
def fits (first second : UInt8) : Bool :=
  isContinuation second &&
    (first != 0xE0 || 0xA0 ≤ second) && (first != 0xED || second ≤ 0x9F) &&
    (first != 0xF0 || 0x90 ≤ second) && (first != 0xF4 || second ≤ 0x8F)

/-- What replaces a malformed piece. -/
def replacement : Char := '\uFFFD'

/-- The character of the payload bits of one to four bytes. -/
def ofPayloads (lead : Nat) (rest : List UInt8) : Char :=
  Char.ofNat (rest.foldl (fun n b => n * 64 + (b.toNat - 0x80)) lead)

/-- The characters of `bytes`, one replacement for each malformed piece. -/
def repair : List UInt8 → List Char
  | [] => []
  | a :: rest =>
    if a < 0x80 then Char.ofNat a.toNat :: repair rest
    else if 0xC2 ≤ a && a ≤ 0xDF then
      match rest with
      | b :: r =>
        if isContinuation b then ofPayloads (a.toNat - 0xC0) [b] :: repair r
        else replacement :: repair (b :: r)
      | [] => [replacement]
    else if 0xE0 ≤ a && a ≤ 0xEF then
      match rest with
      | b :: r =>
        if fits a b then
          match r with
          | c :: r' =>
            if isContinuation c then ofPayloads (a.toNat - 0xE0) [b, c] :: repair r'
            else replacement :: repair (c :: r')
          | [] => [replacement]
        else replacement :: repair (b :: r)
      | [] => [replacement]
    else if 0xF0 ≤ a && a ≤ 0xF4 then
      match rest with
      | b :: r =>
        if fits a b then
          match r with
          | c :: r' =>
            if isContinuation c then
              match r' with
              | d :: r'' =>
                if isContinuation d then ofPayloads (a.toNat - 0xF0) [b, c, d] :: repair r''
                else replacement :: repair (d :: r'')
              | [] => [replacement]
            else replacement :: repair (c :: r')
          | [] => [replacement]
        else replacement :: repair (b :: r)
      | [] => [replacement]
    else replacement :: repair rest

/-- The text of any bytes: as it is if well formed, else repaired. -/
def lossy (bytes : ByteArray) : String :=
  (strict bytes).getD (String.ofList (repair bytes.toList))

end Utf8

end PageSweep
