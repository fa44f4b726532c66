import PageSweep.Text.Pieces
import PageSweep.Url.Percent

/-!
# Paths

The path of a URL is a list of segments, each written after a slash. Segments of
one dot are dropped and segments of two dots take the one before them away, also
where the dots are percent-encoded; either at the end leaves an empty segment. Two
dots do not take a drive letter away, `C:` or `C|`. A URL like `mailto:` has a text in
place of a path.

In a file URL, a drive letter in the first segment is written `C:`, and after that
empty segments at the front are dropped.

## Main definitions

* `Url.Path`: Segments or a plain text.
* `Url.Path.read`: The segments of a text after its first slash.
* `Url.Path.beginsWithDrive`: Whether the first segment of such a text is a drive letter.
* `Url.Path.text`: Writing a path.
-/

namespace PageSweep

namespace Url

/-- A path, with what it cannot hold percent-encoded. -/
inductive Path where
  | segments (list : List String)
  /-- The path of a URL that has no segments. -/
  | verbatim (text : String)

namespace Path

/-- Whether a segment is one dot. -/
def isDot (segment : List Char) : Bool :=
  let s := segment.map Char.toLower
  s = ['.'] || s = ['%', '2', 'e']

/-- Whether a segment is two dots. -/
def isDotDot (segment : List Char) : Bool :=
  let s := segment.map Char.toLower
  s = ['.', '.'] || s = ['.', '%', '2', 'e'] || s = ['%', '2', 'e', '.'] ||
    s = ['%', '2', 'e', '%', '2', 'e']

/-- Whether a segment is a drive letter. -/
def isDrive (segment : List Char) : Bool :=
  match segment with
  | [letter, mark] => letter.isAlpha && (mark = ':' || mark = '|')
  | _ => false

/-- The segments without the last one, except for a drive letter. `done` has the
last segment first. -/
def shorten : List String → List String
  | [] => []
  | last :: done => if isDrive last.toList then last :: done else done

/-- A segment as it is written. -/
def encoded (file first : Bool) (segment : List Char) : String :=
  match file && first && isDrive segment, segment with
  | true, letter :: _ => String.ofList [letter, ':']
  | _, _ => String.ofList (Percent.encode Percent.inPath segment)

/-- Adds segments to those of `done`, which has the last one first. -/
def walk (file : Bool) (done : List String) : List (List Char) → List String
  | [] => done.reverse
  | segment :: rest =>
    if isDotDot segment then
      let left := shorten done
      walk file (if rest.isEmpty then "" :: left else left) rest
    else if isDot segment then walk file (if rest.isEmpty then "" :: done else done) rest
    else walk file (encoded file done.isEmpty segment :: done) rest

/-- Drops empty segments at the front, but not the last one. -/
def trimFront : List String → List String
  | "" :: next :: rest => trimFront (next :: rest)
  | list => list

/-- What separates segments: a slash, and in the schemes of the web and of files
also a backslash. -/
def isSeparator (special : Bool) (c : Char) : Bool :=
  c = '/' || (special && c = '\\')

/-- The segments of a text that stands after the first slash, with those that are
empty at the front. -/
def allSegments (special file : Bool) (text : List Char) : List String :=
  walk file [] (Text.pieces (isSeparator special) text)

/-- The path of a text that stands after the first slash. -/
def read (special file : Bool) (text : List Char) : Path :=
  let segments := allSegments special file text
  .segments (if file then trimFront segments else segments)

/-- Whether the path of a file URL that stands after the first slash begins with a
drive letter. -/
def beginsWithDrive (text : List Char) : Bool :=
  match allSegments true true text with
  | first :: _ => isDrive first.toList
  | [] => false

/-- The text of a path. -/
def text : Path → String
  | .segments list => String.join (list.map ("/" ++ ·))
  | .verbatim text => text

end Path

end Url

end PageSweep
