import PageSweep.Json.Reader
import PageSweep.Json.Writer
import PageSweep.Text.Utf8

/-!
# Where the Next Page Starts

Of a page's body a sweep looks at two members only: `has_more` and
`next_cursor`. Both are judged by whether they say yes, so `has_more: 1` goes on
and `next_cursor: 0` stops. A cursor that is a string is passed on as it is; any
other value is passed on as its compact JSON text.

No body, a body that is not JSON and a JSON value other than an object end the
sweep, just as `has_more: false` does.

## Main definitions

* `Page.cursorText`: The text under which a cursor is passed on.
* `Page.cursorOf`: The cursor to go on with, from a body's value.
* `Page.nextCursor`: The cursor to go on with, from a body.
-/

namespace PageSweep

namespace Page

/-- The text under which a cursor is passed on. -/
def cursorText : Json → String
  | .string s => s
  | v => v.text

/-- The cursor to go on with, if the body says that there is more and gives one. -/
def cursorOf : Json → Option String
  | .object members =>
    let cursor := Json.member "next_cursor" members
    if (Json.member "has_more" members).truthy && cursor.truthy then some (cursorText cursor)
    else none
  | _ => none

/-- The JSON value of a body. -/
def value? (body : ByteArray) : Option Json :=
  (Utf8.strict body).bind fun text => Json.read? text.toList

/-- The cursor to go on with. -/
def nextCursor (body : Option ByteArray) : Option String :=
  (body.bind value?).bind cursorOf

end Page

end PageSweep
