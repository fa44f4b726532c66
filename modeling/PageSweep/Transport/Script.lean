import PageSweep.Page.Exchange
import PageSweep.Time.Window
import PageSweep.Url
import PageSweep.Url.Form

/-!
# Scripted Servers

Servers whose replies are laid down beforehand. A script answers the requests in
their order; a list of rules answers by what a request asks for.

## Main definitions

* `Script`: Replies in order.
* `Script.serve`: The reply to the next request.
* `Rule`: A reply to requests of some kind.
* `Rules.serve`: The reply of the first rule that fits.
-/

namespace PageSweep

/-- Replies in order. -/
structure Script where
  replies : List Exchange
  /-- Whether the last reply is given again once the script is through. -/
  repeats : Bool

namespace Script

/-- The reply to the request with the given number, counted from zero. -/
def reply (s : Script) (n : Nat) : Exchange :=
  match s.replies[n]? with
  | some reply => reply
  | none =>
    match s.repeats, s.replies.getLast? with
    | true, some last => last
    | _, _ => Exchange.nothing .zero

/-- The reply to a request, and the number of the next request. -/
def serve (s : Script) (n : Nat) (_ : Url) : Exchange × Nat :=
  (s.reply n, n + 1)

end Script

/-- The values of a request's query. -/
def Url.queryPairs (url : Url) : List (String × String) :=
  Form.decode (url.query.getD "").toList

/-- The window that a request asks for, if it names both ends. -/
def Url.window? (url : Url) : Option Window := do
  return ⟨← url.queryPairs.lookup "time_from", ← url.queryPairs.lookup "time_to"⟩

/-- A reply to requests of some kind. -/
structure Rule where
  /-- The days that the window has to span, if that matters. -/
  days : Option Int
  /-- The cursor that the request has to have, if that matters; none stands for a
  request without a cursor. -/
  cursor : Option (Option String)
  reply : Exchange

namespace Rule

/-- Whether a rule fits a request. -/
def fits (rule : Rule) (url : Url) : Bool :=
  (match rule.days with
    | none => true
    | some days => url.window?.bind Window.days? = some days) &&
  (match rule.cursor with
    | none => true
    | some cursor => url.queryPairs.lookup "cursor" = cursor)

end Rule

namespace Rules

/-- How long a request takes that no rule fits. -/
def patience : Span := .ofMillis 1

/-- The reply of the first rule that fits. -/
def reply (rules : List Rule) (url : Url) : Exchange :=
  match rules.find? (·.fits url) with
  | some rule => rule.reply
  | none => Exchange.nothing patience

/-- The reply to a request. -/
def serve (rules : List Rule) (_ : Unit) (url : Url) : Exchange × Unit :=
  (reply rules url, ())

end Rules

end PageSweep
