import PageSweep.Text.Numeral
import PageSweep.Url.Form

/-!
# Queries of the Events Service

The service knows four parameters; others are ignored. Each may be given once. The
pairs of a query are looked at in their order, and the first one that is wrong is
reported: a parameter given again, or a limit that is no number.

## Main definitions

* `Service.Query`: The parameters of a request.
* `Service.Query.decode`: The parameters that a query gives.
* `Service.Query.Fault`: Why a query is refused.
-/

namespace PageSweep

namespace Service

/-- The parameters of a request. -/
structure Query where
  limit : Option UInt64
  timeFrom : Option String
  timeTo : Option String
  cursor : Option String
  deriving DecidableEq

namespace Query

/-- No parameter. -/
def empty : Query := ⟨none, none, none, none⟩

/-- Why a query is refused. -/
inductive Fault where
  | limit (cause : Numeral.Fault)
  /-- A parameter given again. -/
  | duplicate (name : String)
  deriving DecidableEq, Repr

/-- The wording of a fault. -/
def Fault.message : Fault → String
  | .limit cause => cause.message
  | .duplicate name => "duplicate field `" ++ name ++ "`"

/-- The number of a limit. -/
def readLimit (text : String) : Except Fault UInt64 :=
  match Numeral.read 10 0x10000000000000000 text.toList with
  | .ok n => .ok (UInt64.ofNat n)
  | .error cause => .error (.limit cause)

/-- The query with one more pair. -/
def add (q : Query) (name value : String) : Except Fault Query :=
  if name = "limit" then
    if q.limit.isSome then .error (.duplicate name)
    else match readLimit value with
      | .ok n => .ok { q with limit := some n }
      | .error fault => .error fault
  else if name = "time_from" then
    if q.timeFrom.isSome then .error (.duplicate name) else .ok { q with timeFrom := some value }
  else if name = "time_to" then
    if q.timeTo.isSome then .error (.duplicate name) else .ok { q with timeTo := some value }
  else if name = "cursor" then
    if q.cursor.isSome then .error (.duplicate name) else .ok { q with cursor := some value }
  else .ok q

/-- The query with more pairs. -/
def addAll (q : Query) : List (String × String) → Except Fault Query
  | [] => .ok q
  | (name, value) :: rest =>
    match q.add name value with
    | .ok q => addAll q rest
    | .error fault => .error fault

/-- The parameters that the text of a query gives. -/
def decode (text : String) : Except Fault Query :=
  addAll empty (Form.decode text.toList)

end Query

end Service

end PageSweep
