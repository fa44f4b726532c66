import PageSweep.Time.Span

/-!
# Exchanges

What a page request comes back with. A request that fails is no error: the parts
that did not arrive are missing.

## Main definitions

* `Exchange`: A reply, as far as it arrived.
* `Exchange.nothing`: No reply at all.
* `Exchange.isOk`: Whether the status is 200.
-/

namespace PageSweep

/-- A reply, as far as it arrived. -/
structure Exchange where
  /-- The status, if there was a response. -/
  status : Option Nat
  /-- The body, if it was read completely. -/
  body : Option ByteArray
  /-- How long the request took. -/
  duration : Span

namespace Exchange

/-- Nothing arrives. -/
def nothing (duration : Span) : Exchange := ⟨none, none, duration⟩

/-- Whether the status is 200. -/
def isOk (e : Exchange) : Bool :=
  e.status = some 200

/-- How long the request took, in milliseconds. -/
def millis (e : Exchange) : Float :=
  e.duration.toMillis

end Exchange

end PageSweep
