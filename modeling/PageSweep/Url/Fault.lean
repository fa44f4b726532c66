/-!
# Why a URL Is Refused

## Main definitions

* `Url.Fault`: What is wrong with a URL.
* `Url.Fault.message`: Its wording.
-/

namespace PageSweep

namespace Url

/-- What is wrong with a URL. -/
inductive Fault where
  /-- No scheme, and nothing that the URL could be relative to. -/
  | relative
  | emptyHost
  /-- A host name that no domain can have. -/
  | domainName
  /-- A character that the host of an unknown scheme cannot have. -/
  | hostCharacter
  | ipv4
  | ipv6
  | port
  deriving DecidableEq, Repr

/-- The wording of a fault. -/
def Fault.message : Fault → String
  | .relative => "relative URL without a base"
  | .emptyHost => "empty host"
  | .domainName => "invalid international domain name"
  | .hostCharacter => "invalid domain character"
  | .ipv4 => "invalid IPv4 address"
  | .ipv6 => "invalid IPv6 address"
  | .port => "invalid port number"

end Url

end PageSweep
