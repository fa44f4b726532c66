import PageSweep.Url.Host
import PageSweep.Url.Path

/-!
# URLs

A URL taken apart. Its parts hold their text as it is written, so a URL is written
by putting the parts together with their delimiters.

## Main definitions

* `Url`: A URL.
* `Url.text`: Writing a URL.
* `Url.isWeb`: Whether the scheme is `http` or `https`.
* `Url.withPath`, `Url.withQuery`, `Url.withoutFragment`: Changing a part.
-/

namespace PageSweep

/-- Who serves a URL. -/
structure Url.Authority where
  username : String
  password : Option String
  host : Url.Host
  /-- The port, if it is not the usual one of the scheme. -/
  port : Option UInt16

/-- A URL. -/
structure Url where
  /-- The scheme, in lower case and without its colon. -/
  scheme : String
  authority : Option Url.Authority
  path : Url.Path
  /-- What follows the question mark, if there is one. -/
  query : Option String
  /-- What follows the number sign, if there is one. -/
  fragment : Option String

namespace Url

/-- The user name and the password, with the delimiter after them. -/
def Authority.userinfo (a : Authority) : String :=
  match a.password with
  | some password => a.username ++ ":" ++ password ++ "@"
  | none => if a.username.isEmpty then "" else a.username ++ "@"

/-- The text of an authority. -/
def Authority.text (a : Authority) : String :=
  a.userinfo ++ a.host.text ++ (match a.port with
    | some port => ":" ++ toString port.toNat
    | none => "")

/-- A part with its delimiter in front. -/
def delimited (mark : String) : Option String → String
  | some part => mark ++ part
  | none => ""

/-- The text of a path after its authority. Without one, a path may not begin as an
authority would. -/
def hierarchy (authority : Option Authority) (path : Path) : String :=
  match authority, path with
  | some authority, path => "//" ++ authority.text ++ path.text
  | none, .segments ("" :: next :: rest) => "/." ++ (Path.segments ("" :: next :: rest)).text
  | none, path => path.text

/-- The text of a URL. -/
def text (url : Url) : String :=
  url.scheme ++ ":" ++ hierarchy url.authority url.path ++ delimited "?" url.query ++
    delimited "#" url.fragment

/-- The usual port of a scheme. -/
def usualPort? (scheme : String) : Option UInt16 :=
  if scheme = "http" ∨ scheme = "ws" then some 80
  else if scheme = "https" ∨ scheme = "wss" then some 443
  else if scheme = "ftp" then some 21
  else none

/-- Whether a URL of the scheme names a host to connect to. -/
def connects (scheme : String) : Bool :=
  (usualPort? scheme).isSome

/-- Whether the scheme is `http` or `https`. -/
def isWeb (url : Url) : Bool :=
  url.scheme = "http" || url.scheme = "https"

/-- The URL with the path that a text beginning with a slash spells. -/
def withPath (url : Url) (path : List Char) : Url :=
  { url with path := Path.read (connects url.scheme) false (path.drop 1) }

/-- The URL with another query, or with none. -/
def withQuery (url : Url) (query : Option String) : Url :=
  { url with query }

/-- The URL without a fragment. -/
def withoutFragment (url : Url) : Url :=
  { url with fragment := none }

end Url

end PageSweep
