import PageSweep.Url

/-!
# Reading URLs

A URL is read leniently, the way browsers read an address: blanks around it and
tabs and line breaks inside it are ignored, backslashes count as slashes in the
schemes of the web and of files, and any number of slashes may follow such a
scheme. What a part cannot hold is percent-encoded.

## Main definitions

* `Url.read`: The URL that a text spells.
-/

namespace PageSweep

namespace Url

namespace Reader

/-- The text without blanks and controls around it, and without tabs and line
breaks anywhere. -/
def cleaned (text : List Char) : List Char :=
  let isEdge (c : Char) : Bool := c.toNat ≤ 0x20
  let inner := ((text.dropWhile isEdge).reverse.dropWhile isEdge).reverse
  inner.filter fun c => c != '\t' && c != '\n' && c != '\r'

/-- The scheme in lower case and what follows its colon. -/
def scheme? (text : List Char) : Option (String × List Char) :=
  match text with
  | [] => none
  | first :: _ =>
    let inScheme (c : Char) : Bool := c.isAlphanum || c = '+' || c = '-' || c = '.'
    match first.isAlpha, text.dropWhile inScheme with
    | true, ':' :: rest =>
      some (String.ofList ((text.takeWhile inScheme).map Char.toLower), rest)
    | _, _ => none

/-- Whether a character ends the authority. -/
def endsAuthority (special : Bool) (c : Char) : Bool :=
  c = '/' || c = '?' || c = '#' || (special && c = '\\')

/-- User name and password: the password begins after the first colon, and an empty
one is none. -/
def credentials (text : List Char) : String × Option String :=
  let written (part : List Char) := String.ofList (Percent.encode Percent.inUserinfo part)
  match Text.cut? ':' text with
  | none => (written text, none)
  | some (user, []) => (written user, none)
  | some (user, password) => (written user, some (written password))

/-- The text before the last `@` and the text after it. -/
def splitUserinfo (authority : List Char) : Option (List Char × List Char) :=
  (Text.cut? '@' authority.reverse).map fun (after, before) => (before.reverse, after.reverse)

/-- The host text, up to a colon outside brackets. -/
def hostText (inside : Bool) : List Char → List Char
  | [] => []
  | c :: rest =>
    if c = ':' ∧ !inside then []
    else c :: hostText (if c = '[' then true else if c = ']' then false else inside) rest

/-- Digits of a port, up to the end or the path. -/
def port (usual : Option UInt16) (text : List Char) :
    Except Fault (Option UInt16 × List Char) :=
  let digits := text.takeWhile Char.isDigit
  let rest := text.dropWhile Char.isDigit
  let n := Numeral.decimal digits
  if 65535 < n then .error .port
  else
    let ended := match rest with
      | [] => true
      | c :: _ => c = '/' || c = '\\' || c = '?' || c = '#'
    if !ended then .error .port
    else if digits.isEmpty ∨ usual = some (UInt16.ofNat n) then .ok (none, rest)
    else .ok (some (UInt16.ofNat n), rest)

/-- User name and password of an authority, and what is left of it. -/
def userinfo (whole after : List Char) :
    Except Fault ((String × Option String) × List Char) :=
  match splitUserinfo whole with
  | none => .ok (("", none), whole)
  | some ([], rest) =>
    if rest.isEmpty ∧ !after.isEmpty then .error .emptyHost else .ok (("", none), rest)
  | some (text, rest) => .ok (credentials text, rest)

/-- A host, and what follows it in its authority. -/
def host (idna : Idna) (special : Bool) (text : List Char) :
    Except Fault (Host × List Char) := do
  let name := hostText false text
  if special ∧ name.isEmpty then throw .emptyHost
  let host ← if special then Host.readDomain idna name else Host.readAny name
  return (host, text.drop name.length)

/-- The authority after its two slashes, and what follows it. -/
def authority (idna : Idna) (scheme : String) (text : List Char) :
    Except Fault (Authority × List Char) := do
  let special := connects scheme
  let whole := text.takeWhile (!endsAuthority special ·)
  let after := text.dropWhile (!endsAuthority special ·)
  let ((username, password), rest) ← userinfo whole after
  let (host, rest) ← host idna special rest
  if host.isEmpty ∧ rest.head? = some ':' then throw .emptyHost
  if host.isEmpty ∧ (password.isSome ∨ !username.isEmpty) then throw .emptyHost
  match rest with
  | ':' :: digits =>
    let (port, rest) ← port (usualPort? scheme) (digits ++ after)
    return (⟨username, password, host, port⟩, rest)
  | _ => return (⟨username, password, host, none⟩, rest ++ after)

/-- Query and fragment, from their delimiters on. -/
def queryAndFragment (web : Bool) (text : List Char) : Option String × Option String :=
  let fragment (text : List Char) := String.ofList (Percent.encode Percent.inFragment text)
  let query (text : List Char) := String.ofList (Percent.encode (Percent.inQuery web) text)
  match text with
  | '?' :: rest =>
    match Text.cut? '#' rest with
    | none => (some (query rest), none)
    | some (q, f) => (some (query q), some (fragment f))
  | '#' :: rest => (none, some (fragment rest))
  | _ => (none, none)

/-- Whether a character ends the path. -/
def endsPath (c : Char) : Bool :=
  c = '?' || c = '#'

/-- The URL of its parts, with the query and the fragment still to be read. -/
def finish (scheme : String) (special : Bool) (authority : Option Authority) (path : Path)
    (text : List Char) : Url :=
  let (query, fragment) := queryAndFragment special (text.dropWhile (!endsPath ·))
  { scheme, authority, path, query, fragment }

/-- The path after an authority. The special schemes always have a path. -/
def pathAfter (special : Bool) (text : List Char) : Path :=
  match text.takeWhile (!endsPath ·) with
  | [] => if special then Path.read special false [] else .segments []
  | c :: rest =>
    Path.read special false (if Path.isSeparator special c then rest else c :: rest)

/-- A URL of a scheme that connects to a host. -/
def connecting (idna : Idna) (scheme : String) (text : List Char) : Except Fault Url := do
  let (authority, rest) ← authority idna scheme (text.dropWhile (Path.isSeparator true ·))
  return finish scheme true (some authority) (pathAfter true rest) rest

/-- A URL of a scheme without rules of its own. -/
def general (idna : Idna) (scheme : String) (text : List Char) : Except Fault Url := do
  match text with
  | '/' :: '/' :: rest =>
    let (authority, rest) ← authority idna scheme rest
    return finish scheme false (some authority) (pathAfter false rest) rest
  | '/' :: rest =>
    return finish scheme false none (Path.read false false (rest.takeWhile (!endsPath ·))) rest
  | rest =>
    let opaqueText := Percent.encode Percent.visible (rest.takeWhile (!endsPath ·))
    return finish scheme false none (.verbatim (String.ofList opaqueText)) rest

/-- The host of a file URL; this machine has no name. -/
def fileHost (idna : Idna) (text : List Char) : Except Fault (Option Host) :=
  if text.isEmpty then .ok none
  else do
    match ← Host.readDomain idna text with
    | .name "localhost" => return none
    | host => return some host

/-- A file URL of its host, if it has one, and the text that holds the path. A path that
begins with a drive letter has no host. -/
def onHost (host : Option Host) (text : List Char) : Url :=
  let path := text.takeWhile (!endsPath ·)
  let host := if Path.beginsWithDrive path then none else host
  finish "file" true (some ⟨"", none, host.getD (.name ""), none⟩) (Path.read true true path) text

/-- The text after a slash in front. -/
def afterSlash : List Char → List Char
  | [] => []
  | c :: rest => if Path.isSeparator true c then rest else c :: rest

/-- A file URL after its two slashes. A drive letter may stand where a host does. The
slash after a host belongs to the path unless the host has a name. -/
def fileAuthority (idna : Idna) (text : List Char) : Except Fault Url := do
  let host := text.takeWhile (!endsAuthority true ·)
  let rest := text.dropWhile (!endsAuthority true ·)
  if Path.isDrive host then return onHost none text
  match ← fileHost idna host with
  | none => return onHost none rest
  | some host => return onHost (some host) (afterSlash rest)

/-- A file URL. -/
def file (idna : Idna) (text : List Char) : Except Fault Url :=
  match text with
  | a :: b :: rest =>
    if Path.isSeparator true a ∧ Path.isSeparator true b then fileAuthority idna rest
    else .ok (onHost none (afterSlash text))
  | _ => .ok (onHost none (afterSlash text))

end Reader

/-- The URL that a text spells. -/
def read (idna : Idna) (text : String) : Except Fault Url :=
  match Reader.scheme? (Reader.cleaned text.toList) with
  | none => .error .relative
  | some (scheme, rest) =>
    if scheme = "file" then Reader.file idna rest
    else if connects scheme then Reader.connecting idna scheme rest
    else Reader.general idna scheme rest

end Url

end PageSweep
