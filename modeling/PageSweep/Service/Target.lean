import PageSweep.Text.Pieces

/-!
# Request Targets

A request names what it asks for by a path and perhaps a query after a question mark.
A whole URL may stand there too, of which scheme and authority do not matter; without
a path it asks for `/`. A fragment is dropped.

## Main definitions

* `Service.Target`: A path and a query.
* `Service.Target.read`: The target that a text spells.
-/

namespace PageSweep

namespace Service

/-- What a request asks for. -/
structure Target where
  path : String
  query : Option String
  deriving DecidableEq, Repr

namespace Target

/-- The text without scheme and authority. -/
def withoutAuthority (text : List Char) : List Char :=
  match text with
  | '/' :: _ => text
  | _ =>
    match (Text.cut? ':' text).map Prod.snd with
    | some ('/' :: '/' :: rest) =>
      match rest.dropWhile fun c => c != '/' && c != '?' with
      | '/' :: path => '/' :: path
      | rest => '/' :: rest
    | _ => text

/-- The target that a text spells. -/
def read (text : String) : Target :=
  let text := withoutAuthority (text.toList.takeWhile (· != '#'))
  match Text.cut? '?' text with
  | some (path, query) => ⟨String.ofList path, some (String.ofList query)⟩
  | none => ⟨String.ofList text, none⟩

end Target

end Service

end PageSweep
