/-!
# Cutting Text

Paths, queries, host names and addresses are lists written with a separator
between their members.

## Main definitions

* `Text.pieces`: The pieces between the separators of a text.
* `Text.cut?`: The two sides of the first place where a separator stands.
-/

namespace PageSweep

namespace Text

/-- The pieces between the characters that `cut` picks, one more than there are
of those. -/
def pieces (cut : Char → Bool) : List Char → List (List Char)
  | [] => [[]]
  | c :: rest =>
    if cut c then [] :: pieces cut rest
    else match pieces cut rest with
      | [] => [[c]]
      | first :: more => (c :: first) :: more

/-- What stands before and after the first `mark`. -/
def cut? (mark : Char) (text : List Char) : Option (List Char × List Char) :=
  match text.dropWhile (· != mark) with
  | [] => none
  | _ :: after => some (text.takeWhile (· != mark), after)

/-- What stands before and after the first pair `a b`. -/
def cutPair? (a b : Char) : List Char → Option (List Char × List Char)
  | [] => none
  | x :: rest =>
    match rest with
    | [] => none
    | y :: after =>
      if x = a ∧ y = b then some ([], after)
      else (cutPair? a b rest).map fun (before, after) => (x :: before, after)

end Text

end PageSweep
