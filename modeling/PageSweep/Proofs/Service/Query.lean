import PageSweep.Page.Query
import PageSweep.Proofs.Url.Form
import PageSweep.Service.Query

/-!
# What the Service Reads in a Page Request

The parameters that a page request writes into its query are those that the service
reads out of it: the page size, both ends of the window, and the cursor if there is
one.

## Theorems

* `readLimit_toString`: A page size reads back.
* `addAll_pairs`: The parameters of a page request, taken one after another.
* `decode_pairs`: The parameters that the service reads in a page request.
-/

namespace PageSweep

namespace Service

namespace Query

theorem readLimit_toString (n : Nat) (hn : n < 0x10000000000000000) :
    readLimit (toString n) = .ok (UInt64.ofNat n) := by
  have hread := Numeral.read_padded 10 0x10000000000000000 (by decide) (by decide) 0 n hn
  have hdigits : (toString n).toList = Nat.toDigits 10 n := Nat.toList_repr
  rw [List.replicate_zero, List.nil_append] at hread
  rw [readLimit, hdigits, hread]

/-- The parameters of a page request. -/
def ofPage (query : Page.Query) : Query :=
  ⟨some (UInt64.ofNat query.limit.val), some query.window.start, some query.window.stop,
    query.cursor⟩

theorem add_limit (q : Query) (n : Nat) (hn : n < 0x10000000000000000) (hq : q.limit = none) :
    q.add "limit" (toString n) = .ok { q with limit := some (UInt64.ofNat n) } := by
  rw [add, if_pos rfl, hq, readLimit_toString n hn]
  rfl

theorem add_timeFrom (q : Query) (value : String) (hq : q.timeFrom = none) :
    q.add "time_from" value = .ok { q with timeFrom := some value } := by
  rw [add, if_neg (by decide), if_pos rfl, hq]
  rfl

theorem add_timeTo (q : Query) (value : String) (hq : q.timeTo = none) :
    q.add "time_to" value = .ok { q with timeTo := some value } := by
  rw [add, if_neg (by decide), if_neg (by decide), if_pos rfl, hq]
  rfl

theorem add_cursor (q : Query) (value : String) (hq : q.cursor = none) :
    q.add "cursor" value = .ok { q with cursor := some value } := by
  rw [add, if_neg (by decide), if_neg (by decide), if_neg (by decide), if_pos rfl, hq]
  rfl

/-- Going on after a pair that could be added. -/
theorem addAll_cons (q next : Query) (name value : String) (rest : List (String × String))
    (h : q.add name value = .ok next) : q.addAll ((name, value) :: rest) = next.addAll rest := by
  rw [addAll, h]

theorem addAll_pairs (query : Page.Query) : empty.addAll query.pairs = .ok (ofPage query) := by
  have hlimit : query.limit.val < 0x10000000000000000 := by
    have h := query.limit.lt
    omega
  rcases query with ⟨limit, window, cursor⟩
  unfold Page.Query.pairs
  -- No parameter comes twice, so each is added to a query that lacks it.
  refine (addAll_cons _ _ _ _ _ (add_limit empty limit.val hlimit rfl)).trans ?_
  refine (addAll_cons _ _ _ _ _ (add_timeFrom _ window.start rfl)).trans ?_
  refine (addAll_cons _ _ _ _ _ (add_timeTo _ window.stop rfl)).trans ?_
  cases cursor with
  | none => rfl
  | some cursor => exact addAll_cons _ _ _ _ _ (add_cursor _ cursor rfl)

theorem decode_pairs (query : Page.Query) :
    decode (String.ofList (Form.encode query.pairs)) = .ok (ofPage query) := by
  rw [decode, String.toList_ofList, Form.decode_encode, addAll_pairs]

end Query

end Service

end PageSweep
