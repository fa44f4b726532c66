import PageSweep.Proofs.Json.Whole
import PageSweep.Proofs.Page.Continuation

/-!
# Cursors That Are Values

A cursor need not be a string. One that is an array, an object or anything else that says
yes is passed on as its compact text, and as long as it has no doubles nothing of it is
lost: the text is JSON again and has the very value that the body had. So different cursors
are never passed on alike.

A double in a cursor is written as a double again, but the decimal text of one is not
looked at here.

## Main definitions

* `Hands`: A body that lets a sweep go on at a cursor.

## Theorems

* `spelled_of_hands`: The cursor is spelled somewhere in the body.
* `value?_text_of_hands`: The text of the cursor has its value.
* `nextCursor_structured`: Cursors are passed on without loss.
-/

namespace PageSweep

namespace Page

open Json Json.Grammar

/-- A body that lets a sweep go on at a cursor: the last members of the two names say yes,
and `cursor` is the second one. -/
def Hands (body : ByteArray) (cursor : Json) : Prop :=
  ∃ entries more, Holds body entries ∧ Last "has_more" entries more ∧ more.SaysYes ∧
    Last "next_cursor" entries cursor ∧ cursor.SaysYes

theorem nextCursor_of_hands (body : ByteArray) (cursor : Json) (h : Hands body cursor)
    (hkind : ∀ s, cursor ≠ .string s) : nextCursor (some body) = some cursor.text := by
  rcases h with ⟨entries, more, hbody, hmore, hyes, hcursor, hgoes⟩
  exact (nextCursor_of_holds body entries hbody cursor.text).mpr
    ⟨more, cursor, hmore, hcursor, hyes, hgoes, Or.inr ⟨hkind, rfl⟩⟩

/-- The cursor is spelled somewhere in the body, inside one container at least. -/
theorem spelled_of_hands (body : ByteArray) (cursor : Json) (h : Hands body cursor) :
    ∃ core, Spells 126 core cursor := by
  rcases h with ⟨entries, -, ⟨text, -, front, core, back, -, hentries, -⟩, -, -, hcursor, -⟩
  exact Reader.spelled_of_entries hentries "next_cursor" cursor (Reader.mem_of_last hcursor)

/-- The text of a cursor without doubles has its value. -/
theorem value?_text_of_hands (body : ByteArray) (cursor : Json) (h : Hands body cursor)
    (hwhole : Whole cursor) : value? cursor.text.toUTF8 = some cursor := by
  rcases spelled_of_hands body cursor h with ⟨core, hcore⟩
  have hread := read?_chars_of_spells cursor hwhole 126 (by decide) core hcore
  rw [value?, Utf8.strict_toUTF8, Option.bind_some, text, String.toList_ofList, hread]

/-- A cursor that is no string and has no doubles is passed on as a text that has its value,
and two such cursors that differ are passed on as two texts that differ. -/
theorem nextCursor_structured (body : ByteArray) (v : Json) (hbody : Hands body v)
    (hkind : ∀ s, v ≠ .string s) (hwhole : Whole v) :
    (∃ c, nextCursor (some body) = some c ∧ value? c.toUTF8 = some v) ∧
    ∀ (other : ByteArray) (w : Json), Hands other w → (∀ s, w ≠ .string s) → Whole w → v ≠ w →
      nextCursor (some body) ≠ nextCursor (some other) := by
  have hpassed := nextCursor_of_hands body v hbody hkind
  have hvalue := value?_text_of_hands body v hbody hwhole
  refine ⟨⟨v.text, hpassed, hvalue⟩, fun other w hother hkind' hwhole' hne hsame => ?_⟩
  rw [hpassed, nextCursor_of_hands other w hother hkind'] at hsame
  -- One text has one value.
  rw [Option.some.inj hsame, value?_text_of_hands other w hother hwhole'] at hvalue
  exact hne (Option.some.inj hvalue).symm

/-- A body hands out a cursor if its value says so. -/
theorem hands_of_value? (body : ByteArray) (members : Catalog Json) (more cursor : Json)
    (hbody : value? body = some (.object members))
    (hmore : members.find? "has_more" = some more) (hyes : more.SaysYes)
    (hcursor : members.find? "next_cursor" = some cursor) (hgoes : cursor.SaysYes) :
    Hands body cursor := by
  rcases (value?_object_iff body members).mp hbody with ⟨entries, hholds, rfl⟩
  have hlast := (Reader.resolved_filed entries).2
  exact ⟨entries, more, hholds, (hlast _ _).mp hmore, hyes, (hlast _ _).mp hcursor, hgoes⟩

/-- A cursor with the greatest and the least whole number and with a control character. -/
def extremes : Json :=
  .object [("a", .string "\x01\""),
    ("b", .array [.number (.int 18446744073709551615), .number (.int (-9223372036854775808))])]

/-- A body with this cursor, in another order and with a name given twice. -/
def extremesBody : String :=
  "\x7b\"has_more\":true, \"next_cursor\":\x7b\"b\":[18446744073709551615,"
    ++ "-9223372036854775808],\"a\":1,\"a\":\"\\u0001\\\"\"\x7d\x7d"

theorem whole_extremes : Whole extremes := by
  refine .object _ fun name v hmem => ?_
  simp only [List.mem_cons, Prod.mk.injEq, List.not_mem_nil, or_false] at hmem
  rcases hmem with ⟨-, rfl⟩ | ⟨-, rfl⟩
  · exact .string _
  · refine .array _ fun v hmem => ?_
    simp only [List.mem_cons, List.not_mem_nil, or_false] at hmem
    rcases hmem with rfl | rfl
    all_goals exact .int _

theorem nextCursor_structured_extremes :
    (∃ c, nextCursor (some extremesBody.toUTF8) = some c ∧ value? c.toUTF8 = some extremes) ∧
    nextCursor (some extremesBody.toUTF8) ≠ nextCursor (some onceNamed.toUTF8) := by
  have hvalue : value? extremesBody.toUTF8
      = some (.object [("has_more", .bool true), ("next_cursor", extremes)]) := by
    rw [value?, Utf8.strict_toUTF8]
    cbv
  have hbody := hands_of_value? _ _ _ extremes hvalue rfl rfl rfl trivial
  have hother := hands_of_value? _ _ _ (.array [.number (.int 1)]) value?_onceNamed rfl trivial
    rfl trivial
  have hkind : ∀ s, extremes ≠ .string s :=
    fun s => by simp only [extremes, ne_eq, reduceCtorEq, not_false_eq_true]
  have hone : Whole (.array [.number (.int 1)]) := by
    refine .array _ fun v hmem => ?_
    rw [List.mem_singleton.mp hmem]
    exact .int 1
  rcases nextCursor_structured extremesBody.toUTF8 extremes hbody hkind whole_extremes with
    ⟨hpassed, hdiffers⟩
  refine ⟨hpassed, hdiffers _ _ hother (fun s => ?_) hone ?_⟩
  · simp only [ne_eq, reduceCtorEq, not_false_eq_true]
  · simp only [extremes, ne_eq, reduceCtorEq, not_false_eq_true]

end Page

end PageSweep
