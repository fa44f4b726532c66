import Mathlib
import PageSweep.Page.Cursor
import PageSweep.Proofs.Json.Recognition
import PageSweep.Proofs.Stats.Order
import PageSweep.Proofs.Text.Utf8

/-!
# When a Sweep Goes On

A body lets a sweep go on if and only if it is well-formed text that is one JSON object,
and the last member named `has_more` and the last one named `next_cursor` are both there
and both say yes. The sweep then goes on at the string of the cursor, or at the compact
text of a cursor that is no string, and neither is ever empty.

No other member has an influence, wherever it stands and whatever its value is, and
neither have the blanks. A name counts by its characters, so it makes no difference
whether they are escaped.

## Main definitions

* `SaysYes`: Whether a value says yes, by its kind.
* `PassedOn`: The text under which a cursor is passed on.
* `Holds`: A body that is an object, with its members as they stand there.

## Theorems

* `truthy_iff`: The values that say yes.
* `value?_eq_some_iff`: The bodies that have a value.
* `nextCursor_of_holds`: What a body that is an object gives.
* `text_ne_empty`: No value has an empty text.
* `nextCursor_iff`: The bodies that let a sweep go on.
-/

namespace PageSweep

namespace Json

/-- Whether a value says yes: null, false, the empty string and zeros do not. A literal
so small that its double is zero is a zero, with or without a sign. -/
def SaysYes : Json → Prop
  | .null => False
  | .bool b => b = true
  | .number (.int n) => n ≠ 0
  | .number (.float x) => x ≠ 0.0 ∧ x ≠ -0.0
  | .string s => s ≠ ""
  | .array _ => True
  | .object _ => True

/-- The text under which a cursor is passed on: a string as it is, any other value as its
compact text. -/
def PassedOn (cursor : Json) (text : String) : Prop :=
  cursor = .string text ∨ (∀ s, cursor ≠ .string s) ∧ text = cursor.text

/-- The doubles that are zero are the two zeros. -/
theorem bne_zero_iff (x : Float) (hx : Decimal.isFinite x = true) :
    (x != 0) = true ↔ x ≠ 0.0 ∧ x ≠ -0.0 := by
  rw [← not_or, bne, Bool.not_eq_true', ← Bool.not_eq_true, Decimal.beq_zero_iff_bits x hx]
  refine not_congr ⟨fun h => ?_, ?_⟩
  · cases hsign : Decimal.signBit x with
    | false => exact Or.inl (Stats.eq_zero_of_bits x hsign h)
    | true => exact Or.inr (Stats.eq_neg_zero_of_bits x hsign h)
  · rintro (rfl | rfl)
    all_goals decide

/-- The values that say yes. A double in a text is always finite. -/
theorem truthy_iff (depth : Nat) (core : List Char) (v : Json)
    (hcore : Grammar.Spells depth core v) : v.truthy = true ↔ v.SaysYes := by
  cases v with
  | null => exact iff_of_false Bool.false_ne_true not_false
  | bool b => exact Iff.rfl
  | number n =>
      cases n with
      | int n => exact bne_iff_ne
      | float x =>
          rw [Grammar.Spells] at hcore
          rcases hcore with ⟨l, -, hmeans, -⟩
          exact bne_zero_iff x (Reader.isFinite_of_means l x hmeans)
  | string s => exact bne_iff_ne
  | array items => exact iff_of_true rfl trivial
  | object members => exact iff_of_true rfl trivial

theorem write_ne_empty (style : Decimal.Style) (d : Decimal.Digits) : style.write d ≠ "" := by
  unfold Decimal.Style.write
  simp only []
  split
  · -- There is a point in the positional form and an `e` in the other one.
    unfold Decimal.positional
    split
    · exact fun h => absurd (String.append_eq_empty_iff.mp h).2 (by decide)
    · exact fun h => absurd (String.append_eq_empty_iff.mp (String.append_eq_empty_iff.mp h).1).2
        (by decide)
  · unfold Decimal.scientific
    intro h
    have hmark := String.append_eq_empty_iff.mp (String.append_eq_empty_iff.mp
      (String.append_eq_empty_iff.mp h).1).1
    exact absurd hmark.2 (by decide)

theorem number_ne_nil (n : Number) : Writer.number n ≠ [] := by
  cases n with
  | int n =>
      rcases Reader.number_head n with ⟨c, rest, heq, -⟩
      rw [heq]
      exact List.cons_ne_nil c rest
  | float x =>
      rw [Writer.number, Ne, String.toList_eq_nil_iff, Decimal.text?]
      split
      · rw [Option.getD_some, String.append_eq_empty_iff]
        exact fun h => write_ne_empty _ _ h.2
      · decide

/-- No value has an empty text. -/
theorem text_ne_empty (v : Json) : v.text ≠ "" := by
  rw [text, Ne, String.ofList_eq_empty_iff]
  cases v with
  | null => rw [chars]; exact List.cons_ne_nil _ _
  | bool b => cases b <;> rw [chars] <;> exact List.cons_ne_nil _ _
  | number n => rw [chars]; exact number_ne_nil n
  | string s => rw [chars]; exact List.cons_ne_nil _ _
  | array items => rw [chars_array]; exact List.cons_ne_nil _ _
  | object members => rw [chars_object]; exact List.cons_ne_nil _ _

theorem passedOn_iff (cursor : Json) (c : String) :
    PassedOn cursor c ↔ Page.cursorText cursor = c := by
  unfold PassedOn
  cases cursor with
  | string s =>
      constructor
      · rintro (h | ⟨h, -⟩)
        · exact Json.string.inj h
        · exact absurd rfl (h s)
      · intro h
        exact Or.inl (congrArg Json.string h)
  | null | bool _ | number _ | array _ | object _ =>
      constructor
      · rintro (h | ⟨-, h⟩)
        · exact absurd h (by simp only [reduceCtorEq, not_false_eq_true])
        · exact h.symm
      · intro h
        exact Or.inr ⟨fun s => by simp only [ne_eq, reduceCtorEq, not_false_eq_true], h.symm⟩

/-- A cursor that says yes is passed on under a text. -/
theorem passedOn_ne_empty (cursor : Json) (c : String) (hyes : cursor.SaysYes)
    (h : PassedOn cursor c) : c ≠ "" := by
  rcases h with rfl | ⟨-, rfl⟩
  · exact hyes
  · exact text_ne_empty cursor

end Json

namespace Page

open Json Json.Grammar

/-- A body that is an object, with its members as they stand there. -/
def Holds (body : ByteArray) (entries : List (String × Json)) : Prop :=
  ∃ text : String, body = text.toUTF8 ∧ ObjectText text.toList entries

theorem value?_eq_some_iff (body : ByteArray) (v : Json) :
    value? body = some v ↔ ∃ text : String, body = text.toUTF8 ∧ Document text.toList v := by
  rw [value?, Option.bind_eq_some_iff]
  exact exists_congr fun text => and_congr (Utf8.strict_eq_some_iff body text)
    (read?_eq_some_iff text.toList v)

/-- A body that is an object has one value, however often its members are given. -/
theorem value?_object_iff (body : ByteArray) (members : Catalog Json) :
    value? body = some (.object members) ↔
      ∃ entries, Holds body entries ∧ members = Reader.filed entries := by
  rw [value?_eq_some_iff]
  constructor
  · rintro ⟨text, rfl, front, core, back, hfront, hcore, hback, htext⟩
    rw [Spells] at hcore
    rcases hcore with ⟨entries, hentries, hresolved⟩
    exact ⟨entries, ⟨text, rfl, front, core, back, hfront, hentries, hback, htext⟩,
      (Reader.resolved_iff entries members).mp hresolved⟩
  · rintro ⟨entries, ⟨text, rfl, front, core, back, hfront, hentries, hback, htext⟩, rfl⟩
    refine ⟨text, rfl, front, core, back, hfront, ?_, hback, htext⟩
    rw [Spells]
    exact ⟨entries, hentries, Reader.resolved_filed entries⟩

theorem truthy_of_last (body : ByteArray) (entries : List (String × Json)) (name : String)
    (v : Json) (hbody : Holds body entries) (hlast : Last name entries v) :
    v.truthy = true ↔ v.SaysYes := by
  rcases hbody with ⟨text, -, front, core, back, -, hentries, -⟩
  rcases Reader.spelled_of_entries hentries name v (Reader.mem_of_last hlast) with ⟨value, hvalue⟩
  exact truthy_iff 126 value v hvalue

/-- The member that counts says yes if it is there and the last one of its name does. -/
theorem truthy_member_iff (body : ByteArray) (entries : List (String × Json)) (name : String)
    (hbody : Holds body entries) :
    (member name (Reader.filed entries)).truthy = true ↔
      ∃ v, Last name entries v ∧ v.SaysYes := by
  have hfound := (Reader.resolved_filed entries).2 name
  cases hv : (Reader.filed entries).find? name with
  | none =>
      rw [member, hv, Option.getD_none]
      refine iff_of_false Bool.false_ne_true ?_
      rintro ⟨v, hlast, -⟩
      rw [(hfound v).mpr hlast] at hv
      exact absurd hv (by simp only [reduceCtorEq, not_false_eq_true])
  | some v =>
      have hlast := (hfound v).mp hv
      rw [member, hv, Option.getD_some, truthy_of_last body entries name v hbody hlast]
      constructor
      · exact fun hyes => ⟨v, hlast, hyes⟩
      · rintro ⟨w, hw, hyes⟩
        rw [(hfound w).mpr hw] at hv
        rw [← Option.some.inj hv]
        exact hyes

theorem member_of_last (entries : List (String × Json)) (name : String) (v : Json)
    (h : Last name entries v) : member name (Reader.filed entries) = v := by
  rw [member, ((Reader.resolved_filed entries).2 name v).mpr h, Option.getD_some]

/-- What a body that is an object gives. -/
theorem nextCursor_of_holds (body : ByteArray) (entries : List (String × Json))
    (hbody : Holds body entries) (c : String) :
    nextCursor (some body) = some c ↔
      ∃ more cursor, Last "has_more" entries more ∧ Last "next_cursor" entries cursor ∧
        more.SaysYes ∧ cursor.SaysYes ∧ PassedOn cursor c := by
  have hvalue : value? body = some (.object (Reader.filed entries)) :=
    (value?_object_iff body _).mpr ⟨entries, hbody, rfl⟩
  rw [nextCursor, Option.bind_some, hvalue, Option.bind_some, cursorOf]
  simp only [Bool.and_eq_true, truthy_member_iff body entries _ hbody,
    Option.ite_none_right_eq_some, Option.some.injEq]
  constructor
  · rintro ⟨⟨⟨more, hmore, hyes⟩, cursor, hcursor, hgoes⟩, htext⟩
    rw [member_of_last entries _ cursor hcursor] at htext
    exact ⟨more, cursor, hmore, hcursor, hyes, hgoes, (passedOn_iff cursor c).mpr htext⟩
  · rintro ⟨more, cursor, hmore, hcursor, hyes, hgoes, htext⟩
    refine ⟨⟨⟨more, hmore, hyes⟩, cursor, hcursor, hgoes⟩, ?_⟩
    rw [member_of_last entries _ cursor hcursor]
    exact (passedOn_iff cursor c).mp htext

/-- Only a body that is an object lets a sweep go on. -/
theorem exists_holds (body : ByteArray) (c : String) (h : nextCursor (some body) = some c) :
    ∃ entries, Holds body entries := by
  rw [nextCursor, Option.bind_some, Option.bind_eq_some_iff] at h
  rcases h with ⟨v, hv, hcursor⟩
  cases v with
  | object members =>
      rcases (value?_object_iff body members).mp hv with ⟨entries, hbody, -⟩
      exact ⟨entries, hbody⟩
  | null | bool _ | number _ | string _ | array _ =>
      exact absurd hcursor (by simp only [cursorOf, reduceCtorEq, not_false_eq_true])

/-- The bodies that let a sweep go on, and where: those that are an object whose last
`has_more` and last `next_cursor` say yes. Nothing else in a body has an influence. -/
theorem nextCursor_iff :
    (∀ (body : ByteArray) (c : String), nextCursor (some body) = some c ↔
      ∃ entries more cursor, Holds body entries ∧ Last "has_more" entries more ∧
        Last "next_cursor" entries cursor ∧ more.SaysYes ∧ cursor.SaysYes ∧
        PassedOn cursor c) ∧
    (∀ (body : ByteArray) (c : String), nextCursor (some body) = some c → c ≠ "") ∧
    ∀ (body other : ByteArray) (entries others : List (String × Json)), Holds body entries →
      Holds other others →
      (∀ name ∈ ["has_more", "next_cursor"], ∀ v, Last name entries v ↔ Last name others v) →
      nextCursor (some body) = nextCursor (some other) := by
  have hiff : ∀ (body : ByteArray) (c : String), nextCursor (some body) = some c ↔
      ∃ entries more cursor, Holds body entries ∧ Last "has_more" entries more ∧
        Last "next_cursor" entries cursor ∧ more.SaysYes ∧ cursor.SaysYes ∧
        PassedOn cursor c := by
    intro body c
    constructor
    · intro h
      rcases exists_holds body c h with ⟨entries, hbody⟩
      rcases (nextCursor_of_holds body entries hbody c).mp h with ⟨more, cursor, hgoes⟩
      exact ⟨entries, more, cursor, hbody, hgoes⟩
    · rintro ⟨entries, more, cursor, hbody, hgoes⟩
      exact (nextCursor_of_holds body entries hbody c).mpr ⟨more, cursor, hgoes⟩
  refine ⟨hiff, fun body c h => ?_, fun body other entries others hbody hother hsame => ?_⟩
  · rcases (hiff body c).mp h with ⟨entries, more, cursor, -, -, -, -, hyes, htext⟩
    exact passedOn_ne_empty cursor c hyes htext
  · refine Option.ext fun c => ?_
    rw [nextCursor_of_holds body entries hbody, nextCursor_of_holds other others hother]
    simp only [hsame "has_more" List.mem_cons_self,
      hsame "next_cursor" (List.mem_cons_of_mem _ List.mem_cons_self)]

/-- A body that names each of its members twice, once with an escape. -/
def twiceNamed : String :=
  "\x7b\"has_more\":0,\"\\u0068as_more\":[], \"next_cursor\":\"old\",\"next_cursor\":[1]\x7d"

/-- A body with the same last members in another order, among others. -/
def onceNamed : String :=
  "\x7b\"next_cursor\" : [1],\"note\":null,\"has_more\":[]\x7d\n"

theorem value?_onceNamed : value? onceNamed.toUTF8
    = some (.object [("has_more", .array []), ("next_cursor", .array [.number (.int 1)]),
      ("note", .null)]) := by
  rw [value?, Utf8.strict_toUTF8]
  cbv

theorem nextCursor_iff_twice :
    (∃ entries more cursor, Holds twiceNamed.toUTF8 entries ∧ Last "has_more" entries more ∧
      Last "next_cursor" entries cursor ∧ more.SaysYes ∧ cursor.SaysYes ∧
      PassedOn cursor "[1]") ∧
    "[1]" ≠ "" ∧ nextCursor (some onceNamed.toUTF8) = some "[1]" := by
  have hgoes : nextCursor (some twiceNamed.toUTF8) = some "[1]" := by decide +kernel
  have htwice : value? twiceNamed.toUTF8
      = some (.object [("has_more", .array []), ("next_cursor", .array [.number (.int 1)])]) := by
    rw [value?, Utf8.strict_toUTF8]
    cbv
  rcases (value?_object_iff _ _).mp htwice with ⟨entries, hbody, hmembers⟩
  rcases (value?_object_iff _ _).mp value?_onceNamed with ⟨others, hother, hsame⟩
  refine ⟨(nextCursor_iff.1 _ _).mp hgoes, nextCursor_iff.2.1 _ _ hgoes, ?_⟩
  rw [← nextCursor_iff.2.2 _ _ entries others hbody hother fun name hname v => ?_]
  · exact hgoes
  · -- The last member of a name is the one that the value has.
    rw [← (Reader.resolved_filed entries).2, ← (Reader.resolved_filed others).2, ← hmembers,
      ← hsame]
    rcases List.mem_cons.mp hname with rfl | hname
    · exact Iff.rfl
    · rw [List.mem_singleton.mp hname]
      exact Iff.rfl

end Page

end PageSweep
