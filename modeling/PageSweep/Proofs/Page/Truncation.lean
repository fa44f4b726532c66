import PageSweep.Proofs.Page.Continuation
import PageSweep.Proofs.Sweep.Unrolled
import PageSweep.Proofs.Text.Cut

/-!
# A Body That Is Cut Off

A reply may be cut off at any byte. If the whole body lets a sweep go on, then a
beginning of it does so only if it has the closing brace, and then with the same cursor,
because nothing but blanks is missing. A cursor that has already arrived in full does not
help: the sweep ends on the page that was cut off.

The reason is that a reader stops at the closing brace of an object without looking
further. Were a beginning of an object an object too, then the reader would stop at both
braces of the same text. Inside a character there is no text at all.

## Main definitions

* `ClosesAt`: Where the closing brace of a body is.

## Theorems

* `prefix_of_objectText`: No object is the beginning of another one.
* `nextCursor_extract_of_le`: A body without its closing brace.
* `holds_extract_of_lt`: A body with its closing brace.
* `nextCursor_extract`: A body that is cut off anywhere.
-/

namespace PageSweep

namespace Page

open Json Json.Grammar

/-- A body is an object, and its closing brace is byte `brace`, counted from zero: up to it
and with it there are one more. -/
def ClosesAt (body : ByteArray) (brace : Nat) : Prop :=
  ∃ front core back entries, Blank front ∧
    Bracketed (Entry (Spells 126)) '{' '}' core entries ∧ Blank back ∧
    body = (String.ofList (front ++ (core ++ back))).toUTF8 ∧
    (String.ofList (front ++ core)).toUTF8.size = brace + 1

/-- No object is the beginning of another one: a beginning of a text that is an object has
the closing brace of every object with which the text begins. -/
theorem prefix_of_objectText (front core back text : List Char)
    (entries others : List (String × Json)) (hfront : Blank front)
    (hcore : Bracketed (Entry (Spells 126)) '{' '}' core entries)
    (hbegins : text <+: front ++ (core ++ back)) (hobject : ObjectText text others) :
    front ++ core <+: text := by
  rcases hobject with ⟨blanks, object, rest, hblanks, hobject, -, rfl⟩
  rcases hbegins with ⟨more, hmore⟩
  -- Both objects are read in the same text, and what is left of it cannot differ.
  let size := core.length + object.length
  have hread := Reader.object_complete size 126 (Reader.value_complete size 126) front core back
    entries hfront hcore (Nat.le_add_right _ _)
  have hother := Reader.object_complete size 126 (Reader.value_complete size 126) blanks object
    (rest ++ more) others hblanks hobject (Nat.le_add_left _ _)
  simp only [List.append_assoc] at hmore
  rw [← hmore, hother] at hread
  have hrest : rest ++ more = back := (Prod.mk.inj (Option.some.inj hread)).2
  rw [← hrest, ← List.append_assoc, ← List.append_assoc front] at hmore
  rw [← List.append_cancel_right hmore, ← List.append_assoc]
  exact List.prefix_append _ rest

theorem closesAt_of_holds (body : ByteArray) (entries : List (String × Json))
    (h : Holds body entries) : ∃ brace, ClosesAt body brace := by
  rcases h with ⟨text, rfl, front, core, back, hfront, hcore, hback, htext⟩
  rcases hcore with ⟨inner, hinner, rfl⟩
  have hclosing : (String.ofList (front ++ '{' :: (inner ++ ['}']))).toUTF8.size
      = (String.ofList (front ++ '{' :: inner)).toUTF8.size + 1 := by
    rw [← List.cons_append, ← List.append_assoc, Utf8.size_append]
    rfl
  refine ⟨_, front, _, back, entries, hfront, ⟨inner, hinner, rfl⟩, hback, ?_, hclosing⟩
  rw [← htext, String.ofList_toList]

theorem size_of_closesAt (body : ByteArray) (brace : Nat) (h : ClosesAt body brace) :
    brace < body.size := by
  rcases h with ⟨front, core, back, entries, -, -, -, rfl, hsize⟩
  rw [← List.append_assoc, Utf8.size_append, hsize]
  omega

/-- Without its closing brace a body is no object, even if it is well formed. -/
theorem nextCursor_extract_of_le (body : ByteArray) (brace n : Nat) (hcloses : ClosesAt body brace)
    (hn : n ≤ brace) : nextCursor (some (body.extract 0 n)) = none := by
  rcases hcloses with ⟨front, core, back, entries, hfront, hcore, -, rfl, hsize⟩
  refine Option.eq_none_iff_forall_ne_some.mpr fun c h => ?_
  rcases exists_holds _ c h with ⟨others, text, htext, hobject⟩
  have hbegins := Utf8.prefix_of_extract _ text n htext
  rw [String.toList_ofList] at hbegins
  rcases prefix_of_objectText front core back text.toList entries others hfront hcore hbegins
    hobject with ⟨rest, hrest⟩
  -- What is left would have to be longer than where it was cut off.
  have hlong : brace + 1 ≤ text.toUTF8.size := by
    rw [← String.ofList_toList (s := text), ← hrest, Utf8.size_append, hsize]
    omega
  have hshort : text.toUTF8.size ≤ n := by
    rw [← htext, ByteArray.size_extract]
    omega
  omega

theorem utf8Size_of_blank (text : List Char) (h : Blank text) : ∀ c ∈ text, c.utf8Size = 1 := by
  intro c hc
  rcases h c hc with h | h | h | h
  all_goals
    rw [h]
    rfl

/-- With its closing brace a body has all of its members, and only blanks are missing. -/
theorem holds_extract_of_lt (body : ByteArray) (brace n : Nat) (hcloses : ClosesAt body brace)
    (hn : brace < n) :
    ∃ entries blanks, Holds body entries ∧ Holds (body.extract 0 n) entries ∧ Blank blanks ∧
      body = body.extract 0 n ++ (String.ofList blanks).toUTF8 := by
  rcases hcloses with ⟨front, core, back, entries, hfront, hcore, hback, rfl, hsize⟩
  -- The cut falls among the blanks behind the brace, which have one byte each.
  have hcut := Utf8.extract_append (front ++ core) back (utf8Size_of_blank back hback) n
    (by omega)
  rw [List.append_assoc, hsize, List.append_assoc] at hcut
  have hkept : Blank (back.take (n - (brace + 1))) :=
    fun c hc => hback c (List.mem_of_mem_take hc)
  have hlost : Blank (back.drop (n - (brace + 1))) :=
    fun c hc => hback c (List.mem_of_mem_drop hc)
  refine ⟨entries, _, ⟨_, rfl, front, core, back, hfront, hcore, hback, String.toList_ofList⟩,
    ⟨_, hcut, front, core, _, hfront, hcore, hkept, String.toList_ofList⟩, hlost, ?_⟩
  rw [hcut]
  simp only [String.toUTF8_eq_toByteArray, ← String.toByteArray_append, ← String.ofList_append,
    List.append_assoc, List.take_append_drop]

/-- A body that lets a sweep go on, cut off after `n` bytes: without its closing brace it ends
every sweep on the page that it is the reply of, and with it nothing has changed. -/
theorem nextCursor_extract (body : ByteArray) (c : String) (h : nextCursor (some body) = some c) :
    (∃ brace, ClosesAt body brace) ∧ ∀ brace, ClosesAt body brace → brace < body.size ∧
      (∀ n ≤ brace, nextCursor (some (body.extract 0 n)) = none) ∧
      (∀ n > brace, nextCursor (some (body.extract 0 n)) = some c ∧
        ∃ blanks, Blank blanks ∧ body = body.extract 0 n ++ (String.ofList blanks).toUTF8) ∧
      ∀ n ≤ brace, ∀ (σ : Type) (serve : σ → Url → Exchange × σ) (check : String)
        (config : Config) (window : Window) (server : σ) (i : Nat) (visit : Sweep.Visit),
        (Sweep.run serve check config window server).visits[i]? = some visit →
        visit.reply.body = some (body.extract 0 n) →
        (Sweep.run serve check config window server).result.pages = i + 1 := by
  rcases exists_holds body c h with ⟨entries, hbody⟩
  refine ⟨closesAt_of_holds body entries hbody, fun brace hcloses => ?_⟩
  refine ⟨size_of_closesAt body brace hcloses,
    fun n hn => nextCursor_extract_of_le body brace n hcloses hn, fun n hn => ?_,
    fun n hn σ serve check config window server i visit hvisit hreply => ?_⟩
  · rcases holds_extract_of_lt body brace n hcloses hn with
      ⟨members, blanks, hwhole, hcut, hblanks, heq⟩
    refine ⟨?_, blanks, hblanks, heq⟩
    rw [nextCursor_of_holds _ members hcut]
    exact (nextCursor_of_holds body members hwhole c).mp h
  · refine Sweep.pages_of_nextCursor_eq_none serve check config window server i visit hvisit ?_
    rw [hreply]
    exact nextCursor_extract_of_le body brace n hcloses hn

/-- A body with braces inside its cursor, a character of two bytes and a blank at the end. -/
def braces : ByteArray :=
  "\x7b\"has_more\":1,\"next_cursor\":\"\x7dé\x7b\"\x7d\n".toUTF8

/-- The body is cut off inside the character, before its last brace and before its end. -/
theorem nextCursor_extract_braces :
    nextCursor (some braces) = some "\x7dé\x7b" ∧ ClosesAt braces 34 ∧
      nextCursor (some (braces.extract 0 31)) = none ∧
      nextCursor (some (braces.extract 0 35)) = some "\x7dé\x7b" ∧
      (Sweep.run (fun _ _ => (⟨some 200, some (braces.extract 0 34), .zero⟩, ()))
        "200" Sweep.localConfig ⟨"a", "b"⟩ ()).result.pages = 1 := by
  have hgoes : nextCursor (some braces) = some "\x7dé\x7b" := by decide +kernel
  have hbefore : nextCursor (some (braces.extract 0 34)) = none := by decide +kernel
  have hafter : nextCursor (some (braces.extract 0 35)) ≠ none := by decide +kernel
  rcases nextCursor_extract braces _ hgoes with ⟨⟨brace, hbrace⟩, hall⟩
  rcases hall brace hbrace with ⟨-, hcut, hwhole, hsweep⟩
  have hle : brace ≤ 34 := by
    by_contra hlt
    exact hafter (hcut 35 (by omega))
  have hge : 34 ≤ brace := by
    by_contra hlt
    rw [(hwhole 34 (by omega)).1] at hbefore
    exact absurd hbefore (by simp only [reduceCtorEq, not_false_eq_true])
  have h : brace = 34 := Nat.le_antisymm hle hge
  rw [h] at hbrace hcut hwhole hsweep
  refine ⟨hgoes, hbrace, hcut 31 (by omega), (hwhole 35 (by omega)).1, ?_⟩
  exact hsweep 34 (by omega) Unit _ _ _ _ () 0 _ rfl rfl

end Page

end PageSweep
