import PageSweep.Proofs.Service.Bounds
import PageSweep.Proofs.Text.Spelling

/-!
# Which Cursors Are Accepted

The service hands out one cursor for each event but the first, with at least eight digits
in lower case. It accepts more: every spelling of every number below `2 ^ 64` is taken,
with a plus sign, with digits in upper case, with fewer or more zeros in front, and with
numbers at or behind the end of the data. All of them get what the number gets: its page,
or a crash if the page reaches beyond the largest word. What is no spelling gets no page,
and the endpoint answers it with status 400.

So a cursor that gets a page is not always one that was handed out. It is one only in
the form in which cursors are written, and only for an event of the data. Event 0 has a
cursor as well, but no page leads back to it.

## Main definitions

* `Names`: Whether a cursor is a spelling of a number.
* `HandedOut`: Whether a cursor is in some page of the service.

## Theorems

* `decodeCursor?_eq_some_iff`: The cursors that are read.
* `page?_eq_none_iff`: The cursors that get no page.
* `exists_page_iff`: The cursors that get one.
* `handedOut_iff`: The cursors that are handed out.
* `page?_accepts`: What becomes of each cursor.
* `page?_upperCase`: A cursor that was not handed out and gets a page.
-/

namespace PageSweep

namespace Service

/-- Whether a cursor is a spelling of a number: the mark, and a hexadecimal numeral. -/
def Names (cursor : String) (n : Nat) : Prop :=
  ∃ text, cursor.toList = cursorMark ++ text ∧ Numeral.Spells 16 text n ∧ n < 2 ^ 64

/-- Whether a service with `total` events has a page that goes on at a cursor. -/
def HandedOut (total : UInt64) (cursor : String) : Prop :=
  ∃ query page, page? total query = .ok (some page) ∧ page.hasMore = true ∧
    page.nextCursor = cursor

theorem decodeCursor?_of_mark (cursor : String) (text : List Char)
    (h : cursor.toList = cursorMark ++ text) (n : UInt64) :
    decodeCursor? cursor = some n ↔ Numeral.read 16 0x10000000000000000 text = .ok n.toNat := by
  rw [decodeCursor?, h, cursorMark]
  simp only [List.cons_append, List.nil_append]
  cases hread : Numeral.read 16 0x10000000000000000 text with
  | error fault => simp only [reduceCtorEq]
  | ok m =>
      -- What was read is below the bound, so it is a word.
      have hm : m < 0x10000000000000000 :=
        ((Numeral.read_eq_ok_iff 16 _ (by decide) (by decide) text m).mp hread).2
      simp only [Option.some.injEq, Except.ok.injEq]
      constructor
      · rintro rfl
        exact (UInt64.toNat_ofNat_of_lt' hm).symm
      · rintro rfl
        exact UInt64.ofNat_toNat

theorem decodeCursor?_eq_some_iff (cursor : String) (n : UInt64) :
    decodeCursor? cursor = some n ↔ Names cursor n.toNat := by
  constructor
  · intro h
    -- Only a text with the mark in front is looked at.
    have hmark : ∃ text, cursor.toList = cursorMark ++ text := by
      unfold decodeCursor? at h
      split at h
      · rename_i digits htext
        exact ⟨digits, htext⟩
      · exact absurd h (by simp only [reduceCtorEq, not_false_eq_true])
    rcases hmark with ⟨text, htext⟩
    have hread := (decodeCursor?_of_mark cursor text htext n).mp h
    exact ⟨text, htext, (Numeral.read_eq_ok_iff 16 _ (by decide) (by decide) text _).mp hread⟩
  · rintro ⟨text, htext, hspells⟩
    rw [decodeCursor?_of_mark cursor text htext]
    exact (Numeral.read_eq_ok_iff 16 _ (by decide) (by decide) text _).mpr hspells

theorem decodeCursor?_of_names (cursor : String) (n : Nat) (h : Names cursor n) :
    decodeCursor? cursor = some (UInt64.ofNat n) := by
  rcases h with ⟨text, htext, hspells, hlt⟩
  refine (decodeCursor?_eq_some_iff cursor _).mpr ?_
  rw [UInt64.toNat_ofNat_of_lt' hlt]
  exact ⟨text, htext, hspells, hlt⟩

theorem names_encodeCursor (n : UInt64) : Names (encodeCursor n) n.toNat :=
  (decodeCursor?_eq_some_iff _ n).mp (decodeCursor?_encodeCursor n)

/-- A cursor is a spelling of one number only. -/
theorem names_unique (cursor : String) (m n : Nat) (hm : Names cursor m) (hn : Names cursor n) :
    m = n := by
  have hsame := (decodeCursor?_of_names cursor m hm).symm.trans (decodeCursor?_of_names cursor n hn)
  rcases hm with ⟨-, -, -, hm⟩
  rcases hn with ⟨-, -, -, hn⟩
  have hnat := congrArg UInt64.toNat (Option.some.inj hsame)
  rw [UInt64.toNat_ofNat_of_lt' hm, UInt64.toNat_ofNat_of_lt' hn] at hnat
  exact hnat

section Pages

variable (total : UInt64) (query : Query) (cursor : String)

theorem offset?_of_ne_empty (hne : cursor ≠ "") : offset? (some cursor) = decodeCursor? cursor := by
  rw [offset?]
  exact fun h => hne h

theorem page?_eq_none_iff_offset? :
    page? total query = .ok none ↔ offset? query.cursor = none := by
  cases h : offset? query.cursor with
  | none => simp only [page?, h]
  | some offset =>
      by_cases hword : min offset.toNat total.toNat + room query.limit < 2 ^ 64
      · simp only [page?_of_room total offset query h hword, Except.ok.injEq, reduceCtorEq]
      · simp only [page?_of_no_room total offset query h (by omega), reduceCtorEq]

/-- A cursor that is read gets a page just if its page is within the words. -/
theorem exists_page_iff (offset : UInt64) (hoffset : offset? query.cursor = some offset) :
    (∃ page, page? total query = .ok (some page))
      ↔ min offset.toNat total.toNat + room query.limit < 2 ^ 64 := by
  by_cases hword : min offset.toNat total.toNat + room query.limit < 2 ^ 64
  · exact iff_of_true ⟨_, page?_of_room total offset query hoffset hword⟩ hword
  · refine iff_of_false ?_ hword
    rw [page?_of_no_room total offset query hoffset (by omega)]
    rintro ⟨page, hpage⟩
    exact absurd hpage (by simp only [reduceCtorEq, not_false_eq_true])

/-- A cursor is turned away exactly if it is no spelling. -/
theorem page?_eq_none_iff (hcursor : query.cursor = some cursor) (hne : cursor ≠ "") :
    page? total query = .ok none ↔ ¬ ∃ n, Names cursor n := by
  rw [page?_eq_none_iff_offset?, hcursor, offset?_of_ne_empty cursor hne]
  constructor
  · rintro hnone ⟨n, hn⟩
    rw [decodeCursor?_of_names cursor n hn] at hnone
    exact absurd hnone (by simp only [reduceCtorEq, not_false_eq_true])
  · intro hnames
    rcases hread : decodeCursor? cursor with _ | n
    · rfl
    · exact absurd ⟨n.toNat, (decodeCursor?_eq_some_iff cursor n).mp hread⟩ hnames

theorem offset?_of_names (hcursor : query.cursor = some cursor) (hne : cursor ≠ "") (n : Nat)
    (hn : Names cursor n) : offset? query.cursor = some (UInt64.ofNat n) := by
  rw [hcursor, offset?_of_ne_empty cursor hne, decodeCursor?_of_names cursor n hn]

/-- All spellings of a number get the same page. -/
theorem page?_of_names (hcursor : query.cursor = some cursor) (hne : cursor ≠ "") (n : Nat)
    (hn : Names cursor n) :
    page? total query
      = page? total { query with cursor := some (encodeCursor (UInt64.ofNat n)) } := by
  simp only [page?, offset?_of_names query cursor hcursor hne n hn, offset?_encodeCursor]

end Pages

section HandedOut

variable (total : UInt64)

/-- A page that says that there is more goes on at an event of the data, and not at the
first one. -/
theorem next_of_page? (query : Query) (page : EventPage)
    (hpage : page? total query = .ok (some page)) (hmore : page.hasMore = true) :
    ∃ n, 0 < n ∧ n < total.toNat ∧ page.nextCursor = encodeCursor (UInt64.ofNat n) := by
  rcases hoffset : offset? query.cursor with _ | offset
  · rw [(page?_eq_none_iff_offset? total query).mpr hoffset] at hpage
    exact absurd hpage (by simp only [Except.ok.injEq, reduceCtorEq, not_false_eq_true])
  have hword := (exists_page_iff total query offset hoffset).mp ⟨page, hpage⟩
  rw [page?_of_room total offset query hoffset hword, Except.ok.injEq, Option.some.injEq]
    at hpage
  subst hpage
  -- A page without room would go on where it begins, but there is none.
  have hpos := room_pos query.limit
  have hlt := of_decide_eq_true hmore
  exact ⟨_, by omega, hlt, if_pos hlt⟩

/-- A page for one event leads to the event after it. -/
theorem handedOut_succ (n : Nat) (hn : n + 1 < total.toNat) :
    HandedOut total (encodeCursor (UInt64.ofNat (n + 1))) := by
  have htotal := total.toNat_lt
  let query : Query := ⟨some 1, none, none, some (encodeCursor (UInt64.ofNat n))⟩
  have hpage := page?_eq_pageFrom total query n 1 (offset?_encodeCursor n) (by omega) rfl
    (by omega)
  exact ⟨query, _, hpage, decide_eq_true hn, if_pos hn⟩

/-- The cursors that are handed out: those of the events of the data but the first one, as
they are written. -/
theorem handedOut_iff (cursor : String) :
    HandedOut total cursor
      ↔ ∃ n, 0 < n ∧ n < total.toNat ∧ cursor = encodeCursor (UInt64.ofNat n) := by
  constructor
  · rintro ⟨query, page, hpage, hmore, rfl⟩
    exact next_of_page? total query page hpage hmore
  · rintro ⟨n, hpos, hn, rfl⟩
    cases n with
    | zero => exact absurd hpos (Nat.lt_irrefl 0)
    | succ n => exact handedOut_succ total n hn

/-- A spelling that is handed out is the written one. -/
theorem handedOut_iff_of_names (cursor : String) (n : Nat) (hn : Names cursor n) :
    HandedOut total cursor
      ↔ cursor = encodeCursor (UInt64.ofNat n) ∧ 0 < n ∧ n < total.toNat := by
  rw [handedOut_iff]
  constructor
  · rintro ⟨m, hpos, hm, rfl⟩
    have hword : m < 2 ^ 64 := Nat.lt_trans hm total.toNat_lt
    have hnames := names_encodeCursor (UInt64.ofNat m)
    rw [UInt64.toNat_ofNat_of_lt' hword] at hnames
    rw [names_unique _ n m hn hnames]
    exact ⟨rfl, hpos, hm⟩
  · rintro ⟨hcursor, hpos, hlt⟩
    exact ⟨n, hpos, hlt, hcursor⟩

theorem names_of_handedOut (cursor : String) (h : HandedOut total cursor) :
    ∃ n, Names cursor n := by
  rcases (handedOut_iff total cursor).mp h with ⟨n, -, -, rfl⟩
  exact ⟨_, names_encodeCursor (UInt64.ofNat n)⟩

end HandedOut

/-- What becomes of a cursor, for every number of events and every text. It is turned away
exactly if it is no spelling of a number below `2 ^ 64`. A spelling gets what its number
gets, which is a page unless the page reaches beyond the words. Of all the spellings only
the written one is handed out, and only for an event of the data behind the first. A text
that is no spelling was not handed out either, and the endpoint answers it with status
400. -/
theorem page?_accepts (total : UInt64) (query : Query) (cursor : String)
    (hcursor : query.cursor = some cursor) (hne : cursor ≠ "") :
    (page? total query = .ok none ↔ ¬ ∃ n, Names cursor n) ∧
    (∀ n, Names cursor n →
      page? total query
        = page? total { query with cursor := some (encodeCursor (UInt64.ofNat n)) } ∧
      ((∃ page, page? total query = .ok (some page))
        ↔ min n total.toNat + room query.limit < 2 ^ 64) ∧
      (HandedOut total cursor
        ↔ cursor = encodeCursor (UInt64.ofNat n) ∧ 0 < n ∧ n < total.toNat)) ∧
    ((¬ ∃ n, Names cursor n) → ¬ HandedOut total cursor ∧
      ∀ (s : Service) (rawQuery : Option String), s.config.totalEvents = total →
        s.config.mode = .paged → s.admits = true →
        ∃ answer, (s.events rawQuery query).1 = .answered answer ∧
          answer.status = 400 ∧ answer.body = invalidCursor.text) := by
  have hnone := page?_eq_none_iff total query cursor hcursor hne
  refine ⟨hnone, fun n hn => ⟨?_, ?_, handedOut_iff_of_names total cursor n hn⟩,
    fun hnames => ⟨?_, ?_⟩⟩
  · exact page?_of_names total query cursor hcursor hne n hn
  · have hoffset := offset?_of_names query cursor hcursor hne n hn
    rcases hn with ⟨-, -, -, hlt⟩
    rw [exists_page_iff total query _ hoffset, UInt64.toNat_ofNat_of_lt' hlt]
  · exact fun hout => hnames (names_of_handedOut total cursor hout)
  · intro s rawQuery htotal hmode hadmits
    subst htotal
    simp only [events, if_pos hadmits, Config.answer, hmode, hnone.mpr hnames, Outcome.after]
    exact ⟨_, rfl, rfl, rfl⟩

/-- A plus sign and upper case: a spelling of event 10, which gets a page and was not
handed out. -/
theorem page?_accepts_signed :
    let query : Query := ⟨none, none, none, some "evt_+0A"⟩
    query.cursor = some "evt_+0A" ∧ "evt_+0A" ≠ "" ∧
    (∃ page, page? 100 query = .ok (some page)) ∧ ¬ HandedOut 100 "evt_+0A" := by
  intro query
  have hnames : Names "evt_+0A" 10 :=
    (decodeCursor?_eq_some_iff "evt_+0A" 10).mp (by decide +kernel)
  rcases page?_accepts 100 query "evt_+0A" rfl (by decide) with ⟨-, hspelled, -⟩
  rcases hspelled 10 hnames with ⟨-, hpage, hwritten⟩
  refine ⟨rfl, by decide, hpage.mpr (by decide), fun hout => ?_⟩
  exact absurd (hwritten.mp hout).1 (by decide +kernel)

/-- The cursor of event 10 in upper case gets a page of a service with 100 events,
although it is not the cursor of any event and no page of the service has it. -/
theorem page?_upperCase :
    (∃ page, page? 100 ⟨none, none, none, some "evt_0000000A"⟩ = .ok (some page)) ∧
    (∀ n, "evt_0000000A" ≠ encodeCursor n) ∧ ¬ HandedOut 100 "evt_0000000A" := by
  have hread : decodeCursor? "evt_0000000A" = some 10 := by decide +kernel
  have hoffset : offset? (some "evt_0000000A") = some 10 := by decide +kernel
  have hwritten : ∀ n, "evt_0000000A" ≠ encodeCursor n := by
    intro n hn
    rw [hn, decodeCursor?_encodeCursor, Option.some.injEq] at hread
    rw [hread] at hn
    exact absurd hn (by decide +kernel)
  refine ⟨(exists_page_iff 100 _ 10 hoffset).mpr (by decide), hwritten, fun hout => ?_⟩
  rcases (handedOut_iff 100 "evt_0000000A").mp hout with ⟨n, -, -, hn⟩
  exact hwritten _ hn

end Service

end PageSweep
