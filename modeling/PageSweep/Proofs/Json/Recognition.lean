import Mathlib.Data.List.Induction
import PageSweep.Proofs.Json.Lexeme
import PageSweep.Proofs.Json.RoundTrip

/-!
# The Reader Recognises the Grammar

The reader takes exactly the texts of the grammar, and gives each the value that it
spells. Both directions are stated for a reader of anything, with the text left over, so
that the lists in brackets are dealt with once and not for arrays and objects apart.

The reader takes blanks in front of a thing and leaves those behind it to its caller.
`Sound` says what it took: blanks and a spelling. `Complete` says that it takes every
spelling whose rest does not go on with a number. An object or an array ends at its
closing bracket, so nothing has to be known about what follows one.

The induction is on the depth, as the reader's own recursion is. Inside one depth the
things of a list are counted down, and there are fewer of them than characters.

## Main definitions

* `Sound`, `Complete`: What it takes for a reader to recognise a spelling.
* `Begins`: What a spelling does not begin with.

## Theorems

* `items_sound`, `items_complete`: Things separated by commas.
* `bracketed_sound`, `bracketed_complete`: A list in brackets.
* `spelled_of_listed`, `spelled_of_entries`: What is listed is spelled.
* `member_sound`, `member_complete`: A member of an object.
* `resolved_iff`: The members of an object are those that the reader files.
* `filed_of_ascending`: Members that are filed already stay as they are.
* `value_sound`, `value_complete`: A value.
* `read?_eq_some_iff`: A whole text.
-/

namespace PageSweep

namespace Json

namespace Reader

open Grammar

section Blanks

variable (front rest : List Char)

theorem isBlank_iff (c : Char) :
    isBlank c = true ↔ c = ' ' ∨ c = '\t' ∨ c = '\n' ∨ c = '\r' := by
  simp only [isBlank, Bool.or_eq_true, decide_eq_true_iff, or_assoc]

/-- What is skipped is blank. -/
theorem exists_skipBlanks (text : List Char) :
    ∃ front, Blank front ∧ text = front ++ skipBlanks text :=
  ⟨text.takeWhile isBlank, fun c hc => (isBlank_iff c).mp (List.mem_takeWhile_imp hc),
    List.takeWhile_append_dropWhile.symm⟩

/-- All blanks are skipped. -/
theorem skipBlanks_append (hfront : Blank front) :
    skipBlanks (front ++ rest) = skipBlanks rest :=
  List.dropWhile_append_of_pos fun c hc => (isBlank_iff c).mpr (hfront c hc)

theorem skipBlanks_eq_nil_iff : skipBlanks rest = [] ↔ Blank rest := by
  rw [skipBlanks, List.dropWhile_eq_nil_iff]
  exact forall₂_congr fun c _ => isBlank_iff c

theorem blank_append (back : List Char) (hfront : Blank front) (hback : Blank back) :
    Blank (front ++ back) := by
  intro c hc
  rcases List.mem_append.mp hc with h | h
  · exact hfront c h
  · exact hback c h

/-- Blanks do not go on with a number. -/
theorem stops_append (hfront : Blank front) (hrest : Stops rest) : Stops (front ++ rest) := by
  cases front with
  | nil => exact hrest
  | cons c more =>
      rcases hfront c List.mem_cons_self with h | h | h | h
      all_goals
        rw [h]
        exact ⟨by decide, by decide, by decide, by decide⟩

end Blanks

variable {α : Type}

/-- What a reader takes is blanks and then a spelling of what it gives. -/
def Sound (read : List Char → Option (α × List Char)) (part : List Char → α → Prop) : Prop :=
  ∀ text x rest, read text = some (x, rest) →
    ∃ front core, Blank front ∧ part core x ∧ text = front ++ (core ++ rest)

/-- A reader takes every spelling that is no longer than `size`, unless the text after it
goes on with a number. -/
def Complete (size : Nat) (read : List Char → Option (α × List Char))
    (part : List Char → α → Prop) : Prop :=
  ∀ front core x rest, Blank front → part core x → core.length ≤ size → Stops rest →
    read (front ++ (core ++ rest)) = some (x, rest)

/-- A spelling begins neither with a blank nor with a closing bracket. -/
def Begins (core : List Char) : Prop :=
  ∃ c more, core = c :: more ∧ isBlank c = false ∧ c ≠ ']' ∧ c ≠ '}'

section Lists

variable {part : List Char → α → Prop} {read : List Char → Option (α × List Char)}

/-- Blanks in front of a list belong to its first thing. -/
theorem separated_append (front text : List Char) (xs : List α) (hfront : Blank front)
    (h : Separated part text xs) : Separated part (front ++ text) xs := by
  have hpadded : ∀ text x, Padded part text x → Padded part (front ++ text) x := by
    rintro text x ⟨before, core, back, hbefore, hcore, hback, rfl⟩
    exact ⟨front ++ before, core, back, blank_append front before hfront hbefore, hcore, hback,
      by rw [List.append_assoc]⟩
  cases h with
  | last _ x hx => exact .last _ x (hpadded text x hx)
  | more text rest x xs hx hrest =>
      rw [← List.append_assoc]
      exact .more _ rest x xs (hpadded text x hx) hrest

theorem items_sound (close : Char) (hread : Sound read part) (more : Nat) (done : List α)
    (text rest : List Char) (xs : List α)
    (h : items read close more done text = some (xs, rest)) :
    ∃ ys inner, xs = done.reverse ++ ys ∧ Separated part inner ys ∧
      text = inner ++ close :: rest := by
  induction more generalizing done text with
  | zero => exact absurd h (by simp only [items, reduceCtorEq, not_false_eq_true])
  | succ more ih =>
      cases hitem : read text with
      | none =>
          simp only [items, hitem] at h
          exact absurd h (by simp only [reduceCtorEq, not_false_eq_true])
      | some result =>
          rcases result with ⟨x, after⟩
          rcases hread text x after hitem with ⟨front, core, hfront, hcore, rfl⟩
          rcases exists_skipBlanks after with ⟨back, hback, hafter⟩
          -- The thing has blanks behind it up to a bracket or a comma.
          have hpadded : Padded part (front ++ (core ++ back)) x :=
            ⟨front, core, back, hfront, hcore, hback, rfl⟩
          simp only [items, hitem] at h
          cases hskip : skipBlanks after with
          | nil =>
              rw [hskip] at h
              exact absurd h (by simp only [reduceCtorEq, not_false_eq_true])
          | cons c later =>
              rw [hskip] at h hafter
              simp only [] at h
              split at h
              · rename_i hclose
                rcases Prod.mk.inj (Option.some.inj h) with ⟨rfl, rfl⟩
                refine ⟨[x], _, List.reverse_cons, .last _ x hpadded, ?_⟩
                rw [hafter, hclose]
                simp only [List.append_assoc]
              split at h
              · rename_i hcomma
                rcases ih (x :: done) later h with ⟨ys, inner, rfl, hinner, rfl⟩
                refine ⟨x :: ys, _, ?_, .more _ inner x ys hpadded hinner, ?_⟩
                · rw [List.reverse_cons, List.append_assoc, List.singleton_append]
                · rw [hafter, hcomma]
                  simp only [List.append_assoc, List.cons_append]
              · exact absurd h (by simp only [reduceCtorEq, not_false_eq_true])

theorem bracketed_sound (close : Char) (size : Nat) (hread : Sound read part)
    (text rest : List Char) (xs : List α)
    (h : bracketed read close size text = some (xs, rest)) :
    ∃ inner, Listed part inner xs ∧ text = inner ++ close :: rest := by
  rcases exists_skipBlanks text with ⟨front, hfront, htext⟩
  unfold bracketed at h
  cases hskip : skipBlanks text with
  | nil =>
      rw [hskip] at h
      exact absurd h (by simp only [reduceCtorEq, not_false_eq_true])
  | cons c later =>
      rw [hskip] at h htext
      simp only [] at h
      split at h
      · rename_i hclose
        rcases Prod.mk.inj (Option.some.inj h) with ⟨rfl, rfl⟩
        exact ⟨front, .empty front hfront, by rw [htext, hclose]⟩
      · rcases items_sound close hread size [] _ rest xs h with ⟨ys, inner, hxs, hinner, heq⟩
        rw [List.reverse_nil, List.nil_append] at hxs
        rw [← hxs] at hinner
        refine ⟨front ++ inner, .filled _ _ (separated_append front inner xs hfront hinner), ?_⟩
        rw [htext, heq, List.append_assoc]

/-- Where a list begins once its blanks are skipped. -/
theorem exists_trimmed (hbegins : ∀ core x, part core x → Begins core) (text : List Char)
    (xs : List α) (h : Separated part text xs) :
    ∃ front trimmed, Blank front ∧ text = front ++ trimmed ∧ Separated part trimmed xs ∧
      Begins trimmed := by
  have hhead : ∀ core back x, part core x → Begins (core ++ back) := by
    intro core back x hcore
    rcases hbegins core x hcore with ⟨c, more, rfl, hc⟩
    exact ⟨c, more ++ back, rfl, hc⟩
  have hnil : Blank [] := fun c hc => absurd hc List.not_mem_nil
  cases h with
  | last _ x hx =>
      rcases hx with ⟨front, core, back, hfront, hcore, hback, rfl⟩
      exact ⟨front, core ++ back, hfront, rfl, .last _ x ⟨[], core, back, hnil, hcore, hback, rfl⟩,
        hhead core back x hcore⟩
  | more _ rest x xs hx hrest =>
      rcases hx with ⟨front, core, back, hfront, hcore, hback, rfl⟩
      refine ⟨front, core ++ back ++ ',' :: rest, hfront, by rw [List.append_assoc],
        .more _ rest x xs ⟨[], core, back, hnil, hcore, hback, rfl⟩ hrest, ?_⟩
      rw [List.append_assoc]
      exact hhead core _ x hcore

/-- A closing bracket. -/
def Closes (close : Char) : Prop := close = ']' ∨ close = '}'

theorem items_complete (close : Char) (hclose : Closes close) (size : Nat)
    (hread : Complete size read part) (inner : List Char) (xs : List α)
    (h : Separated part inner xs) (hsize : inner.length ≤ size) (more : Nat)
    (hmore : inner.length < more) (done : List α) (rest : List Char) :
    items read close more done (inner ++ close :: rest) = some (done.reverse ++ xs, rest) := by
  have hstops : ∀ back, Blank back → Stops (back ++ close :: rest) :=
    fun back hback => stops_append back _ hback (stops_cons close rest (Or.inr hclose))
  have hnotblank : isBlank close = false := by
    rcases hclose with rfl | rfl
    all_goals decide
  induction h generalizing more done with
  | last text x hx =>
      rcases hx with ⟨front, core, back, hfront, hcore, hback, rfl⟩
      simp only [List.length_append] at hsize
      cases more with
      | zero => omega
      | succ more =>
          have hitem := hread front core x (back ++ close :: rest) hfront hcore (by omega)
            (hstops back hback)
          simp only [List.append_assoc, items, hitem, skipBlanks_append back _ hback,
            skipBlanks_cons close rest hnotblank, if_true, List.reverse_cons]
  | more text others x xs hx hothers ih =>
      rcases hx with ⟨front, core, back, hfront, hcore, hback, rfl⟩
      simp only [List.length_append, List.length_cons] at hsize hmore
      have hcomma : ¬ (',' = close) := by
        rcases hclose with rfl | rfl
        all_goals decide
      cases more with
      | zero => omega
      | succ more =>
          have hitem := hread front core x (back ++ ',' :: (others ++ close :: rest)) hfront hcore
            (by omega) (stops_append back _ hback (stops_cons ',' _ (Or.inl rfl)))
          have hlater := ih (by omega) more (by omega) (x :: done)
          simp only [List.append_assoc, List.cons_append, items, hitem,
            skipBlanks_append back _ hback, skipBlanks_cons ',' _ (by decide), if_neg hcomma,
            if_true, hlater, List.reverse_cons, List.nil_append]

theorem bracketed_complete (close : Char) (hclose : Closes close) (size : Nat)
    (hread : Complete size read part) (hbegins : ∀ core x, part core x → Begins core)
    (inner : List Char) (xs : List α) (h : Listed part inner xs) (hsize : inner.length < size)
    (rest : List Char) :
    bracketed read close size (inner ++ close :: rest) = some (xs, rest) := by
  cases h with
  | empty hblank =>
      have hnotblank : isBlank close = false := by
        rcases hclose with rfl | rfl
        all_goals decide
      rw [bracketed, skipBlanks_append inner _ hblank, skipBlanks_cons close rest hnotblank]
      simp only [if_true]
  | filled _ h =>
      -- Without its blanks the list begins with its first thing and not with the bracket.
      rcases exists_trimmed hbegins inner xs h with
        ⟨front, trimmed, hfront, rfl, htrimmed, c, more, rfl, hc, hsquare, hcurly⟩
      have hne : ¬ (c = close) := by
        rcases hclose with rfl | rfl
        · exact hsquare
        · exact hcurly
      rw [List.length_append] at hsize
      have hitems := items_complete close hclose size hread _ xs htrimmed (by omega) size
        (by omega) [] rest
      rw [List.cons_append] at hitems
      rw [List.append_assoc, List.cons_append, bracketed, skipBlanks_append front _ hfront,
        skipBlanks_cons c _ hc]
      simp only [if_neg hne, hitems, List.reverse_nil, List.nil_append]

/-- The things of a list are spelled somewhere in its text. -/
theorem spelled_of_listed {text : List Char} {xs : List α} (h : Listed part text xs) :
    ∀ x ∈ xs, ∃ core, part core x := by
  cases h with
  | empty _ => exact fun x hx => absurd hx List.not_mem_nil
  | filled _ h =>
      induction h with
      | last text x hx =>
          rcases hx with ⟨front, core, back, -, hcore, -⟩
          intro y hy
          rw [List.mem_singleton.mp hy]
          exact ⟨core, hcore⟩
      | more text rest x xs hx _ ih =>
          rcases hx with ⟨front, core, back, -, hcore, -⟩
          intro y hy
          rcases List.mem_cons.mp hy with h | h
          · rw [h]
            exact ⟨core, hcore⟩
          · exact ih y h

end Lists

section Members

theorem quoted_complete (text : List Char) (s : String) (h : Quoted text s) (rest : List Char) :
    ∃ more, text = '"' :: more ∧ string [] (more ++ rest) = some (s, rest) := by
  rcases h with ⟨pieces, hpieces, rfl⟩
  refine ⟨_, rfl, ?_⟩
  rw [List.append_assoc, List.singleton_append, string_complete pieces s.toList [] rest hpieces,
    List.reverse_nil, List.nil_append, String.ofList_toList]

theorem quoted_sound (text rest : List Char) (s : String)
    (h : string [] text = some (s, rest)) :
    ∃ core, Quoted core s ∧ '"' :: text = core ++ rest := by
  rcases string_sound [] text rest s h with ⟨pieces, chars, hpieces, rfl, rfl⟩
  refine ⟨'"' :: (pieces.flatten ++ ['"']), ⟨pieces, ?_, rfl⟩, ?_⟩
  · rw [List.reverse_nil, List.nil_append, String.toList_ofList]
    exact hpieces
  · rw [List.cons_append, List.append_assoc, List.singleton_append]

variable {part : List Char → α → Prop} {read : List Char → Option (α × List Char)}

theorem member_sound (hread : Sound read part) : Sound (member read) (Entry part) := by
  intro text entry rest h
  rcases exists_skipBlanks text with ⟨front, hfront, htext⟩
  unfold member at h
  split at h
  · rename_i after hskip
    simp only [Option.bind_eq_bind, Option.bind_eq_some_iff] at h
    rcases h with ⟨⟨name, later⟩, hname, h⟩
    rcases quoted_sound after later name hname with ⟨key, hkey, heq⟩
    rcases exists_skipBlanks later with ⟨before, hbefore, hlater⟩
    simp only [] at h
    split at h
    · rename_i value hcolon
      simp only [Option.pure_def, Option.bind_eq_some_iff, Option.some.injEq] at h
      rcases h with ⟨⟨x, rest'⟩, hx, hentry⟩
      rcases Prod.mk.inj hentry with ⟨rfl, rfl⟩
      rcases hread value x rest' hx with ⟨blanks, core, hblanks, hcore, rfl⟩
      refine ⟨front, _, hfront, ⟨key, before, blanks, core, hkey, hbefore, hblanks, hcore, rfl⟩, ?_⟩
      rw [htext, hskip, heq, hlater, hcolon]
      simp only [List.append_assoc, List.cons_append]
    · exact absurd h (by simp only [reduceCtorEq, not_false_eq_true])
  · exact absurd h (by simp only [reduceCtorEq, not_false_eq_true])

theorem member_complete (size : Nat) (hread : Complete size read part) :
    Complete size (member read) (Entry part) := by
  rintro front core ⟨name, x⟩ rest hfront ⟨key, before, after, value, hkey, hbefore, hafter,
    hvalue, rfl⟩ hsize hrest
  rcases quoted_complete key name hkey (before ++ ':' :: (after ++ (value ++ rest))) with
    ⟨more, rfl, hname⟩
  simp only [List.length_append, List.length_cons] at hsize
  have hx := hread after value x rest hafter hvalue (by omega) hrest
  simp only [List.append_assoc, List.cons_append, member, skipBlanks_append front _ hfront,
    skipBlanks_cons '"' _ (by decide), Option.bind_eq_bind, hname, Option.bind_some,
    skipBlanks_append before _ hbefore, skipBlanks_cons ':' _ (by decide), hx, Option.pure_def]

theorem begins_entry (core : List Char) (entry : String × α) (h : Entry part core entry) :
    Begins core := by
  rcases h with ⟨key, before, after, value, ⟨pieces, -, rfl⟩, -, -, -, rfl⟩
  exact ⟨'"', _, rfl, by decide, by decide, by decide⟩

theorem spelled_of_entries {core : List Char} {entries : List (String × α)}
    (h : Bracketed (Entry part) '{' '}' core entries) :
    ∀ name x, (name, x) ∈ entries → ∃ value, part value x := by
  intro name x hmem
  rcases h with ⟨inner, hlisted, -⟩
  rcases spelled_of_listed hlisted (name, x) hmem with ⟨entry, key, before, after, value, -, -, -,
    hvalue, -⟩
  exact ⟨value, hvalue⟩

theorem mem_of_last {entries : List (String × α)} {name : String} {x : α}
    (h : Last name entries x) : (name, x) ∈ entries := by
  rcases h with ⟨before, after, rfl, -⟩
  exact List.mem_append_right before List.mem_cons_self

/-- In the order of the names each name stands once, and the last one is the only one. -/
theorem last_iff_mem (members : Catalog α) (hasc : members.Ascending) (name : String) (x : α) :
    Last name members x ↔ (name, x) ∈ members := by
  refine ⟨mem_of_last, fun hmem => ?_⟩
  rcases List.append_of_mem hmem with ⟨before, after, rfl⟩
  refine ⟨before, after, rfl, fun hname => ?_⟩
  rcases List.mem_map.mp hname with ⟨entry, hentry, heq⟩
  have hlt := (List.pairwise_cons.mp (List.pairwise_append.mp hasc).2.1).1 entry hentry
  exact String.ne_of_lt hlt heq.symm

/-- The last member of a name, when one more member is filed. -/
theorem last_concat_iff (entries : List (String × α)) (key name : String) (v x : α) :
    Last name (entries ++ [(key, v)]) x ↔
      key = name ∧ v = x ∨ key ≠ name ∧ Last name entries x := by
  constructor
  · rintro ⟨before, after, heq, hname⟩
    rcases List.eq_nil_or_concat' after with rfl | ⟨others, last, rfl⟩
    · rcases List.append_inj' heq rfl with ⟨-, hlast⟩
      rcases Prod.mk.inj (List.cons.inj hlast).1 with ⟨rfl, rfl⟩
      exact Or.inl ⟨rfl, rfl⟩
    · rw [← List.cons_append, ← List.append_assoc] at heq
      rcases List.append_inj' heq rfl with ⟨rfl, hlast⟩
      rw [← (List.cons.inj hlast).1, List.map_append, List.mem_append, not_or] at hname
      refine Or.inr ⟨fun h => hname.2 ?_, before, others, rfl, hname.1⟩
      rw [← h]
      exact List.mem_singleton_self key
  · rintro (⟨rfl, rfl⟩ | ⟨hne, before, after, rfl, hname⟩)
    · exact ⟨entries, [], rfl, List.not_mem_nil⟩
    · refine ⟨before, after ++ [(key, v)], by rw [List.append_assoc, List.cons_append], ?_⟩
      rw [List.map_append, List.mem_append, not_or]
      exact ⟨hname, fun h => hne (List.mem_singleton.mp h).symm⟩

theorem resolved_filed (entries : List (String × α)) : Resolved entries (filed entries) := by
  induction entries using List.reverseRecOn with
  | nil =>
      refine ⟨List.Pairwise.nil, fun name x => iff_of_false ?_ ?_⟩
      · exact fun h => absurd h (by simp only [filed, List.foldl_nil, Catalog.find?, reduceCtorEq,
          not_false_eq_true])
      · rintro ⟨before, after, heq, -⟩
        exact List.append_ne_nil_of_right_ne_nil before (List.cons_ne_nil _ after) heq.symm
  | append_singleton entries entry ih =>
      rcases entry with ⟨key, v⟩
      have hfiled : filed (entries ++ [(key, v)]) = (filed entries).insert key v := by
        rw [filed, List.foldl_append]
        rfl
      rw [hfiled]
      refine ⟨Catalog.ascending_adjust key v _ _ ih.1, fun name x => ?_⟩
      rw [last_concat_iff]
      by_cases hname : key = name
      · rw [← hname, Catalog.find?_insert_self, Option.some.injEq]
        exact ⟨fun h => Or.inl ⟨rfl, h⟩, fun h => h.elim And.right fun h => absurd rfl h.1⟩
      · rw [Catalog.find?_insert_of_ne key name v _ (Ne.symm hname), ih.2]
        exact ⟨fun h => Or.inr ⟨hname, h⟩, fun h => h.elim (fun h => absurd h.1 hname) And.right⟩

theorem resolved_iff (entries : List (String × α)) (members : Catalog α) :
    Resolved entries members ↔ members = filed entries := by
  constructor
  · rintro ⟨hasc, hfound⟩
    have hfiled := resolved_filed entries
    refine Catalog.ext_of_find? members (filed entries) hasc hfiled.1 fun name => ?_
    refine Option.ext fun x => ?_
    rw [hfound, hfiled.2]
  · rintro rfl
    exact resolved_filed entries

theorem mem_of_resolved (entries : List (String × α)) (members : Catalog α)
    (h : Resolved entries members) : ∀ entry ∈ members, entry ∈ entries := fun entry hmem =>
  mem_of_last ((h.2 entry.1 entry.2).mp ((Catalog.find?_eq_some_iff _ _ members h.1).mpr hmem))

/-- Members that are filed already stay as they are. -/
theorem filed_of_ascending (members : Catalog α) (hasc : members.Ascending) :
    filed members = members := by
  refine ((resolved_iff members members).mp ⟨hasc, fun name x => ?_⟩).symm
  rw [last_iff_mem members hasc]
  exact Catalog.find?_eq_some_iff name x members hasc

end Members

section Values

variable (size depth : Nat)

/-- Blanks in front of a value are skipped. -/
theorem value_append (front rest : List Char) (hfront : Blank front) :
    value size depth (front ++ rest) = value size depth rest := by
  rw [value, value, skipBlanks_append front rest hfront]

/-- A number begins with a minus sign or a digit. -/
theorem literal_head (l : Literal) (hl : l.WellFormed) :
    ∃ c more, l.text = c :: more ∧ StartsNumber c := by
  cases hneg : l.negative with
  | true => exact ⟨'-', _, by rw [Literal.text, hneg]; rfl, Or.inl rfl⟩
  | false =>
      rcases whole_head l hl with ⟨c, more, hw, hc⟩
      exact ⟨c, _, by rw [Literal.text, hneg, hw]; rfl, Or.inr hc⟩

theorem begins_spells (core : List Char) (v : Json) (h : Spells depth core v) : Begins core := by
  cases v with
  | null =>
      rw [Spells] at h
      exact ⟨'n', _, h, by decide, by decide, by decide⟩
  | bool b =>
      cases b with
      | true =>
          rw [Spells] at h
          exact ⟨'t', _, h, by decide, by decide, by decide⟩
      | false =>
          rw [Spells] at h
          exact ⟨'f', _, h, by decide, by decide, by decide⟩
  | number n =>
      rw [Spells] at h
      rcases h with ⟨l, hl, -, rfl⟩
      rcases literal_head l hl with ⟨c, more, heq, hc⟩
      refine ⟨c, more, heq, ?_, ne_of_startsNumber c _ hc (by decide) (by decide),
        ne_of_startsNumber c _ hc (by decide) (by decide)⟩
      simp only [isBlank, Bool.or_eq_false_iff, decide_eq_false_iff_not]
      refine ⟨⟨⟨?_, ?_⟩, ?_⟩, ?_⟩
      all_goals exact ne_of_startsNumber c _ hc (by decide) (by decide)
  | string s =>
      rw [Spells] at h
      rcases h with ⟨pieces, -, rfl⟩
      exact ⟨'"', _, rfl, by decide, by decide, by decide⟩
  | array items =>
      cases depth with
      | zero => exact absurd h (by rw [Spells]; exact not_false)
      | succ depth =>
          rw [Spells] at h
          rcases h with ⟨inner, -, rfl⟩
          exact ⟨'[', _, rfl, by decide, by decide, by decide⟩
  | object members =>
      cases depth with
      | zero => exact absurd h (by rw [Spells]; exact not_false)
      | succ depth =>
          rw [Spells] at h
          rcases h with ⟨entries, ⟨inner, -, rfl⟩, -⟩
          exact ⟨'{', _, rfl, by decide, by decide, by decide⟩

/-- What a value is, when the values inside it are known to be read right. -/
theorem value_sound_of (hinner : ∀ d, depth = d + 1 → Sound (value size d) (Spells d)) :
    Sound (value size depth) (Spells depth) := by
  intro text v rest h
  rcases exists_skipBlanks text with ⟨front, hfront, htext⟩
  rw [value] at h
  split at h
  · rename_i after hskip
    rcases Option.map_eq_some_iff.mp h with ⟨⟨s, rest'⟩, hs, heq⟩
    rcases Prod.mk.inj heq with ⟨rfl, rfl⟩
    rcases quoted_sound after rest' s hs with ⟨core, hcore, hafter⟩
    exact ⟨front, core, hfront, by rw [Spells]; exact hcore, by rw [htext, hskip, hafter]⟩
  · rename_i after hskip
    cases depth with
    | zero => exact absurd h (by simp only [reduceCtorEq, not_false_eq_true])
    | succ depth =>
        rcases Option.map_eq_some_iff.mp h with ⟨⟨items, rest'⟩, hitems, heq⟩
        rcases Prod.mk.inj heq with ⟨rfl, rfl⟩
        rcases bracketed_sound ']' size (hinner depth rfl) after rest' items hitems with
          ⟨inner, hlisted, rfl⟩
        refine ⟨front, '[' :: (inner ++ [']']), hfront, ?_, ?_⟩
        · rw [Spells]
          exact ⟨inner, hlisted, rfl⟩
        · rw [htext, hskip, List.cons_append, List.append_assoc, List.singleton_append]
  · rename_i after hskip
    cases depth with
    | zero => exact absurd h (by simp only [reduceCtorEq, not_false_eq_true])
    | succ depth =>
        rcases Option.map_eq_some_iff.mp h with ⟨⟨entries, rest'⟩, hentries, heq⟩
        rcases Prod.mk.inj heq with ⟨rfl, rfl⟩
        rcases bracketed_sound '}' size (member_sound (hinner depth rfl)) after rest' entries
          hentries with ⟨inner, hlisted, rfl⟩
        refine ⟨front, '{' :: (inner ++ ['}']), hfront, ?_, ?_⟩
        · rw [Spells]
          exact ⟨entries, ⟨inner, hlisted, rfl⟩, resolved_filed entries⟩
        · rw [htext, hskip, List.cons_append, List.append_assoc, List.singleton_append]
  · rename_i after hskip
    rcases Prod.mk.inj (Option.some.inj h) with ⟨rfl, rfl⟩
    exact ⟨front, _, hfront, by rw [Spells], by rw [htext, hskip]; rfl⟩
  · rename_i after hskip
    rcases Prod.mk.inj (Option.some.inj h) with ⟨rfl, rfl⟩
    exact ⟨front, _, hfront, by rw [Spells], by rw [htext, hskip]; rfl⟩
  · rename_i after hskip
    rcases Prod.mk.inj (Option.some.inj h) with ⟨rfl, rfl⟩
    exact ⟨front, _, hfront, by rw [Spells], by rw [htext, hskip]; rfl⟩
  · rcases Option.map_eq_some_iff.mp h with ⟨⟨n, rest'⟩, hn, heq⟩
    rcases Prod.mk.inj heq with ⟨rfl, rfl⟩
    rcases number_sound _ rest' n hn with ⟨l, hl, hmeans, hskip⟩
    exact ⟨front, l.text, hfront, by rw [Spells]; exact ⟨l, hl, hmeans, rfl⟩,
      by rw [htext, hskip]⟩

theorem value_sound : Sound (value size depth) (Spells depth) := by
  induction depth with
  | zero => exact value_sound_of size 0 fun d hd => absurd hd (Nat.succ_ne_zero d).symm
  | succ depth ih =>
      refine value_sound_of size (depth + 1) fun d hd => ?_
      rw [← Nat.succ.inj hd]
      exact ih

/-- An object ends at its brace, whatever follows. -/
theorem object_complete (hinner : Complete size (value size depth) (Spells depth))
    (front core rest : List Char) (entries : List (String × Json)) (hfront : Blank front)
    (hcore : Bracketed (Entry (Spells depth)) '{' '}' core entries) (hsize : core.length ≤ size) :
    value size (depth + 1) (front ++ (core ++ rest)) = some (.object (filed entries), rest) := by
  rcases hcore with ⟨inner, hlisted, rfl⟩
  simp only [List.length_cons, List.length_append, List.length_nil] at hsize
  have hread := bracketed_complete '}' (Or.inr rfl) size (member_complete size hinner)
    begins_entry inner entries hlisted (by omega) rest
  rw [value_append size _ front _ hfront, List.cons_append, List.append_assoc,
    List.singleton_append, value_object, hread, Option.map_some]

/-- A value, when those inside it are taken. -/
theorem value_complete_of
    (hinner : ∀ d, depth = d + 1 → Complete size (value size d) (Spells d)) :
    Complete size (value size depth) (Spells depth) := by
  intro front core v rest hfront hcore hsize hrest
  cases v with
  | null =>
      rw [Spells] at hcore
      rw [value_append size depth front _ hfront, hcore, value]
      rfl
  | bool b =>
      cases b with
      | true =>
          rw [Spells] at hcore
          rw [value_append size depth front _ hfront, hcore, value]
          rfl
      | false =>
          rw [Spells] at hcore
          rw [value_append size depth front _ hfront, hcore, value]
          rfl
  | number n =>
      rw [Spells] at hcore
      rcases hcore with ⟨l, hl, hmeans, rfl⟩
      have hread := number_complete l n rest hl hmeans hrest
      -- Which case of the reader this is depends on the first character.
      rcases literal_head l hl with ⟨c, more, heq, hc⟩
      rw [heq, List.cons_append] at hread
      rw [value_append size depth front _ hfront, heq, List.cons_append,
        value_number size depth c _ hc, hread, Option.map_some]
  | string s =>
      rw [Spells] at hcore
      rcases quoted_complete core s hcore rest with ⟨more, rfl, hread⟩
      rw [value_append size depth front _ hfront, List.cons_append, value,
        skipBlanks_cons '"' _ (by decide)]
      simp only [hread, Option.map_some]
  | array items =>
      cases depth with
      | zero => exact absurd hcore (by rw [Spells]; exact not_false)
      | succ depth =>
          rw [Spells] at hcore
          rcases hcore with ⟨inner, hlisted, rfl⟩
          simp only [List.length_cons, List.length_append, List.length_nil] at hsize
          have hread := bracketed_complete ']' (Or.inl rfl) size (hinner depth rfl)
            (begins_spells depth) inner items hlisted (by omega) rest
          rw [value_append size _ front _ hfront, List.cons_append, List.append_assoc,
            List.singleton_append, value_array, hread, Option.map_some]
  | object members =>
      cases depth with
      | zero => exact absurd hcore (by rw [Spells]; exact not_false)
      | succ depth =>
          rw [Spells] at hcore
          rcases hcore with ⟨entries, hentries, hresolved⟩
          rw [(resolved_iff entries members).mp hresolved]
          exact object_complete size depth (hinner depth rfl) front core rest entries hfront
            hentries hsize

theorem value_complete : Complete size (value size depth) (Spells depth) := by
  induction depth with
  | zero => exact value_complete_of size 0 fun d hd => absurd hd (Nat.succ_ne_zero d).symm
  | succ depth ih =>
      refine value_complete_of size (depth + 1) fun d hd => ?_
      rw [← Nat.succ.inj hd]
      exact ih

end Values

end Reader

/-- The reader takes exactly the texts of the grammar, each with its value. -/
theorem read?_eq_some_iff (text : List Char) (v : Json) :
    read? text = some v ↔ Grammar.Document text v := by
  constructor
  · intro h
    unfold read? at h
    split at h
    · rename_i w rest hread
      split at h
      · rename_i hblank
        rw [← Option.some.inj h]
        rcases Reader.value_sound _ _ text w rest hread with ⟨front, core, hfront, hcore, rfl⟩
        exact ⟨front, core, rest, hfront, hcore,
          (Reader.skipBlanks_eq_nil_iff rest).mp (List.isEmpty_iff.mp hblank), rfl⟩
      · exact absurd h (by simp only [reduceCtorEq, not_false_eq_true])
    · exact absurd h (by simp only [reduceCtorEq, not_false_eq_true])
  · rintro ⟨front, core, back, hfront, hcore, hback, rfl⟩
    have hsize : core.length ≤ (front ++ (core ++ back)).length := by
      simp only [List.length_append]
      omega
    have hstops : Reader.Stops back := by
      have h := Reader.stops_append back [] hback trivial
      rwa [List.append_nil] at h
    have hread := Reader.value_complete _ Reader.maxDepth front core v back hfront hcore hsize
      hstops
    have hblank := List.isEmpty_iff.mpr ((Reader.skipBlanks_eq_nil_iff back).mpr hback)
    simp only [read?, hread, hblank, if_true]

end Json

end PageSweep
