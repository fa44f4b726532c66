import PageSweep.Proofs.Text.Pieces

/-!
# Lines of a Heading and Words

A text that was put together from lines falls apart into them again, because a line feed
ends each of them and stands nowhere else.

Many lines have a heading, a colon and then words, each with a blank in front. The heading
may be any text, also one that looks like what follows it. But there are no colons in the
words, so the heading ends at the last colon of the line, and there are no blanks in them,
so they can be told from each other.

## Main definitions

* `Text.lines`: The lines of a text.
* `Text.IsLine`: One line.
* `Text.IsWord`: One word.
* `Text.spaced`, `Text.words`: Words that are written, and the words of a text.
* `Text.IsEntry`: A line of a heading and words.
* `Text.parts?`: The heading and the words of a line.

## Theorems

* `lines_join`: Lines that were joined come back.
* `words_spaced`: Words that were written come back.
* `parts?_of_isEntry`: The heading and the words come back.
-/

namespace PageSweep

namespace Text

section Lines

/-- A text cut after every line feed. -/
def rows : List Char → List (List Char)
  | [] => []
  | c :: rest =>
    if c = '\n' then ['\n'] :: rows rest
    else match rows rest with
      | [] => [[c]]
      | first :: more => (c :: first) :: more

/-- The lines of a text, each with the line feed that ends it. What stands after the last
line feed is a line too. -/
def lines (text : String) : List String := (rows text.toList).map String.ofList

/-- That a text is one line: a line feed ends it and stands nowhere else in it. -/
def IsLine (text : String) : Prop := ∃ row, text.toList = row ++ ['\n'] ∧ '\n' ∉ row

/-- A line and what follows it. -/
theorem rows_append_cons (row rest : List Char) (hrow : '\n' ∉ row) :
    rows (row ++ '\n' :: rest) = (row ++ ['\n']) :: rows rest := by
  induction row with
  | nil => rw [List.nil_append, rows, if_pos rfl, List.nil_append]
  | cons c others ih =>
      rcases List.ne_and_not_mem_of_not_mem_cons hrow with ⟨hc, hothers⟩
      rw [List.cons_append, rows, if_neg hc.symm, ih hothers]
      rfl

theorem lines_join (texts : List String) (h : ∀ text ∈ texts, IsLine text) :
    lines (String.join texts) = texts := by
  induction texts with
  | nil => rfl
  | cons text others ih =>
      rcases List.forall_mem_cons.mp h with ⟨⟨row, htext, hrow⟩, hothers⟩
      have hrest := ih hothers
      unfold lines at hrest ⊢
      rw [String.toList_join] at hrest ⊢
      rw [List.flatMap_cons, htext, List.append_assoc, List.singleton_append,
        rows_append_cons row _ hrow, List.map_cons, hrest, ← htext, String.ofList_toList]

end Lines

section Words

/-- That a text is one word: it holds neither the blank between words, nor the colon before
them, nor the line feed after them. -/
def IsWord (text : String) : Prop := ∀ c ∈ text.toList, c ≠ ' ' ∧ c ≠ ':' ∧ c ≠ '\n'

instance (text : String) : Decidable (IsWord text) :=
  List.decidableBAll (fun c => c ≠ ' ' ∧ c ≠ ':' ∧ c ≠ '\n') text.toList

theorem isWord_append (front back : String) :
    IsWord (front ++ back) ↔ IsWord front ∧ IsWord back := by
  unfold IsWord
  rw [String.toList_append, List.forall_mem_append]

theorem isDigit_of_mem_toString (n : Nat) (c : Char) (hc : c ∈ (toString n).toList) :
    c.isDigit = true := by
  have hdigits : (toString n).toList = Nat.toDigits 10 n := Nat.toList_repr
  rw [hdigits] at hc
  exact Nat.isDigit_of_mem_toDigits (by decide) (by decide) hc

theorem isWord_toString (n : Nat) : IsWord (toString n) := by
  intro c hc
  have hdigit := isDigit_of_mem_toString n c hc
  refine ⟨?_, ?_, ?_⟩ <;> (rintro rfl; exact absurd hdigit (by decide))

/-- Words, each with a blank in front. -/
def spaced (words : List String) : List Char := words.flatMap fun word => ' ' :: word.toList

/-- The words of a text in which each has a blank in front. -/
def words (text : List Char) : List String := (pieces (· == ' ') text).tail.map String.ofList

/-- The front is what has been read of a word. -/
theorem pieces_append_spaced (front : List Char) (texts : List String)
    (hfront : ∀ c ∈ front, (c == ' ') = false) (h : ∀ text ∈ texts, IsWord text) :
    pieces (· == ' ') (front ++ spaced texts) = front :: texts.map String.toList := by
  induction texts generalizing front with
  | nil =>
      rw [spaced, List.flatMap_nil, List.append_nil, pieces_eq_singleton _ _ hfront]
      rfl
  | cons text others ih =>
      rcases List.forall_mem_cons.mp h with ⟨htext, hothers⟩
      have hplain : ∀ c ∈ text.toList, (c == ' ') = false :=
        fun c hc => beq_false_of_ne (htext c hc).1
      -- The blank in front of the first word ends the front, and that word is read next.
      have hspaced : spaced (text :: others) = ' ' :: (text.toList ++ spaced others) :=
        List.flatMap_cons
      rw [hspaced, pieces_append_cons _ front _ ' ' rfl, pieces_eq_singleton _ _ hfront,
        ih text.toList hplain hothers, List.map_cons, List.singleton_append]

theorem words_spaced (texts : List String) (h : ∀ text ∈ texts, IsWord text) :
    words (spaced texts) = texts := by
  have hpieces := pieces_append_spaced [] texts (List.forall_mem_nil _) h
  rw [List.nil_append] at hpieces
  rw [words, hpieces, List.tail_cons, List.map_map]
  exact List.map_id'' (fun text => String.ofList_toList) texts

theorem mem_spaced (texts : List String) (h : ∀ text ∈ texts, IsWord text) :
    ∀ c ∈ spaced texts, c ≠ ':' ∧ c ≠ '\n' := by
  intro c hc
  rcases List.mem_flatMap.mp hc with ⟨text, htext, hc⟩
  rcases List.mem_cons.mp hc with rfl | hc
  · decide
  · exact (h text htext c hc).2

end Words

section Entries

/-- What stands before and after the last `mark`. -/
def cutLast? (mark : Char) (text : List Char) : Option (List Char × List Char) :=
  (cut? mark text.reverse).map fun (back, front) => (front.reverse, back.reverse)

theorem cutLast?_append_cons (mark : Char) (front back : List Char)
    (hnone : ∀ c ∈ back, c ≠ mark) :
    cutLast? mark (front ++ mark :: back) = some (front, back) := by
  have hreverse : ∀ c ∈ back.reverse, c ≠ mark :=
    fun c hc => hnone c (List.mem_reverse.mp hc)
  rw [cutLast?, List.reverse_append, List.reverse_cons, List.append_assoc, List.singleton_append,
    cut?_append_cons mark _ _ hreverse, Option.map_some]
  dsimp only
  rw [List.reverse_reverse, List.reverse_reverse]

/-- That a line has a heading, a colon and these words. -/
structure IsEntry (line : String) (heading : List Char) (words : List String) : Prop where
  chars : line.toList = heading ++ ':' :: spaced words ++ ['\n']
  words : ∀ word ∈ words, IsWord word

/-- The heading and the words of a line. -/
def parts? (line : String) : Option (List Char × List String) :=
  (cutLast? ':' line.toList.dropLast).map fun (heading, back) => (heading, words back)

variable {line : String} {heading : List Char} {texts : List String}

theorem parts?_of_isEntry (h : IsEntry line heading texts) :
    parts? line = some (heading, texts) := by
  have hcolon : ∀ c ∈ spaced texts, c ≠ ':' := fun c hc => (mem_spaced texts h.words c hc).1
  rw [parts?, h.chars, List.dropLast_concat, cutLast?_append_cons ':' heading _ hcolon,
    Option.map_some]
  dsimp only
  rw [words_spaced texts h.words]

theorem isLine_of_isEntry (h : IsEntry line heading texts) (hheading : '\n' ∉ heading) :
    IsLine line := by
  refine ⟨heading ++ ':' :: spaced texts, h.chars, ?_⟩
  intro hmem
  rcases List.mem_append.mp hmem with hmem | hmem
  · exact hheading hmem
  · rcases List.mem_cons.mp hmem with hcolon | hmem
    · exact absurd hcolon (by decide)
    · exact (mem_spaced texts h.words _ hmem).2 rfl

end Entries

end Text

end PageSweep
