import PageSweep.Text.Pieces

/-!
# Cutting What Was Joined

Text joined with a separator falls apart at that separator into the parts it was
joined from, as long as the parts do not hold the separator themselves.

## Theorems

* `pieces_append_cons`: Cutting at one separator, whatever stands around it.
* `pieces_eq_singleton`: A text without separators is one piece.
* `cut_eq_false_of_mem_pieces`: No piece holds a separator.
* `cut?_append_cons`: Cutting at the first separator.
-/

namespace PageSweep

namespace Text

theorem pieces_ne_nil (cut : Char → Bool) (text : List Char) : pieces cut text ≠ [] := by
  induction text with
  | nil => exact List.cons_ne_nil _ _
  | cons c rest ih =>
      by_cases hc : cut c = true
      · rw [pieces, if_pos hc]
        exact List.cons_ne_nil _ _
      · rw [pieces, if_neg hc]
        cases hp : pieces cut rest with
        | nil => exact absurd hp ih
        | cons first more => exact List.cons_ne_nil _ _

theorem pieces_append_cons (cut : Char → Bool) (front back : List Char) (mark : Char)
    (hmark : cut mark = true) :
    pieces cut (front ++ mark :: back) = pieces cut front ++ pieces cut back := by
  induction front with
  | nil => simp only [List.nil_append, pieces, if_pos hmark, List.singleton_append]
  | cons c rest ih =>
      by_cases hc : cut c = true
      · rw [List.cons_append, pieces, if_pos hc, ih, pieces, if_pos hc, List.cons_append]
      · rw [List.cons_append, pieces, if_neg hc, ih, pieces, if_neg hc]
        -- The character goes to the first piece of the rest, and there is one.
        cases hp : pieces cut rest with
        | nil => exact absurd hp (pieces_ne_nil cut rest)
        | cons first more => rfl

theorem pieces_eq_singleton (cut : Char → Bool) (text : List Char)
    (hnone : ∀ c ∈ text, cut c = false) : pieces cut text = [text] := by
  induction text with
  | nil => rfl
  | cons c rest ih =>
      have hc : ¬ (cut c = true) := by
        rw [hnone c List.mem_cons_self]
        exact Bool.false_ne_true
      rw [pieces, if_neg hc, ih fun d hd => hnone d (List.mem_cons_of_mem _ hd)]

theorem cut_eq_false_of_mem_pieces (cut : Char → Bool) (text : List Char) :
    ∀ piece ∈ pieces cut text, ∀ c ∈ piece, cut c = false := by
  induction text with
  | nil => exact List.forall_mem_singleton.mpr (List.forall_mem_nil _)
  | cons c rest ih =>
      by_cases hc : cut c = true
      · rw [pieces, if_pos hc]
        exact List.forall_mem_cons.mpr ⟨List.forall_mem_nil _, ih⟩
      · rw [pieces, if_neg hc]
        cases hp : pieces cut rest with
        | nil => exact absurd hp (pieces_ne_nil cut rest)
        | cons first more =>
            rw [hp] at ih
            rcases List.forall_mem_cons.mp ih with ⟨hfirst, hmore⟩
            exact List.forall_mem_cons.mpr
              ⟨List.forall_mem_cons.mpr ⟨Bool.eq_false_iff.mpr hc, hfirst⟩, hmore⟩

theorem cut?_append_cons (mark : Char) (front back : List Char)
    (hnone : ∀ c ∈ front, c ≠ mark) : cut? mark (front ++ mark :: back) = some (front, back) := by
  have hkeep : ∀ c ∈ front, (c != mark) = true := fun c hc => bne_iff_ne.mpr (hnone c hc)
  rw [cut?, List.dropWhile_append_of_pos hkeep, List.takeWhile_append_of_pos hkeep]
  simp only [List.dropWhile_cons, List.takeWhile_cons, bne_self_eq_false, Bool.false_eq_true,
    if_false, List.append_nil]

end Text

end PageSweep
