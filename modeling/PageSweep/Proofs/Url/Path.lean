import Mathlib.Data.List.DropRight
import Mathlib.Data.List.Induction
import PageSweep.Config
import PageSweep.Proofs.Text.Pieces
import PageSweep.Proofs.Url.Segment

/-!
# Paths Read Back

Reading a path resolves its dots and encodes what it cannot hold. What comes out has
nothing left to resolve or to encode: its segments are clean. A path of clean segments is
written by putting a slash in front of each, and reading it gives the same segments.

Slashes at the end of a path are empty segments. Dropping them leaves clean segments, and
so does adding some, so a path can be extended as text.

## Main definitions

* `Path.spelled`: The text of segments.
* `Path.trimmed`: Segments without the empty ones at the end.

## Theorems

* `clean_allSegments`: What is read is clean.
* `allSegments_spelled`: Clean segments read back.
* `trimSlashes_spelled`: Dropping slashes drops empty segments.
* `trimSlashes_append_slashes`, `exists_slashes`: What is left has no slash at its end.
-/

namespace PageSweep

namespace Url

namespace Path

/-- Whether all segments are clean. -/
def AllClean (list : List String) : Prop :=
  ∀ segment ∈ list, Clean segment.toList

/-- The text of segments. -/
def spelled (list : List String) : List Char :=
  list.flatMap fun segment => '/' :: segment.toList

theorem toList_text_segments (list : List String) :
    (text (.segments list)).toList = spelled list := by
  have hsegment : ∀ segment : String, ("/" ++ segment).toList = '/' :: segment.toList := by
    intro segment
    rw [String.toList_append]
    rfl
  rw [text, String.toList_join, List.flatMap_map]
  simp only [hsegment]
  rfl

section Reading

theorem mem_shorten (done : List String) : ∀ segment ∈ shorten done, segment ∈ done := by
  cases done with
  | nil => exact List.forall_mem_nil _
  | cons last done =>
      rw [shorten]
      intro segment hmem
      split at hmem
      · exact hmem
      · exact List.mem_cons_of_mem _ hmem

theorem clean_empty_cons (done : List String) (hdone : AllClean done) : AllClean ("" :: done) :=
  List.forall_mem_cons.mpr ⟨clean_nil, hdone⟩

theorem encoded_web (first : Bool) (segment : List Char) :
    encoded false first segment = String.ofList (Percent.encode Percent.inPath segment) := rfl

/-- Every step of the walk keeps the segments clean. -/
theorem clean_walk (pieces : List (List Char)) (done : List String) (hdone : AllClean done)
    (hpieces : ∀ piece ∈ pieces, ∀ c ∈ piece, isSeparator true c = false) :
    AllClean (walk false done pieces) := by
  induction pieces generalizing done with
  | nil =>
      rw [walk]
      intro segment hmem
      exact hdone segment (List.mem_reverse.mp hmem)
  | cons piece rest ih =>
      rcases List.forall_mem_cons.mp hpieces with ⟨hpiece, hrest⟩
      have hshorter : AllClean (shorten done) := fun segment hmem =>
        hdone segment (mem_shorten done segment hmem)
      rw [walk]
      by_cases hdots : isDotDot piece = true
      · rw [if_pos hdots]
        refine ih _ ?_ hrest
        split
        · exact clean_empty_cons _ hshorter
        · exact hshorter
      · rw [if_neg hdots]
        by_cases hdot : isDot piece = true
        · rw [if_pos hdot]
          refine ih _ ?_ hrest
          split
          · exact clean_empty_cons _ hdone
          · exact hdone
        · rw [if_neg hdot]
          refine ih _ (List.forall_mem_cons.mpr ⟨?_, hdone⟩) hrest
          rw [encoded_web, String.toList_ofList]
          exact clean_encode piece hpiece (Bool.eq_false_iff.mpr hdot) (Bool.eq_false_iff.mpr hdots)

/-- Clean segments are passed on as they are. -/
theorem walk_clean (list done : List String) (hlist : AllClean list) :
    walk false done (list.map String.toList) = done.reverse ++ list := by
  induction list generalizing done with
  | nil => rw [List.map_nil, walk, List.append_nil]
  | cons segment rest ih =>
      rcases List.forall_mem_cons.mp hlist with ⟨hclean, hrest⟩
      rw [List.map_cons, walk, if_neg (Bool.eq_false_iff.mp hclean.dots),
        if_neg (Bool.eq_false_iff.mp hclean.dot), encoded_web, encode_of_keeps _ hclean.keeps,
        String.ofList_toList, ih _ hrest, List.reverse_cons, List.append_assoc,
        List.singleton_append]

/-- What is read is clean. -/
theorem clean_allSegments (text : List Char) : AllClean (allSegments true false text) :=
  clean_walk _ [] (List.forall_mem_nil _) (Text.cut_eq_false_of_mem_pieces _ text)

/-- The text of segments falls apart at their slashes. -/
theorem pieces_spelled (first : List Char) (list : List String)
    (hfirst : ∀ c ∈ first, isSeparator true c = false) (hlist : AllClean list) :
    Text.pieces (isSeparator true) (first ++ spelled list) = first :: list.map String.toList := by
  induction list generalizing first with
  | nil =>
      rw [spelled, List.flatMap_nil, List.append_nil, Text.pieces_eq_singleton _ first hfirst]
      rfl
  | cons segment rest ih =>
      rcases List.forall_mem_cons.mp hlist with ⟨hclean, hrest⟩
      have hcons : first ++ spelled (segment :: rest)
          = first ++ '/' :: (segment.toList ++ spelled rest) := rfl
      rw [hcons, Text.pieces_append_cons _ first _ '/' rfl,
        Text.pieces_eq_singleton _ first hfirst, ih _ hclean.whole hrest]
      rfl

/-- Clean segments read back. -/
theorem allSegments_spelled (first : String) (rest : List String)
    (h : AllClean (first :: rest)) :
    allSegments true false ((spelled (first :: rest)).drop 1) = first :: rest := by
  rcases List.forall_mem_cons.mp h with ⟨hfirst, hrest⟩
  have hdrop : (spelled (first :: rest)).drop 1 = first.toList ++ spelled rest := rfl
  have hpieces := pieces_spelled first.toList rest hfirst.whole hrest
  rw [allSegments, hdrop, hpieces]
  exact walk_clean (first :: rest) [] h

end Reading

section Trimming

open Config (trimSlashes)

theorem trimSlashes_eq (text : List Char) : trimSlashes text = text.rdropWhile (· = '/') := rfl

/-- Segments without the empty ones at the end. -/
def trimmed (list : List String) : List String :=
  list.rdropWhile (· = "")

theorem trimSlashes_append_slashes (text : List Char) (n : Nat) :
    trimSlashes (text ++ List.replicate n '/') = trimSlashes text := by
  induction n with
  | zero => rw [List.replicate_zero, List.append_nil]
  | succ n ih =>
      rw [trimSlashes_eq] at ih
      rw [List.replicate_succ', ← List.append_assoc, trimSlashes_eq, List.rdropWhile_concat,
        if_pos (decide_eq_true rfl), ih]

/-- A text is what is left of it and the slashes that were dropped. -/
theorem exists_slashes (text : List Char) :
    ∃ n, text = trimSlashes text ++ List.replicate n '/' ∧
      (trimSlashes text).getLast? ≠ some '/' := by
  have hslashes : text.rtakeWhile (· = '/')
      = List.replicate (text.rtakeWhile (· = '/')).length '/' := by
    rw [List.eq_replicate_iff]
    refine ⟨rfl, fun c hc => ?_⟩
    exact of_decide_eq_true (List.mem_rtakeWhile_imp (p := fun c => decide (c = '/')) hc)
  refine ⟨(text.rtakeWhile (· = '/')).length, ?_, ?_⟩
  · rw [← hslashes, trimSlashes_eq]
    exact List.rdropWhile_append_rtakeWhile.symm
  · rw [trimSlashes_eq]
    intro hlast
    have hne : text.rdropWhile (· = '/') ≠ [] := by
      intro hnil
      rw [hnil, List.getLast?_nil] at hlast
      exact absurd hlast (by simp only [reduceCtorEq, not_false_eq_true])
    rw [List.getLast?_eq_some_getLast hne] at hlast
    exact List.rdropWhile_last_not _ _ hne (decide_eq_true (Option.some.inj hlast))

theorem spelled_append (front back : List String) :
    spelled (front ++ back) = spelled front ++ spelled back :=
  List.flatMap_append

theorem mem_trimmed (list : List String) : ∀ segment ∈ trimmed list, segment ∈ list :=
  fun _ hmem => (List.rdropWhile_prefix _ _).subset hmem

/-- A segment that is not empty has a last character, and it is no slash. -/
theorem trimSlashes_append_segment (front segment : List Char) (hne : segment ≠ [])
    (hwhole : ∀ c ∈ segment, isSeparator true c = false) :
    trimSlashes (front ++ '/' :: segment) = front ++ '/' :: segment := by
  have hlast := hwhole _ (List.getLast_mem hne)
  have hkeep : ¬ decide (segment.getLast hne = '/') = true := by
    intro hslash
    rw [of_decide_eq_true hslash] at hlast
    exact absurd hlast (by decide)
  have htext : front ++ '/' :: segment
      = (front ++ '/' :: segment.dropLast) ++ [segment.getLast hne] := by
    rw [List.append_assoc, List.cons_append, List.dropLast_concat_getLast hne]
  rw [htext, trimSlashes_eq, List.rdropWhile_concat, if_neg hkeep]

/-- Dropping slashes drops empty segments, by induction from the end of the list. -/
theorem trimSlashes_spelled (list : List String) (h : AllClean list) :
    trimSlashes (spelled list) = spelled (trimmed list) := by
  induction list using List.reverseRecOn with
  | nil => rfl
  | append_singleton list segment ih =>
      have hlist : AllClean list := fun s hs => h s (List.mem_append_left _ hs)
      have hsegment := h segment (List.mem_append_right _ (List.mem_singleton_self segment))
      have hone : spelled [segment] = '/' :: segment.toList := List.append_nil _
      by_cases hempty : segment = ""
      · -- An empty segment at the end is one more slash.
        have hslash := trimSlashes_append_slashes (spelled list) 1
        rw [hempty] at hone ⊢
        rw [trimmed, List.rdropWhile_concat, if_pos (decide_eq_true rfl), spelled_append, hone]
        exact hslash.trans (ih hlist)
      · have hkeep : ¬ decide (segment = "") = true := fun heq => hempty (of_decide_eq_true heq)
        have hne : segment.toList ≠ [] := fun hnil => hempty (String.toList_eq_nil_iff.mp hnil)
        rw [trimmed, List.rdropWhile_concat, if_neg hkeep, spelled_append, hone]
        exact trimSlashes_append_segment _ _ hne hsegment.whole

end Trimming

end Path

end Url

end PageSweep
