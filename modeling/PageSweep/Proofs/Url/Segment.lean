import PageSweep.Url.Path

/-!
# Segments That Are Written

A segment that has been written once is read back as it is: all its characters can stand
in a path, none of them separates segments, and it is not one of the spellings of one or
two dots, which reading would drop or follow.

The last point needs care, since a dot may be percent-encoded. Writing a segment must not
turn it into such a spelling. It cannot: the characters that are encoded are none that a
path keeps, and a path keeps dots. So a spelling of dots was one before it was written.

## Main definitions

* `Path.Clean`: What a written segment is.
* `Path.Dotted`: The spellings of dots.

## Theorems

* `encode_of_keeps`: Nothing that is kept is encoded.
* `dotted_of_encode`: Encoding does not lead to a spelling of dots.
* `clean_encode`: A segment without separators and dots is clean once it is written.
-/

namespace PageSweep

namespace Url

namespace Path

open Percent

/-- A segment that can be read back: it has only characters of a path, no separators, and
it is no spelling of one or two dots. -/
structure Clean (segment : List Char) : Prop where
  keeps : ∀ c ∈ segment, inPath c = true
  whole : ∀ c ∈ segment, isSeparator true c = false
  dot : isDot segment = false
  dots : isDotDot segment = false

section Encoding

theorem encode_cons (c : Char) (rest : List Char) :
    encode inPath (c :: rest)
      = (if inPath c then [c] else (String.utf8EncodeChar c).flatMap byte)
        ++ encode inPath rest :=
  List.flatMap_cons

theorem encode_of_keeps (segment : List Char) (h : ∀ c ∈ segment, inPath c = true) :
    encode inPath segment = segment := by
  induction segment with
  | nil => rfl
  | cons c rest ih =>
      rcases List.forall_mem_cons.mp h with ⟨hc, hrest⟩
      rw [encode_cons, if_pos hc, ih hrest]
      rfl

theorem upper_keeps : ∀ n < 16,
    inPath (Numeral.upper n) = true ∧ isSeparator true (Numeral.upper n) = false := by
  decide

theorem keeps_of_mem_byte (b : UInt8) (c : Char) (hc : c ∈ byte b) :
    inPath c = true ∧ isSeparator true c = false := by
  have hb := b.toNat_lt
  rw [byte, List.mem_cons, List.mem_cons, List.mem_singleton] at hc
  rcases hc with rfl | rfl | rfl
  · decide
  · exact upper_keeps _ (by omega)
  · exact upper_keeps _ (by omega)

/-- What is written for a segment can stand in a path and does not separate segments. -/
theorem keeps_of_mem_encode (segment : List Char)
    (h : ∀ c ∈ segment, isSeparator true c = false) (c : Char)
    (hc : c ∈ encode inPath segment) : inPath c = true ∧ isSeparator true c = false := by
  rw [encode, List.mem_flatMap] at hc
  rcases hc with ⟨d, hd, hmem⟩
  by_cases hkeep : inPath d = true
  · rw [if_pos hkeep, List.mem_singleton] at hmem
    rw [hmem]
    exact ⟨hkeep, h d hd⟩
  · rw [if_neg hkeep, List.mem_flatMap] at hmem
    rcases hmem with ⟨b, -, hbyte⟩
    exact keeps_of_mem_byte b c hbyte

end Encoding

section Dots

/-- The spellings of dots in lower case, as they stand or percent-encoded. -/
inductive Dotted : List Char → Prop where
  | nil : Dotted []
  | plain (rest : List Char) (h : Dotted rest) : Dotted ('.' :: rest)
  | escaped (rest : List Char) (h : Dotted rest) : Dotted ('%' :: '2' :: 'e' :: rest)

theorem dotted_of_isDot (segment : List Char) (h : isDot segment = true) :
    Dotted (segment.map Char.toLower) := by
  simp only [isDot, Bool.or_eq_true, decide_eq_true_eq] at h
  rcases h with h | h
  · rw [h]
    exact .plain _ .nil
  · rw [h]
    exact .escaped _ .nil

theorem dotted_of_isDotDot (segment : List Char) (h : isDotDot segment = true) :
    Dotted (segment.map Char.toLower) := by
  simp only [isDotDot, Bool.or_eq_true, decide_eq_true_eq] at h
  rcases h with ((h | h) | h) | h
  · rw [h]
    exact .plain _ (.plain _ .nil)
  · rw [h]
    exact .plain _ (.escaped _ .nil)
  · rw [h]
    exact .escaped _ (.plain _ .nil)
  · rw [h]
    exact .escaped _ (.escaped _ .nil)

/-- The first byte of a character that a path does not keep is not that of a dot. -/
theorem utf8EncodeChar_of_not_keeps (c : Char) (h : inPath c ≠ true) :
    ∃ b bytes, String.utf8EncodeChar c = b :: bytes ∧ b.toNat ≠ 0x2E := by
  have hdot : c.val.toNat ≠ 0x2E := by
    intro heq
    have hsame : c = '.' := Char.ext (UInt32.toNat_inj.mp heq)
    rw [hsame] at h
    exact absurd (by decide) h
  unfold String.utf8EncodeChar
  generalize c.val.toNat = n at hdot ⊢
  dsimp only
  -- The first byte of a longer character is greater than any of ASCII.
  split
  · refine ⟨_, _, rfl, ?_⟩
    rw [UInt8.toNat_ofNat']
    omega
  · split
    · refine ⟨_, _, rfl, ?_⟩
      rw [UInt8.toNat_ofNat']
      omega
    · split
      all_goals
        refine ⟨_, _, rfl, ?_⟩
        rw [UInt8.toNat_ofNat']
        omega

theorem toLower_upper : ∀ n < 16,
    ((Numeral.upper n).toLower = '2' → n = 2) ∧ ((Numeral.upper n).toLower = 'e' → n = 14) := by
  decide

/-- A character that is encoded begins with a percent sign and digits that do not stand
for a dot. -/
theorem map_toLower_bytes (c : Char) (h : inPath c ≠ true) (rest : List Char) :
    ∃ m n more, ((String.utf8EncodeChar c).flatMap byte ++ rest).map Char.toLower
      = '%' :: (Numeral.upper m).toLower :: (Numeral.upper n).toLower :: more ∧
        m < 16 ∧ n < 16 ∧ m * 16 + n ≠ 0x2E := by
  rcases utf8EncodeChar_of_not_keeps c h with ⟨b, bytes, hbytes, hb⟩
  have hbound := b.toNat_lt
  rw [hbytes, List.flatMap_cons, byte]
  refine ⟨b.toNat / 16, b.toNat % 16, _, rfl, by omega, by omega, by omega⟩

/-- What is spelled in front of an encoded segment stands in front of the segment. -/
theorem encode_eq_cons (segment : List Char) (d : Char) (word : List Char) (hd : d ≠ '%')
    (h : (encode inPath segment).map Char.toLower = d :: word) :
    ∃ c rest, segment = c :: rest ∧ c.toLower = d ∧
      (encode inPath rest).map Char.toLower = word := by
  cases segment with
  | nil => exact absurd h (by simp only [encode, List.flatMap_nil, List.map_nil, reduceCtorEq,
      not_false_eq_true])
  | cons c rest =>
      rw [encode_cons] at h
      by_cases hc : inPath c = true
      · rw [if_pos hc, List.singleton_append, List.map_cons, List.cons.injEq] at h
        exact ⟨c, rest, rfl, h.1, h.2⟩
      · rcases map_toLower_bytes c hc (encode inPath rest) with ⟨m, n, more, hword, -⟩
        rw [if_neg hc, hword, List.cons.injEq] at h
        exact absurd h.1.symm hd

/-- Encoding does not lead to a spelling of dots, by induction on the spelling. A percent
sign in it is one of the segment, since no character that is encoded stands for a dot. -/
theorem dotted_of_encode (word : List Char) (hword : Dotted word) (segment : List Char)
    (h : (encode inPath segment).map Char.toLower = word) : segment.map Char.toLower = word := by
  induction hword generalizing segment with
  | nil =>
      cases segment with
      | nil => rfl
      | cons c rest =>
          rw [encode_cons] at h
          by_cases hc : inPath c = true
          · rw [if_pos hc] at h
            exact absurd h (List.cons_ne_nil _ _)
          · rcases map_toLower_bytes c hc (encode inPath rest) with ⟨m, n, more, hbytes, -⟩
            rw [if_neg hc, hbytes] at h
            exact absurd h (List.cons_ne_nil _ _)
  | plain word _ ih =>
      rcases encode_eq_cons segment _ _ (by decide) h with ⟨c, rest, rfl, hc, hrest⟩
      rw [List.map_cons, hc, ih rest hrest]
  | escaped word _ ih =>
      cases segment with
      | nil => exact absurd h (by simp only [encode, List.flatMap_nil, List.map_nil, reduceCtorEq,
          not_false_eq_true])
      | cons c rest =>
          rw [encode_cons] at h
          by_cases hc : inPath c = true
          · -- The percent sign belongs to the segment, and so do the digits behind it.
            rw [if_pos hc, List.singleton_append, List.map_cons, List.cons.injEq] at h
            rcases encode_eq_cons rest _ _ (by decide) h.2 with ⟨two, more, rfl, htwo, hmore⟩
            rcases encode_eq_cons more _ _ (by decide) hmore with ⟨e, last, rfl, he, hlast⟩
            rw [List.map_cons, List.map_cons, List.map_cons, h.1, htwo, he, ih last hlast]
          · -- The percent sign begins a character that is encoded, and it is no dot.
            rcases map_toLower_bytes c hc (encode inPath rest) with
              ⟨m, n, more, hbytes, hm, hn, hdot⟩
            rw [if_neg hc, hbytes] at h
            simp only [List.cons.injEq] at h
            have htwo := (toLower_upper m hm).1 h.2.1
            have he := (toLower_upper n hn).2 h.2.2.1
            exact absurd (by omega) hdot

end Dots

section Clean

theorem isDot_encode (segment : List Char) (h : isDot segment = false) :
    isDot (encode inPath segment) = false := by
  rw [Bool.eq_false_iff]
  intro hdot
  have hsame := dotted_of_encode _ (dotted_of_isDot _ hdot) segment rfl
  have hspelled : isDot segment = true := by
    rw [isDot, hsame]
    exact hdot
  rw [h] at hspelled
  exact absurd hspelled Bool.false_ne_true

theorem isDotDot_encode (segment : List Char) (h : isDotDot segment = false) :
    isDotDot (encode inPath segment) = false := by
  rw [Bool.eq_false_iff]
  intro hdots
  have hsame := dotted_of_encode _ (dotted_of_isDotDot _ hdots) segment rfl
  have hspelled : isDotDot segment = true := by
    rw [isDotDot, hsame]
    exact hdots
  rw [h] at hspelled
  exact absurd hspelled Bool.false_ne_true

theorem clean_encode (segment : List Char) (hwhole : ∀ c ∈ segment, isSeparator true c = false)
    (hdot : isDot segment = false) (hdots : isDotDot segment = false) :
    Clean (encode inPath segment) :=
  ⟨fun c hc => (keeps_of_mem_encode segment hwhole c hc).1,
    fun c hc => (keeps_of_mem_encode segment hwhole c hc).2,
    isDot_encode segment hdot, isDotDot_encode segment hdots⟩

theorem clean_nil : Clean [] :=
  ⟨List.forall_mem_nil _, List.forall_mem_nil _, rfl, rfl⟩

end Clean

end Path

end Url

end PageSweep
