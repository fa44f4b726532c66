import PageSweep.Proofs.Text.Numeral
import PageSweep.Proofs.Text.Pieces
import PageSweep.Proofs.Text.Utf8
import PageSweep.Url.Form

/-!
# Form Encoding Round Trip

A list of named values that is written as a query reads back to the same list, for
any text in the names and the values.

Two things have to hold. The written text of a name or a value must not contain a
separator, or the query would be cut in the wrong places; `plain_of_mem_component`
says so. And each written character must read back to the bytes of the character it
stands for, whatever comes after it. The reader turns plus signs into spaces first,
which is harmless because a plus sign in the text was percent-encoded.

## Theorems

* `pair?_digits`: The two digits of a byte read back.
* `decode_bytes`: Percent-encoded bytes read back.
* `decodeComponent_component`: A name or a value reads back.
* `decode_encode`: A list of pairs reads back.
-/

namespace PageSweep

namespace Percent

theorem pair?_digits (b : UInt8) :
    pair? (Numeral.upper (b.toNat / 16)) (Numeral.upper (b.toNat % 16)) = some b := by
  have hb : b.toNat < 256 := b.toNat_lt
  rw [pair?, Numeral.digit?_upper _ (by omega), Numeral.digit?_upper _ (by omega)]
  -- The two digits are the halves of the byte.
  have hsum : b.toNat / 16 * 16 + b.toNat % 16 = b.toNat := by omega
  simp only [Option.bind_eq_bind, Option.bind_some, Option.pure_def, hsum, UInt8.ofNat_toNat]

theorem decode_bytes (bytes : List UInt8) (rest : List Char) :
    decode (bytes.flatMap byte ++ rest) = bytes ++ decode rest := by
  induction bytes with
  | nil => rfl
  | cons b more ih =>
      rw [List.flatMap_cons, byte, List.append_assoc, List.cons_append, List.cons_append,
        List.cons_append, List.nil_append, decode]
      simp only [pair?_digits]
      rw [ih, List.cons_append]

theorem decode_cons_of_ne (c : Char) (rest : List Char) (hc : c ≠ '%') :
    decode (c :: rest) = String.utf8EncodeChar c ++ decode rest := by
  rw [decode]
  exact fun h => hc h

end Percent

namespace Form

/-- A character that stands for nothing but itself in the text of a name or a value. -/
def IsPlain (c : Char) : Prop :=
  c ≠ '&' ∧ c ≠ '='

theorem upper_ne : ∀ n < 16,
    Numeral.upper n ≠ '&' ∧ Numeral.upper n ≠ '=' ∧ Numeral.upper n ≠ '+' := by
  decide

theorem ne_of_keeps (c : Char) (hc : keeps c = true) :
    c ≠ '&' ∧ c ≠ '=' ∧ c ≠ '+' ∧ c ≠ '%' := by
  refine ⟨?_, ?_, ?_, ?_⟩
  all_goals
    intro heq
    rw [heq] at hc
    exact absurd hc (by decide)

theorem plain_of_mem_byte (b : UInt8) (c : Char) (hc : c ∈ Percent.byte b) :
    IsPlain c ∧ c ≠ '+' := by
  have hb : b.toNat < 256 := b.toNat_lt
  have hhigh := upper_ne (b.toNat / 16) (by omega)
  have hlow := upper_ne (b.toNat % 16) (by omega)
  simp only [Percent.byte, List.mem_cons, List.not_mem_nil, or_false] at hc
  rcases hc with h | h | h
  · rw [h]
    exact ⟨⟨by decide, by decide⟩, by decide⟩
  · rw [h]
    exact ⟨⟨hhigh.1, hhigh.2.1⟩, hhigh.2.2⟩
  · rw [h]
    exact ⟨⟨hlow.1, hlow.2.1⟩, hlow.2.2⟩

theorem plain_of_mem_character (c d : Char) (hd : d ∈ character c) : IsPlain d := by
  unfold character at hd
  -- There are three ways to write a character: as itself, as a plus sign, or
  -- byte by byte.
  by_cases hk : keeps c = true
  · rw [if_pos hk, List.mem_singleton] at hd
    rw [hd]
    exact ⟨(ne_of_keeps c hk).1, (ne_of_keeps c hk).2.1⟩
  · rw [if_neg hk] at hd
    by_cases hs : c = ' '
    · rw [if_pos hs, List.mem_singleton] at hd
      rw [hd]
      exact ⟨by decide, by decide⟩
    · rw [if_neg hs] at hd
      rcases List.mem_flatMap.mp hd with ⟨b, _, hb⟩
      exact (plain_of_mem_byte b d hb).1

theorem plain_of_mem_component (text : String) (c : Char) (hc : c ∈ component text) :
    IsPlain c := by
  rcases List.mem_flatMap.mp hc with ⟨d, _, hd⟩
  exact plain_of_mem_character d c hd

/-- Percent-encoded bytes hold no plus sign. -/
theorem map_unplus_bytes (bytes : List UInt8) :
    (bytes.flatMap Percent.byte).map unplus = bytes.flatMap Percent.byte := by
  have hall : ∀ c ∈ bytes.flatMap Percent.byte, unplus c = c := by
    intro c hc
    rcases List.mem_flatMap.mp hc with ⟨b, _, hb⟩
    exact if_neg (plain_of_mem_byte b c hb).2
  rw [List.map_congr_left hall, List.map_id']

/-- A written character reads back to its bytes, whatever comes after it. -/
theorem decode_character (c : Char) (rest : List Char) :
    Percent.decode ((character c).map unplus ++ rest)
      = String.utf8EncodeChar c ++ Percent.decode rest := by
  unfold character
  by_cases hk : keeps c = true
  · have hne := ne_of_keeps c hk
    rw [if_pos hk, List.map_singleton, List.singleton_append, unplus, if_neg hne.2.2.1]
    -- What is kept is no plus sign, so nothing becomes a space.
    exact Percent.decode_cons_of_ne c rest hne.2.2.2
  · rw [if_neg hk]
    by_cases hs : c = ' '
    · rw [if_pos hs, List.map_singleton, List.singleton_append, unplus, if_pos rfl, hs]
      exact Percent.decode_cons_of_ne ' ' rest (by decide)
    · rw [if_neg hs, map_unplus_bytes, Percent.decode_bytes]

theorem decode_characters (chars : List Char) :
    Percent.decode ((chars.flatMap character).map unplus)
      = chars.flatMap String.utf8EncodeChar := by
  induction chars with
  | nil => rw [List.flatMap_nil, List.map_nil, Percent.decode, List.flatMap_nil]
  | cons c rest ih =>
      rw [List.flatMap_cons, List.map_append, decode_character, ih, List.flatMap_cons]

theorem decodeComponent_component (text : String) :
    decodeComponent (component text) = text := by
  rw [decodeComponent, component, decode_characters, Utf8.lossy_flatMap]

theorem decodePair_pair (entry : String × String) : decodePair (pair entry) = entry := by
  -- The name holds no equals sign, so the first one is the one between.
  have hcut : Text.cut? '=' (pair entry) = some (component entry.1, component entry.2) :=
    Text.cut?_append_cons '=' _ _ fun c hc => (plain_of_mem_component entry.1 c hc).2
  rw [decodePair, hcut]
  simp only [decodeComponent_component]

/-- A written pair holds no `&`, so it is one piece. -/
theorem pieces_pair (entry : String × String) :
    Text.pieces (· = '&') (pair entry) = [pair entry] := by
  refine Text.pieces_eq_singleton _ _ fun c hc => decide_eq_false ?_
  rcases List.mem_append.mp hc with h | h
  · exact (plain_of_mem_component entry.1 c h).1
  · rcases List.mem_cons.mp h with h' | h'
    · rw [h']
      decide
    · exact (plain_of_mem_component entry.2 c h').1

/-- A written pair is never skipped as empty. -/
theorem isEmpty_pair (entry : String × String) : (pair entry).isEmpty = false := by
  rw [List.isEmpty_eq_false_iff, pair]
  exact List.append_ne_nil_of_right_ne_nil _ (List.cons_ne_nil _ _)

theorem decode_pair (entry : String × String) : decode (pair entry) = [entry] := by
  rw [decode, pieces_pair, List.filter_cons_of_pos (by rw [isEmpty_pair]; rfl), List.filter_nil,
    List.map_singleton, decodePair_pair]

/-- Reading goes on after each `&`. -/
theorem decode_append_cons (front back : List Char) :
    decode (front ++ '&' :: back) = decode front ++ decode back := by
  rw [decode, Text.pieces_append_cons _ front back '&' (by decide), List.filter_append,
    List.map_append]
  rfl

theorem decode_encode (entries : List (String × String)) :
    decode (encode entries) = entries := by
  induction entries with
  | nil => rfl
  | cons entry rest ih =>
      -- A separator stands between two pairs only, so the last pair is a case of
      -- its own.
      cases rest with
      | nil => exact decode_pair entry
      | cons next more =>
          rw [encode, decode_append_cons, decode_pair, ih]
          · rfl
          · exact List.cons_ne_nil _ _

end Form

end PageSweep
