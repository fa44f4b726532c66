import Mathlib.Data.Char
import PageSweep.Proofs.Text.Order

/-!
# A Text That Is Cut Off

The bytes of a text may be cut anywhere, also inside a character. What is left is
well formed only if the cut falls between two characters, because no character is the
beginning of another one. So a beginning of the bytes that is a text is a beginning of
the text.

## Theorems

* `toList_toUTF8`: The bytes of a text, one character after another.
* `size_append`: How many bytes there are.
* `prefix_of_extract`: A beginning that is well formed is a beginning of the text.
* `extract_append`: A text cut off inside a tail of characters of one byte.
-/

namespace PageSweep

namespace Utf8

theorem toList_toUTF8 (text : String) :
    text.toUTF8.data.toList = text.toList.flatMap String.utf8EncodeChar := by
  rw [← toArray_flatMap text]

theorem toList_extract (bytes : ByteArray) (n : Nat) :
    (bytes.extract 0 n).data.toList = bytes.data.toList.take n := by
  rw [ByteArray.data_extract, Array.toList_extract, List.extract_eq_take_drop, List.drop_zero,
    Nat.sub_zero]

theorem size_ofList (text : List Char) :
    (String.ofList text).toUTF8.size = (text.flatMap String.utf8EncodeChar).length := by
  rw [← ByteArray.size_data, ← Array.length_toList, toList_toUTF8, String.toList_ofList]

theorem size_append (front back : List Char) :
    (String.ofList (front ++ back)).toUTF8.size
      = (String.ofList front).toUTF8.size + (String.ofList back).toUTF8.size := by
  rw [size_ofList, size_ofList, size_ofList, List.flatMap_append, List.length_append]

theorem prefix_of_flatMap (front text : List Char) (rest : List UInt8)
    (h : front.flatMap String.utf8EncodeChar ++ rest = text.flatMap String.utf8EncodeChar) :
    front <+: text := by
  induction front generalizing text with
  | nil => exact List.nil_prefix
  | cons c others ih =>
      rw [List.flatMap_cons, List.append_assoc] at h
      cases text with
      | nil => exact absurd (List.append_eq_nil_iff.mp h).1 String.utf8EncodeChar_ne_nil
      | cons d more =>
          rw [List.flatMap_cons] at h
          -- Different characters have different bytes, whatever follows them.
          rcases lt_trichotomy c d with hlt | rfl | hlt
          · have hbytes := encodeChar_lt c d hlt (others.flatMap String.utf8EncodeChar ++ rest)
              (more.flatMap String.utf8EncodeChar)
            rw [h] at hbytes
            exact absurd hbytes (List.lt_irrefl _)
          · exact (List.prefix_cons_inj c).mpr (ih more (List.append_cancel_left h))
          · have hbytes := encodeChar_lt d c hlt (more.flatMap String.utf8EncodeChar)
              (others.flatMap String.utf8EncodeChar ++ rest)
            rw [h] at hbytes
            exact absurd hbytes (List.lt_irrefl _)

/-- A beginning of the bytes of a text that is well formed is a beginning of the text. -/
theorem prefix_of_extract (text front : String) (n : Nat)
    (h : text.toUTF8.extract 0 n = front.toUTF8) : front.toList <+: text.toList := by
  refine prefix_of_flatMap front.toList text.toList (text.toUTF8.data.toList.drop n) ?_
  rw [← toList_toUTF8 front, ← h, toList_extract, List.take_append_drop, toList_toUTF8]

/-- The bytes of characters of one byte each. -/
theorem flatMap_of_ascii (text : List Char) (h : ∀ c ∈ text, c.utf8Size = 1) :
    text.flatMap String.utf8EncodeChar = text.map fun c => c.val.toUInt8 := by
  induction text with
  | nil => rfl
  | cons c rest ih =>
      rw [List.flatMap_cons, String.utf8EncodeChar_eq_singleton (h c List.mem_cons_self),
        ih fun d hd => h d (List.mem_cons_of_mem c hd), List.map_cons, List.singleton_append]

/-- A text cut off inside a tail of characters of one byte each. -/
theorem extract_append (front back : List Char) (hback : ∀ c ∈ back, c.utf8Size = 1) (n : Nat)
    (hn : (String.ofList front).toUTF8.size ≤ n) :
    (String.ofList (front ++ back)).toUTF8.extract 0 n
      = (String.ofList (front ++ back.take (n - (String.ofList front).toUTF8.size))).toUTF8 := by
  have hsize := size_ofList front
  have htail : ∀ c ∈ back.take (n - (String.ofList front).toUTF8.size), c.utf8Size = 1 :=
    fun c hc => hback c (List.mem_of_mem_take hc)
  -- The front is kept as it is, and of the tail as many characters as bytes.
  refine ByteArray.ext (Array.toList_inj.mp ?_)
  rw [toList_extract, toList_toUTF8, toList_toUTF8, String.toList_ofList, String.toList_ofList,
    List.flatMap_append, List.flatMap_append, flatMap_of_ascii back hback,
    flatMap_of_ascii _ htail, List.take_append, List.map_take, hsize,
    List.take_of_length_le (by omega)]

end Utf8

end PageSweep
