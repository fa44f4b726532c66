import PageSweep.Text.Utf8

/-!
# UTF-8 Round Trip

Text turned into bytes is well formed and reads back, strictly and leniently alike.

## Theorems

* `strict_toUTF8`: The bytes of a text are that text.
* `strict_eq_some_iff`: Only the bytes of a text are.
* `lossy_flatMap`: So are the bytes of its characters one after another.
-/

namespace PageSweep

namespace Utf8

theorem strict_toUTF8 (text : String) : strict text.toUTF8 = some text := by
  have hvalid : text.toUTF8.IsValidUTF8 := text.isValidUTF8
  unfold strict String.fromUTF8?
  rw [dif_pos hvalid]
  rfl

theorem strict_eq_some_iff (bytes : ByteArray) (text : String) :
    strict bytes = some text ↔ bytes = text.toUTF8 := by
  constructor
  · intro h
    unfold strict String.fromUTF8? at h
    split at h
    · rw [← Option.some.inj h]
      rfl
    · exact absurd h (by simp only [reduceCtorEq, not_false_eq_true])
  · rintro rfl
    exact strict_toUTF8 text

/-- The bytes of the characters of a text are the bytes of the text. -/
theorem toArray_flatMap (text : String) :
    (⟨(text.toList.flatMap String.utf8EncodeChar).toArray⟩ : ByteArray) = text.toUTF8 := by
  have hbytes : text.toList.utf8Encode = text.toByteArray := String.utf8Encode_toList
  rw [String.toUTF8_eq_toByteArray, ← hbytes]
  exact ByteArray.ext List.data_toByteArray.symm

theorem lossy_flatMap (text : String) :
    lossy ⟨(text.toList.flatMap String.utf8EncodeChar).toArray⟩ = text := by
  rw [toArray_flatMap, lossy, strict_toUTF8, Option.getD_some]

end Utf8

end PageSweep
