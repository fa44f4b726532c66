import PageSweep.Proofs.Text.Cut
import PageSweep.Proofs.Text.Digits
import PageSweep.Proofs.Text.Numeral
import PageSweep.Service.Cursor

/-!
# Cursors Read Back

A cursor that the service hands out names the event it was made for. The zeros in
front of a small number and the missing ones in front of a number of more than eight
digits make no difference.

The digits of a cursor are a field that is as wide as the number needs, and at least
eight wide. Cursors of one length have fields of one width, and these are ordered as
their numbers are. The order of the bytes is that of the characters.

## Main definitions

* `cursorWidth`: How many digits a cursor has.

## Theorems

* `decodeCursor?_encodeCursor`: A cursor reads back.
* `encodeCursor_ne_empty`: A cursor is never the empty string.
* `toList_encodeCursor_places`, `size_encodeCursor`: A cursor is a mark and a field.
* `encodeCursor_lt`: Cursors of one length are ordered as their events are.
* `encodeCursor_lossless`: What cursors keep of the events.
-/

namespace PageSweep

namespace Service

theorem toList_encodeCursor (offset : UInt64) :
    (encodeCursor offset).toList = cursorMark ++
      (List.replicate (8 - (Nat.toDigits 16 offset.toNat).length) '0' ++
        Nat.toDigits 16 offset.toNat) := by
  rw [encodeCursor, String.toList_ofList, List.append_assoc]

theorem decodeCursor?_encodeCursor (offset : UInt64) :
    decodeCursor? (encodeCursor offset) = some offset := by
  -- The number has eight digits at least, with zeros in front if need be.
  have hread := Numeral.read_padded 16 0x10000000000000000 (by decide) (by decide)
    (8 - (Nat.toDigits 16 offset.toNat).length) offset.toNat offset.toNat_lt
  rw [decodeCursor?, toList_encodeCursor, cursorMark]
  simp only [List.cons_append, List.nil_append, hread, UInt64.ofNat_toNat]

theorem encodeCursor_ne_empty (offset : UInt64) : encodeCursor offset ≠ "" := by
  intro h
  have hlist := congrArg String.toList h
  rw [toList_encodeCursor, cursorMark, List.cons_append] at hlist
  exact List.cons_ne_nil _ _ hlist

section Order

/-- How many digits a cursor has. -/
def cursorWidth (offset : UInt64) : Nat := max 8 (Nat.toDigits 16 offset.toNat).length

theorem lt_pow_cursorWidth (offset : UInt64) : offset.toNat < 16 ^ cursorWidth offset := by
  have hpos : 0 < cursorWidth offset := Nat.lt_of_lt_of_le (by decide) (Nat.le_max_left 8 _)
  exact (Nat.length_toDigits_le_iff (by decide) hpos).mp (Nat.le_max_right 8 _)

/-- The zeros in front fill up the field. -/
theorem toList_encodeCursor_places (offset : UInt64) :
    (encodeCursor offset).toList
      = cursorMark ++ Numeral.places 16 (cursorWidth offset) offset.toNat := by
  obtain ⟨width, hwidth⟩ : ∃ width, cursorWidth offset = width + 1 :=
    Nat.exists_eq_add_one.mpr (Nat.lt_of_lt_of_le (by decide) (Nat.le_max_left 8 _))
  have hfits := lt_pow_cursorWidth offset
  have hzeros : 8 - (Nat.toDigits 16 offset.toNat).length
      = width + 1 - (Nat.toDigits 16 offset.toNat).length := by
    unfold cursorWidth at hwidth
    omega
  rw [hwidth] at hfits ⊢
  rw [toList_encodeCursor, Numeral.places_eq_toDigits 16 (by decide) width _ hfits, hzeros]

theorem utf8Size_digitChar : ∀ d < 16, (Nat.digitChar d).utf8Size = 1 := by
  decide

theorem utf8Size_of_mem_places (width n : Nat) :
    ∀ c ∈ Numeral.places 16 width n, c.utf8Size = 1 := by
  induction width generalizing n with
  | zero => exact List.forall_mem_nil _
  | succ width ih =>
      rw [Numeral.places]
      exact List.forall_mem_append.mpr ⟨ih (n / 16),
        List.forall_mem_singleton.mpr (utf8Size_digitChar (n % 16) (Nat.mod_lt n (by decide)))⟩

theorem size_encodeCursor (offset : UInt64) :
    (encodeCursor offset).toUTF8.size = 4 + cursorWidth offset := by
  have hmark : ∀ c ∈ cursorMark, c.utf8Size = 1 := by
    unfold cursorMark
    simp only [List.forall_mem_cons]
    exact ⟨by decide, by decide, by decide, by decide, List.forall_mem_nil _⟩
  have hascii : ∀ c ∈ (encodeCursor offset).toList, c.utf8Size = 1 := by
    rw [toList_encodeCursor_places]
    exact List.forall_mem_append.mpr ⟨hmark, utf8Size_of_mem_places _ _⟩
  have hsize := Utf8.size_ofList (encodeCursor offset).toList
  rw [String.ofList_toList, Utf8.flatMap_of_ascii _ hascii, List.length_map,
    toList_encodeCursor_places, List.length_append, Numeral.length_places] at hsize
  exact hsize

/-- Cursors of one length are ordered as their events are. -/
theorem encodeCursor_lt (m n : UInt64)
    (hsize : (encodeCursor m).toUTF8.size = (encodeCursor n).toUTF8.size) (hlt : m < n) :
    (encodeCursor m).toUTF8.data.toList < (encodeCursor n).toUTF8.data.toList := by
  have hwidth : cursorWidth m = cursorWidth n := by
    rw [size_encodeCursor, size_encodeCursor] at hsize
    exact Nat.add_left_cancel hsize
  have hfield := Numeral.places_lt 16 (by decide) (by decide) (cursorWidth n) m.toNat n.toNat
    (UInt64.lt_iff_toNat_lt.mp hlt) (lt_pow_cursorWidth n) [] []
  rw [List.append_nil, List.append_nil] at hfield
  apply Utf8.toUTF8_lt
  rw [String.lt_iff, toList_encodeCursor_places, toList_encodeCursor_places, hwidth]
  exact List.append_left_lt hfield

end Order

/-- Every cursor reads back to its event, so different events have different cursors. No
cursor is empty, and among those of one length the order of the bytes is that of the
events. -/
theorem encodeCursor_lossless :
    (∀ offset, decodeCursor? (encodeCursor offset) = some offset) ∧
      Function.Injective encodeCursor ∧
      (∀ offset, encodeCursor offset ≠ "") ∧
      ∀ m n, (encodeCursor m).toUTF8.size = (encodeCursor n).toUTF8.size →
        ((encodeCursor m).toUTF8.data.toList < (encodeCursor n).toUTF8.data.toList ↔ m < n) := by
  refine ⟨decodeCursor?_encodeCursor, ?_, encodeCursor_ne_empty, ?_⟩
  · intro m n h
    have hread := decodeCursor?_encodeCursor m
    rw [h, decodeCursor?_encodeCursor n] at hread
    exact (Option.some.inj hread).symm
  · intro m n hsize
    refine ⟨fun hbytes => ?_, encodeCursor_lt m n hsize⟩
    -- Otherwise the events are the same, or the bytes come in the other order.
    rcases Nat.lt_trichotomy m.toNat n.toNat with hlt | hsame | hlt
    · exact UInt64.lt_iff_toNat_lt.mpr hlt
    · rw [UInt64.toNat_inj.mp hsame] at hbytes
      exact absurd hbytes (List.lt_irrefl _)
    · have hback := encodeCursor_lt n m hsize.symm (UInt64.lt_iff_toNat_lt.mpr hlt)
      exact absurd hbytes (List.lt_asymm hback)

/-- The last event of all, and two cursors of sixteen digits where a digit gives way to a
letter. -/
theorem encodeCursor_lossless_long :
    decodeCursor? "evt_ffffffffffffffff" = some 0xffffffffffffffff ∧
      (encodeCursor 0x9fffffffffffffff).toUTF8.size
        = (encodeCursor 0xa000000000000000).toUTF8.size ∧
      (encodeCursor 0x9fffffffffffffff).toUTF8.data.toList
        < (encodeCursor 0xa000000000000000).toUTF8.data.toList := by
  have hlast : encodeCursor 0xffffffffffffffff = "evt_ffffffffffffffff" := by decide
  have hsize : (encodeCursor 0x9fffffffffffffff).toUTF8.size
      = (encodeCursor 0xa000000000000000).toUTF8.size := by decide
  rcases encodeCursor_lossless with ⟨hread, -, -, horder⟩
  refine ⟨?_, hsize, (horder _ _ hsize).mpr (by decide)⟩
  rw [← hlast]
  exact hread 0xffffffffffffffff

end Service

end PageSweep
