import SourceOutline.Proofs.Encoding
import SourceOutline.Text.Source

/-!
The texts of ranges of bytes. Between characters nothing is lost: the text of a range has the bytes
of the range, and the texts of adjacent ranges join.
-/

namespace SourceOutline

namespace Source

/-- Whether an offset of a text stands between two of its characters, or at an end of it. -/
def IsBoundary (text : String) (offset : Nat) : Prop :=
  String.Pos.Raw.IsValid text ⟨offset⟩

instance (text : String) (offset : Nat) : Decidable (IsBoundary text offset) :=
  inferInstanceAs (Decidable (String.Pos.Raw.IsValid text ⟨offset⟩))

section Ranges

variable {text : String} {a b c : Nat}

-- The other direction holds since the bytes of a text always make whole characters.
lemma toUTF8_slice_iff (hab : a ≤ b) (hb : b ≤ text.utf8ByteSize) :
    ((ofString text).slice a b).toUTF8 = text.toUTF8.extract a b ↔
      a = b ∨ IsBoundary text a ∧ IsBoundary text b := by
  have hvalid := String.Pos.Raw.isValidUTF8_extract_iff (s := text) ⟨a⟩ ⟨b⟩ hab hb
  rw [String.Pos.Raw.mk.injEq] at hvalid
  rw [slice, if_pos ⟨hab, hb⟩, IsBoundary, IsBoundary, ← hvalid]
  constructor
  · intro h
    exact h ▸ String.isValidUTF8 _
  · exact Utf8.toUTF8_lossyText

lemma toUTF8_slice (hab : a ≤ b) (ha : IsBoundary text a) (hb : IsBoundary text b) :
    ((ofString text).slice a b).toUTF8 = text.toUTF8.extract a b := by
  have hsize : b ≤ text.utf8ByteSize := String.Pos.Raw.IsValid.le_utf8ByteSize hb
  exact (toUTF8_slice_iff hab hsize).mpr (.inr ⟨ha, hb⟩)

lemma slice_append_slice (hab : a ≤ b) (hbc : b ≤ c) (ha : IsBoundary text a)
    (hb : IsBoundary text b) (hc : IsBoundary text c) :
    (ofString text).slice a b ++ (ofString text).slice b c = (ofString text).slice a c := by
  apply String.toByteArray_inj.mp
  calc ((ofString text).slice a b ++ (ofString text).slice b c).toByteArray
    _ = ((ofString text).slice a b).toUTF8 ++ ((ofString text).slice b c).toUTF8 :=
      String.toByteArray_append
    _ = text.toUTF8.extract a b ++ text.toUTF8.extract b c := by
      rw [toUTF8_slice hab ha hb, toUTF8_slice hbc hb hc]
    _ = text.toUTF8.extract a c := by
      rw [ByteArray.extract_append_extract, Nat.min_eq_left hab, Nat.max_eq_right hbc]
    _ = ((ofString text).slice a c).toUTF8 := (toUTF8_slice (Nat.le_trans hab hbc) ha hc).symm

end Ranges

lemma slice_eq_empty {src : Source} {start stop : Nat}
    (h : stop < start ∨ src.bytes.size < stop) : src.slice start stop = "" := by
  rw [slice, if_neg (by omega)]

theorem slices_are_faithful (text : String) :
    (∀ a b c : Nat, a ≤ b → b ≤ c →
      IsBoundary text a → IsBoundary text b → IsBoundary text c →
      ((ofString text).slice a b).toUTF8 = text.toUTF8.extract a b ∧
      (ofString text).slice a b ++ (ofString text).slice b c = (ofString text).slice a c) ∧
    ∀ start stop : Nat, stop < start ∨ text.utf8ByteSize < stop →
      (ofString text).slice start stop = "" := by
  constructor
  · intro a b c hab hbc ha hb hc
    exact ⟨toUTF8_slice hab ha hb, slice_append_slice hab hbc ha hb hc⟩
  · intro start stop h
    exact slice_eq_empty h

theorem accentedText_sliced :
    ((ofString "aé€😀").slice 1 6).toUTF8 = "aé€😀".toUTF8.extract 1 6 ∧
    (ofString "aé€😀").slice 1 6 ++ (ofString "aé€😀").slice 6 10 =
      (ofString "aé€😀").slice 1 10 ∧
    (ofString "aé€😀").slice 6 1 = "" ∧ (ofString "aé€😀").slice 3 11 = "" :=
  have h := slices_are_faithful "aé€😀"
  have hjoined := h.1 1 6 10 (by decide) (by decide) (by decide) (by decide) (by decide)
  ⟨hjoined.1, hjoined.2, h.2 6 1 (by decide), h.2 3 11 (by decide)⟩

end Source

end SourceOutline
