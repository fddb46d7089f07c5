import DefFragments.NameSet
import Mathlib.Data.String.Basic

/-!
# The order of texts and the order of bytes

UTF-8 keeps the order of texts: what comes first by code points comes first by bytes. A character
with fewer bytes begins with a smaller one, and of two characters with equally many bytes the
smaller one is smaller in the first byte that differs. Sets of names are kept in this order.
-/

namespace DefFragments.Text

/-- The bytes of a text come before the bytes of another one, or are the beginning of them. -/
def BytesLess (a b : String) : Prop :=
  a.toUTF8.data.toList < b.toUTF8.data.toList

instance (a b : String) : Decidable (BytesLess a b) :=
  inferInstanceAs (Decidable (_ < _))

theorem toNat_val_lt (c : Char) : c.val.toNat < 0x110000 := by
  have hvalid := c.valid
  unfold UInt32.isValidChar Nat.isValidChar at hvalid
  omega

theorem utf8EncodeChar_append_lt {c d : Char} (h : c < d) (s t : List UInt8) :
    String.utf8EncodeChar c ++ s < String.utf8EncodeChar d ++ t := by
  rw [Char.lt_def, UInt32.lt_iff_toNat_lt] at h
  have hd := toNat_val_lt d
  rw [String.utf8EncodeChar.eq_1, String.utf8EncodeChar.eq_1]
  generalize c.val.toNat = v at h
  generalize d.val.toNat = w at h hd
  split_ifs
  all_goals
    simp (disch := omega) only [List.cons_append, List.cons_lt_cons_iff, UInt8.lt_iff_toNat_lt,
      ← UInt8.toNat_inj, UInt8.toNat_ofNat', Nat.mod_eq_of_lt]
    omega

theorem utf8EncodeChar_ne_nil (c : Char) : String.utf8EncodeChar c ≠ [] := by
  rw [String.utf8EncodeChar.eq_1]
  split_ifs <;> simp

theorem flatMap_utf8EncodeChar_lt {a b : List Char} (h : a < b) :
    a.flatMap String.utf8EncodeChar < b.flatMap String.utf8EncodeChar := by
  induction a generalizing b with
  | nil =>
    cases b with
    | nil => exact absurd h (List.lt_irrefl _)
    | cons d b =>
      obtain ⟨x, s, hx⟩ := List.exists_cons_of_ne_nil (utf8EncodeChar_ne_nil d)
      rw [List.flatMap_cons, hx]
      exact List.nil_lt_cons ..
  | cons c a ih =>
    cases b with
    | nil => exact absurd h (List.not_lt_nil _)
    | cons d b =>
      rw [List.flatMap_cons, List.flatMap_cons]
      rcases List.cons_lt_cons_iff.1 h with hlt | ⟨rfl, hlt⟩
      · exact utf8EncodeChar_append_lt hlt _ _
      · exact List.append_left_lt (ih hlt)

theorem bytesLess_of_lt {a b : String} (h : a < b) : BytesLess a b := by
  have hbytes : ∀ s : String, s.toUTF8.data.toList = s.toList.flatMap String.utf8EncodeChar := by
    intro s
    rw [String.toUTF8, ← String.utf8Encode_toList, List.utf8Encode, List.data_toByteArray]
  rw [BytesLess, hbytes, hbytes]
  exact flatMap_utf8EncodeChar_lt (String.lt_iff_toList_lt.1 h)

end DefFragments.Text

namespace DefFragments

/-! ### Sets of names -/

theorem pairwise_insertName {name : String} {names : List String}
    (h : names.Pairwise (· < ·)) : (insertName name names).Pairwise (· < ·) := by
  induction names with
  | nil => simp [insertName]
  | cons m ms ih =>
    obtain ⟨hm, hms⟩ := List.pairwise_cons.1 h
    rw [insertName]
    by_cases hlt : name < m
    · rw [if_pos hlt]
      refine List.pairwise_cons.2 ⟨List.forall_mem_cons.2 ⟨hlt, fun x hx => ?_⟩, h⟩
      exact lt_trans hlt (hm x hx)
    · rw [if_neg hlt]
      by_cases heq : name = m
      · rwa [if_pos heq]
      · rw [if_neg heq]
        refine List.pairwise_cons.2 ⟨fun x hx => ?_, ih hms⟩
        rcases mem_insertName.1 hx with rfl | hx
        · exact lt_of_le_of_ne (not_lt.1 hlt) (Ne.symm heq)
        · exact hm x hx

theorem pairwise_nameSet (names : List String) : (nameSet names).Pairwise (· < ·) := by
  induction names with
  | nil => exact .nil
  | cons name names ih => exact pairwise_insertName ih

end DefFragments
