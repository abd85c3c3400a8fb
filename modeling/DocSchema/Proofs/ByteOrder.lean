/-!
# Texts in the order of their bytes

Texts are compared character by character, by code points.  UTF-8 was made so that comparing the
bytes comes to the same: a larger code point has a larger encoding, whatever follows.  Encodings of
one length differ in the byte that holds the highest bits in which the code points differ, and the
first byte of a longer encoding is larger than that of a shorter one.

* `Text.bytes`: the bytes of a text.
* `Text.utf8EncodeChar_append_lt`: encodings of characters are ordered as the characters are.
* `Text.bytes_lt_iff`: so are texts.
-/

namespace DocSchema.Text

/-- The bytes of a text. -/
def bytes (text : String) : List UInt8 :=
  text.toUTF8.data.toList

theorem bytes_eq_flatMap (text : String) :
    bytes text = text.toList.flatMap String.utf8EncodeChar := by
  have hencode : text.toUTF8 = (text.toList.flatMap String.utf8EncodeChar).toByteArray :=
    String.utf8Encode_toList.symm
  rw [bytes, hencode, List.toList_data_toByteArray]

/-- Rows of bytes are compared by the first byte, and if that is the same by what follows. -/
theorem ofNat_cons_lt {m n : Nat} {s t : List UInt8} (hle : m ≤ n) (hn : n < 256)
    (hrest : m = n → s < t) : UInt8.ofNat m :: s < UInt8.ofNat n :: t := by
  rcases Nat.lt_or_eq_of_le hle with hlt | rfl
  · refine List.cons_lt_cons_iff.mpr (.inl ?_)
    rw [UInt8.lt_iff_toNat_lt, UInt8.toNat_ofNat', UInt8.toNat_ofNat']
    omega
  · exact List.cons_lt_cons_iff.mpr (.inr ⟨rfl, hrest rfl⟩)

/-- A larger character has a larger encoding, whatever follows. -/
theorem utf8EncodeChar_append_lt {c d : Char} (h : c < d) (s t : List UInt8) :
    String.utf8EncodeChar c ++ s < String.utf8EncodeChar d ++ t := by
  have hlt : c.val.toNat < d.val.toNat := h
  have hd : d.val.toNat < 0x110000 := by
    have hvalid := d.valid
    simp only [UInt32.isValidChar, Nat.isValidChar] at hvalid
    omega
  rw [String.utf8EncodeChar.eq_def, String.utf8EncodeChar.eq_def]
  generalize c.val.toNat = v at hlt
  generalize d.val.toNat = w at hlt hd
  dsimp only
  by_cases hone : v ≤ 127
  · rw [if_pos hone]
    split
    · exact ofNat_cons_lt (by omega) (by omega) fun _ => by omega
    split
    · exact ofNat_cons_lt (by omega) (by omega) fun _ => by omega
    split <;> exact ofNat_cons_lt (by omega) (by omega) fun _ => by omega
  -- from here on the larger one has at least as many bytes as the smaller one
  rw [if_neg hone, if_neg (show ¬ w ≤ 127 by omega)]
  by_cases htwo : v ≤ 2047
  · rw [if_pos htwo]
    split
    · refine ofNat_cons_lt (by omega) (by omega) fun _ => ?_
      exact ofNat_cons_lt (by omega) (by omega) fun _ => by omega
    split <;> exact ofNat_cons_lt (by omega) (by omega) fun _ => by omega
  rw [if_neg htwo, if_neg (show ¬ w ≤ 2047 by omega)]
  by_cases hthree : v ≤ 65535
  · rw [if_pos hthree]
    split
    · refine ofNat_cons_lt (by omega) (by omega) fun _ => ?_
      refine ofNat_cons_lt (by omega) (by omega) fun _ => ?_
      exact ofNat_cons_lt (by omega) (by omega) fun _ => by omega
    · exact ofNat_cons_lt (by omega) (by omega) fun _ => by omega
  · rw [if_neg hthree, if_neg (show ¬ w ≤ 65535 by omega)]
    refine ofNat_cons_lt (by omega) (by omega) fun _ => ?_
    refine ofNat_cons_lt (by omega) (by omega) fun _ => ?_
    refine ofNat_cons_lt (by omega) (by omega) fun _ => ?_
    exact ofNat_cons_lt (by omega) (by omega) fun _ => by omega

theorem utf8EncodeChar_ne_nil (c : Char) : String.utf8EncodeChar c ≠ [] := by
  intro h
  have hlength := String.length_utf8EncodeChar c
  have hpos := c.utf8Size_pos
  rw [h, List.length_nil] at hlength
  omega

theorem flatMap_utf8EncodeChar_lt {cs ds : List Char} (h : cs < ds) :
    cs.flatMap String.utf8EncodeChar < ds.flatMap String.utf8EncodeChar := by
  induction cs generalizing ds with
  | nil =>
    cases ds with
    | nil => exact absurd h (List.lt_irrefl [])
    | cons d ds =>
      rw [List.flatMap_nil, List.flatMap_cons]
      obtain ⟨byte, rest, hd⟩ := List.exists_cons_of_ne_nil (utf8EncodeChar_ne_nil d)
      rw [hd, List.cons_append]
      exact List.nil_lt_cons _ _
  | cons c cs ih =>
    cases ds with
    | nil => cases h
    | cons d ds =>
      rw [List.flatMap_cons, List.flatMap_cons]
      rcases List.cons_lt_cons_iff.mp h with hlt | ⟨rfl, hrest⟩
      · exact utf8EncodeChar_append_lt hlt _ _
      · exact List.append_left_lt (ih hrest)

/-- A smaller text has smaller bytes. -/
theorem bytes_lt_of_lt {a b : String} (h : a < b) : bytes a < bytes b := by
  have hlist : a.toList < b.toList := h
  rw [bytes_eq_flatMap, bytes_eq_flatMap]
  exact flatMap_utf8EncodeChar_lt hlist

/-- **Texts are in the order of their bytes.** -/
theorem bytes_lt_iff {a b : String} : bytes a < bytes b ↔ a < b := by
  refine ⟨fun h => Decidable.byContradiction fun hnot => ?_, bytes_lt_of_lt⟩
  by_cases heq : a = b
  · rw [heq] at h
    exact List.lt_irrefl _ h
  · have hlt : b < a := Std.lt_of_le_of_ne (String.not_lt.mp hnot) (Ne.symm heq)
    exact List.lt_asymm h (bytes_lt_of_lt hlt)

end DocSchema.Text
