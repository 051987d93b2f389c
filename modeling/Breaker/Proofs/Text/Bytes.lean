import Mathlib.Tactic.SplitIfs

/-!
# The order of bytes

Names are compared code point by code point. That is how their UTF-8 bytes compare: the encoding of
the greater of two code points is greater at the first byte at which the two differ, and there is
such a byte before either ends (`encoding_lt`).
-/

namespace Breaker.Text

/-- The bytes of a text in UTF-8. -/
def bytes (s : String) : List UInt8 := s.toByteArray.data.toList

theorem bytes_eq (s : String) : bytes s = s.toList.flatMap String.utf8EncodeChar := by
  unfold bytes
  rw [← String.utf8Encode_toList, List.utf8Encode]
  simp

theorem byte_lt_iff {m n : Nat} (hm : m < 256) (hn : n < 256) :
    UInt8.ofNat m < UInt8.ofNat n ↔ m < n := by
  rw [UInt8.lt_iff_toNat_lt, UInt8.toNat_ofNat_of_lt' hm, UInt8.toNat_ofNat_of_lt' hn]

theorem byte_inj {m n : Nat} (hm : m < 256) (hn : n < 256) :
    UInt8.ofNat m = UInt8.ofNat n ↔ m = n := by
  rw [← UInt8.toNat_inj, UInt8.toNat_ofNat_of_lt' hm, UInt8.toNat_ofNat_of_lt' hn]

theorem toNat_lt_of_char (c : Char) : c.val.toNat < 1114112 := by
  rcases c.valid with h | ⟨-, h⟩
  · exact Nat.lt_trans h (by decide)
  · exact h

/-- The encodings of two code points differ before either ends, as the code points do. -/
theorem encoding_lt {c d : Char} (h : c < d) (l m : List UInt8) :
    String.utf8EncodeChar c ++ l < String.utf8EncodeChar d ++ m := by
  have hlt : c.val.toNat < d.val.toNat := h
  have hd : d.val.toNat < 1114112 := toNat_lt_of_char d
  unfold String.utf8EncodeChar
  generalize c.val.toNat = v at *
  generalize d.val.toNat = u at *
  -- the bytes are the digits to the base 64, so it is best to divide by 64 again and again
  have htwice (n : Nat) : n / 4096 = n / 64 / 64 := by omega
  have hthrice (n : Nat) : n / 262144 = n / 64 / 64 / 64 := by omega
  simp only [htwice, hthrice]
  split_ifs <;>
    simp (disch := omega) only [List.cons_append, List.nil_append, List.cons_lt_cons_iff,
      byte_lt_iff, byte_inj] <;>
    omega

theorem nil_lt_encoding (c : Char) (l : List UInt8) : [] < String.utf8EncodeChar c ++ l := by
  cases h : String.utf8EncodeChar c with
  | nil =>
    have hlength := String.length_utf8EncodeChar c
    rw [h] at hlength
    exact absurd hlength.symm (Nat.ne_of_gt c.utf8Size_pos)
  | cons b bs => exact List.nil_lt_cons b (bs ++ l)

theorem encodings_lt {l m : List Char} (h : l < m) :
    l.flatMap String.utf8EncodeChar < m.flatMap String.utf8EncodeChar := by
  induction l generalizing m with
  | nil =>
    cases m with
    | nil => exact absurd h (List.lt_irrefl [])
    | cons d m =>
      rw [List.flatMap_cons]
      exact nil_lt_encoding d _
  | cons c l ih =>
    cases m with
    | nil => exact absurd h (List.not_lt_nil (c :: l))
    | cons d m =>
      rw [List.flatMap_cons, List.flatMap_cons]
      rcases List.cons_lt_cons_iff.1 h with hcd | ⟨rfl, hlm⟩
      · exact encoding_lt hcd _ _
      · exact List.append_left_lt (ih hlm)

/-- Texts are ordered as their bytes are. -/
theorem bytes_lt_iff {s t : String} : bytes s < bytes t ↔ s < t := by
  have hmono {s t : String} (h : s < t) : bytes s < bytes t := by
    rw [bytes_eq, bytes_eq]
    exact encodings_lt (String.lt_iff.1 h)
  constructor
  · intro h
    rcases Std.lt_trichotomy s t with hst | rfl | hts
    · exact hst
    · exact absurd h (List.lt_irrefl _)
    · exact absurd (hmono hts) (List.lt_asymm h)
  · exact hmono

end Breaker.Text
