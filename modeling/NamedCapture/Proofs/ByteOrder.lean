import Mathlib.Tactic.SplitIfs
import NamedCapture.Text

/-!
# The order of texts is that of their bytes

Texts are compared character by character, and UTF-8 is made so that comparing byte by byte gives
the same: a character with more bytes starts with a greater one, and of two with as many bytes the
lead bytes and then the continuation bytes are the digits of the code point (`encodeChar_lt`).
-/

namespace NamedCapture.Text

/-- The bytes of a text in UTF-8. -/
def bytes (t : Text) : List UInt8 := t.flatMap String.utf8EncodeChar

section Digits

variable {v w : Nat} {s t : List UInt8}

theorem cons_byte_lt {a b : Nat} (ha : a < 256) (hb : b < 256) (h : a < b ∨ a = b ∧ s < t) :
    UInt8.ofNat a :: s < UInt8.ofNat b :: t := by
  rw [List.cons_lt_cons_iff, UInt8.ofNat_lt_iff_lt ha hb]
  exact h.imp_right fun hparts => ⟨congrArg UInt8.ofNat hparts.1, hparts.2⟩

/-! The continuation bytes hold six bits each. -/

theorem lastByte_lt (h : v % 64 < w % 64) :
    UInt8.ofNat (v % 64 + 128) :: s < UInt8.ofNat (w % 64 + 128) :: t :=
  cons_byte_lt (by omega) (by omega) (Or.inl (by omega))

theorem lastTwoBytes_lt (h : v % 4096 < w % 4096) :
    UInt8.ofNat (v / 64 % 64 + 128) :: UInt8.ofNat (v % 64 + 128) :: s <
      UInt8.ofNat (w / 64 % 64 + 128) :: UInt8.ofNat (w % 64 + 128) :: t := by
  refine cons_byte_lt (by omega) (by omega) ?_
  by_cases hdigit : v / 64 % 64 = w / 64 % 64
  · exact Or.inr ⟨by omega, lastByte_lt (by omega)⟩
  · exact Or.inl (by omega)

theorem lastThreeBytes_lt (h : v % 262144 < w % 262144) :
    UInt8.ofNat (v / 4096 % 64 + 128) :: UInt8.ofNat (v / 64 % 64 + 128) ::
        UInt8.ofNat (v % 64 + 128) :: s <
      UInt8.ofNat (w / 4096 % 64 + 128) :: UInt8.ofNat (w / 64 % 64 + 128) ::
        UInt8.ofNat (w % 64 + 128) :: t := by
  refine cons_byte_lt (by omega) (by omega) ?_
  by_cases hdigit : v / 4096 % 64 = w / 4096 % 64
  · exact Or.inr ⟨by omega, lastTwoBytes_lt (by omega)⟩
  · exact Or.inl (by omega)

end Digits

theorem toNat_val_lt (c : Char) : c.val.toNat < 0x110000 := by
  rcases c.valid with h | h
  · have hlt : c.val.toNat < 0xD800 := h
    omega
  · exact h.2

/-- A smaller character has smaller bytes, and no bytes behind it make up for that. -/
theorem encodeChar_lt {c d : Char} (h : c < d) (s t : List UInt8) :
    String.utf8EncodeChar c ++ s < String.utf8EncodeChar d ++ t := by
  have hlt : c.val.toNat < d.val.toNat := h
  have hbound := toNat_val_lt d
  unfold String.utf8EncodeChar
  generalize c.val.toNat = v at *
  generalize d.val.toNat = w at *
  dsimp only
  -- the lead byte says how many follow it, so between different lengths it decides alone
  by_cases hone : v ≤ 127
  · rw [if_pos hone]
    split_ifs <;> exact cons_byte_lt (by omega) (by omega) (Or.inl (by omega))
  · rw [if_neg hone, if_neg (show ¬w ≤ 127 by omega)]
    by_cases htwo : v ≤ 2047
    · rw [if_pos htwo]
      split_ifs
      · refine cons_byte_lt (by omega) (by omega) ?_
        by_cases hlead : v / 64 % 32 = w / 64 % 32
        · exact Or.inr ⟨by omega, lastByte_lt (by omega)⟩
        · exact Or.inl (by omega)
      · exact cons_byte_lt (by omega) (by omega) (Or.inl (by omega))
      · exact cons_byte_lt (by omega) (by omega) (Or.inl (by omega))
    · rw [if_neg htwo, if_neg (show ¬w ≤ 2047 by omega)]
      by_cases hthree : v ≤ 65535
      · rw [if_pos hthree]
        split_ifs
        · refine cons_byte_lt (by omega) (by omega) ?_
          by_cases hlead : v / 4096 % 16 = w / 4096 % 16
          · exact Or.inr ⟨by omega, lastTwoBytes_lt (by omega)⟩
          · exact Or.inl (by omega)
        · exact cons_byte_lt (by omega) (by omega) (Or.inl (by omega))
      · rw [if_neg hthree, if_neg (show ¬w ≤ 65535 by omega)]
        refine cons_byte_lt (by omega) (by omega) ?_
        by_cases hlead : v / 262144 % 8 = w / 262144 % 8
        · exact Or.inr ⟨by omega, lastThreeBytes_lt (by omega)⟩
        · exact Or.inl (by omega)

theorem bytes_lt_of_lt {s t : Text} (h : s < t) : bytes s < bytes t := by
  induction s generalizing t with
  | nil =>
    cases t with
    | nil => exact absurd h (List.lt_irrefl [])
    | cons d t =>
      have hne : bytes (d :: t) ≠ [] := by
        intro hnil
        have hlength := congrArg List.length (List.append_eq_nil_iff.mp hnil).1
        rw [String.length_utf8EncodeChar] at hlength
        exact absurd hlength (Nat.ne_of_gt d.utf8Size_pos)
      obtain ⟨b, bs, hbytes⟩ := List.exists_cons_of_ne_nil hne
      rw [hbytes]
      exact List.nil_lt_cons b bs
  | cons c s ih =>
    cases t with
    | nil => exact absurd h (List.not_lt_nil _)
    | cons d t =>
      rcases List.cons_lt_cons_iff.mp h with hchar | ⟨rfl, hrest⟩
      · exact encodeChar_lt hchar _ _
      · exact List.append_left_lt (ih hrest)

theorem bytes_lt_iff {s t : Text} : bytes s < bytes t ↔ s < t := by
  refine ⟨fun h => ?_, bytes_lt_of_lt⟩
  refine Classical.byContradiction fun hnot => ?_
  rcases List.le_iff_lt_or_eq.mp (List.not_lt.mp hnot) with hlt | rfl
  · exact List.lt_asymm h (bytes_lt_of_lt hlt)
  · exact List.lt_irrefl _ h

end NamedCapture.Text
