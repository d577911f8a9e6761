import NamedCapture.Proofs.Boundary
import NamedCapture.Proofs.ByteOrder

/-!
# What stands at a byte of a text

A character below 128 is one byte, its own code, and all bytes of the others are 128 or more.  So a
byte below 128 is a character of the text, and there is a boundary on both sides of it
(`exists_of_getElem?_bytes`); a place within a character has a byte that is none of these
(`exists_high_inside`).  `cut` takes the part of a text between two offsets, and refuses offsets
that are out of order, behind the end, or within a character.
-/

namespace NamedCapture.Text

def leadByte (c : Char) : UInt8 := (String.utf8EncodeChar c).headD 0

@[simp] theorem bytes_cons (c : Char) (t : Text) :
    bytes (c :: t) = String.utf8EncodeChar c ++ bytes t := List.flatMap_cons

@[simp] theorem bytes_append (s t : Text) : bytes (s ++ t) = bytes s ++ bytes t :=
  List.flatMap_append

@[simp] theorem length_bytes (t : Text) : (bytes t).length = byteLength t := by
  induction t with
  | nil => rfl
  | cons c t ih => simp [ih]

/-! ## Bytes of one character -/

theorem encodeChar_ascii {c : Char} (h : c.toNat < 128) :
    String.utf8EncodeChar c = [c.toUInt8] := by
  refine String.utf8EncodeChar_eq_singleton (Char.utf8Size_eq_one_iff.mpr ?_)
  rw [UInt32.le_iff_toNat_le]
  exact Nat.le_of_lt_succ h

theorem utf8Size_ascii {c : Char} (h : c.toNat < 128) : c.utf8Size = 1 := by
  rw [← String.length_utf8EncodeChar, encodeChar_ascii h, List.length_singleton]

theorem le_toNat_ofNat {n : Nat} (hlow : 128 ≤ n) (hhigh : n < 256) :
    128 ≤ (UInt8.ofNat n).toNat := by
  rw [UInt8.toNat_ofNat']
  omega

theorem le_of_mem_encodeChar {c : Char} (h : 128 ≤ c.toNat) {b : UInt8}
    (hb : b ∈ String.utf8EncodeChar c) : 128 ≤ b.toNat := by
  have hbig : ¬c.val.toNat ≤ 127 := Nat.not_le.mpr h
  unfold String.utf8EncodeChar at hb
  generalize c.val.toNat = v at hb hbig
  dsimp only at hb
  rw [if_neg hbig] at hb
  split_ifs at hb <;> simp only [List.mem_cons, List.not_mem_nil, or_false] at hb
  · rcases hb with rfl | rfl <;> exact le_toNat_ofNat (by omega) (by omega)
  · rcases hb with rfl | rfl | rfl <;> exact le_toNat_ofNat (by omega) (by omega)
  · rcases hb with rfl | rfl | rfl | rfl <;> exact le_toNat_ofNat (by omega) (by omega)

theorem exists_encodeChar (c : Char) : ∃ bs, String.utf8EncodeChar c = leadByte c :: bs := by
  obtain ⟨b, bs, hbytes⟩ := List.exists_cons_of_ne_nil (String.utf8EncodeChar_ne_nil (c := c))
  exact ⟨bs, by simp [leadByte, hbytes]⟩

theorem leadByte_ascii {c : Char} (h : c.toNat < 128) : leadByte c = c.toUInt8 := by
  rw [leadByte, encodeChar_ascii h, List.headD_cons]

theorem le_leadByte {c : Char} (h : 128 ≤ c.toNat) : 128 ≤ (leadByte c).toNat := by
  obtain ⟨bs, hbytes⟩ := exists_encodeChar c
  exact le_of_mem_encodeChar h (by simp [hbytes])

theorem toNat_toUInt8 {c : Char} (h : c.toNat < 128) : c.toUInt8.toNat = c.toNat := by
  show c.toNat % 256 = c.toNat
  omega

theorem leadByte_eq_iff {c d : Char} (hd : d.toNat < 128) : leadByte c = d.toUInt8 ↔ c = d := by
  constructor
  · intro h
    have hbyte : (leadByte c).toNat = d.toNat := by rw [h, toNat_toUInt8 hd]
    by_cases hc : c.toNat < 128
    · rw [leadByte_ascii hc, toNat_toUInt8 hc] at hbyte
      exact Char.toNat_inj.mp hbyte
    · have hlead := le_leadByte (Nat.not_lt.mp hc)
      omega
  · rintro rfl
    exact leadByte_ascii hd

theorem toUInt8_le_leadByte_iff {c d : Char} (hd : d.toNat < 128) :
    d.toUInt8 ≤ leadByte c ↔ d.val ≤ c.val := by
  rw [UInt8.le_iff_toNat_le, UInt32.le_iff_toNat_le, toNat_toUInt8 hd]
  show d.toNat ≤ _ ↔ d.toNat ≤ c.toNat
  by_cases hc : c.toNat < 128
  · rw [leadByte_ascii hc, toNat_toUInt8 hc]
  · have hlead := le_leadByte (Nat.not_lt.mp hc)
    omega

theorem leadByte_le_toUInt8_iff {c d : Char} (hd : d.toNat < 128) :
    leadByte c ≤ d.toUInt8 ↔ c.val ≤ d.val := by
  rw [UInt8.le_iff_toNat_le, UInt32.le_iff_toNat_le, toNat_toUInt8 hd]
  show _ ≤ d.toNat ↔ c.toNat ≤ d.toNat
  by_cases hc : c.toNat < 128
  · rw [leadByte_ascii hc, toNat_toUInt8 hc]
  · have hlead := le_leadByte (Nat.not_lt.mp hc)
    omega

/-! ## Bytes of a text -/

theorem head?_bytes (t : Text) : (bytes t).head? = t.head?.map leadByte := by
  cases t with
  | nil => rfl
  | cons c t =>
    obtain ⟨bs, hbytes⟩ := exists_encodeChar c
    simp [hbytes]

theorem getElem?_bytes (s t : Text) : (bytes (s ++ t))[byteLength s]? = t.head?.map leadByte := by
  rw [bytes_append, ← length_bytes, List.getElem?_append_right (Nat.le_refl _), Nat.sub_self,
    ← List.head?_eq_getElem?, head?_bytes]

theorem getElem?_bytes_eq_iff {c : Char} (hc : c.toNat < 128) (s t : Text) :
    (bytes (s ++ t))[byteLength s]? = some c.toUInt8 ↔ t.head? = some c := by
  rw [getElem?_bytes]
  cases t with
  | nil => simp
  | cons d t => simp [leadByte_eq_iff hc]

/-- Read as far as they are of one kind, the bytes are those of the characters of that kind. -/
theorem takeWhile_bytes {p : UInt8 → Bool} {q : Char → Bool}
    (hlead : ∀ c, p (leadByte c) = q c) (hascii : ∀ c, q c = true → c.toNat < 128) (t : Text) :
    (bytes t).takeWhile p = bytes (t.takeWhile q) := by
  induction t with
  | nil => rfl
  | cons c t ih =>
    have hc := hlead c
    rw [bytes_cons]
    by_cases h : q c = true
    · rw [h, leadByte_ascii (hascii c h)] at hc
      rw [encodeChar_ascii (hascii c h), List.singleton_append, List.takeWhile_cons_of_pos hc,
        List.takeWhile_cons_of_pos h, bytes_cons, encodeChar_ascii (hascii c h), ih]
      rfl
    · obtain ⟨bs, hbytes⟩ := exists_encodeChar c
      rw [hbytes, List.cons_append, List.takeWhile_cons_of_neg (by rwa [hc]),
        List.takeWhile_cons_of_neg h]
      rfl

theorem bytes_ascii {t : Text} (h : ∀ c ∈ t, c.toNat < 128) : bytes t = t.map Char.toUInt8 := by
  induction t with
  | nil => rfl
  | cons c t ih =>
    rw [bytes_cons, encodeChar_ascii (h c List.mem_cons_self),
      ih fun d hd => h d (List.mem_cons_of_mem c hd)]
    rfl

theorem exists_char_of_lt {t : Text} {i : Nat} (h : i < byteLength t) :
    ∃ s c r, t = s ++ c :: r ∧ byteLength s ≤ i ∧ i < byteLength s + c.utf8Size := by
  induction t generalizing i with
  | nil => exact absurd h (Nat.not_lt_zero i)
  | cons c t ih =>
    by_cases hi : i < c.utf8Size
    · exact ⟨[], c, t, rfl, Nat.zero_le i, by simpa using hi⟩
    · rw [byteLength_cons] at h
      obtain ⟨s, d, r, rfl, hle, hlt⟩ := ih (i := i - c.utf8Size) (by omega)
      refine ⟨c :: s, d, r, rfl, ?_, ?_⟩ <;> rw [byteLength_cons] <;> omega

theorem mem_encodeChar_of_getElem? {s r : Text} {c : Char} {i : Nat} {b : UInt8}
    (h : (bytes (s ++ c :: r))[i]? = some b) (hle : byteLength s ≤ i)
    (hlt : i < byteLength s + c.utf8Size) : b ∈ String.utf8EncodeChar c := by
  rw [bytes_append, List.getElem?_append_right (by simpa using hle), bytes_cons, length_bytes,
    List.getElem?_append_left (by rw [String.length_utf8EncodeChar]; omega)] at h
  exact List.mem_of_getElem? h

/-- Within a character stands a byte that is no character. -/
theorem exists_high_inside {s r : Text} {c : Char} {i : Nat} (hle : byteLength s < i)
    (hlt : i < byteLength s + c.utf8Size) :
    ∃ b, (bytes (s ++ c :: r))[i]? = some b ∧ 128 ≤ b.toNat := by
  have hi : i < (bytes (s ++ c :: r)).length := by
    rw [length_bytes, byteLength_append, byteLength_cons]
    omega
  have hb := List.getElem?_eq_getElem hi
  refine ⟨_, hb, le_of_mem_encodeChar ?_ (mem_encodeChar_of_getElem? hb (by omega) hlt)⟩
  refine Nat.not_lt.mp fun hc => ?_
  rw [utf8Size_ascii hc] at hlt
  omega

theorem exists_of_getElem?_bytes {t : Text} {i : Nat} {c : Char} (hc : c.toNat < 128)
    (h : (bytes t)[i]? = some c.toUInt8) : ∃ s r, t = s ++ c :: r ∧ byteLength s = i := by
  have hi : i < byteLength t := by
    rw [← length_bytes]
    exact (List.getElem?_eq_some_iff.mp h).1
  obtain ⟨s, d, r, rfl, hle, hlt⟩ := exists_char_of_lt hi
  by_cases hstart : byteLength s = i
  · subst hstart
    rw [getElem?_bytes_eq_iff hc, List.head?_cons, Option.some.injEq] at h
    exact ⟨s, r, by rw [h], rfl⟩
  · obtain ⟨b, hb, hhigh⟩ := exists_high_inside (r := r) (by omega : byteLength s < i) hlt
    rw [h, Option.some.injEq] at hb
    rw [← hb, toNat_toUInt8 hc] at hhigh
    omega

/-! ## Cutting at offsets -/

/-- Two offsets between which a text has no part. -/
structure BadCut where
  start : Nat
  stop : Nat
  deriving DecidableEq, Repr

/-- The part of a text between two offsets, if they are in order and characters begin there. -/
def cut (t : Text) (start stop : Nat) : Except BadCut Text :=
  if start ≤ stop ∧ isBoundary t start = true ∧ isBoundary t stop = true then
    .ok (slice t start stop)
  else .error ⟨start, stop⟩

theorem cut_eq_ok_iff {t u : Text} {i j : Nat} : cut t i j = .ok u ↔ t.Between i j u := by
  constructor
  · intro h
    unfold cut at h
    split at h
    · rename_i hends
      cases h
      exact between_slice hends.1 hends.2.1 hends.2.2
    · cases h
  · intro h
    have hslice := h.slice_eq
    obtain ⟨s, r, rfl, rfl, rfl⟩ := h
    have hends : byteLength s ≤ byteLength (s ++ u) ∧
        isBoundary (s ++ (u ++ r)) (byteLength s) = true ∧
        isBoundary (s ++ (u ++ r)) (byteLength (s ++ u)) = true :=
      ⟨by rw [byteLength_append]; omega, isBoundary_iff.mpr ⟨s, _, rfl, rfl⟩,
        isBoundary_iff.mpr ⟨s ++ u, r, by simp, rfl⟩⟩
    rw [cut, if_pos hends, hslice]

theorem cut_front (s r : Text) : cut (s ++ r) 0 (byteLength s) = .ok s :=
  cut_eq_ok_iff.mpr ⟨[], r, rfl, rfl, rfl⟩

theorem cut_behind (s r : Text) : cut (s ++ r) (byteLength s) (byteLength (s ++ r)) = .ok r :=
  cut_eq_ok_iff.mpr ⟨s, [], by simp, rfl, rfl⟩

end NamedCapture.Text
