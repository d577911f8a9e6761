/-!
Texts and their offsets.  A text is the list of its characters, and every offset, length and
cursor counts UTF-8 bytes, so an offset may fall inside a character.  `ceilBoundary` moves such an
offset to the next place where a character begins.
-/

namespace NamedCapture

abbrev Text := List Char

namespace Text

def byteLength : Text → Nat
  | [] => 0
  | c :: t => c.utf8Size + byteLength t

/-- What follows the first `n` bytes.  A character that `n` falls into is dropped whole. -/
def dropBytes : Nat → Text → Text
  | _, [] => []
  | n, c :: t => if n = 0 then c :: t else dropBytes (n - c.utf8Size) t

/-- The first `n` bytes.  A character that `n` falls into is kept whole. -/
def takeBytes : Nat → Text → Text
  | _, [] => []
  | n, c :: t => if n = 0 then [] else c :: takeBytes (n - c.utf8Size) t

/-- The text between two offsets, empty when they are out of order. -/
def slice (t : Text) (start stop : Nat) : Text :=
  takeBytes (stop - start) (dropBytes start t)

def isBoundary : Text → Nat → Bool
  | [], i => i == 0
  | c :: t, i => i == 0 || (c.utf8Size ≤ i && isBoundary t (i - c.utf8Size))

/-- The least boundary at or after an offset, or the end of the text when there is none. -/
def ceilBoundary : Text → Nat → Nat
  | [], _ => 0
  | c :: t, i => if i = 0 then 0 else c.utf8Size + ceilBoundary t (i - c.utf8Size)

@[simp] theorem byteLength_nil : byteLength [] = 0 := rfl

@[simp] theorem byteLength_cons (c : Char) (t : Text) :
    byteLength (c :: t) = c.utf8Size + byteLength t := rfl

@[simp] theorem byteLength_append (s t : Text) :
    byteLength (s ++ t) = byteLength s + byteLength t := by
  induction s with
  | nil => simp
  | cons c s ih => simp [ih, Nat.add_assoc]

theorem isBoundary_zero (t : Text) : isBoundary t 0 = true := by
  cases t <;> simp [isBoundary]

theorem dropBytes_append (s t : Text) : dropBytes (byteLength s) (s ++ t) = t := by
  induction s with
  | nil => cases t <;> simp [dropBytes]
  | cons c s ih =>
    have hne : c.utf8Size ≠ 0 := Nat.ne_of_gt c.utf8Size_pos
    simp [dropBytes, ih, hne]

theorem takeBytes_append (s t : Text) : takeBytes (byteLength s) (s ++ t) = s := by
  induction s with
  | nil => cases t <;> simp [takeBytes]
  | cons c s ih =>
    have hne : c.utf8Size ≠ 0 := Nat.ne_of_gt c.utf8Size_pos
    simp [takeBytes, ih, hne]

theorem slice_append (s t u : Text) :
    slice (s ++ (t ++ u)) (byteLength s) (byteLength s + byteLength t) = t := by
  rw [slice, Nat.add_sub_cancel_left, dropBytes_append, takeBytes_append]

theorem isBoundary_byteLength (t : Text) : isBoundary t (byteLength t) = true := by
  induction t with
  | nil => rfl
  | cons c t ih => simp [isBoundary, ih]

theorem le_byteLength_of_isBoundary {t : Text} {i : Nat} (h : isBoundary t i = true) :
    i ≤ byteLength t := by
  induction t generalizing i with
  | nil =>
    have hi : i = 0 := by simpa [isBoundary] using h
    exact Nat.le_of_eq hi
  | cons c t ih =>
    simp only [isBoundary, Bool.or_eq_true, Bool.and_eq_true, beq_iff_eq,
      decide_eq_true_eq] at h
    rw [byteLength_cons]
    rcases h with hzero | ⟨hle, hrest⟩
    · omega
    · have hi := ih hrest
      omega

theorem isBoundary_ceilBoundary (t : Text) (i : Nat) : isBoundary t (ceilBoundary t i) = true := by
  induction t generalizing i with
  | nil => rfl
  | cons c t ih =>
    by_cases hi : i = 0
    · simp [ceilBoundary, hi, isBoundary]
    · simp [ceilBoundary, hi, isBoundary, ih]

theorem le_ceilBoundary {t : Text} {i : Nat} (h : i ≤ byteLength t) : i ≤ ceilBoundary t i := by
  induction t generalizing i with
  | nil => exact h
  | cons c t ih =>
    by_cases hi : i = 0
    · rw [hi]
      exact Nat.zero_le _
    · have hrest : i - c.utf8Size ≤ byteLength t := by
        rw [byteLength_cons] at h
        omega
      have hle := ih hrest
      rw [ceilBoundary, if_neg hi]
      omega

theorem ceilBoundary_le {t : Text} {i j : Nat} (hj : isBoundary t j = true) (hij : i ≤ j) :
    ceilBoundary t i ≤ j := by
  induction t generalizing i j with
  | nil => exact Nat.zero_le _
  | cons c t ih =>
    by_cases hi : i = 0
    · rw [ceilBoundary, if_pos hi]
      exact Nat.zero_le _
    · simp only [isBoundary, Bool.or_eq_true, Bool.and_eq_true, beq_iff_eq,
        decide_eq_true_eq] at hj
      rcases hj with hzero | ⟨hle, hrest⟩
      · omega
      · have hnext := ih hrest (Nat.sub_le_sub_right hij c.utf8Size)
        rw [ceilBoundary, if_neg hi]
        omega

theorem ceilBoundary_of_isBoundary {t : Text} {i : Nat} (h : isBoundary t i = true) :
    ceilBoundary t i = i :=
  Nat.le_antisymm (ceilBoundary_le h (Nat.le_refl i))
    (le_ceilBoundary (le_byteLength_of_isBoundary h))

end Text
end NamedCapture
