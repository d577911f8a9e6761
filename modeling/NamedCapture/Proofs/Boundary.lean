import NamedCapture.Match

/-!
# Boundaries as ways to cut a text in two

A boundary is the length of a prefix (`isBoundary_iff`), so what lies behind it is the other part,
and what lies between two boundaries is a part of the text (`between_slice`).  A match is `Sound`
when its captures are such parts of its subject.  A search starts at a boundary or, when a loop has
stepped over the end of the text, at the one place behind it.  `stepsLeft` counts the boundaries
from a place on, and every step forward lowers it.
-/

namespace NamedCapture
namespace Text

theorem isBoundary_iff {t : Text} {i : Nat} :
    isBoundary t i = true ↔ ∃ s r, t = s ++ r ∧ byteLength s = i := by
  constructor
  · intro h
    induction t generalizing i with
    | nil =>
      have hi : i = 0 := by simpa [isBoundary] using h
      exact ⟨[], [], rfl, hi.symm⟩
    | cons c t ih =>
      simp only [isBoundary, Bool.or_eq_true, Bool.and_eq_true, beq_iff_eq,
        decide_eq_true_eq] at h
      rcases h with hzero | ⟨hle, hrest⟩
      · exact ⟨[], c :: t, rfl, hzero.symm⟩
      · obtain ⟨s, r, hsr, hlength⟩ := ih hrest
        refine ⟨c :: s, r, by rw [hsr, List.cons_append], ?_⟩
        rw [byteLength_cons]
        omega
  · intro hparts
    obtain ⟨s, r, rfl, rfl⟩ := hparts
    induction s with
    | nil => exact isBoundary_zero _
    | cons c s ih => simp [isBoundary, ih]

theorem length_le_byteLength (t : Text) : t.length ≤ byteLength t := by
  induction t with
  | nil => exact Nat.le_refl 0
  | cons c t ih =>
    have hpos := c.utf8Size_pos
    rw [List.length_cons, byteLength_cons]
    omega

theorem byteLength_lt_of_cons (s : Text) (c : Char) (r : Text) :
    byteLength s < byteLength (s ++ c :: r) := by
  have hpos := c.utf8Size_pos
  rw [byteLength_append, byteLength_cons]
  omega

theorem append_inj_of_byteLength {s s' r r' : Text} (h : s ++ r = s' ++ r')
    (hlength : byteLength s = byteLength s') : s = s' ∧ r = r' := by
  have hfront : s = s' := by rw [← takeBytes_append s r, h, hlength, takeBytes_append]
  subst hfront
  exact ⟨rfl, List.append_cancel_left h⟩

/-- What the text has from one offset to another. -/
def Between (t : Text) (i j : Nat) (u : Text) : Prop :=
  ∃ s r, t = s ++ (u ++ r) ∧ byteLength s = i ∧ byteLength (s ++ u) = j

section Between

variable {t u : Text} {i j : Nat}

theorem Between.slice_eq (h : Between t i j u) : slice t i j = u := by
  obtain ⟨s, r, rfl, rfl, rfl⟩ := h
  rw [byteLength_append, slice_append]

theorem between_slice (hij : i ≤ j) (hi : isBoundary t i = true) (hj : isBoundary t j = true) :
    Between t i j (slice t i j) := by
  obtain ⟨s, r, rfl, rfl⟩ := isBoundary_iff.mp hi
  obtain ⟨s', r', hcut, rfl⟩ := isBoundary_iff.mp hj
  have hbetween : ∃ u, Between (s ++ r) (byteLength s) (byteLength s') u := by
    rcases List.append_eq_append_iff.mp hcut with ⟨u, rfl, rfl⟩ | ⟨u, rfl, rfl⟩
    · exact ⟨u, s, r', rfl, rfl, rfl⟩
    · have hlength := length_le_byteLength u
      rw [byteLength_append] at hij
      obtain rfl : u = [] := List.length_eq_zero_iff.mp (by omega)
      exact ⟨[], s', r, by simp, by simp, by simp⟩
  obtain ⟨u, hu⟩ := hbetween
  rwa [hu.slice_eq]

theorem slice_zero (t : Text) (j : Nat) : slice t 0 j = takeBytes j t := by
  cases t <;> rfl

theorem slice_byteLength (hi : isBoundary t i = true) :
    slice t i (byteLength t) = dropBytes i t := by
  obtain ⟨s, r, rfl, rfl⟩ := isBoundary_iff.mp hi
  have hslice := slice_append s r []
  rw [List.append_nil, ← byteLength_append] at hslice
  rw [hslice, dropBytes_append]

end Between

theorem length_dropBytes_lt {t : Text} {i j : Nat} (hi : isBoundary t i = true)
    (hj : isBoundary t j = true) (hij : i < j) :
    (dropBytes j t).length < (dropBytes i t).length := by
  obtain ⟨s, r, rfl, rfl⟩ := isBoundary_iff.mp hi
  obtain ⟨s', r', hcut, rfl⟩ := isBoundary_iff.mp hj
  rw [dropBytes_append, hcut, dropBytes_append]
  rcases List.append_eq_append_iff.mp hcut with ⟨a, rfl, rfl⟩ | ⟨a, rfl, rfl⟩
  · rw [byteLength_append] at hij
    have ha : a ≠ [] := by
      intro heq
      obtain rfl := heq
      rw [byteLength_nil] at hij
      omega
    have hlength := List.length_pos_iff.mpr ha
    rw [List.length_append]
    omega
  · rw [byteLength_append] at hij
    omega

/-- A boundary, or the place behind the end of the text. -/
def IsPosition (t : Text) (i : Nat) : Prop := isBoundary t i = true ∨ i = byteLength t + 1

theorem IsPosition.isBoundary {t : Text} {i : Nat} (h : IsPosition t i)
    (hi : i ≤ byteLength t) : Text.isBoundary t i = true := by
  rcases h with h | h
  · exact h
  · omega

def stepsLeft (t : Text) (i : Nat) : Nat :=
  if i ≤ byteLength t then (dropBytes i t).length + 1 else 0

theorem stepsLeft_zero (t : Text) : stepsLeft t 0 = t.length + 1 := by
  rw [stepsLeft, if_pos (Nat.zero_le _)]
  cases t <;> rfl

theorem stepsLeft_lt {t : Text} {i j : Nat} (hi : IsPosition t i) (hend : i ≤ byteLength t)
    (hj : IsPosition t j) (hij : i < j) : stepsLeft t j < stepsLeft t i := by
  rw [stepsLeft, stepsLeft, if_pos hend]
  by_cases hle : j ≤ byteLength t
  · rw [if_pos hle]
    have hlt := length_dropBytes_lt (hi.isBoundary hend) (hj.isBoundary hle) hij
    omega
  · rw [if_neg hle]
    omega

end Text

/-- The ends are in order and cut no character of the text. -/
structure Span.Within (s : Span) (t : Text) : Prop where
  start_le_stop : s.start ≤ s.stop
  start : Text.isBoundary t s.start = true
  stop : Text.isBoundary t s.stop = true

instance {s : Span} {t : Text} : Decidable (s.Within t) :=
  decidable_of_iff (s.start ≤ s.stop ∧ Text.isBoundary t s.start = true ∧
    Text.isBoundary t s.stop = true)
    ⟨fun h => ⟨h.1, h.2.1, h.2.2⟩, fun h => ⟨h.start_le_stop, h.start, h.stop⟩⟩

namespace Match

/-- All captures that are set are parts of the subject. -/
def Sound (m : Match) : Prop := ∀ c ∈ m.captures, ∀ s ∈ c, s.Within m.subject

instance {m : Match} : Decidable m.Sound := by
  unfold Sound
  infer_instance

theorem Sound.whole {m : Match} (h : m.Sound) : m.whole.Within m.subject :=
  h _ List.mem_cons_self _ rfl

theorem Sound.of_span? {m : Match} (h : m.Sound) {i : Nat} {s : Span} (hs : m.span? i = some s) :
    s.Within m.subject :=
  h _ (List.mem_of_getElem? (Option.join_eq_some_iff.mp hs)) _ rfl

theorem isPosition_resume {m : Match} (h : Text.isBoundary m.subject m.whole.stop = true) :
    Text.IsPosition m.subject m.resume := by
  unfold resume
  split
  · exact Or.inl h
  · obtain ⟨s, r, hsr, hlength⟩ := Text.isBoundary_iff.mp h
    rw [← hlength, hsr, Text.dropBytes_append]
    cases r with
    | nil =>
      right
      rw [List.append_nil]
    | cons c r =>
      left
      refine Text.isBoundary_iff.mpr ⟨s ++ [c], r, by simp, ?_⟩
      simp

theorem resume_eq_stop {m : Match} (h : m.whole.start < m.whole.stop) :
    m.resume = m.whole.stop := if_pos h

theorem stop_lt_resume {m : Match} (h : m.whole.stop ≤ m.whole.start) :
    m.whole.stop < m.resume := by
  rw [resume, if_neg (Nat.not_lt.mpr h)]
  split
  · rename_i c _ _
    have hpos := c.utf8Size_pos
    omega
  · omega

end Match
end NamedCapture
