import Mathlib.Order.Bounds.Basic
import NamedCapture.Matcher.Named
import NamedCapture.Proofs.Loop

/-!
# One attempt at a match

An attempt of a stateful matcher asks its engine once, from the least boundary that is not before
the cursor, or not at all when the cursor is behind the end of the subject.  `Attempt` says what it
answers in each case and where it leaves the cursor.  Every way of making an attempt goes through
`Matcher.exec`, so this is all there is to say of it (`attempt_exec`).
-/

namespace NamedCapture

namespace Text

/-- The boundary where a search begins that is to begin at an offset. -/
def IsCeil (t : Text) (i p : Nat) : Prop := IsLeast {q | isBoundary t q = true ∧ i ≤ q} p

theorem isCeil_ceilBoundary {t : Text} {i : Nat} (h : i ≤ byteLength t) :
    IsCeil t i (ceilBoundary t i) :=
  ⟨⟨isBoundary_ceilBoundary t i, le_ceilBoundary h⟩, fun _ hq => ceilBoundary_le hq.1 hq.2⟩

theorem isCeil_self {t : Text} {p : Nat} (h : isBoundary t p = true) : IsCeil t p p :=
  ⟨⟨h, Nat.le_refl p⟩, fun _ hq => hq.2⟩

end Text

/-- How an attempt ends and where it leaves the cursor.  The engine is asked only as the
constructors say. -/
inductive Attempt (engine : Engine) (sticky : Bool) (subject : Text) (cursor : Nat) :
    Except Failure (Option Match) → Nat → Prop
  | behind (h : Text.byteLength subject < cursor) :
    Attempt engine sticky subject cursor (.ok none) 0
  | absent {p : Nat} (hp : subject.IsCeil cursor p) (h : engine.search subject p = .absent) :
    Attempt engine sticky subject cursor (.ok none) 0
  /-- A sticky matcher takes no match that begins elsewhere. -/
  | refused {p : Nat} {whole : Span} {groups : List (Option Span)} (hp : subject.IsCeil cursor p)
      (h : engine.search subject p = .found whole groups) (hsticky : sticky = true)
      (hstart : whole.start ≠ p) :
    Attempt engine sticky subject cursor (.ok none) 0
  | found {p : Nat} {whole : Span} {groups : List (Option Span)} (hp : subject.IsCeil cursor p)
      (h : engine.search subject p = .found whole groups)
      (hstart : sticky = true → whole.start = p) :
    Attempt engine sticky subject cursor (.ok (some ⟨subject, whole, groups⟩)) whole.stop
  | gaveUp {p : Nat} (hp : subject.IsCeil cursor p) (h : engine.search subject p = .gaveUp) :
    Attempt engine sticky subject cursor (.error .gaveUp) cursor

namespace Attempt

variable {engine engine' : Engine} {sticky : Bool} {subject : Text} {cursor next : Nat}
  {answer : Except Failure (Option Match)}

theorem exists_attempt (engine : Engine) (sticky : Bool) (subject : Text) (cursor : Nat) :
    ∃ answer next, Attempt engine sticky subject cursor answer next := by
  by_cases hin : cursor ≤ Text.byteLength subject
  · have hp := Text.isCeil_ceilBoundary hin
    cases hsearch : engine.search subject (Text.ceilBoundary subject cursor) with
    | absent => exact ⟨_, _, .absent hp hsearch⟩
    | gaveUp => exact ⟨_, _, .gaveUp hp hsearch⟩
    | found whole groups =>
      by_cases hrefused : sticky = true ∧ whole.start ≠ Text.ceilBoundary subject cursor
      · exact ⟨_, _, .refused hp hsearch hrefused.1 hrefused.2⟩
      · exact ⟨_, _, .found hp hsearch fun hsticky =>
          Classical.not_not.mp fun hne => hrefused ⟨hsticky, hne⟩⟩
  · exact ⟨_, _, .behind (Nat.not_le.mp hin)⟩

/-- An attempt does not depend on what the engine finds elsewhere, nor on the engine at all when the
cursor is behind the end. -/
theorem congr (h : Attempt engine sticky subject cursor answer next)
    (hsame : ∀ p, subject.IsCeil cursor p → engine'.search subject p = engine.search subject p) :
    Attempt engine' sticky subject cursor answer next := by
  cases h with
  | behind h => exact .behind h
  | absent hp h => exact .absent hp ((hsame _ hp).trans h)
  | refused hp h hsticky hstart => exact .refused hp ((hsame _ hp).trans h) hsticky hstart
  | found hp h hstart => exact .found hp ((hsame _ hp).trans h) hstart
  | gaveUp hp h => exact .gaveUp hp ((hsame _ hp).trans h)

theorem isBoundary_next (h : Attempt engine sticky subject cursor answer next)
    (hstops : engine.StopsAtBoundary subject) (hok : ∀ e, answer ≠ .error e) :
    Text.isBoundary subject next = true := by
  cases h with
  | behind => exact Text.isBoundary_zero subject
  | absent => exact Text.isBoundary_zero subject
  | refused => exact Text.isBoundary_zero subject
  | found hp h => exact hstops _ hp.1.1 _ (by rw [h]; rfl)
  | gaveUp => exact absurd rfl (hok .gaveUp)

end Attempt

namespace Matcher

variable {m : Matcher} {subject : Text} {p : Nat}

theorem exec_of_isCeil (hstateful : m.flags.stateful = true) (hp : subject.IsCeil m.cursor p) :
    (m.exec subject).answer = m.searchFrom subject p ∧
      (m.exec subject).after =
        match m.searchFrom subject p with
        | .error _ => m
        | .ok found => m.setCursor (found.elim 0 fun f => f.whole.stop) := by
  have hstart : m.start = m.cursor := if_pos hstateful
  have hend : m.cursor ≤ Text.byteLength subject :=
    Nat.le_trans hp.1.2 (Text.le_byteLength_of_isBoundary hp.1.1)
  have hceil : Text.ceilBoundary subject m.cursor = p :=
    IsLeast.unique (Text.isCeil_ceilBoundary hend) hp
  unfold exec
  rw [hstart, if_neg (Nat.not_lt.mpr hend), hceil]
  cases m.searchFrom subject p with
  | error e => exact ⟨rfl, rfl⟩
  | ok found =>
    refine ⟨rfl, ?_⟩
    dsimp only
    rw [if_pos hstateful]
    cases found <;> rfl

theorem exec_of_behind (hstateful : m.flags.stateful = true)
    (h : Text.byteLength subject < m.cursor) :
    m.exec subject = { answer := .ok none, after := m.setCursor 0, events := [] } := by
  have hstart : m.start = m.cursor := if_pos hstateful
  unfold exec
  rw [hstart, if_pos h]
  rfl

theorem exec_of_attempt (hstateful : m.flags.stateful = true)
    {answer : Except Failure (Option Match)} {next : Nat}
    (h : Attempt m.engine m.flags.sticky subject m.cursor answer next) :
    (m.exec subject).answer = answer ∧ (m.exec subject).after = m.setCursor next := by
  cases h with
  | behind h =>
    rw [exec_of_behind hstateful h]
    exact ⟨rfl, rfl⟩
  | @absent p hp h =>
    have hsearch : m.searchFrom subject p = .ok none := by rw [searchFrom, h]
    obtain ⟨hanswer, hafter⟩ := exec_of_isCeil hstateful hp
    rw [hanswer, hafter, hsearch]
    exact ⟨rfl, rfl⟩
  | @refused p whole groups hp h hsticky hstart =>
    have hsearch : m.searchFrom subject p = .ok none := by
      rw [searchFrom, h]
      exact if_pos (by rw [hsticky, bne_iff_ne.mpr hstart]; rfl)
    obtain ⟨hanswer, hafter⟩ := exec_of_isCeil hstateful hp
    rw [hanswer, hafter, hsearch]
    exact ⟨rfl, rfl⟩
  | @found p whole groups hp h hstart =>
    have hsearch : m.searchFrom subject p = .ok (some ⟨subject, whole, groups⟩) := by
      rw [searchFrom, h]
      refine if_neg ?_
      rw [Bool.and_eq_true, bne_iff_ne]
      exact fun hparts => hparts.2 (hstart hparts.1)
    obtain ⟨hanswer, hafter⟩ := exec_of_isCeil hstateful hp
    rw [hanswer, hafter, hsearch]
    exact ⟨rfl, rfl⟩
  | @gaveUp p hp h =>
    have hsearch : m.searchFrom subject p = .error .gaveUp := by rw [searchFrom, h]
    obtain ⟨hanswer, hafter⟩ := exec_of_isCeil hstateful hp
    rw [hanswer, hafter, hsearch]
    exact ⟨rfl, rfl⟩

theorem attempt_exec (hstateful : m.flags.stateful = true) (subject : Text) :
    Attempt m.engine m.flags.sticky subject m.cursor (m.exec subject).answer
      (m.exec subject).after.cursor := by
  obtain ⟨answer, next, h⟩ :=
    Attempt.exists_attempt m.engine m.flags.sticky subject m.cursor
  obtain ⟨hanswer, hafter⟩ := exec_of_attempt hstateful h
  rw [hanswer, hafter]
  exact h

theorem exec_of_not_stateful (hstateful : m.flags.stateful = false) (subject : Text) :
    (m.exec subject).answer = m.searchFrom subject 0 ∧ (m.exec subject).after = m := by
  have hstart : m.start = 0 := by rw [start, hstateful]; rfl
  have hceil : Text.ceilBoundary subject 0 = 0 :=
    Text.ceilBoundary_of_isBoundary (Text.isBoundary_zero subject)
  unfold exec
  rw [hstart, if_neg (Nat.not_lt_zero _), hceil, hstateful]
  cases m.searchFrom subject 0 with
  | error e => exact ⟨rfl, rfl⟩
  | ok found => exact ⟨rfl, rfl⟩

theorem searchFrom_of_exec {f : Match} (h : (m.exec subject).answer = .ok (some f)) :
    ∃ p, Text.isBoundary subject p = true ∧ m.searchFrom subject p = .ok (some f) := by
  unfold exec at h
  split at h
  · cases h
  · split at h
    · cases h
    · rename_i hsearch
      cases h
      exact ⟨_, Text.isBoundary_ceilBoundary subject m.start, hsearch⟩

theorem exec_after (m : Matcher) (subject : Text) :
    (m.exec subject).after = m.setCursor (m.exec subject).after.cursor := by
  cases hstateful : m.flags.stateful with
  | false =>
    rw [(exec_of_not_stateful hstateful subject).2]
    rfl
  | true =>
    obtain ⟨-, hafter⟩ := exec_of_attempt hstateful (attempt_exec hstateful subject)
    exact hafter

theorem test_of_stateful (hstateful : m.flags.stateful = true) (subject : Text) :
    m.test subject =
      { m.exec subject with answer := (m.exec subject).answer.map Option.isSome } :=
  if_pos hstateful

/-- A test of a matcher that is not stateful is left to the engine. -/
theorem test_of_not_stateful (hstateful : m.flags.stateful = false) (subject : Text) :
    (m.test subject).answer =
        (match m.engine.test subject with
        | none => .error .gaveUp
        | some found => .ok found) ∧
      (m.test subject).after = m := by
  rw [test, hstateful]
  cases m.engine.test subject <;> exact ⟨rfl, rfl⟩

theorem test_after (m : Matcher) (subject : Text) :
    (m.test subject).after = (m.exec subject).after := by
  cases hstateful : m.flags.stateful with
  | false =>
    exact (test_of_not_stateful hstateful subject).2.trans
      (exec_of_not_stateful hstateful subject).2.symm
  | true => rw [test_of_stateful hstateful]

end Matcher
end NamedCapture
