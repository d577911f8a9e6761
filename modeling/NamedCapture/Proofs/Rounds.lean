import Mathlib.Dynamics.PeriodicPts.Defs
import NamedCapture.Proofs.Session

/-!
# Attempts in a row

A stateful matcher that is asked again and again for a match of the same subject walks over it.  As
long as no match is empty, its cursor is where a walk over the subject would be (`exists_place`), so
each attempt tells what the walk gives at that step (`attemptTells_next`).  The attempt that finds
nothing puts the cursor back to 0, and the next round begins (`isPeriodicPt_round`).
-/

namespace NamedCapture
namespace NamedMatcher

open Matcher

variable {m : NamedMatcher} {subject : Text} {p : Nat}

def afterAttempts (m : NamedMatcher) (subject : Text) (n : Nat) : NamedMatcher :=
  (fun m => (m.exec subject).after)^[n] m

theorem afterAttempts_setCursor (m : NamedMatcher) (subject : Text) (n : Nat) :
    ∃ cursor, m.afterAttempts subject n = m.setCursor cursor := by
  induction n with
  | zero => exact ⟨m.matcher.cursor, rfl⟩
  | succ n ih =>
    obtain ⟨before, hbefore⟩ := ih
    obtain ⟨cursor, hafter⟩ := (m.setCursor before).exec_after subject
    refine ⟨cursor, ?_⟩
    rw [afterAttempts, Function.iterate_succ_apply', ← afterAttempts, hbefore]
    exact hafter

/-- An attempt comes to what a walk gives at a step.  A match leaves the cursor at its end, no match
puts it to 0, and a failure lets it be. -/
def AttemptTells (m : NamedMatcher) (subject : Text) : Option (Except Failure NamedMatch) → Prop
  | none => (m.exec subject).answer = .ok none ∧ (m.exec subject).after = m.setCursor 0
  | some (.ok found) =>
    (m.exec subject).answer = .ok (some found) ∧
      (m.exec subject).after = m.setCursor found.whole.stop
  | some (.error e) => (m.exec subject).answer = .error e ∧ (m.exec subject).after = m

theorem attemptTells_next (hstateful : m.matcher.flags.stateful = true)
    (hp : Text.isBoundary subject p = true) :
    (m.setCursor p).AttemptTells subject (Walk.next ⟨m, subject, p, false⟩).1 := by
  obtain ⟨hanswer, hafter⟩ := exec_setCursor hstateful hp
  rw [Walk.next_eq (Text.le_byteLength_of_isBoundary hp)]
  cases hsearch : m.matcher.searchFrom subject p with
  | error e =>
    rw [hsearch] at hanswer hafter
    exact ⟨hanswer, hafter⟩
  | ok answer =>
    rw [hsearch] at hanswer hafter
    cases answer with
    | none => exact ⟨hanswer, hafter⟩
    | some f => exact ⟨hanswer, hafter⟩

/-- A match that is not empty takes the walk and the cursor to the same place, its end. -/
theorem step_nonempty (hstateful : m.matcher.flags.stateful = true)
    (hengine : m.matcher.engine.Forward subject) (hp : Text.isBoundary subject p = true)
    {found : NamedMatch} (h : (Walk.next ⟨m, subject, p, false⟩).1 = some (.ok found))
    (hempty : found.whole.isEmpty = false) :
    Text.isBoundary subject found.whole.stop = true ∧
      ((m.setCursor p).exec subject).after = m.setCursor found.whole.stop ∧
      (Walk.next ⟨m, subject, p, false⟩).2 = ⟨m, subject, found.whole.stop, false⟩ := by
  rcases Walk.next_cases m subject p with ⟨f, hf, hnext⟩ | ⟨hnone, -⟩
  · rw [hnext] at h ⊢
    cases h
    have hwithin := (within_of_finds hengine hp hf).2
    have hresume : f.resume = f.whole.stop := by
      have hne : f.whole.start ≠ f.whole.stop := ne_of_beq_false hempty
      have hle := hwithin.start_le_stop
      exact Match.resume_eq_stop (by omega)
    refine ⟨hwithin.stop, ?_, congrArg (Walk.mk m subject · false) hresume⟩
    rw [(exec_setCursor hstateful hp).2, hf.2]
    rfl
  · exact absurd h (hnone found)

theorem exists_place (hstateful : m.matcher.flags.stateful = true)
    (hengine : m.matcher.engine.Forward subject) (hp : Text.isBoundary subject p = true) (n : Nat)
    (hitems : ∀ k < n, ∃ found, Walk.item? ⟨m, subject, p, false⟩ k = some (.ok found) ∧
      found.whole.isEmpty = false) :
    ∃ q, Text.isBoundary subject q = true ∧
      (m.setCursor p).afterAttempts subject n = m.setCursor q ∧
      Walk.after ⟨m, subject, p, false⟩ n = ⟨m, subject, q, false⟩ := by
  induction n generalizing p with
  | zero => exact ⟨p, hp, rfl, rfl⟩
  | succ n ih =>
    obtain ⟨found, hfirst, hempty⟩ := hitems 0 (Nat.succ_pos n)
    obtain ⟨hstop, hattempt, hnext⟩ := step_nonempty hstateful hengine hp hfirst hempty
    -- Cursor and walk are both at the end of the first match, so the rest begins from there.
    have hrest : ∀ k < n, ∃ next,
        Walk.item? ⟨m, subject, found.whole.stop, false⟩ k = some (.ok next) ∧
          next.whole.isEmpty = false := by
      intro k hk
      have hitem := hitems (k + 1) (Nat.succ_lt_succ hk)
      rwa [Walk.item?, Walk.after, hnext] at hitem
    obtain ⟨q, hq, hattempts, hwalk⟩ := ih hstop hrest
    refine ⟨q, hq, ?_, ?_⟩
    · rw [afterAttempts, Function.iterate_succ_apply, hattempt]
      exact hattempts
    · rw [Walk.after, hnext]
      exact hwalk

section Rounds

variable (hstateful : m.matcher.flags.stateful = true) (hcursor : m.matcher.cursor = 0)
  (hengine : m.matcher.engine.Forward subject)

include hstateful hcursor hengine

theorem afterAttempts_eq (n : Nat)
    (hitems : ∀ k < n, ∃ found, (m.walk subject).item? k = some (.ok found) ∧
      found.whole.isEmpty = false) :
    ∃ q, Text.isBoundary subject q = true ∧ m.afterAttempts subject n = m.setCursor q ∧
      (m.walk subject).after n = ⟨m, subject, q, false⟩ := by
  have hstart : m.setCursor 0 = m := by
    rw [← hcursor]
    rfl
  have hplace := exists_place hstateful hengine (Text.isBoundary_zero subject) n hitems
  rwa [hstart] at hplace

theorem attemptTells_item? (n : Nat)
    (hitems : ∀ k < n, ∃ found, (m.walk subject).item? k = some (.ok found) ∧
      found.whole.isEmpty = false) :
    (m.afterAttempts subject n).AttemptTells subject ((m.walk subject).item? n) := by
  obtain ⟨q, hq, hattempts, hwalk⟩ := afterAttempts_eq hstateful hcursor hengine n hitems
  rw [hattempts, Walk.item?, hwalk]
  exact attemptTells_next hstateful hq

theorem attemptTells_getElem? {ms : List NamedMatch} (hgives : (m.walk subject).Gives ms none)
    (htext : ∀ f ∈ ms, f.whole.isEmpty = false) {n : Nat} (hn : n ≤ ms.length) :
    (m.afterAttempts subject n).AttemptTells subject (ms[n]?.map .ok) := by
  have hitem : ∀ k, (m.walk subject).item? k = ms[k]?.map .ok := by
    intro k
    rw [Walk.Yields.item?_eq hgives, ← List.getElem?_map]
    exact congrArg (·[k]?) (List.append_nil _)
  rw [← hitem n]
  refine attemptTells_item? hstateful hcursor hengine n fun k hk => ?_
  have hlt : k < ms.length := Nat.lt_of_lt_of_le hk hn
  refine ⟨ms[k], ?_, htext _ (List.getElem_mem hlt)⟩
  rw [hitem, List.getElem?_eq_getElem hlt]
  rfl

theorem isPeriodicPt_round {ms : List NamedMatch} (hgives : (m.walk subject).Gives ms none)
    (htext : ∀ f ∈ ms, f.whole.isEmpty = false) :
    Function.IsPeriodicPt (fun m => (m.exec subject).after) (ms.length + 1) m := by
  have hlast := attemptTells_getElem? hstateful hcursor hengine hgives htext (Nat.le_refl _)
  rw [List.getElem?_eq_none (Nat.le_refl _)] at hlast
  show (fun m => (m.exec subject).after)^[ms.length + 1] m = m
  rw [Function.iterate_succ_apply']
  show ((m.afterAttempts subject ms.length).exec subject).after = m
  rw [hlast.2]
  obtain ⟨last, hmoved⟩ := m.afterAttempts_setCursor subject ms.length
  rw [hmoved, ← hcursor]
  rfl

/-- Attempts of a stateful matcher, in a row from the start, visit what a walk gives: each tells the
next match, or the failure, as long as the matches before it are not empty.  Where none is empty and
the walk ends without a failure, one attempt more finds nothing and puts the cursor back to 0, and
then all begins again, round by round. -/
theorem attempts_follow_walk :
    (∀ n, (∀ k < n, ∃ found, (m.walk subject).item? k = some (.ok found) ∧
        found.whole.isEmpty = false) →
      (m.afterAttempts subject n).AttemptTells subject ((m.walk subject).item? n)) ∧
    ∀ ms, (m.walk subject).Gives ms none → (∀ f ∈ ms, f.whole.isEmpty = false) →
      ∀ n, (m.afterAttempts subject n).AttemptTells subject
        (ms[n % (ms.length + 1)]?.map .ok) := by
  refine ⟨attemptTells_item? hstateful hcursor hengine, fun ms hgives htext n => ?_⟩
  have hround := isPeriodicPt_round hstateful hcursor hengine hgives htext
  have hn : n % (ms.length + 1) ≤ ms.length := Nat.le_of_lt_succ (Nat.mod_lt n (Nat.succ_pos _))
  have htells := attemptTells_getElem? hstateful hcursor hengine hgives htext hn
  rwa [afterAttempts, hround.iterate_mod_apply] at htells

end Rounds

/-- `(?<d>é|b)` is found twice in `éab`, and then every third attempt finds nothing. -/
theorem attempts_follow_walk_twice :
    let subject := ['é', 'a', 'b']
    ∃ m ∈ (compile (Regex.dialect 1000) ['(', '?', '<', 'd', '>', 'é', '|', 'b', ')']
        { global := true }).toOption,
      m.matcher.flags.stateful = true ∧ m.matcher.cursor = 0 ∧
      m.matcher.engine.Forward subject ∧
      ∃ f g, (m.walk subject).Gives [f, g] none ∧
        f.whole = ⟨0, 2⟩ ∧ g.whole = ⟨3, 4⟩ ∧
        ∀ n, (m.afterAttempts subject n).AttemptTells subject ([f, g][n % 3]?.map .ok) := by
  intro subject
  obtain ⟨m, hm, hstateful, hcursor, hengine, hitems⟩ :
      ∃ m ∈ (compile (Regex.dialect 1000) ['(', '?', '<', 'd', '>', 'é', '|', 'b', ')']
          { global := true }).toOption,
        m.matcher.flags.stateful = true ∧ m.matcher.cursor = 0 ∧
          m.matcher.engine.Forward subject ∧
          (m.walk subject).take 3 =
            [.ok ⟨⟨subject, ⟨0, 2⟩, [some ⟨0, 2⟩]⟩, [(['d'], some ['é'])]⟩,
              .ok ⟨⟨subject, ⟨3, 4⟩, [some ⟨3, 4⟩]⟩, [(['d'], some ['b'])]⟩] := by
    decide +kernel
  have hgives : (m.walk subject).Gives
      [⟨⟨subject, ⟨0, 2⟩, [some ⟨0, 2⟩]⟩, [(['d'], some ['é'])]⟩,
        ⟨⟨subject, ⟨3, 4⟩, [some ⟨3, 4⟩]⟩, [(['d'], some ['b'])]⟩] none := by
    have hyields := Walk.yields_take (w := m.walk subject) (n := 3) (by rw [hitems]; decide)
    rwa [hitems] at hyields
  obtain ⟨-, hrounds⟩ := attempts_follow_walk hstateful hcursor hengine
  exact ⟨m, hm, hstateful, hcursor, hengine, _, _, hgives, rfl, rfl,
    hrounds _ hgives (by decide)⟩

end NamedMatcher
end NamedCapture
