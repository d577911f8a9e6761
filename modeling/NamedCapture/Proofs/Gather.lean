import NamedCapture.Matcher.Replace
import NamedCapture.Proofs.Attempt
import NamedCapture.Proofs.Walk

/-!
# Global replacement as a loop of searches

A global replacement drives the cursor through one attempt after another.  From a place where a
search may start an attempt searches from just there, so the replacement is a loop of searches that
goes on at `Match.advance`, and its fuel is enough for every loop that ends (`gather_of_loop`,
`loop_of_gather`).  Where matches do not end before they begin this is the loop of the walk
(`loop_advance_iff`).
-/

namespace NamedCapture

/-- Where a replacement goes on after a match. -/
def Match.advance (m : Match) : Nat := if m.whole.isEmpty then m.resume else m.whole.stop

theorem Match.advance_eq_resume {m : Match} (h : m.whole.start ≤ m.whole.stop) :
    m.advance = m.resume := by
  unfold advance
  by_cases he : m.whole.start = m.whole.stop
  · rw [if_pos (by simp [Span.isEmpty, he])]
  · rw [if_neg (by simp [Span.isEmpty, he]), Match.resume_eq_stop (by omega)]

/-- A match begins before another does, and is over by then. -/
def Match.Before (f g : Match) : Prop :=
  f.whole.start < g.whole.start ∧ f.whole.stop ≤ g.whole.start

theorem Match.start_lt_resume (m : Match) (h : m.whole.start ≤ m.whole.stop) :
    m.whole.start < m.resume := by
  by_cases hempty : m.whole.start < m.whole.stop
  · rw [resume_eq_stop hempty]
    exact hempty
  · have hbehind := stop_lt_resume (Nat.not_lt.mp hempty)
    omega

namespace Matcher

variable {m : Matcher} {subject : Text} {next next' : Match → Nat} {p : Nat}

theorem goesOn_resume : GoesOn Match.resume :=
  fun f h => ⟨f.stop_le_resume, Match.isPosition_resume h⟩

theorem goesOn_advance : GoesOn Match.advance := by
  intro f h
  unfold Match.advance
  split
  · exact goesOn_resume f h
  · exact ⟨Nat.le_refl _, Or.inl h⟩

theorem Loop.congr {fs : List Match} {ending : Option Failure} (hengine : m.engine.Bounded subject)
    (hnext : GoesOn next) (hp : Text.IsPosition subject p)
    (hsame : ∀ q f, Text.isBoundary subject q = true → m.Finds subject q f → next f = next' f)
    (h : Loop m subject next p fs ending) : Loop m subject next' p fs ending := by
  induction h with
  | behind hbehind => exact .behind hbehind
  | absent hin hsearch => exact .absent hin hsearch
  | failed hin hsearch => exact .failed hin hsearch
  | found hf _ ih =>
    have hrest := ih (position_of_finds hengine hnext hp hf).2
    rw [hsame _ _ (hp.isBoundary hf.1) hf] at hrest
    exact .found hf hrest

theorem Visits.congr {q : Nat} (hengine : m.engine.Bounded subject) (hnext : GoesOn next)
    (hp : Text.IsPosition subject p)
    (hsame : ∀ q f, Text.isBoundary subject q = true → m.Finds subject q f → next f = next' f)
    (h : Visits m subject next p q) : Visits m subject next' p q := by
  induction h with
  | start => exact .start
  | step hq hf ih =>
    rw [hsame _ _ ((position_of_visits hengine.stopsAtBoundary hnext hp hq).isBoundary hf.1) hf]
    exact .step ih hf

theorem within_of_finds (hengine : m.engine.Forward subject)
    (hp : Text.isBoundary subject p = true) {f : Match} (hf : m.Finds subject p f) :
    p ≤ f.whole.start ∧ f.whole.Within subject := by
  obtain ⟨-, hfound, -⟩ := searchFrom_eq_found hf.2
  obtain ⟨hle, hspan, hstart, hstop⟩ := hengine p hp f.whole (by rw [hfound]; rfl)
  exact ⟨hle, hspan, hstart, hstop⟩

theorem start_le_stop (hengine : m.engine.Forward subject) (hp : Text.isBoundary subject p = true)
    {f : Match} (hf : m.Finds subject p f) :
    p ≤ f.whole.start ∧ f.whole.start ≤ f.whole.stop := by
  obtain ⟨hle, hwithin⟩ := within_of_finds hengine hp hf
  exact ⟨hle, hwithin.start_le_stop⟩

theorem Loop.ordered {fs : List Match} {ending : Option Failure}
    (hengine : m.engine.Forward subject) (hp : Text.IsPosition subject p)
    (h : Loop m subject Match.resume p fs ending) :
    (∀ f ∈ fs, f.subject = subject ∧ p ≤ f.whole.start ∧ f.whole.Within subject) ∧
      fs.Pairwise Match.Before := by
  induction h with
  | behind => exact ⟨nofun, .nil⟩
  | absent => exact ⟨nofun, .nil⟩
  | failed => exact ⟨nofun, .nil⟩
  | @found p f fs ending hf _ ih =>
    obtain ⟨hstart, hwithin⟩ := within_of_finds hengine (hp.isBoundary hf.1) hf
    obtain ⟨hrest, hpairwise⟩ := ih (position_of_finds hengine.bounded goesOn_resume hp hf).2
    have hresume := f.start_lt_resume hwithin.start_le_stop
    have hstop := f.stop_le_resume
    refine ⟨fun g hg => ?_, List.pairwise_cons.mpr ⟨fun g hg => ?_, hpairwise⟩⟩
    · rcases List.mem_cons.mp hg with rfl | hmem
      · exact ⟨(searchFrom_eq_found hf.2).1, hstart, hwithin⟩
      · obtain ⟨hsubject, hle, hin⟩ := hrest g hmem
        exact ⟨hsubject, by omega, hin⟩
    · have hle := (hrest g hg).2.1
      exact ⟨by omega, by omega⟩

theorem advance_eq_resume_of_finds (hengine : m.engine.Forward subject) (q : Nat) (f : Match)
    (hq : Text.isBoundary subject q = true) (hf : m.Finds subject q f) : f.advance = f.resume :=
  Match.advance_eq_resume (start_le_stop hengine hq hf).2

/-- A walk and a replacement search from the same places. -/
theorem loop_advance_iff {fs : List Match} {ending : Option Failure}
    (hengine : m.engine.Forward subject) (hp : Text.IsPosition subject p) :
    Loop m subject Match.advance p fs ending ↔ Loop m subject Match.resume p fs ending := by
  have hsame := advance_eq_resume_of_finds hengine
  constructor
  · exact Loop.congr hengine.bounded goesOn_advance hp hsame
  · exact Loop.congr hengine.bounded goesOn_resume hp fun q f hq hf => (hsame q f hq hf).symm

end Matcher

namespace NamedMatcher

open Matcher

variable {m : NamedMatcher} {subject : Text} {p : Nat} {fs : List Match}
  {ending : Option Failure}

theorem exists_of_exec {found : NamedMatch}
    (h : (m.exec subject).answer = .ok (some found)) :
    ∃ p f, Text.isBoundary subject p = true ∧ m.matcher.searchFrom subject p = .ok (some f) ∧
      found = NamedMatch.ofMatch m.table f := by
  have hanswer : (m.matcher.exec subject).answer.map (Option.map (NamedMatch.ofMatch m.table)) =
      .ok (some found) := h
  cases hexec : (m.matcher.exec subject).answer with
  | error e =>
    rw [hexec] at hanswer
    cases hanswer
  | ok answer =>
    rw [hexec] at hanswer
    cases answer with
    | none => cases hanswer
    | some f =>
      cases hanswer
      obtain ⟨p, hp, hsearch⟩ := searchFrom_of_exec hexec
      exact ⟨p, f, hp, hsearch, rfl⟩

theorem exec_setCursor (hstateful : m.matcher.flags.stateful = true)
    (hp : Text.isBoundary subject p = true) :
    ((m.setCursor p).exec subject).answer =
        (m.matcher.searchFrom subject p).map (Option.map (NamedMatch.ofMatch m.table)) ∧
      ((m.setCursor p).exec subject).after =
        match m.matcher.searchFrom subject p with
        | .error _ => m.setCursor p
        | .ok found => m.setCursor (found.elim 0 fun f => f.whole.stop) := by
  have hsearch : (m.setCursor p).matcher.searchFrom subject p = m.matcher.searchFrom subject p :=
    rfl
  have hceil : subject.IsCeil (m.setCursor p).matcher.cursor p := Text.isCeil_self hp
  obtain ⟨hanswer, hafter⟩ :=
    Matcher.exec_of_isCeil (m := (m.setCursor p).matcher) hstateful hceil
  rw [hsearch] at hanswer hafter
  refine ⟨congrArg (Except.map (Option.map (NamedMatch.ofMatch m.table))) hanswer, ?_⟩
  show { m with matcher := ((m.setCursor p).matcher.exec subject).after } = _
  rw [hafter]
  cases m.matcher.searchFrom subject p <;> rfl

theorem exec_behind (hstateful : m.matcher.flags.stateful = true)
    (hp : Text.byteLength subject < p) :
    (m.setCursor p).exec subject =
      { answer := .ok none, after := m.setCursor 0, events := [] } := by
  unfold NamedMatcher.exec
  rw [Matcher.exec_of_behind (m := (m.setCursor p).matcher) hstateful hp]
  rfl

theorem gather_found (hstateful : m.matcher.flags.stateful = true)
    (hp : Text.isBoundary subject p = true) {f : Match} (hf : m.matcher.Finds subject p f)
    (fuel : Nat) :
    (gather subject (fuel + 1) (m.setCursor p)).answer =
        (gather subject fuel (m.setCursor f.advance)).answer.map
          (NamedMatch.ofMatch m.table f :: ·) ∧
      (gather subject (fuel + 1) (m.setCursor p)).after =
        (gather subject fuel (m.setCursor f.advance)).after := by
  obtain ⟨hanswer, hafter⟩ := exec_setCursor hstateful hp
  rw [hf.2] at hanswer hafter
  have hnext : (if (NamedMatch.ofMatch m.table f).whole.isEmpty then
        ((m.setCursor p).exec subject).after.setCursor (NamedMatch.ofMatch m.table f).resume
      else ((m.setCursor p).exec subject).after) = m.setCursor f.advance := by
    rw [hafter]
    show (if f.whole.isEmpty then m.setCursor f.resume else m.setCursor f.whole.stop) = _
    unfold Match.advance
    split <;> rfl
  rw [gather, hanswer]
  dsimp only [Except.map, Option.map]
  rw [hnext]
  exact ⟨rfl, rfl⟩

/-- With more fuel than a loop finds matches, a replacement gathers just these.  It leaves the
cursor where the search failed that ended the loop, or at 0 when none did. -/
theorem gather_of_loop (hstateful : m.matcher.flags.stateful = true)
    (hengine : m.matcher.engine.Bounded subject) (hp : Text.IsPosition subject p)
    (h : Loop m.matcher subject Match.advance p fs ending) {fuel : Nat} (hfuel : fs.length < fuel) :
    (gather subject fuel (m.setCursor p)).answer =
        ending.elim (.ok (fs.map (NamedMatch.ofMatch m.table))) .error ∧
      (gather subject fuel (m.setCursor p)).after =
        m.setCursor (ending.elim 0 fun _ => lastPlace Match.advance p fs) := by
  induction h generalizing fuel with
  | @behind p hbehind =>
    obtain ⟨k, rfl⟩ : ∃ k, fuel = k + 1 := ⟨fuel - 1, by omega⟩
    rw [gather, exec_behind hstateful hbehind]
    exact ⟨rfl, rfl⟩
  | @absent p hin hsearch =>
    obtain ⟨k, rfl⟩ : ∃ k, fuel = k + 1 := ⟨fuel - 1, by omega⟩
    obtain ⟨hanswer, hafter⟩ := exec_setCursor hstateful (hp.isBoundary hin)
    rw [hsearch] at hanswer hafter
    rw [gather, hanswer]
    exact ⟨rfl, hafter⟩
  | @failed p e hin hsearch =>
    obtain ⟨k, rfl⟩ : ∃ k, fuel = k + 1 := ⟨fuel - 1, by omega⟩
    obtain ⟨hanswer, hafter⟩ := exec_setCursor hstateful (hp.isBoundary hin)
    rw [hsearch] at hanswer hafter
    rw [gather, hanswer]
    exact ⟨rfl, hafter⟩
  | @found p f fs ending hf _ ih =>
    rw [List.length_cons] at hfuel
    obtain ⟨k, rfl⟩ : ∃ k, fuel = k + 1 := ⟨fuel - 1, by omega⟩
    obtain ⟨hanswer, hafter⟩ := gather_found hstateful (hp.isBoundary hf.1) hf k
    have hk : fs.length < k := by omega
    obtain ⟨ihanswer, ihafter⟩ := ih (position_of_finds hengine goesOn_advance hp hf).2 hk
    constructor
    · rw [hanswer, ihanswer]
      cases ending <;> rfl
    · rw [hafter, ihafter]
      rfl

theorem loop_of_gather (hstateful : m.matcher.flags.stateful = true)
    (hengine : m.matcher.engine.Bounded subject) (hp : Text.IsPosition subject p) {fuel : Nat}
    (h : (gather subject fuel (m.setCursor p)).answer ≠ .error .endless) :
    ∃ fs ending, Loop m.matcher subject Match.advance p fs ending := by
  induction fuel generalizing p with
  | zero => exact absurd rfl h
  | succ fuel ih =>
    by_cases hin : p ≤ Text.byteLength subject
    · cases hsearch : m.matcher.searchFrom subject p with
      | error e => exact ⟨[], some e, .failed hin hsearch⟩
      | ok found =>
        cases found with
        | none => exact ⟨[], none, .absent hin hsearch⟩
        | some f =>
          have hf : m.matcher.Finds subject p f := ⟨hin, hsearch⟩
          rw [(gather_found hstateful (hp.isBoundary hin) hf fuel).1] at h
          have hrest : (gather subject fuel (m.setCursor f.advance)).answer ≠ .error .endless := by
            intro hendless
            rw [hendless] at h
            exact h rfl
          obtain ⟨fs, ending, hloop⟩ :=
            ih (position_of_finds hengine goesOn_advance hp hf).2 hrest
          exact ⟨f :: fs, ending, .found hf hloop⟩
    · exact ⟨[], none, .behind (Nat.not_le.mp hin)⟩

end NamedMatcher
end NamedCapture
