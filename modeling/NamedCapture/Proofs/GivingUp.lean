import NamedCapture.Proofs.Leftmost
import NamedCapture.Proofs.Session

/-!
# When the engine gives up

A search that gives up ends the operation that made it and changes nothing by itself.  An attempt,
and whatever makes a single one, fails and leaves the matcher as it was.  A walk gives the failure
behind the matches found before it, and then nothing any more.  A global replacement has moved the
cursor to the place of each search by then, so it leaves it where the search that gave up began
(`giving_up_leaves`).
-/

namespace NamedCapture

namespace Step

variable {σ α : Type}

/-- What an operation comes to whose search gave up: it fails, all is as it was, and nothing is
reported. -/
def gaveUp (s : σ) : Step σ α := { answer := .error .gaveUp, after := s, events := [] }

/-- The step fails for this cause and for no other, and then has done nothing else. -/
structure FailsClean (step : Step σ α) (before : σ) (cause : Prop) : Prop where
  cause_of_error : ∀ e, step.answer = .error e → cause
  eq_gaveUp : cause → step = gaveUp before

end Step

/-- The place from where to search behind these matches: the front of the text, or where the search
goes on behind the last of them. -/
def Text.Behind (t : Text) (fs : List Match) (q : Nat) : Prop :=
  match fs.getLast? with
  | none => q = 0
  | some f => t.Follows f.whole q

namespace Matcher

variable {m : Matcher} {subject : Text}

theorem behind_of_loop {fs : List Match} {ending : Option Failure}
    (hengine : m.engine.Forward subject) (h : Loop m subject Match.resume 0 fs ending) :
    subject.Behind fs (lastPlace Match.resume 0 fs) := by
  have hparts := (h.ordered hengine (Or.inl (Text.isBoundary_zero subject))).1
  rw [Text.Behind, lastPlace_eq]
  cases hlast : fs.getLast? with
  | none => rfl
  | some f =>
    obtain ⟨rfl, -, hwithin⟩ := hparts f (List.mem_of_getLast? hlast)
    exact (Match.follows_iff hwithin).mpr rfl

/-- The search of an attempt gives up. -/
def GivesUp (m : Matcher) (subject : Text) : Prop :=
  ∃ p, subject.IsCeil m.start p ∧ m.engine.search subject p = .gaveUp

/-- The search of a test gives up.  The engine makes it itself when the matcher is not stateful. -/
def TestGivesUp (m : Matcher) (subject : Text) : Prop :=
  if m.flags.stateful then m.GivesUp subject else m.engine.test subject = none

theorem exec_failsClean (m : Matcher) (subject : Text) :
    (m.exec subject).FailsClean m (m.GivesUp subject) := by
  constructor
  · intro e herror
    unfold exec at herror
    split at herror
    · cases herror
    · rename_i hend
      have hceil := Text.isCeil_ceilBoundary (Nat.not_lt.mp hend)
      split at herror
      · rename_i hsearch
        exact ⟨_, hceil, (searchFrom_eq_error_iff.mp hsearch).1⟩
      · cases herror
  · intro hgives
    obtain ⟨p, hp, hsearch⟩ := hgives
    have hend : m.start ≤ Text.byteLength subject :=
      Nat.le_trans hp.1.2 (Text.le_byteLength_of_isBoundary hp.1.1)
    have hceil : Text.ceilBoundary subject m.start = p :=
      IsLeast.unique (Text.isCeil_ceilBoundary hend) hp
    rw [exec, if_neg (Nat.not_lt.mpr hend), hceil, searchFrom_eq_error_iff.mpr ⟨hsearch, rfl⟩]
    rfl

theorem test_failsClean (m : Matcher) (subject : Text) :
    (m.test subject).FailsClean m (m.TestGivesUp subject) := by
  unfold TestGivesUp
  cases hstateful : m.flags.stateful with
  | true =>
    obtain ⟨hcause, heq⟩ := m.exec_failsClean subject
    rw [test_of_stateful hstateful]
    constructor
    · intro e herror
      cases hanswer : (m.exec subject).answer with
      | error e => exact hcause e hanswer
      | ok found =>
        rw [hanswer] at herror
        cases herror
    · intro hgives
      rw [heq hgives]
      rfl
  | false =>
    rw [test, hstateful]
    constructor
    · intro e herror
      cases htest : m.engine.test subject with
      | none => rfl
      | some found =>
        rw [htest] at herror
        cases herror
    · intro htest
      simp only [Bool.false_eq_true, if_false] at htest ⊢
      rw [htest]
      rfl

end Matcher

namespace NamedMatcher

open Matcher

variable {m : NamedMatcher} {subject : Text}

theorem failsClean_lift {α β : Type} {step : Step Matcher α} {cause : Prop}
    (h : step.FailsClean m.matcher cause) (f : α → β) : (m.lift step f).FailsClean m cause := by
  constructor
  · intro e herror
    cases hanswer : step.answer with
    | error e => exact h.cause_of_error e hanswer
    | ok a =>
      rw [lift, hanswer] at herror
      cases herror
  · intro hcause
    rw [h.eq_gaveUp hcause]
    rfl

theorem execGroups_eq_lift (m : NamedMatcher) (subject : Text) :
    m.execGroups subject = m.lift (m.matcher.exec subject)
      (Option.map fun found => (NamedMatch.ofMatch m.table found).named) :=
  congrArg (fun answer => { m.exec subject with answer }) (m.execGroups_answer subject)

section Replace

variable {σ : Type} (replacing : σ → NamedMatch → Text × σ) (state : σ)

theorem replaceWith_failsClean (hglobal : m.matcher.flags.global = false) :
    (m.replaceWith subject replacing state).toStep.FailsClean m (m.matcher.GivesUp subject) ∧
      (m.matcher.GivesUp subject → (m.replaceWith subject replacing state).state = state) := by
  have hnot : m.matcher.flags.global ≠ true := by rw [hglobal]; exact Bool.false_ne_true
  have hexec : (m.exec subject).FailsClean m (m.matcher.GivesUp subject) :=
    failsClean_lift (m.matcher.exec_failsClean subject) _
  have hfails : m.matcher.GivesUp subject →
      m.replaceWith subject replacing state = { Step.gaveUp m with state } := by
    intro hgives
    rw [replaceWith, targets_of_not_global hnot, hexec.eq_gaveUp hgives]
    rfl
  refine ⟨⟨fun e herror => ?_, fun hgives => ?_⟩, fun hgives => ?_⟩
  · cases hanswer : (m.exec subject).answer with
    | error e => exact hexec.cause_of_error e hanswer
    | ok found =>
      obtain ⟨text, htext⟩ := replaceWith_of_exec replacing state hnot hanswer
      cases htext.symm.trans herror
  · rw [hfails hgives]
  · rw [hfails hgives]

theorem replaceWith_gaveUp (hglobal : m.matcher.flags.global = true)
    (hengine : m.matcher.engine.Forward subject) {q : Nat}
    (hq : Visits m.matcher subject Match.resume 0 q) (hin : q ≤ Text.byteLength subject)
    (hsearch : m.matcher.engine.search subject q = .gaveUp) :
    (m.replaceWith subject replacing state).answer = .error .gaveUp ∧
      (m.replaceWith subject replacing state).state = state ∧
      (m.replaceWith subject replacing state).after = m.setCursor q := by
  have hzero : Text.IsPosition subject 0 := Or.inl (Text.isBoundary_zero subject)
  have hfails : m.matcher.searchFrom subject q = .error .gaveUp :=
    searchFrom_eq_error_iff.mpr ⟨hsearch, rfl⟩
  -- the replacement goes on at `advance`, which is where a walk resumes
  have hplaces : Visits m.matcher subject Match.advance 0 q :=
    hq.congr hengine.bounded goesOn_resume hzero fun p f hp hf =>
      (advance_eq_resume_of_finds hengine p f hp hf).symm
  obtain ⟨ms, ending, hgives⟩ := exists_gives hengine
  obtain ⟨fs, -, hloop⟩ := loop_of_gives hengine hgives
  obtain ⟨rfl, hlast⟩ := hloop.of_visits_failed hplaces hin hfails
  obtain ⟨htargets, hafter⟩ := targets_eq_of_loop hglobal hengine.bounded hloop
  obtain ⟨hanswer, hstate⟩ := replaceWith_of_error replacing state htargets
  refine ⟨hanswer, hstate, ?_⟩
  rw [replaceWith_after, hafter]
  exact congrArg m.setCursor hlast

end Replace

/-- A search that gives up spoils nothing.  An attempt fails just when its search gives up, and then
neither the cursor nor anything else has changed; so does a replacement of one match, which then has
not called its function.  Where a search gives up that a walk comes to, the walk gives the matches
found before it, then the failure, and then nothing any more, and its matcher stays as it is; and a
global replacement fails, has not called its function, and leaves the cursor where that search
began, which is behind the last match. -/
theorem giving_up_leaves (hengine : m.matcher.engine.Forward subject) :
    ((m.exec subject).FailsClean m (m.matcher.GivesUp subject) ∧
      (m.execGroups subject).FailsClean m (m.matcher.GivesUp subject) ∧
      (m.test subject).FailsClean m (m.matcher.TestGivesUp subject) ∧
      (m.matcher.flags.global = false →
        (∀ template, (m.replace subject template).toStep.FailsClean m
          (m.matcher.GivesUp subject)) ∧
        ∀ {σ : Type} (replacing : σ → NamedMatch → Text × σ) (state : σ),
          (m.replaceWith subject replacing state).toStep.FailsClean m
            (m.matcher.GivesUp subject) ∧
          (m.matcher.GivesUp subject →
            (m.replaceWith subject replacing state).state = state))) ∧
    ∀ q, Visits m.matcher subject Match.resume 0 q → q ≤ Text.byteLength subject →
      m.matcher.engine.search subject q = .gaveUp →
      ∃ fs, Loop m.matcher subject Match.resume 0 fs (some .gaveUp) ∧
        subject.Behind fs q ∧
        (∀ n, (m.walk subject).item? n =
          (fs.map (fun f => .ok (NamedMatch.ofMatch m.table f)) ++ [.error .gaveUp])[n]?) ∧
        (∀ n, ((m.walk subject).after n).matcher = m) ∧
        (m.matcher.flags.global = true →
          (∀ template, (m.replace subject template).answer = .error .gaveUp ∧
            (m.replace subject template).after = m.setCursor q) ∧
          ∀ {σ : Type} (replacing : σ → NamedMatch → Text × σ) (state : σ),
            (m.replaceWith subject replacing state).answer = .error .gaveUp ∧
            (m.replaceWith subject replacing state).state = state ∧
            (m.replaceWith subject replacing state).after = m.setCursor q) := by
  have hexec : (m.exec subject).FailsClean m (m.matcher.GivesUp subject) :=
    failsClean_lift (m.matcher.exec_failsClean subject) _
  refine ⟨⟨hexec, ?_, failsClean_lift (m.matcher.test_failsClean subject) id,
    fun hglobal => ⟨fun template => (replaceWith_failsClean _ _ hglobal).1,
      fun replacing state => replaceWith_failsClean replacing state hglobal⟩⟩, ?_⟩
  · rw [execGroups_eq_lift]
    exact failsClean_lift (m.matcher.exec_failsClean subject) _
  · intro q hq hin hsearch
    obtain ⟨ms, ending, hgives⟩ := exists_gives hengine
    obtain ⟨fs, hloop, rfl⟩ := Walk.gives_iff.mp hgives
    obtain ⟨rfl, hlast⟩ :=
      hloop.of_visits_failed hq hin (searchFrom_eq_error_iff.mpr ⟨hsearch, rfl⟩)
    refine ⟨fs, hloop, hlast ▸ behind_of_loop hengine hloop, fun n => ?_,
      fun n => (m.walk subject).matcher_after n,
      fun hglobal => ⟨fun template => ?_, fun replacing state => ?_⟩⟩
    · rw [Walk.Yields.item?_eq hgives, List.map_map]
      rfl
    · obtain ⟨hanswer, -, hafter⟩ := replaceWith_gaveUp _ _ hglobal hengine hq hin hsearch
      exact ⟨hanswer, hafter⟩
    · exact replaceWith_gaveUp replacing state hglobal hengine hq hin hsearch

/-- `(?=(?<n>é))|(b)\2c` finds nothing in front of the `é` of `ébb`, and has no budget for the next
search, which begins behind it.  The cursor is in front of the last character. -/
theorem giving_up_leaves_after_match :
    let subject := ['é', 'b', 'b']
    let f : Match := ⟨subject, ⟨0, 0⟩, [some ⟨0, 2⟩, none]⟩
    ∃ m ∈ (compile (Regex.dialect 2)
        ['(', '?', '=', '(', '?', '<', 'n', '>', 'é', ')', ')', '|', '(', 'b', ')', '\\', '2', 'c']
        { global := true }).toOption,
      (m.setCursor 3).exec subject = Step.gaveUp (m.setCursor 3) ∧
      Text.Behind subject [f] 2 ∧
      (∀ n, ((m.setCursor 3).walk subject).item? n =
        [.ok (NamedMatch.ofMatch m.table f), .error .gaveUp][n]?) ∧
      ((m.setCursor 3).replace subject ['$', '$']).answer = .error .gaveUp ∧
      ((m.setCursor 3).replace subject ['$', '$']).after = m.setCursor 2 := by
  intro subject f
  obtain ⟨m, hm, hglobal, hengine, hfound, hsearch, hlate, hstart⟩ :
      ∃ m ∈ (compile (Regex.dialect 2)
          ['(', '?', '=', '(', '?', '<', 'n', '>', 'é', ')', ')', '|', '(', 'b', ')', '\\', '2',
            'c'] { global := true }).toOption,
        m.matcher.flags.global = true ∧ m.matcher.engine.Forward subject ∧
          m.matcher.searchFrom subject 0 = .ok (some f) ∧
          m.matcher.engine.search subject 2 = .gaveUp ∧
          m.matcher.engine.search subject 3 = .gaveUp ∧ (m.setCursor 3).matcher.start = 3 := by
    decide +kernel
  have hf : (m.setCursor 3).matcher.Finds subject 0 f := ⟨Nat.zero_le _, hfound⟩
  have hgives : (m.setCursor 3).matcher.GivesUp subject :=
    ⟨3, hstart.symm ▸ Text.isCeil_self (by decide), hlate⟩
  obtain ⟨⟨hexec, -⟩, hlater⟩ := giving_up_leaves (m := m.setCursor 3) hengine
  obtain ⟨fs, hloop, hbehind, hitems, -, hreplaced⟩ :=
    hlater 2 (.step .start hf) (by decide) hsearch
  obtain ⟨hanswer, hafter⟩ := (hreplaced hglobal).1 ['$', '$']
  obtain ⟨gs, rfl, hrest⟩ := hloop.tail hf
  obtain ⟨rfl, -⟩ :=
    hrest.unique (.failed (by decide) (searchFrom_eq_error_iff.mpr ⟨hsearch, rfl⟩))
  exact ⟨m, hm, hexec.eq_gaveUp hgives, hbehind, hitems, hanswer, hafter⟩

end NamedMatcher
end NamedCapture
