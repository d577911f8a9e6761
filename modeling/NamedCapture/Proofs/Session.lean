import NamedCapture.Proofs.Annotated.Run
import NamedCapture.Proofs.Replace

/-!
# A matcher in use

A matcher is asked one thing after another, on subjects that have nothing to do with each other.
No operation changes anything but the cursor (`Operation.after_eq`), so whatever has been asked, the
pattern, the flags and the groups are those it was compiled with.  Without the global and the sticky
flag not even the cursor changes, unless it is set, and no answer depends on it; with one of them
each attempt is an `Attempt` from where the cursor happens to be.
-/

namespace NamedCapture

inductive Operation where
  | test (subject : Text)
  | exec (subject : Text)
  | execGroups (subject : Text)
  | walk (subject : Text)
  | replace (subject template : Text)
  | replaceWith {σ : Type} (subject : Text) (replacing : σ → NamedMatch → Text × σ) (state : σ)
  | setCursor (cursor : Nat)

namespace Operation

/-- What is answered.  A walk answers with what its first steps give, however many are taken. -/
def Result : Operation → Type
  | test _ => Except Failure Bool
  | exec _ => Except Failure (Option NamedMatch)
  | execGroups _ => Except Failure (Option (List (Text × Option Text)))
  | walk _ => Nat → List (Except Failure NamedMatch)
  | replace _ _ => Except Failure Text
  | @replaceWith σ _ _ _ => Except Failure Text × σ
  | setCursor _ => Unit

def result : (op : Operation) → NamedMatcher → op.Result
  | test subject, m => (m.test subject).answer
  | exec subject, m => (m.exec subject).answer
  | execGroups subject, m => (m.execGroups subject).answer
  | walk subject, m => fun n => (m.walk subject).take n
  | replace subject template, m => (m.replace subject template).answer
  | replaceWith subject replacing state, m =>
    let replaced := m.replaceWith subject replacing state
    (replaced.answer, replaced.state)
  | setCursor _, _ => ()

def after : Operation → NamedMatcher → NamedMatcher
  | test subject, m => (m.test subject).after
  | exec subject, m => (m.exec subject).after
  | execGroups subject, m => (m.execGroups subject).after
  | walk _, m => m
  | replace subject template, m => (m.replace subject template).after
  | replaceWith subject replacing state, m => (m.replaceWith subject replacing state).after
  | setCursor cursor, m => m.setCursor cursor

/-- Where the cursor is put, by an operation that does just that. -/
def cursor? : Operation → Option Nat
  | setCursor cursor => some cursor
  | _ => none

end Operation

namespace NamedMatcher

variable {m : NamedMatcher} {subject : Text}

def afterAll (m : NamedMatcher) (ops : List Operation) : NamedMatcher :=
  ops.foldl (fun m op => op.after m) m

/-- The matcher with another engine. -/
def withEngine (m : NamedMatcher) (engine : Engine) : NamedMatcher :=
  { m with matcher := { m.matcher with engine } }

/-! ## The cursor is all that changes -/

theorem exec_after (m : NamedMatcher) (subject : Text) :
    ∃ cursor, (m.exec subject).after = m.setCursor cursor := by
  refine ⟨(m.matcher.exec subject).after.cursor, ?_⟩
  show { m with matcher := (m.matcher.exec subject).after } = _
  rw [m.matcher.exec_after subject]
  rfl

theorem gather_next (m : NamedMatcher) (subject : Text) (found : NamedMatch) :
    ∃ cursor, (if found.whole.isEmpty then (m.exec subject).after.setCursor found.resume
      else (m.exec subject).after) = m.setCursor cursor := by
  obtain ⟨cursor, hafter⟩ := m.exec_after subject
  rw [hafter]
  split
  · exact ⟨found.resume, rfl⟩
  · exact ⟨cursor, rfl⟩

theorem gather_after (subject : Text) (fuel : Nat) (m : NamedMatcher) :
    ∃ cursor, (gather subject fuel m).after = m.setCursor cursor := by
  induction fuel generalizing m with
  | zero => exact ⟨m.matcher.cursor, rfl⟩
  | succ fuel ih =>
    rw [gather]
    cases hanswer : (m.exec subject).answer with
    | error e => exact m.exec_after subject
    | ok found =>
      cases found with
      | none => exact m.exec_after subject
      | some f =>
        obtain ⟨cursor, hnext⟩ := m.gather_next subject f
        dsimp only
        rw [hnext]
        exact ih (m.setCursor cursor)

theorem targets_after (m : NamedMatcher) (subject : Text) :
    ∃ cursor, (m.targets subject).after = m.setCursor cursor := by
  rw [targets]
  split
  · exact gather_after subject _ (m.setCursor 0)
  · exact m.exec_after subject

theorem replaceWith_after {σ : Type} (m : NamedMatcher) (subject : Text)
    (replacing : σ → NamedMatch → Text × σ) (state : σ) :
    (m.replaceWith subject replacing state).after = (m.targets subject).after := by
  dsimp only [replaceWith]
  cases (m.targets subject).answer <;> rfl

theorem targets_of_not_stateful (hstateful : m.matcher.flags.stateful = false) (subject : Text) :
    m.targets subject =
      { m.exec subject with answer := (m.exec subject).answer.map Option.toList } := by
  refine targets_of_not_global ?_ subject
  rw [(Bool.or_eq_false_iff.mp hstateful).1]
  exact Bool.false_ne_true

theorem replaceWith_congr {σ : Type} {m' : NamedMatcher}
    (h : (m.targets subject).answer = (m'.targets subject).answer)
    (replacing : σ → NamedMatch → Text × σ) (state : σ) :
    (m.replaceWith subject replacing state).answer =
        (m'.replaceWith subject replacing state).answer ∧
      (m.replaceWith subject replacing state).state =
        (m'.replaceWith subject replacing state).state := by
  dsimp only [replaceWith]
  rw [h]
  cases (m'.targets subject).answer <;> exact ⟨rfl, rfl⟩

end NamedMatcher

namespace Walk

def setCursor (w : Walk) (cursor : Nat) : Walk := { w with matcher := w.matcher.setCursor cursor }

theorem next_setCursor (w : Walk) (cursor : Nat) :
    (w.setCursor cursor).next = (w.next.1, w.next.2.setCursor cursor) := by
  obtain ⟨m, subject, p, finished⟩ := w
  cases finished with
  | true =>
    rw [next_finished (w := ⟨m, subject, p, true⟩) rfl]
    exact next_finished rfl
  | false =>
    by_cases hp : p ≤ Text.byteLength subject
    · rw [setCursor, next_eq hp, next_eq hp]
      have hsearch : (m.setCursor cursor).matcher.searchFrom subject p =
          m.matcher.searchFrom subject p := rfl
      rw [hsearch]
      cases m.matcher.searchFrom subject p with
      | error e => rfl
      | ok found => cases found <;> rfl
    · rw [setCursor, next_behind (Nat.not_le.mp hp), next_behind (Nat.not_le.mp hp)]
      rfl

theorem take_setCursor (w : Walk) (cursor n : Nat) : (w.setCursor cursor).take n = w.take n := by
  induction n generalizing w with
  | zero => rfl
  | succ n ih =>
    rw [take, take, next_setCursor]
    rcases w.next with ⟨_ | x, w'⟩
    · rfl
    · exact congrArg (List.cons x) (ih w')

end Walk

/-! ## Operations -/

open NamedMatcher

namespace Operation

variable {m : NamedMatcher}

theorem after_eq (op : Operation) (m : NamedMatcher) :
    ∃ cursor, op.after m = m.setCursor cursor := by
  cases op with
  | test subject =>
    obtain ⟨cursor, hafter⟩ := m.exec_after subject
    refine ⟨cursor, ?_⟩
    show { m with matcher := (m.matcher.test subject).after } = _
    rw [Matcher.test_after]
    exact hafter
  | exec subject => exact m.exec_after subject
  | execGroups subject => exact m.exec_after subject
  | walk subject => exact ⟨m.matcher.cursor, rfl⟩
  | replace subject template =>
    obtain ⟨cursor, hafter⟩ := m.targets_after subject
    exact ⟨cursor, (m.replaceWith_after subject _ _).trans hafter⟩
  | replaceWith subject replacing state =>
    obtain ⟨cursor, hafter⟩ := m.targets_after subject
    exact ⟨cursor, (m.replaceWith_after subject replacing state).trans hafter⟩
  | setCursor cursor => exact ⟨cursor, rfl⟩

theorem after_of_not_stateful (hstateful : m.matcher.flags.stateful = false) (op : Operation) :
    op.after m = m.setCursor (op.cursor?.getD m.matcher.cursor) := by
  have hexec : ∀ subject, (m.exec subject).after = m := by
    intro subject
    show { m with matcher := (m.matcher.exec subject).after } = m
    rw [(Matcher.exec_of_not_stateful hstateful subject).2]
  have htargets : ∀ subject, (m.targets subject).after = m := by
    intro subject
    rw [targets_of_not_stateful hstateful]
    exact hexec subject
  cases op with
  | test subject =>
    show { m with matcher := (m.matcher.test subject).after } = m
    rw [Matcher.test_after]
    exact hexec subject
  | exec subject => exact hexec subject
  | execGroups subject => exact hexec subject
  | walk subject => rfl
  | replace subject template => exact (m.replaceWith_after subject _ _).trans (htargets subject)
  | replaceWith subject replacing state =>
    exact (m.replaceWith_after subject replacing state).trans (htargets subject)
  | setCursor cursor => rfl

theorem result_setCursor (hstateful : m.matcher.flags.stateful = false) (op : Operation)
    (cursor : Nat) : op.result (m.setCursor cursor) = op.result m := by
  have hexec : ∀ subject, ((m.setCursor cursor).matcher.exec subject).answer =
      (m.matcher.exec subject).answer := by
    intro subject
    have hmoved : (m.setCursor cursor).matcher.flags.stateful = false := hstateful
    rw [(Matcher.exec_of_not_stateful hmoved subject).1,
      (Matcher.exec_of_not_stateful hstateful subject).1]
    rfl
  have htargets : ∀ subject, ((m.setCursor cursor).targets subject).answer =
      (m.targets subject).answer := by
    intro subject
    have hmoved : (m.setCursor cursor).matcher.flags.stateful = false := hstateful
    rw [targets_of_not_stateful hmoved, targets_of_not_stateful hstateful]
    exact congrArg (fun answer =>
      (answer.map (Option.map (NamedMatch.ofMatch m.table))).map Option.toList) (hexec subject)
  cases op with
  | test subject =>
    have hmoved : (m.setCursor cursor).matcher.flags.stateful = false := hstateful
    show ((m.setCursor cursor).test subject).answer = (m.test subject).answer
    rw [test_answer, test_answer, (Matcher.test_of_not_stateful hmoved subject).1,
      (Matcher.test_of_not_stateful hstateful subject).1]
    rfl
  | exec subject =>
    exact congrArg (Except.map (Option.map (NamedMatch.ofMatch m.table))) (hexec subject)
  | execGroups subject =>
    show ((m.setCursor cursor).execGroups subject).answer = (m.execGroups subject).answer
    rw [execGroups_answer, execGroups_answer, hexec]
    rfl
  | walk subject => exact funext fun n => (m.walk subject).take_setCursor cursor n
  | replace subject template =>
    exact (replaceWith_congr (htargets subject) _ _).1
  | replaceWith subject replacing state =>
    obtain ⟨hanswer, hstate⟩ := replaceWith_congr (htargets subject) replacing state
    exact Prod.ext hanswer hstate
  | setCursor cursor => rfl

end Operation

/-! ## Runs -/

namespace NamedMatcher

variable {m : NamedMatcher} {subject : Text}

theorem afterAll_eq (m : NamedMatcher) (ops : List Operation) :
    ∃ cursor, m.afterAll ops = m.setCursor cursor := by
  induction ops generalizing m with
  | nil => exact ⟨m.matcher.cursor, rfl⟩
  | cons op ops ih =>
    obtain ⟨first, hfirst⟩ := op.after_eq m
    obtain ⟨cursor, hrest⟩ := ih (op.after m)
    refine ⟨cursor, ?_⟩
    show (op.after m).afterAll ops = _
    rw [hrest, hfirst]
    rfl

theorem cursor_afterAll (hstateful : m.matcher.flags.stateful = false) (ops : List Operation) :
    (m.afterAll ops).matcher.cursor =
      (ops.filterMap Operation.cursor?).getLast?.getD m.matcher.cursor := by
  induction ops generalizing m with
  | nil => rfl
  | cons op ops ih =>
    have hfirst := Operation.after_of_not_stateful hstateful op
    have hrest := ih (m := op.after m) (by rw [hfirst]; exact hstateful)
    show ((op.after m).afterAll ops).matcher.cursor = _
    rw [hrest, hfirst]
    cases hcursor : op.cursor? with
    | none =>
      rw [List.filterMap_cons_none hcursor]
      rfl
    | some cursor =>
      rw [List.filterMap_cons_some hcursor, List.getLast?_cons]
      rfl

/-- Testing, matching and asking for the groups are three views of one attempt. -/
structure Tells (m : NamedMatcher) (subject : Text) (answer : Except Failure (Option Match))
    (cursor : Nat) : Prop where
  test : (m.test subject).answer = answer.map Option.isSome ∧
    (m.test subject).after = m.setCursor cursor
  exec : (m.exec subject).answer = answer.map (Option.map (NamedMatch.ofMatch m.table)) ∧
    (m.exec subject).after = m.setCursor cursor
  execGroups : (m.execGroups subject).answer = answer.map (Option.map fun found =>
      (NamedMatch.ofMatch m.table found).named) ∧
    (m.execGroups subject).after = m.setCursor cursor

theorem tells_of_attempt (hstateful : m.matcher.flags.stateful = true)
    {answer : Except Failure (Option Match)} {cursor : Nat}
    (h : Attempt m.matcher.engine m.matcher.flags.sticky subject m.matcher.cursor answer cursor) :
    m.Tells subject answer cursor := by
  obtain ⟨hanswer, hafter⟩ := Matcher.exec_of_attempt hstateful h
  have hmoved : (m.exec subject).after = m.setCursor cursor :=
    congrArg (fun matcher => { m with matcher }) hafter
  have hexec : (m.exec subject).answer =
      answer.map (Option.map (NamedMatch.ofMatch m.table)) :=
    congrArg (Except.map (Option.map (NamedMatch.ofMatch m.table))) hanswer
  refine ⟨⟨?_, ?_⟩, ⟨hexec, hmoved⟩, ?_, hmoved⟩
  · rw [m.test_answer, Matcher.test_of_stateful hstateful, hanswer]
  · show { m with matcher := (m.matcher.test subject).after } = _
    rw [Matcher.test_after]
    exact hmoved
  · rw [m.execGroups_answer, hanswer]

/-- Whatever a compiled matcher is asked, the pattern, the groups and the flags stay what they were
when it was compiled.  A matcher that is not stateful has its cursor where it was last put and
answers as on the first day.  A stateful one makes each attempt from where its cursor is; the engine
counts for that attempt only at the boundary where the search begins, and not at all when the
cursor is behind the end.  When the engine stops at boundaries, an attempt that does not fail
leaves the cursor at one. -/
theorem afterAll_compile {dialect : Dialect} {pattern : Text} {flags : Flags}
    (h : compile dialect pattern flags = .ok m) (ops : List Operation) :
    (m.afterAll ops = m.setCursor (m.afterAll ops).matcher.cursor ∧
      (m.afterAll ops).matcher.flags = flags ∧ (m.afterAll ops).annotated = pattern ∧
      Annotated.strip pattern =
        .ok ⟨(m.afterAll ops).matcher.source, (m.afterAll ops).table⟩) ∧
    (flags.stateful = false →
      (m.afterAll ops).matcher.cursor = (ops.filterMap Operation.cursor?).getLast?.getD 0 ∧
        ∀ op : Operation, op.result (m.afterAll ops) = op.result m) ∧
    (flags.stateful = true → ∀ subject, ∃ answer cursor,
      Attempt m.matcher.engine flags.sticky subject (m.afterAll ops).matcher.cursor
        answer cursor ∧
      (m.afterAll ops).Tells subject answer cursor ∧
      (∀ engine : Engine,
        (∀ p, subject.IsCeil (m.afterAll ops).matcher.cursor p →
          engine.search subject p = m.matcher.engine.search subject p) →
        ((m.afterAll ops).withEngine engine).Tells subject answer cursor) ∧
      (m.matcher.engine.StopsAtBoundary subject → (∀ e, answer ≠ .error e) →
        Text.isBoundary subject cursor = true ∧ cursor ≤ Text.byteLength subject)) := by
  obtain ⟨hstrip, -, hannotated, hflags, hcursor⟩ := compile_eq_ok h
  obtain ⟨reached, hafter⟩ := m.afterAll_eq ops
  rw [hafter]
  refine ⟨⟨rfl, hflags, hannotated, hstrip⟩, fun hstateful => ?_, fun hstateful subject => ?_⟩
  · rw [← hflags] at hstateful
    refine ⟨?_, fun op => op.result_setCursor hstateful reached⟩
    rw [← hafter, cursor_afterAll hstateful ops, hcursor]
  · obtain ⟨answer, cursor, hattempt⟩ :=
      Attempt.exists_attempt m.matcher.engine flags.sticky subject reached
    have htells : ∀ engine : Engine,
        (∀ p, subject.IsCeil reached p →
          engine.search subject p = m.matcher.engine.search subject p) →
        ((m.setCursor reached).withEngine engine).Tells subject answer cursor := by
      intro engine hsame
      have hother := hattempt.congr hsame
      rw [← hflags] at hstateful hother
      exact tells_of_attempt (m := (m.setCursor reached).withEngine engine) hstateful hother
    refine ⟨answer, cursor, hattempt, htells m.matcher.engine fun _ _ => rfl, htells,
      fun hstops hok => ?_⟩
    have hboundary := hattempt.isBoundary_next hstops hok
    exact ⟨hboundary, Text.le_byteLength_of_isBoundary hboundary⟩

/-- `(?<n>é)`, with the cursor put inside a character after an attempt that found nothing. -/
theorem afterAll_compile_inside_character :
    ∃ m, compile (Regex.dialect 1000) ['(', '?', '<', 'n', '>', 'é', ')'] { global := true } =
        .ok m ∧
      m.matcher.engine.StopsAtBoundary ['é', 'é'] ∧
      (m.afterAll [.exec ['é', 'a'], .test ['a'], .walk ['é'], .setCursor 1]).matcher.cursor = 1 ∧
      (m.afterAll [.exec ['é', 'a'], .test ['a'], .walk ['é'], .setCursor 1]).Tells ['é', 'é']
        (.ok (some ⟨['é', 'é'], ⟨2, 4⟩, [some ⟨2, 4⟩]⟩)) 4 ∧
      Text.isBoundary ['é', 'é'] 4 = true := by
  obtain ⟨m, hm, hstops, hcursor, hflags, hexec, hnext⟩ :
      ∃ m ∈ (compile (Regex.dialect 1000) ['(', '?', '<', 'n', '>', 'é', ')']
          { global := true }).toOption,
        m.matcher.engine.StopsAtBoundary ['é', 'é'] ∧
        (m.afterAll [.exec ['é', 'a'], .test ['a'], .walk ['é'],
          .setCursor 1]).matcher.cursor = 1 ∧
        m.matcher.flags = { global := true } ∧
        ((m.setCursor 1).matcher.exec ['é', 'é']).answer =
          .ok (some ⟨['é', 'é'], ⟨2, 4⟩, [some ⟨2, 4⟩]⟩) ∧
        ((m.setCursor 1).matcher.exec ['é', 'é']).after.cursor = 4 := by
    decide +kernel
  have h := eq_ok_of_mem_toOption hm
  obtain ⟨-, -, hstateful⟩ :=
    afterAll_compile h [.exec ['é', 'a'], .test ['a'], .walk ['é'], .setCursor 1]
  obtain ⟨answer, cursor, hattempt, htells, -, hboundary⟩ := hstateful rfl ['é', 'é']
  rw [hcursor] at hattempt
  obtain ⟨hanswer, hafter⟩ := Matcher.exec_of_attempt (m := (m.setCursor 1).matcher)
    (show m.matcher.flags.stateful = true by rw [hflags]; rfl)
    (show Attempt m.matcher.engine m.matcher.flags.sticky _ 1 answer cursor by
      rw [hflags]; exact hattempt)
  rw [hanswer] at hexec
  rw [hafter] at hnext
  subst hexec
  obtain rfl : cursor = 4 := hnext
  exact ⟨m, h, hstops, hcursor, htells, (hboundary hstops nofun).1⟩

end NamedMatcher
end NamedCapture
