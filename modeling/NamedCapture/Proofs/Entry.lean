import Mathlib.Data.List.Forall2
import NamedCapture.Proofs.Agreement
import NamedCapture.Proofs.Annotated.Removal
import NamedCapture.Proofs.Attempt
import NamedCapture.Proofs.Walk

/-!
# Ways of making an attempt

A matcher can be tested, asked for a match, asked for the groups of a match, or asked for a match
without its names, and it can be made into a plain matcher at any time.  Whichever way is taken, the
attempt is the one that `Matcher.exec` makes: the report is a view of its answer and the matcher is
left as it leaves it (`shows_of_tries`).  So along a whole run all choices give the same
(`shows_of_course`).
-/

namespace NamedCapture

def Outcome.verdict? : Outcome → Option Bool
  | found _ _ => some true
  | absent => some false
  | gaveUp => none

/-- The engine's test is a search from the start. -/
def Engine.TestsBySearch (e : Engine) : Prop := ∀ t, e.test t = (e.search t 0).verdict?

theorem NamedMatcher.testsBySearch_of_compile {budget : Nat} {pattern : Text} {flags : Flags}
    {m : NamedMatcher} (h : compile (Regex.dialect budget) pattern flags = .ok m) :
    m.matcher.engine.TestsBySearch := by
  obtain ⟨-, -, -, p, c, -, -, hengine⟩ := exists_of_compile h
  rw [hengine]
  intro t
  show (match c.search budget t 0 with
    | .found .. => some true
    | .absent => some false
    | .gaveUp => none) = (c.search budget t 0).verdict?
  cases c.search budget t 0 <;> rfl

inductive Held where
  | named (m : NamedMatcher)
  | plain (m : Matcher)

namespace Held

def matcher : Held → Matcher
  | named m => m.matcher
  | plain m => m

def table? : Held → Option GroupTable
  | named m => some m.table
  | plain _ => none

def setCursor : Held → Nat → Held
  | named m, cursor => named (m.setCursor cursor)
  | plain m, cursor => plain (m.setCursor cursor)

end Held

inductive Report where
  | verdict (answer : Except Failure Bool)
  | decorated (answer : Except Failure (Option NamedMatch))
  | groups (answer : Except Failure (Option (List (Text × Option Text))))
  | bare (answer : Except Failure (Option Match))

namespace Report

def outcome : Report → Except Failure Bool
  | verdict answer => answer
  | decorated answer => answer.map Option.isSome
  | groups answer => answer.map Option.isSome
  | bare answer => answer.map Option.isSome

def ranges? : Report → Option (Except Failure (Option (List (Option Span))))
  | decorated answer => some (answer.map (Option.map fun found => found.captures))
  | bare answer => some (answer.map (Option.map Match.captures))
  | verdict _ => none
  | groups _ => none

def named? : Report → Option (Except Failure (Option (List (Text × Option Text))))
  | decorated answer => some (answer.map (Option.map NamedMatch.named))
  | groups answer => some answer
  | verdict _ => none
  | bare _ => none

/-- The report is a view of an answer, with the names of a table. -/
inductive Shows (table : GroupTable) (answer : Except Failure (Option Match)) : Report → Prop
  | verdict : Shows table answer (.verdict (answer.map Option.isSome))
  | decorated : Shows table answer (.decorated (answer.map (Option.map (NamedMatch.ofMatch table))))
  | groups : Shows table answer (.groups (answer.map (Option.map fun found =>
      (NamedMatch.ofMatch table found).named)))
  | bare : Shows table answer (.bare answer)

/-- Two reports say the same where both say something. -/
structure Agrees (r r' : Report) : Prop where
  outcome : r.outcome = r'.outcome
  ranges : ∀ ranges ∈ r.ranges?, ∀ ranges' ∈ r'.ranges?, ranges = ranges'
  named : ∀ named ∈ r.named?, ∀ named' ∈ r'.named?, named = named'

section Shows

variable {table : GroupTable} {answer : Except Failure (Option Match)} {r r' : Report}

theorem Shows.outcome_eq (h : r.Shows table answer) :
    r.outcome = answer.map Option.isSome := by
  cases h with
  | verdict => rfl
  | decorated => rcases answer with e | _ | found <;> rfl
  | groups => rcases answer with e | _ | found <;> rfl
  | bare => rfl

theorem Shows.ranges_eq (h : r.Shows table answer) :
    ∀ ranges ∈ r.ranges?, ranges = answer.map (Option.map Match.captures) := by
  intro ranges hranges
  cases h with
  | verdict => cases hranges
  | decorated =>
    cases hranges
    rcases answer with e | _ | found <;> rfl
  | groups => cases hranges
  | bare =>
    cases hranges
    rfl

theorem Shows.named_eq (h : r.Shows table answer) :
    ∀ named ∈ r.named?,
      named = answer.map (Option.map fun found => (NamedMatch.ofMatch table found).named) := by
  intro named hnamed
  cases h with
  | verdict => cases hnamed
  | decorated =>
    cases hnamed
    rcases answer with e | _ | found <;> rfl
  | groups =>
    cases hnamed
    rfl
  | bare => cases hnamed

theorem Shows.agrees (h : r.Shows table answer) (h' : r'.Shows table answer) : r.Agrees r' :=
  { outcome := h.outcome_eq.trans h'.outcome_eq.symm
    ranges := fun _ hranges _ hranges' =>
      (h.ranges_eq _ hranges).trans (h'.ranges_eq _ hranges').symm
    named := fun _ hnamed _ hnamed' => (h.named_eq _ hnamed).trans (h'.named_eq _ hnamed').symm }

end Shows

end Report

/-! ## One attempt -/

/-- The ways of making an attempt.  The interface that both matchers share tests as `test` does and
matches as `execPlain` and `exec` do. -/
inductive Tries : Held → Text → Report → Held → Prop
  | test (m : NamedMatcher) (subject : Text) :
    Tries (.named m) subject (.verdict (m.test subject).answer) (.named (m.test subject).after)
  | exec (m : NamedMatcher) (subject : Text) :
    Tries (.named m) subject (.decorated (m.exec subject).answer) (.named (m.exec subject).after)
  | execGroups (m : NamedMatcher) (subject : Text) :
    Tries (.named m) subject (.groups (m.execGroups subject).answer)
      (.named (m.execGroups subject).after)
  | execPlain (m : NamedMatcher) (subject : Text) :
    Tries (.named m) subject (.bare (m.execPlain subject).answer)
      (.named (m.execPlain subject).after)
  | plainTest (m : Matcher) (subject : Text) :
    Tries (.plain m) subject (.verdict (m.test subject).answer) (.plain (m.test subject).after)
  | plainExec (m : Matcher) (subject : Text) :
    Tries (.plain m) subject (.bare (m.exec subject).answer) (.plain (m.exec subject).after)

/-- A test answers as an attempt does.  A matcher that is not stateful leaves its tests to the
engine, and is not sticky, so it takes what the engine finds. -/
theorem Matcher.test_answer {m : Matcher} (htests : m.engine.TestsBySearch) (subject : Text) :
    (m.test subject).answer = (m.exec subject).answer.map Option.isSome := by
  cases hstateful : m.flags.stateful with
  | true => rw [test_of_stateful hstateful]
  | false =>
    have hsticky : m.flags.sticky = false := (Bool.or_eq_false_iff.mp hstateful).2
    rw [(test_of_not_stateful hstateful subject).1, (exec_of_not_stateful hstateful subject).1,
      htests subject, searchFrom, hsticky]
    cases m.engine.search subject 0 <;> rfl

theorem shows_of_tries {held held' : Held} {subject : Text} {report : Report} {table : GroupTable}
    (h : Tries held subject report held') (htests : held.matcher.engine.TestsBySearch)
    (htable : ∀ t ∈ held.table?, t = table) :
    report.Shows table (held.matcher.exec subject).answer ∧
      held'.matcher = (held.matcher.exec subject).after ∧ held'.table? = held.table? := by
  cases h with
  | test m =>
    rw [m.test_answer, Matcher.test_answer (m := m.matcher) htests]
    exact ⟨.verdict, m.matcher.test_after subject, rfl⟩
  | exec m =>
    obtain rfl := htable m.table rfl
    exact ⟨.decorated, rfl, rfl⟩
  | execGroups m =>
    obtain rfl := htable m.table rfl
    rw [m.execGroups_answer]
    exact ⟨.groups, rfl, rfl⟩
  | execPlain m =>
    rw [m.execPlain_answer]
    exact ⟨.bare, rfl, rfl⟩
  | plainTest m =>
    rw [Matcher.test_answer (m := m) htests]
    exact ⟨.verdict, m.test_after subject, rfl⟩
  | plainExec m => exact ⟨.bare, rfl, rfl⟩

/-! ## Runs -/

inductive Move where
  | attempt (subject : Text)
  | setCursor (cursor : Nat)

/-- What is known after a move: what was reported, if it was an attempt, and where the cursor is. -/
structure Entry where
  report : Option Report
  cursor : Nat

structure Entry.Agrees (e e' : Entry) : Prop where
  report : Option.Rel Report.Agrees e.report e'.report
  cursor : e.cursor = e'.cursor

/-- A run.  Each attempt is made in any way there is, and names may be dropped at any time. -/
inductive Course : Held → List Move → List Entry → Prop
  | done (held : Held) : Course held [] []
  | attempt {held held' : Held} {subject : Text} {report : Report} {moves : List Move}
      {entries : List Entry} (htry : Tries held subject report held')
      (hrest : Course held' moves entries) :
    Course held (.attempt subject :: moves) (⟨some report, held'.matcher.cursor⟩ :: entries)
  | setCursor {held : Held} {cursor : Nat} {moves : List Move} {entries : List Entry}
      (hrest : Course (held.setCursor cursor) moves entries) :
    Course held (.setCursor cursor :: moves)
      (⟨none, (held.setCursor cursor).matcher.cursor⟩ :: entries)
  | drop {m : NamedMatcher} {moves : List Move} {entries : List Entry}
      (hrest : Course (.plain m.matcher) moves entries) : Course (.named m) moves entries

/-- The run of a plain matcher that makes every attempt with `exec`: the answers, and where the
cursor is. -/
def Matcher.record (m : Matcher) :
    List Move → List (Option (Except Failure (Option Match)) × Nat)
  | [] => []
  | .attempt subject :: moves =>
    let step := m.exec subject
    (some step.answer, step.after.cursor) :: step.after.record moves
  | .setCursor cursor :: moves => (none, cursor) :: (m.setCursor cursor).record moves

structure Entry.Shows (table : GroupTable)
    (recorded : Option (Except Failure (Option Match)) × Nat) (e : Entry) : Prop where
  report : Option.Rel (Report.Shows table) recorded.1 e.report
  cursor : recorded.2 = e.cursor

theorem Entry.Shows.agrees {table : GroupTable}
    {recorded : Option (Except Failure (Option Match)) × Nat} {e e' : Entry}
    (h : e.Shows table recorded) (h' : e'.Shows table recorded) : e.Agrees e' := by
  refine ⟨?_, h.cursor.symm.trans h'.cursor⟩
  have hreport := h.report
  have hreport' := h'.report
  generalize e.report = report at hreport ⊢
  generalize e'.report = report' at hreport' ⊢
  generalize recorded.1 = answer at hreport hreport'
  cases hreport with
  | none =>
    cases hreport'
    exact .none
  | some hshows =>
    cases hreport' with
    | some hshows' => exact .some (hshows.agrees hshows')

theorem shows_of_course {held : Held} {moves : List Move} {entries : List Entry}
    {table : GroupTable} (h : Course held moves entries)
    (htests : held.matcher.engine.TestsBySearch) (htable : ∀ t ∈ held.table?, t = table) :
    List.Forall₂ (Entry.Shows table) (held.matcher.record moves) entries := by
  induction h with
  | done held => exact .nil
  | @attempt held held' subject report moves entries htry _ ih =>
    obtain ⟨hshows, hmatcher, htable'⟩ := shows_of_tries htry htests htable
    have hengine : held'.matcher.engine = held.matcher.engine := by
      rw [hmatcher, Matcher.exec_after]
      rfl
    have hrest := ih (hengine ▸ htests) (htable' ▸ htable)
    rw [hmatcher] at hrest
    exact .cons ⟨.some hshows, by rw [hmatcher]⟩ hrest
  | @setCursor held cursor moves entries _ ih =>
    cases held with
    | named m => exact .cons ⟨.none, rfl⟩ (ih htests htable)
    | plain m => exact .cons ⟨.none, rfl⟩ (ih htests htable)
  | drop _ ih => exact ih htests nofun

theorem agree_of_shows {table : GroupTable}
    {record : List (Option (Except Failure (Option Match)) × Nat)} {entries entries' : List Entry}
    (h : List.Forall₂ (Entry.Shows table) record entries)
    (h' : List.Forall₂ (Entry.Shows table) record entries') :
    List.Forall₂ Entry.Agrees entries entries' := by
  induction h generalizing entries' with
  | nil =>
    cases h'
    exact .nil
  | cons hshows _ ih =>
    obtain _ | ⟨hshows', hrest'⟩ := h'
    exact .cons (hshows.agrees hshows') (ih hrest')

/-- All ways of making attempts are one machine.  A matcher with names and the matcher of the
stripped pattern, which is the pattern itself when no group is named, give the same along every run,
however each attempt is made and wherever names are dropped: what the matcher of the stripped
pattern records when it makes them all with `exec`, with the names of the groups read off it. -/
theorem courses_agree {dialect : Dialect} {pattern : Text} {flags : Flags} {m : NamedMatcher}
    (h : NamedMatcher.compile dialect pattern flags = .ok m)
    (htests : m.matcher.engine.TestsBySearch) :
    ∃ stripped r, Annotated.strip pattern = .ok stripped ∧
      Matcher.compile dialect stripped.pattern flags = .ok r ∧
      ((∀ o ∈ stripped.groups.openings, o.name = none) → stripped.pattern = pattern) ∧
      (∀ held ∈ [Held.named m, Held.plain r], ∀ moves entries, Course held moves entries →
        List.Forall₂ (Entry.Shows stripped.groups) (r.record moves) entries) ∧
      ∀ held ∈ [Held.named m, Held.plain r], ∀ held' ∈ [Held.named m, Held.plain r],
        ∀ moves entries entries', Course held moves entries → Course held' moves entries' →
          List.Forall₂ Entry.Agrees entries entries' := by
  obtain ⟨hstrip, hcompile, -⟩ := NamedMatcher.compile_eq_ok h
  have hshows : ∀ held ∈ [Held.named m, Held.plain m.matcher], ∀ moves entries,
      Course held moves entries →
        List.Forall₂ (Entry.Shows m.table) (m.matcher.record moves) entries := by
    intro held hheld moves entries hcourse
    rcases List.mem_cons.mp hheld with rfl | hplain
    · exact shows_of_course hcourse htests fun _ ht => (Option.some.inj ht).symm
    · obtain rfl := List.mem_singleton.mp hplain
      exact shows_of_course hcourse htests fun _ ht => nomatch ht
  refine ⟨_, m.matcher, hstrip, hcompile, Annotated.strip_of_unnamed hstrip, hshows, ?_⟩
  intro held hheld held' hheld' moves entries entries' hcourse hcourse'
  exact agree_of_shows (hshows held hheld moves entries hcourse)
    (hshows held' hheld' moves entries' hcourse')

/-- `(?<n>a)`: the groups of a match, where `n` is `a`, the cursor put behind the end, and a test
without the names. -/
theorem courses_agree_sticky :
    ∃ m r, NamedMatcher.compile (Regex.dialect 1000) ['(', '?', '<', 'n', '>', 'a', ')']
        { sticky := true } = .ok m ∧
      m.matcher.engine.TestsBySearch ∧
      Matcher.compile (Regex.dialect 1000) ['(', 'a', ')'] { sticky := true } = .ok r ∧
      ∃ entries entries',
        Course (.named m) [.attempt ['a', 'a'], .setCursor 5, .attempt ['a']] entries ∧
        Course (.plain r) [.attempt ['a', 'a'], .setCursor 5, .attempt ['a']] entries' ∧
        (entries.head?.bind Entry.report).bind Report.named? =
          some (.ok (some [(['n'], some ['a'])])) ∧
        entries.map Entry.cursor = [1, 5, 0] ∧
        List.Forall₂ (Entry.Shows (GroupTable.ofOpenings [⟨some ['n'], 0⟩]))
          (r.record [.attempt ['a', 'a'], .setCursor 5, .attempt ['a']]) entries ∧
        List.Forall₂ Entry.Agrees entries entries' := by
  obtain ⟨m, hm, hnamed, hfound, hreset⟩ :
      ∃ m ∈ (NamedMatcher.compile (Regex.dialect 1000) ['(', '?', '<', 'n', '>', 'a', ')']
          { sticky := true }).toOption,
        (m.execGroups ['a', 'a']).answer = .ok (some [(['n'], some ['a'])]) ∧
          (m.execGroups ['a', 'a']).after.matcher.cursor = 1 ∧
          (((m.execGroups ['a', 'a']).after.setCursor 5).matcher.test ['a']).after.cursor = 0 := by
    decide +kernel
  have h := eq_ok_of_mem_toOption hm
  have htests := NamedMatcher.testsBySearch_of_compile h
  obtain ⟨stripped, r, hstrip, hr, -, hshows, hagree⟩ := courses_agree h htests
  obtain rfl : stripped = ⟨['(', 'a', ')'], GroupTable.ofOpenings [⟨some ['n'], 0⟩]⟩ := by
    cases hstrip
    rfl
  have hcourse : Course (.named m) [.attempt ['a', 'a'], .setCursor 5, .attempt ['a']] _ :=
    .attempt (.execGroups m ['a', 'a'])
      (.setCursor (.drop (.attempt (.plainTest _ ['a']) (.done _))))
  have hcourse' : Course (.plain r) [.attempt ['a', 'a'], .setCursor 5, .attempt ['a']] _ :=
    .attempt (.plainExec r ['a', 'a']) (.setCursor (.attempt (.plainExec _ ['a']) (.done _)))
  exact ⟨m, r, h, htests, hr, _, _, hcourse, hcourse', congrArg some hnamed,
    congrArg₂ (fun first last => [first, 5, last]) hfound hreset,
    hshows _ (by simp) _ _ hcourse, hagree _ (by simp) _ (by simp) _ _ _ hcourse hcourse'⟩

end NamedCapture
