import NamedCapture.Matcher

/-!
Matchers for annotated patterns.  The pattern is stripped of its annotations before the engine
reads it, and each match is given back with the text of every name.
-/

namespace NamedCapture

structure NamedMatcher where
  matcher : Matcher
  table : GroupTable
  /-- The pattern as it was written. -/
  annotated : Text

namespace NamedMatcher

def compile (dialect : Dialect) (pattern : Text) (flags : Flags) :
    Except CompileError NamedMatcher :=
  match Annotated.strip pattern with
  | .error e => .error (.unterminated e)
  | .ok ⟨source, table⟩ =>
    (Matcher.compile dialect source flags).map fun matcher =>
      { matcher, table, annotated := pattern }

/-- The engine and the annotations count the same groups. -/
def Agrees (m : NamedMatcher) : Prop := m.matcher.engine.captureCount = m.table.count + 1

instance (m : NamedMatcher) : Decidable m.Agrees := inferInstanceAs (Decidable (_ = _))

def compileEvents (dialect : Dialect) (pattern : Text) (flags : Flags) : List Event :=
  Annotated.stripEvents pattern ++
    match Annotated.strip pattern with
    | .error _ => []
    | .ok ⟨source, _⟩ =>
      Matcher.compileEvents dialect source flags ++
        match compile dialect pattern flags with
        | .error _ => []
        | .ok m =>
          if m.Agrees then []
          else [.countMismatch (m.matcher.engine.captureCount - 1) source m.table.count]

def lift {α β : Type} (m : NamedMatcher) (step : Step Matcher α) (f : α → β) :
    Step NamedMatcher β :=
  { answer := step.answer.map f
    after := { m with matcher := step.after }
    events := step.events }

def test (m : NamedMatcher) (subject : Text) : Step NamedMatcher Bool :=
  m.lift (m.matcher.test subject) id

def exec (m : NamedMatcher) (subject : Text) : Step NamedMatcher (Option NamedMatch) :=
  m.lift (m.matcher.exec subject) (Option.map (NamedMatch.ofMatch m.table))

def execGroups (m : NamedMatcher) (subject : Text) :
    Step NamedMatcher (Option (List (Text × Option Text))) :=
  let step := m.exec subject
  { step with answer := step.answer.map (Option.map NamedMatch.named) }

def execPlain (m : NamedMatcher) (subject : Text) : Step NamedMatcher (Option Match) :=
  m.lift (m.matcher.exec subject) id

def setCursor (m : NamedMatcher) (cursor : Nat) : NamedMatcher :=
  { m with matcher := m.matcher.setCursor cursor }

/-- What is compiled is the plain matcher of the stripped pattern, with the table beside it. -/
theorem compile_eq_ok {dialect : Dialect} {pattern : Text} {flags : Flags} {m : NamedMatcher}
    (h : compile dialect pattern flags = .ok m) :
    Annotated.strip pattern = .ok ⟨m.matcher.source, m.table⟩ ∧
      Matcher.compile dialect m.matcher.source flags = .ok m.matcher ∧
      m.annotated = pattern ∧ m.matcher.flags = flags ∧ m.matcher.cursor = 0 := by
  unfold compile at h
  cases hstrip : Annotated.strip pattern with
  | error e =>
    rw [hstrip] at h
    cases h
  | ok stripped =>
    obtain ⟨source, table⟩ := stripped
    rw [hstrip] at h
    unfold Matcher.compile at h ⊢
    dsimp only at h
    split at h
    · cases h
    · rename_i engine hdialect
      cases h
      refine ⟨rfl, ?_, rfl, rfl, rfl⟩
      dsimp only
      rw [hdialect]

section Answer

variable (m : NamedMatcher) (subject : Text)

theorem test_answer : (m.test subject).answer = (m.matcher.test subject).answer := by
  show (m.matcher.test subject).answer.map id = _
  cases (m.matcher.test subject).answer <;> rfl

theorem execGroups_answer :
    (m.execGroups subject).answer =
      (m.matcher.exec subject).answer.map (Option.map fun found =>
        (NamedMatch.ofMatch m.table found).named) := by
  show ((m.matcher.exec subject).answer.map _).map _ = _
  rcases (m.matcher.exec subject).answer with e | _ | found <;> rfl

theorem execPlain_answer : (m.execPlain subject).answer = (m.matcher.exec subject).answer := by
  show (m.matcher.exec subject).answer.map id = _
  cases (m.matcher.exec subject).answer <;> rfl

end Answer

end NamedMatcher
end NamedCapture
