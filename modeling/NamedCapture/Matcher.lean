import NamedCapture.Engine
import NamedCapture.Failure

/-!
Matchers with a cursor.  A matcher whose flags are global or sticky starts each attempt at its
cursor and leaves the cursor at the end of the match, or at 0 when there is none; any other
matcher starts at 0 and lets the cursor be.  A sticky matcher takes only a match that begins where
its search began.
-/

namespace NamedCapture

structure Matcher where
  engine : Engine
  /-- The pattern, without the flags that the engine reads in front of it. -/
  source : Text
  flags : Flags
  cursor : Nat

/-- An answer, the matcher after it, and what was reported on the way. -/
structure Step (σ α : Type) where
  answer : Except Failure α
  after : σ
  events : List Event

namespace Matcher

def enginePattern (m : Matcher) : Text := m.flags.enginePrefix ++ m.source

def compile (dialect : Dialect) (source : Text) (flags : Flags) : Except CompileError Matcher :=
  match dialect (flags.enginePrefix ++ source) with
  | none => .error (.rejected source)
  | some engine => .ok { engine, source, flags, cursor := 0 }

def compileEvents (dialect : Dialect) (source : Text) (flags : Flags) : List Event :=
  match dialect (flags.enginePrefix ++ source) with
  | none => []
  | some _ => [.compiled source flags]

/-- Search from an offset, whatever the cursor is.  Stickiness counts. -/
def searchFrom (m : Matcher) (subject : Text) (start : Nat) : Except Failure (Option Match) :=
  match m.engine.search subject start with
  | .gaveUp => .error .gaveUp
  | .absent => .ok none
  | .found whole groups =>
    if m.flags.sticky && whole.start != start then .ok none
    else .ok (some { subject, whole, groups })

/-- Where an attempt starts, before it is moved to a boundary. -/
def start (m : Matcher) : Nat := if m.flags.stateful then m.cursor else 0

def exec (m : Matcher) (subject : Text) : Step Matcher (Option Match) :=
  if Text.byteLength subject < m.start then
    { answer := .ok none, after := { m with cursor := 0 }, events := [] }
  else
    match m.searchFrom subject (Text.ceilBoundary subject m.start) with
    | .error e => { answer := .error e, after := m, events := [] }
    | .ok found =>
      let cursor := match found with
        | none => 0
        | some f => f.whole.stop
      { answer := .ok found
        after := if m.flags.stateful then { m with cursor } else m
        events := [.attempted m.source m.flags m.start (found.map Match.text)] }

/-- Whether an attempt matches.  It moves the cursor as the attempt does. -/
def test (m : Matcher) (subject : Text) : Step Matcher Bool :=
  if m.flags.stateful then
    let step := m.exec subject
    { step with answer := step.answer.map Option.isSome }
  else
    match m.engine.test subject with
    | none => { answer := .error .gaveUp, after := m, events := [] }
    | some found => { answer := .ok found, after := m, events := [] }

def setCursor (m : Matcher) (cursor : Nat) : Matcher := { m with cursor }

end Matcher
end NamedCapture
