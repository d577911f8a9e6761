import NamedCapture.Matcher.Named
import NamedCapture.Template

/-!
Replacing matches.  Without the global flag the match of one attempt is replaced; with it the
matches of successive attempts from the start of the subject, until one fails.  All matches are
found before the first is replaced.  The replacing text may depend on a state that it carries from
match to match.
-/

namespace NamedCapture

structure Replaced (σ : Type) extends Step NamedMatcher Text where
  state : σ

namespace NamedMatcher

/-- The matches of successive attempts up to the one that finds nothing.  After an empty match the
cursor is moved one character on.  Each turn moves the cursor, so with more turns than the subject
has offsets the fuel runs out only where the cursor comes to stand still. -/
def gather (subject : Text) : Nat → NamedMatcher → Step NamedMatcher (List NamedMatch)
  | 0, m => { answer := .error .endless, after := m, events := [] }
  | fuel + 1, m =>
    let step := m.exec subject
    match step.answer with
    | .error e => { answer := .error e, after := step.after, events := step.events }
    | .ok none => { answer := .ok [], after := step.after, events := step.events }
    | .ok (some found) =>
      let next :=
        if found.whole.isEmpty then step.after.setCursor found.resume else step.after
      let rest := gather subject fuel next
      { answer := rest.answer.map (found :: ·)
        after := rest.after
        events := step.events ++ rest.events }

def targets (m : NamedMatcher) (subject : Text) : Step NamedMatcher (List NamedMatch) :=
  if m.matcher.flags.global then
    gather subject (Text.byteLength subject + 2) (m.setCursor 0)
  else
    let step := m.exec subject
    { step with answer := step.answer.map Option.toList }

end NamedMatcher

/-- The subject from the offset `last` on, with each match replaced. -/
def weave {σ : Type} (replacing : σ → NamedMatch → Text × σ) (subject : Text) (state : σ)
    (last : Nat) : List NamedMatch → Except Failure Text × σ
  | [] => (.ok (Text.dropBytes last subject), state)
  | m :: rest =>
    if m.whole.start < last then (.error .overlap, state)
    else
      let (text, state) := replacing state m
      let (tail, state) := weave replacing subject state m.whole.stop rest
      (tail.map (Text.slice subject last m.whole.start ++ text ++ ·), state)

namespace NamedMatcher

def replaceWith {σ : Type} (m : NamedMatcher) (subject : Text)
    (replacing : σ → NamedMatch → Text × σ) (state : σ) : Replaced σ :=
  let step := m.targets subject
  match step.answer with
  | .error e => { answer := .error e, after := step.after, events := step.events, state }
  | .ok found =>
    let (answer, state) := weave replacing subject state 0 found
    { answer, after := step.after, events := step.events, state }

def replace (m : NamedMatcher) (subject template : Text) : Replaced Unit :=
  let parts := Template.parse m.table template
  m.replaceWith subject (fun _ found => (parts.expand found, ())) ()

end NamedMatcher
end NamedCapture
