import NamedCapture.Matcher.Named

/-!
Walks over all matches of a subject.  A walk starts at the beginning whatever the flags and the
cursor are, leaves the cursor alone, and ends at the first search that finds nothing or fails.
-/

namespace NamedCapture

structure Walk where
  matcher : NamedMatcher
  subject : Text
  position : Nat
  finished : Bool

def NamedMatcher.walk (matcher : NamedMatcher) (subject : Text) : Walk :=
  { matcher, subject, position := 0, finished := false }

namespace Walk

/-- The next match or failure, if there is one, and the walk after it. -/
def next (w : Walk) : Option (Except Failure NamedMatch) × Walk :=
  if w.finished || Text.byteLength w.subject < w.position then (none, w)
  else
    match w.matcher.matcher.searchFrom w.subject w.position with
    | .error e => (some (.error e), { w with finished := true })
    | .ok none => (none, { w with finished := true })
    | .ok (some m) =>
      (some (.ok (NamedMatch.ofMatch w.matcher.table m)), { w with position := m.resume })

def take : Nat → Walk → List (Except Failure NamedMatch)
  | 0, _ => []
  | n + 1, w =>
    match w.next with
    | (none, _) => []
    | (some item, w) => item :: take n w

theorem next_finished {w : Walk} (h : w.finished = true) : w.next = (none, w) := by
  simp [next, h]

end Walk
end NamedCapture
