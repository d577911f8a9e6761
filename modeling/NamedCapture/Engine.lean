import NamedCapture.Match

/-!
What a matcher needs of an engine.  A compiled pattern searches a subject from an offset; it finds
a match, finds none, or gives up when its budget is spent.
-/

namespace NamedCapture

inductive Outcome where
  | found (whole : Span) (groups : List (Option Span))
  | absent
  | gaveUp
  deriving DecidableEq, Repr

structure Engine where
  /-- Number of captures it states, the whole match included. -/
  captureCount : Nat
  /-- Search from an offset where a character begins. -/
  search : Text → Nat → Outcome
  /-- Whether the pattern is found from the start; `none` when the engine gives up. -/
  test : Text → Option Bool

abbrev Dialect := Text → Option Engine

end NamedCapture
