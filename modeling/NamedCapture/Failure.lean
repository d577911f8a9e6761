import NamedCapture.Annotated

/-!
The ways in which compiling a pattern or running a matcher fails.
-/

namespace NamedCapture

inductive CompileError where
  | unterminated (e : UnterminatedName)
  | flags (given : Text) (fault : FlagFault)
  /-- The engine refuses the pattern, which is given here without annotations and flags. -/
  | rejected (source : Text)
  deriving DecidableEq, Repr

/-- What is wrong.  The engine's own words would follow the last of these. -/
def CompileError.message : CompileError → String
  | unterminated e => e.message
  | flags given fault =>
    let shown := String.ofList given
    s!"invalid flags '{shown}': {fault.message}"
  | rejected source =>
    let shown := String.ofList source
    s!"invalid regular expression /{shown}/: "

inductive Failure where
  | gaveUp
  /-- A global replacement comes back to a place it searched from, and so never ends. -/
  | endless
  /-- A match starts before the end of the match before it, so that no text lies between them. -/
  | overlap
  deriving DecidableEq, Repr

def Failure.message : Failure → String
  | gaveUp => "runtime error: "
  | endless => "replacement does not end"
  | overlap => "matches overlap"

def Flags.compile (given : Text) : Except CompileError Flags :=
  (Flags.parse given).mapError (.flags given)

end NamedCapture
