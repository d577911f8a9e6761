import NamedCapture.Annotated.Lexeme
import NamedCapture.Event

/-!
Annotated patterns.  `strip` cuts every `(?<name>` down to `(`, so that an engine which knows only
numbered groups can read the pattern, and gives the table of the groups it passed.
-/

namespace NamedCapture

/-- A `(?<` that no name and `>` follow, by the offset of its `(`. -/
structure UnterminatedName where
  position : Nat
  deriving DecidableEq, Repr

def UnterminatedName.message (e : UnterminatedName) : String :=
  s!"'>' missing in named group starting at position {e.position}"

structure Stripped where
  pattern : Text
  groups : GroupTable
  deriving DecidableEq, Repr

namespace Annotated

namespace Scan

/-- The table of the groups passed, those before a failure included. -/
def table (s : Scan) : GroupTable := GroupTable.ofOpenings (openings 0 s.lexemes)

def numbered (s : Scan) : Text := s.lexemes.flatMap Lexeme.numbered

end Scan

def strip (pattern : Text) : Except UnterminatedName Stripped :=
  let s := scan pattern
  match s.failure with
  | some position => .error ⟨position⟩
  | none => .ok ⟨s.numbered, s.table⟩

def stripEvents (pattern : Text) : List Event :=
  let s := scan pattern
  let opened := GroupTable.empty.openingEvents (openings 0 s.lexemes)
  match s.failure with
  | some _ => opened
  | none => opened ++ [.stripped pattern s.numbered s.table.count s.table.nameCount]

end Annotated
end NamedCapture
