import NamedCapture.Regex.Expr
import NamedCapture.CharSet.Word
import NamedCapture.Match

/-!
Subjects as the engine sees them: positions count characters, and a table gives the offset of each
in bytes.
-/

namespace NamedCapture.Regex

structure Subject where
  chars : Array Char
  offsets : Array Nat

namespace Subject

def ofText (t : Text) : Subject :=
  { chars := t.toArray
    offsets := t.foldl (fun os c => os.push (os.back?.getD 0 + c.utf8Size)) #[0] }

def size (s : Subject) : Nat := s.chars.size

def offset (s : Subject) (position : Nat) : Nat := s.offsets.getD position 0

def position (s : Subject) (offset : Nat) : Nat := (s.offsets.findIdx? (· ≥ offset)).getD s.size

def isIn (s : Subject) (set : CharSet) (position : Nat) : Bool :=
  match s.chars[position]? with
  | some c => set.contains c
  | none => false

def isInBefore (s : Subject) (set : CharSet) (position : Nat) : Bool :=
  position != 0 && s.isIn set (position - 1)

def holds (s : Subject) (a : Anchor) (position : Nat) : Bool :=
  let before := s.isInBefore .word position
  let after := s.isIn .word position
  match a with
  | .textStart => position == 0
  | .textEnd => position == s.size
  | .lineStart => position == 0 || s.isInBefore (.singleton '\n') position
  | .lineEnd => position == s.size || s.isIn (.singleton '\n') position
  | .wordBoundary => before != after
  | .notWordBoundary => before == after
  | .wordStart => !before && after
  | .wordEnd => before && !after

end Subject

/-- Where captures are kept: two slots for each group, that of its start and that of its end, and
further ones that a program needs for itself. -/
abbrev Slots := Array (Option Nat)

namespace Slots

def get (s : Slots) (i : Nat) : Option Nat := s.getD i none

def put (s : Slots) (i : Nat) (value : Option Nat) : Slots := s.setIfInBounds i value

def clearGroup (s : Slots) (group : Nat) : Slots :=
  (s.put (2 * group) none).put (2 * group + 1) none

def span? (s : Slots) (subject : Subject) (group : Nat) : Option Span := do
  let start ← s.get (2 * group)
  let stop ← s.get (2 * group + 1)
  some ⟨subject.offset start, subject.offset stop⟩

end Slots
end NamedCapture.Regex
