import NamedCapture.Text

/-!
Matcher flags, written as a text of letters in any order, each at most once.  The canonical text
has them in the order of `Flag.all`.
-/

namespace NamedCapture

/-- One flag.  The constructors stand in canonical order. -/
inductive Flag where
  /-- Report offsets.  They are always reported, so it changes nothing. -/
  | hasIndices
  | global
  | ignoreCase
  | multiline
  | dotAll
  /-- Match by characters.  The engine always does, so it changes nothing. -/
  | unicode
  | sticky
  deriving DecidableEq, Repr

namespace Flag

def all : List Flag := [hasIndices, global, ignoreCase, multiline, dotAll, unicode, sticky]

def letter : Flag → Char
  | hasIndices => 'd'
  | global => 'g'
  | ignoreCase => 'i'
  | multiline => 'm'
  | dotAll => 's'
  | unicode => 'u'
  | sticky => 'y'

def ofLetter? (c : Char) : Option Flag := all.find? fun f => f.letter == c

theorem ofLetter?_letter (f : Flag) : ofLetter? f.letter = some f := by
  cases f <;> rfl

theorem letter_of_ofLetter? {c : Char} {f : Flag} (h : ofLetter? c = some f) : f.letter = c := by
  have := List.find?_some h
  simpa using this

end Flag

structure Flags where
  hasIndices : Bool := false
  global : Bool := false
  ignoreCase : Bool := false
  multiline : Bool := false
  dotAll : Bool := false
  unicode : Bool := false
  sticky : Bool := false
  deriving DecidableEq, Repr

inductive FlagFault where
  | unknown (c : Char)
  | duplicate (c : Char)
  deriving DecidableEq, Repr

def FlagFault.message : FlagFault → String
  | unknown c => s!"unknown flag '{c}'"
  | duplicate c => s!"duplicate flag '{c}'"

namespace Flags

def none : Flags := {}

def has (s : Flags) : Flag → Bool
  | .hasIndices => s.hasIndices
  | .global => s.global
  | .ignoreCase => s.ignoreCase
  | .multiline => s.multiline
  | .dotAll => s.dotAll
  | .unicode => s.unicode
  | .sticky => s.sticky

def insert (s : Flags) : Flag → Flags
  | .hasIndices => { s with hasIndices := true }
  | .global => { s with global := true }
  | .ignoreCase => { s with ignoreCase := true }
  | .multiline => { s with multiline := true }
  | .dotAll => { s with dotAll := true }
  | .unicode => { s with unicode := true }
  | .sticky => { s with sticky := true }

/-- Add the flags of a text, letter by letter, up to the first that is unknown or already there. -/
def insertAll (s : Flags) : Text → Except FlagFault Flags
  | [] => .ok s
  | c :: t =>
    match Flag.ofLetter? c with
    | .none => .error (.unknown c)
    | some f => if s.has f then .error (.duplicate c) else insertAll (s.insert f) t

def parse (t : Text) : Except FlagFault Flags := none.insertAll t

def letters (s : Flags) : Text := (Flag.all.filter s.has).map Flag.letter

def slashed (s : Flags) (source : Text) : Text := '/' :: (source ++ '/' :: s.letters)

/-- Attempts start at the cursor and move it. -/
def stateful (s : Flags) : Bool := s.global || s.sticky

/-- The flags that the engine has to know, as an inline group at the front of the pattern.  Empty
when there are none. -/
def enginePrefix (s : Flags) : Text :=
  let inline := ([.ignoreCase, .multiline, .dotAll].filter s.has).map fun f : Flag => f.letter
  if inline = [] then [] else ['(', '?'] ++ inline ++ [')']

@[simp] theorem has_insert (s : Flags) (f g : Flag) : (s.insert f).has g = (s.has g || f == g) := by
  cases f <;> cases g <;> simp [has, insert]

theorem ext_has {s t : Flags} (h : ∀ f, s.has f = t.has f) : s = t := by
  obtain ⟨_, _, _, _, _, _, _⟩ := s
  obtain ⟨_, _, _, _, _, _, _⟩ := t
  simp only [Flags.mk.injEq]
  exact ⟨h .hasIndices, h .global, h .ignoreCase, h .multiline, h .dotAll, h .unicode, h .sticky⟩

end Flags
end NamedCapture
