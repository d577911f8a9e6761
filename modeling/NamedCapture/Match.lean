import NamedCapture.Group

/-!
Results of a match attempt: the span of the whole match and of each capturing group, and for a
pattern with names the text that each name captured.
-/

namespace NamedCapture

structure Span where
  start : Nat
  stop : Nat
  deriving DecidableEq, Repr

def Span.isEmpty (s : Span) : Bool := s.start == s.stop

structure Match where
  subject : Text
  whole : Span
  /-- Groups 1, 2, …, each unset when it took no part. -/
  groups : List (Option Span)
  deriving DecidableEq, Repr

namespace Match

def captures (m : Match) : List (Option Span) := some m.whole :: m.groups

def textOf (m : Match) (s : Span) : Text := Text.slice m.subject s.start s.stop

def text (m : Match) : Text := m.textOf m.whole

def span? (m : Match) (i : Nat) : Option Span := (m.captures[i]?).join

def get? (m : Match) (i : Nat) : Option Text := (m.span? i).map m.textOf

/-- Where to search for the next match: at the end of this one, or one character further when
it is empty, because a search from its end would find it again.  At the end of the subject there
is no character, and the place behind it is where no search begins. -/
def resume (m : Match) : Nat :=
  if m.whole.start < m.whole.stop then m.whole.stop
  else match Text.dropBytes m.whole.stop m.subject with
    | c :: _ => m.whole.stop + c.utf8Size
    | [] => m.whole.stop + 1

theorem stop_le_resume (m : Match) : m.whole.stop ≤ m.resume := by
  unfold resume
  split
  · exact Nat.le_refl _
  · split <;> omega

end Match

/-- A match with the text of every name, in ascending order of the names. -/
structure NamedMatch extends Match where
  named : List (Text × Option Text)
  deriving DecidableEq, Repr

namespace NamedMatch

def ofMatch (table : GroupTable) (m : Match) : NamedMatch :=
  { m with named := table.bindings.map fun (name, index) => (name, m.get? index) }

/-- The text that a name captured; nothing for an unset or an unknown one. -/
def group? (m : NamedMatch) (name : Text) : Option Text :=
  ((m.named.find? fun entry => entry.1 = name).map (·.2)).join

theorem group?_ofMatch (table : GroupTable) (m : Match) (name : Text) :
    (ofMatch table m).group? name = (table.indexOf? name).bind m.get? := by
  obtain ⟨groups, bindings⟩ := table
  simp only [group?, ofMatch, GroupTable.indexOf?]
  induction bindings with
  | nil => rfl
  | cons b rest ih =>
    obtain ⟨n, index⟩ := b
    by_cases hn : n = name
    · simp [Bindings.indexOf?, hn]
    · simpa [Bindings.indexOf?, hn] using ih

end NamedMatch
end NamedCapture
