import NamedCapture.Flags
import NamedCapture.Group
import NamedCapture.Text.Quoted

/-!
Reports on what the library does.  An event is a value that an operation gives beside its answer;
`level` and `message` say how it is shown.
-/

namespace NamedCapture

inductive Level where
  | trace
  | debug
  | warn
  deriving DecidableEq, Repr

inductive Event where
  /-- A name got a later group than the one it was bound to. -/
  | rebound (name : Text) (previous index : Nat)
  | opened (group : Group)
  | stripped (annotated numbered : Text) (groups names : Nat)
  | compiled (source : Text) (flags : Flags)
  | countMismatch (engineGroups : Nat) (source : Text) (groups : Nat)
  /-- A match attempt ended without a failure, with the text it found. -/
  | attempted (source : Text) (flags : Flags) (start : Nat) (found : Option Text)
  deriving DecidableEq, Repr

namespace Event

def level : Event → Level
  | rebound .. | opened .. | attempted .. => .trace
  | stripped .. | compiled .. => .debug
  | countMismatch .. => .warn

private def shown (t : Text) : String := String.ofList t

private def shownQuoted (t : Text) : String := String.ofList t.quote

def message : Event → String
  | rebound name previous index =>
    s!"group name '{shown name}' redefined: {previous} -> {index}"
  | opened ⟨index, none, offset⟩ => s!"group {index} at {offset}"
  | opened ⟨index, some name, offset⟩ => s!"group {index} '{shown name}' at {offset}"
  | stripped annotated numbered groups names =>
    s!"transformed {shownQuoted annotated} -> {shownQuoted numbered} ({groups} groups, {names} named)"
  | compiled source flags => s!"compiled {shown (flags.slashed source)}"
  | countMismatch engineGroups source groups =>
    s!"engine reports {engineGroups} groups for /{shown source}/ but {groups} were numbered; " ++
      "named lookups may be off"
  | attempted source flags start found =>
    let result := match found with
      | none => "None"
      | some t => s!"Some({shownQuoted t})"
    s!"exec {shown (flags.slashed source)} from {start}: {result}"

end Event

namespace GroupTable

def registerEvents (t : GroupTable) (name : Option Text) : List Event :=
  match name with
  | none => []
  | some n =>
    match t.indexOf? n with
    | none => []
    | some previous => [.rebound n previous (t.count + 1)]

/-- What a sequence of openings reports: each group, after the name it takes over if it does. -/
def openingEvents (t : GroupTable) : List Opening → List Event
  | [] => []
  | o :: os =>
    let (index, next) := t.register o.name o.offset
    t.registerEvents o.name ++ .opened ⟨index, o.name, o.offset⟩ :: next.openingEvents os

end GroupTable
end NamedCapture
