import NamedCapture.CharSet

/-!
Regular expressions as trees, and the three facts about an expression that decide how it is run:
the least width of its matches, whether all its matches have that width, and whether it needs
backtracking at all.
-/

namespace NamedCapture.Regex

inductive Anchor where
  | textStart
  | textEnd
  | lineStart
  | lineEnd
  | wordBoundary
  | notWordBoundary
  | wordStart
  | wordEnd
  deriving DecidableEq, Repr

def Anchor.isWord : Anchor → Bool
  | wordBoundary | notWordBoundary | wordStart | wordEnd => true
  | _ => false

inductive Expr where
  | empty
  | set (s : CharSet)
  | anchor (a : Anchor)
  | concat (es : List Expr)
  | alt (es : List Expr)
  | group (index : Nat) (e : Expr)
  | look (behind negative : Bool) (e : Expr)
  /-- `hi` is absent when there is no limit. -/
  | rep (e : Expr) (lo : Nat) (hi : Option Nat) (greedy : Bool)
  | atomic (e : Expr)
  | backref (index : Nat)
  | isSet (index : Nat)
  | cond (test yes no : Expr)
  | keepOut
  | searchStart

namespace Expr

mutual

def leastWidth : Expr → Nat
  | empty | anchor _ | look .. | backref _ | isSet _ | keepOut | searchStart => 0
  | set _ => 1
  | concat es => sumWidths es
  | alt es => leastOf es
  | group _ e | atomic e => leastWidth e
  | rep e lo _ _ => leastWidth e * lo
  | cond test yes no => leastWidth test + min (leastWidth yes) (leastWidth no)

def sumWidths : List Expr → Nat
  | [] => 0
  | e :: es => leastWidth e + sumWidths es

def leastOf : List Expr → Nat
  | [] => 0
  | [e] => leastWidth e
  | e :: es => min (leastWidth e) (leastOf es)

end

mutual

/-- All matches have the least width.  A group's text may be long or short, so a reference to it
is not fixed. -/
def isFixed : Expr → Bool
  | empty | set _ | anchor _ | look .. | isSet _ | keepOut | searchStart => true
  | backref _ => false
  | concat es => allFixed es
  | alt es => allFixedAs (leastOf es) es
  | group _ e | atomic e => isFixed e
  | rep e lo hi _ => isFixed e && hi == some lo
  | cond test yes no =>
    isFixed test && isFixed yes && isFixed no &&
      leastWidth test + leastWidth yes == leastWidth no

def allFixed : List Expr → Bool
  | [] => true
  | e :: es => isFixed e && allFixed es

def allFixedAs (width : Nat) : List Expr → Bool
  | [] => true
  | e :: es => isFixed e && leastWidth e == width && allFixedAs width es

end

mutual

/-- Some part of the expression cannot be left to the automaton: a group in `refs`, whose text
must be at hand for a reference, or what looks around, back or ahead. -/
def needsBacktracking (refs : List Nat) : Expr → Bool
  | empty | set _ => false
  | anchor a => a.isWord
  | concat es | alt es => anyNeeds refs es
  | group i e => needsBacktracking refs e || refs.contains i
  | rep e _ _ _ => needsBacktracking refs e
  | look .. | atomic _ | backref _ | isSet _ | cond .. | keepOut | searchStart => true

def anyNeeds (refs : List Nat) : List Expr → Bool
  | [] => false
  | e :: es => needsBacktracking refs e || anyNeeds refs es

end

/-- Anchors, and what is empty or only looks, cannot be repeated. -/
def isRepeatable : Expr → Bool
  | empty | anchor _ | look .. => false
  | _ => true

def isEmpty : Expr → Bool
  | empty => true
  | _ => false

def ofChar (c : Char) : Expr := set (.singleton c)

end Expr
end NamedCapture.Regex
