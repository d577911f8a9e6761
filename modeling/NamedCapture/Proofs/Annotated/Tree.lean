import NamedCapture.Annotated

/-!
# Patterns as trees

A pattern of the annotated dialect is a list of pieces: characters, escapes, character classes,
comments, inline flags and groups.  A tree is written out in two ways, `text` with its annotations
and `numbered` without them, and `groups` lists its capturing groups in the order of their opening
parentheses.  What a tree may hold depends on whether blanks are free where it stands
(`verboseAfter`), and `wellFormed` checks it; nothing here is defined through the scan.
-/

namespace NamedCapture.Annotated

open GroupTable (Opening)

/-- The letters of a flag list, to be set and, behind a `-`, to be cleared. -/
structure Switches where
  set : Text
  cleared : Option Text
  deriving DecidableEq, Repr

namespace Switches

def text (s : Switches) : Text :=
  s.set ++ match s.cleared with
    | none => []
    | some t => '-' :: t

def wellFormed (s : Switches) : Bool :=
  s.set.all Char.isAlpha && (s.cleared.getD []).all Char.isAlpha

/-- Whether blanks are free behind the flags, by the last `x`. -/
def verbose (s : Switches) (outside : Bool) : Bool :=
  if 'x' ∈ s.cleared.getD [] then false
  else if 'x' ∈ s.set then true
  else outside

end Switches

inductive Opener where
  | plain
  | named (name : Text)
  /-- `(?P<name>`, which captures and is left to the engine. -/
  | engineNamed (name : Text)
  | nonCapturing
  | atomic
  | look (behind negative : Bool)
  | flags (s : Switches)
  deriving DecidableEq, Repr

namespace Opener

def text : Opener → Text
  | plain => ['(']
  | named name => ['(', '?', '<'] ++ name ++ ['>']
  | engineNamed name => ['(', '?', 'P', '<'] ++ name ++ ['>']
  | nonCapturing => ['(', '?', ':']
  | atomic => ['(', '?', '>']
  | look behind negative =>
    ['(', '?'] ++ (if behind then ['<'] else []) ++ [if negative then '!' else '=']
  | flags s => ['(', '?'] ++ s.text ++ [':']

def numbered : Opener → Text
  | named _ => ['(']
  | o => o.text

def groups (offset : Nat) : Opener → List Opening
  | plain | engineNamed _ => [⟨none, offset⟩]
  | named name => [⟨some name, offset⟩]
  | _ => []

def verbose (outside : Bool) : Opener → Bool
  | flags s => s.verbose outside
  | _ => outside

def wellFormed : Opener → Bool
  | named name => decide (IsName name)
  | engineNamed name => name.all isNameChar
  | flags s => s.wellFormed
  | _ => true

end Opener

inductive Member where
  | char (c : Char)
  | escape (c : Char)
  | nested (negated bracket : Bool) (members : List Member)

/-- What a class starts with: `[`, a `^` if it is negated, and a `]` if that is its first
member. -/
def classHead (negated bracket : Bool) : Text :=
  '[' :: ((if negated then ['^'] else []) ++ (if bracket then [']'] else []))

def startsWithCaret : List Member → Bool
  | .char c :: _ => c == '^'
  | _ => false

/-- A class has a member, and its first member is not mistaken for what may come before. -/
def headWellFormed (negated bracket : Bool) (members : List Member) : Bool :=
  (bracket || !members.isEmpty) && (negated || bracket || !startsWithCaret members)

mutual

def Member.text : Member → Text
  | .char c => [c]
  | .escape c => ['\\', c]
  | .nested negated bracket members => classHead negated bracket ++ membersText members ++ [']']

def membersText : List Member → Text
  | [] => []
  | m :: ms => m.text ++ membersText ms

end

mutual

def Member.wellFormed : Member → Bool
  | .char c => c != '[' && c != ']' && c != '\\'
  | .escape _ => true
  | .nested negated bracket members =>
    headWellFormed negated bracket members && membersWellFormed members

def membersWellFormed : List Member → Bool
  | [] => true
  | m :: ms => m.wellFormed && membersWellFormed ms

end

inductive Piece where
  | char (c : Char)
  | escape (c : Char)
  | charClass (negated bracket : Bool) (members : List Member)
  | comment (body : Text)
  | flags (s : Switches)
  | group (o : Opener) (body : List Piece)

/-- Whether blanks are free behind a piece.  A group's own flags end with it. -/
def Piece.verboseAfter (verbose : Bool) : Piece → Bool
  | flags s => s.verbose verbose
  | _ => verbose

mutual

def Piece.text : Piece → Text
  | .char c => [c]
  | .escape c => ['\\', c]
  | .charClass negated bracket members =>
    classHead negated bracket ++ membersText members ++ [']']
  | .comment body => '#' :: body ++ ['\n']
  | .flags s => ['(', '?'] ++ s.text ++ [')']
  | .group o body => o.text ++ (textOf body ++ [')'])

def textOf : List Piece → Text
  | [] => []
  | p :: ps => p.text ++ textOf ps

end

mutual

/-- A piece as it is written when every `(?<name>` is a `(`. -/
def Piece.numbered : Piece → Text
  | .group o body => o.numbered ++ (numberedOf body ++ [')'])
  | p => p.text

def numberedOf : List Piece → Text
  | [] => []
  | p :: ps => p.numbered ++ numberedOf ps

end

mutual

def Piece.groups (offset : Nat) : Piece → List Opening
  | .group o body => o.groups offset ++ groupsOf (offset + Text.byteLength o.text) body
  | _ => []

def groupsOf (offset : Nat) : List Piece → List Opening
  | [] => []
  | p :: ps => p.groups offset ++ groupsOf (offset + Text.byteLength p.text) ps

end

mutual

/-- A piece may stand where it does. -/
def Piece.wellFormed (verbose : Bool) : Piece → Bool
  | .char c => c != '\\' && c != '[' && c != '(' && c != ')' && !(verbose && c == '#')
  | .escape _ => true
  | .charClass negated bracket members =>
    headWellFormed negated bracket members && membersWellFormed members
  | .comment body => verbose && body.all (· != '\n')
  | .flags s => s.wellFormed
  | .group o body =>
    o.wellFormed && wellFormed (o.verbose verbose) body &&
      (o != .plain || (textOf body).head? != some '?')

def wellFormed (verbose : Bool) : List Piece → Bool
  | [] => true
  | p :: ps => p.wellFormed verbose && wellFormed (p.verboseAfter verbose) ps

end

end NamedCapture.Annotated
