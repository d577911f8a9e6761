import NamedCapture.CharSet.Fold
import NamedCapture.CharSet.Blank
import NamedCapture.CharSet.Number
import NamedCapture.CharSet.Word

/-!
Character classes.  A class comes as tokens from `[` to the matching `]`, and `classSet?` gives
the set it stands for.  Classes nest, and `&&`, `--` and `~~` combine what stands to their left
with what follows, all three alike and from the left.  Case folding adds mates to the items of
each bracket before it is negated, and to both sides of an operation.
-/

namespace NamedCapture.Regex

inductive ClassToken where
  | raw (c : Char)
  | char (c : Char)
  | set (s : CharSet)

namespace ClassToken

def isRaw (t : ClassToken) (c : Char) : Bool :=
  match t with
  | raw d => c == d
  | _ => false

def char? : ClassToken → Option Char
  | raw c => some c
  | char c => some c
  | set _ => none

def toSet : ClassToken → CharSet
  | raw c => .singleton c
  | char c => .singleton c
  | set s => s

end ClassToken

def asciiClass? (name : String) : Option CharSet :=
  match name with
  | "alnum" => some ⟨[0x30, 0x3A, 0x41, 0x5B, 0x61, 0x7B]⟩
  | "alpha" => some ⟨[0x41, 0x5B, 0x61, 0x7B]⟩
  | "ascii" => some ⟨[0, 0x80]⟩
  | "blank" => some ⟨[0x9, 0xA, 0x20, 0x21]⟩
  | "cntrl" => some ⟨[0, 0x20, 0x7F, 0x80]⟩
  | "digit" => some ⟨[0x30, 0x3A]⟩
  | "graph" => some ⟨[0x21, 0x7F]⟩
  | "lower" => some ⟨[0x61, 0x7B]⟩
  | "print" => some ⟨[0x20, 0x7F]⟩
  | "punct" => some ⟨[0x21, 0x30, 0x3A, 0x41, 0x5B, 0x61, 0x7B, 0x7F]⟩
  | "space" => some ⟨[0x9, 0xE, 0x20, 0x21]⟩
  | "upper" => some ⟨[0x41, 0x5B]⟩
  | "word" => some ⟨[0x30, 0x3A, 0x41, 0x5B, 0x5F, 0x60, 0x61, 0x7B]⟩
  | "xdigit" => some ⟨[0x30, 0x3A, 0x41, 0x47, 0x61, 0x67]⟩
  | _ => none

def foldAndNegate (fold negated : Bool) (s : CharSet) : CharSet :=
  let s := if fold then s.foldCase else s
  if negated then s.compl else s

inductive ClassOp where
  | intersection
  | difference
  | symmetricDifference
  deriving DecidableEq, Repr

def ClassOp.apply (fold : Bool) (op : ClassOp) (s t : CharSet) : CharSet :=
  let s := foldAndNegate fold false s
  let t := foldAndNegate fold false t
  match op with
  | intersection => s.inter t
  | difference => s.diff t
  | symmetricDifference => s.symmDiff t

def classOp? : ClassToken → ClassToken → Option ClassOp
  | .raw '&', .raw '&' => some .intersection
  | .raw '-', .raw '-' => some .difference
  | .raw '~', .raw '~' => some .symmetricDifference
  | _, _ => none

structure ClassFrame where
  negated : Bool := false
  /-- The operation that waits for its right side, with its left side. -/
  pending : Option (ClassOp × CharSet) := none
  items : CharSet := .empty

namespace ClassFrame

def add (f : ClassFrame) (s : CharSet) : ClassFrame := { f with items := f.items.union s }

def total (fold : Bool) (f : ClassFrame) : CharSet :=
  match f.pending with
  | none => f.items
  | some (op, left) => op.apply fold left f.items

def operate (fold : Bool) (f : ClassFrame) (op : ClassOp) : ClassFrame :=
  { f with pending := some (op, f.total fold), items := .empty }

def close (fold : Bool) (f : ClassFrame) : CharSet := foldAndNegate fold f.negated (f.total fold)

end ClassFrame

def namedClass? (fold : Bool) (tokens : List ClassToken) : Option (CharSet × Nat) :=
  match tokens with
  | .raw '[' :: .raw ':' :: rest =>
    let (negated, rest, head) := match rest with
      | .raw '^' :: rest => (true, rest, 3)
      | _ => (false, rest, 2)
    let name := rest.takeWhile fun t => !t.isRaw ':'
    match rest.drop name.length with
    | .raw ':' :: .raw ']' :: _ =>
      (asciiClass? (String.ofList (name.filterMap ClassToken.char?))).map fun s =>
        (foldAndNegate fold negated s, head + name.length + 2)
    | _ => none
  | _ => none

/-- How far the start of a bracket has been read.  A `^` may come first, then hyphens, which
stand for themselves, and a `]` that no hyphen precedes stands for itself too. -/
inductive ClassPhase where
  | caret
  | hyphens (none : Bool)
  | body
  deriving DecidableEq

/-- Read tokens, the first `skip` of which belong to what was read before.  `top` is the innermost
open bracket and `outer` the ones around it. -/
def readClassSet (fold : Bool) (skip : Nat) (phase : ClassPhase) (outer : List ClassFrame)
    (top : ClassFrame) : List ClassToken → Option CharSet
  | [] => none
  | t :: rest =>
    match skip with
    | n + 1 => readClassSet fold n phase outer top rest
    | 0 =>
      if phase = .caret ∧ t.isRaw '^' then
        readClassSet fold 0 (.hyphens true) outer { top with negated := true } rest
      else if phase ≠ .body ∧ t.isRaw '-' then
        readClassSet fold 0 (.hyphens false) outer (top.add t.toSet) rest
      else if phase ≠ .body ∧ phase ≠ .hyphens false ∧ t.isRaw ']' then
        readClassSet fold 0 .body outer (top.add t.toSet) rest
      else if t.isRaw '[' then
        match namedClass? fold (t :: rest) with
        | some (s, length) => readClassSet fold (length - 1) .body outer (top.add s) rest
        | none => readClassSet fold 0 .caret (top :: outer) {} rest
      else if t.isRaw ']' then
        match outer with
        | [] => if rest.isEmpty then some (top.close fold) else none
        | parent :: outer => readClassSet fold 0 .body outer (parent.add (top.close fold)) rest
      else
        match rest with
        | [] => none
        | u :: more =>
          match classOp? t u with
          | some op => readClassSet fold 1 .body outer (top.operate fold op) rest
          | none =>
            match more with
            | v :: _ =>
              -- a hyphen makes a range of the characters on both sides of it
              if u.isRaw '-' && !v.isRaw ']' && !v.isRaw '-' then
                match t.char?, v.char? with
                | some first, some last =>
                  if first ≤ last then
                    readClassSet fold 2 .body outer (top.add (.ofRange first last)) rest
                  else none
                | _, _ => none
              else readClassSet fold 0 .body outer (top.add t.toSet) rest
            | [] => readClassSet fold 0 .body outer (top.add t.toSet) rest

def classSet? (fold : Bool) (tokens : List ClassToken) : Option CharSet :=
  readClassSet fold 0 .caret [] {} tokens

end NamedCapture.Regex
