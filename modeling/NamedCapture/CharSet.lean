import NamedCapture.Text

/-!
Sets of characters, kept as the code points at which membership changes: `[a, b, c, …]` holds the
code points from `a` up to `b`, from `c` on, and so forth.  A set and its complement then differ
in one leading bound, and every operation on two sets is one merge of their bounds.
-/

namespace NamedCapture

/-- A set of characters, given by the increasing code points at which membership changes. -/
structure CharSet where
  bounds : List Nat
  deriving DecidableEq, Repr

namespace CharSet

def holds (n : Nat) (inside : Bool) : List Nat → Bool
  | [] => inside
  | b :: bs => if n < b then inside else holds n (!inside) bs

def contains (s : CharSet) (c : Char) : Bool :=
  holds c.toNat false s.bounds

def empty : CharSet := ⟨[]⟩

def all : CharSet := ⟨[0]⟩

def ofRange (first last : Char) : CharSet :=
  if first ≤ last then ⟨[first.toNat, last.toNat + 1]⟩ else empty

def singleton (c : Char) : CharSet := ⟨[c.toNat, c.toNat + 1]⟩

/-- Complementing a set moves no bound, and only changes what holds before the first. -/
def compl (s : CharSet) : CharSet :=
  match s.bounds with
  | 0 :: bs => ⟨bs⟩
  | bs => ⟨0 :: bs⟩

/-- Merge two lists of bounds.  `x` and `y` say on which side of a bound of either set the walk
stands, and a bound is kept where `keep x y` changes.  The fuel is the number of bounds. -/
def merge (keep : Bool → Bool → Bool) : Nat → Bool → Bool → List Nat → List Nat → List Nat
  | 0, _, _, _, _ => []
  | _ + 1, _, _, [], [] => []
  | fuel + 1, x, y, a :: as, [] =>
    let tail := merge keep fuel (!x) y as []
    if keep x y == keep (!x) y then tail else a :: tail
  | fuel + 1, x, y, [], b :: bs =>
    let tail := merge keep fuel x (!y) [] bs
    if keep x y == keep x (!y) then tail else b :: tail
  | fuel + 1, x, y, a :: as, b :: bs =>
    if a < b then
      let tail := merge keep fuel (!x) y as (b :: bs)
      if keep x y == keep (!x) y then tail else a :: tail
    else if b < a then
      let tail := merge keep fuel x (!y) (a :: as) bs
      if keep x y == keep x (!y) then tail else b :: tail
    else
      let tail := merge keep fuel (!x) (!y) as bs
      if keep x y == keep (!x) (!y) then tail else a :: tail

/-- The set that holds a character when `keep` says so of its membership in both sets.  Of
operations that keep nothing outside both sets this is the pointwise combination. -/
def combine (keep : Bool → Bool → Bool) (s t : CharSet) : CharSet :=
  ⟨merge keep (s.bounds.length + t.bounds.length) false false s.bounds t.bounds⟩

def union (s t : CharSet) : CharSet := combine (· || ·) s t

def inter (s t : CharSet) : CharSet := combine (· && ·) s t

def diff (s t : CharSet) : CharSet := combine (fun x y => x && !y) s t

def symmDiff (s t : CharSet) : CharSet := combine (· != ·) s t

/-- The union of a list of sets, halving the list so that each bound is merged few times. -/
def unions : Nat → List CharSet → CharSet
  | _, [] => empty
  | _, [s] => s
  | 0, s :: _ => s
  | fuel + 1, s :: t :: rest => unions fuel (pair (s :: t :: rest))
where
  pair : List CharSet → List CharSet
    | s :: t :: rest => union s t :: pair rest
    | rest => rest

def ofList (sets : List CharSet) : CharSet := unions sets.length sets

def theOnly? (s : CharSet) : Option Char :=
  match s.bounds with
  | [a, b] => if b = a + 1 then some (Char.ofNat a) else none
  | _ => none

def rangeCount (s : CharSet) : Nat := (s.bounds.length + 1) / 2

end CharSet
end NamedCapture
