import NamedCapture.Regex.Expr

/-!
Plain expressions, which an automaton runs.  They are built by smart constructors that bring them
into a simple form: runs of characters are joined, nested runs and alternatives are flattened,
alternatives of single characters become one set, and a part that all alternatives start with is
written once.  The last of these decides which of several matches is preferred, so it is part of
what a pattern means and not only a matter of speed.
-/

namespace NamedCapture.Regex

inductive Plain where
  | empty
  | chars (cs : List Char)
  | set (s : CharSet)
  | anchor (a : Anchor)
  | concat (ps : List Plain)
  | alt (ps : List Plain)
  | capture (index : Nat) (p : Plain)
  | rep (p : Plain) (lo : Nat) (hi : Option Nat) (greedy : Bool)

namespace Plain

mutual

def same : Plain → Plain → Bool
  | empty, empty => true
  | chars cs, chars ds => cs == ds
  | set s, set t => s == t
  | anchor a, anchor b => a == b
  | concat ps, concat qs => allSame ps qs
  | alt ps, alt qs => allSame ps qs
  | capture i p, capture j q => i == j && same p q
  | rep p lo hi greedy, rep q lo' hi' greedy' =>
    same p q && lo == lo' && hi == hi' && greedy == greedy'
  | _, _ => false

def allSame : List Plain → List Plain → Bool
  | [], [] => true
  | p :: ps, q :: qs => same p q && allSame ps qs
  | _, _ => false

end

mutual

def size : Plain → Nat
  | concat ps | alt ps => 1 + sizes ps
  | capture _ p | rep p _ _ _ => 1 + size p
  | _ => 1

def sizes : List Plain → Nat
  | [] => 0
  | p :: ps => size p + sizes ps

end

mutual

/-- The least number of characters in a match; nothing when there can be no match. -/
def least? : Plain → Option Nat
  | empty | anchor _ => some 0
  | chars cs => some cs.length
  | set s => if s.bounds.isEmpty then none else some 1
  | concat ps => leastSum? ps
  | alt ps => leastOf? ps
  | capture _ p => least? p
  | rep p lo _ _ => (least? p).map (· * lo)

def leastSum? : List Plain → Option Nat
  | [] => some 0
  | p :: ps => do some ((← least? p) + (← leastSum? ps))

def leastOf? : List Plain → Option Nat
  | [] => none
  | [p] => least? p
  | p :: ps => do some (min (← least? p) (← leastOf? ps))

end

mutual

def isWidthless : Plain → Bool
  | empty | anchor _ => true
  | chars cs => cs.isEmpty
  | set _ => false
  | concat ps | alt ps => allWidthless ps
  | capture _ p => isWidthless p
  | rep p _ hi _ => isWidthless p || hi == some 0

def allWidthless : List Plain → Bool
  | [] => true
  | p :: ps => isWidthless p && allWidthless ps

end

def consumes (p : Plain) : Bool := p.least?.any (0 < ·)

def ofSet (s : CharSet) : Plain :=
  match s.theOnly? with
  | some c => chars [c]
  | none => set s

/-- A repetition.  What has no width is not repeated more than once. -/
def mkRep (p : Plain) (lo : Nat) (hi : Option Nat) (greedy : Bool) : Plain :=
  let (lo, hi) :=
    if p.isWidthless then (min lo 1, some (min (hi.getD 1) 1)) else (lo, hi)
  if lo = 0 ∧ hi = some 0 then empty
  else if lo = 1 ∧ hi = some 1 then p
  else rep p lo hi greedy

def joinChars : List Plain → List Plain
  | [] => []
  | p :: ps =>
    match p, joinChars ps with
    | empty, rest => rest
    | chars cs, chars ds :: rest => chars (cs ++ ds) :: rest
    | p, rest => p :: rest

def flattenConcat : List Plain → List Plain
  | [] => []
  | concat ps :: rest => ps ++ flattenConcat rest
  | p :: rest => p :: flattenConcat rest

def flattenAlt : List Plain → List Plain
  | [] => []
  | alt ps :: rest => ps ++ flattenAlt rest
  | p :: rest => p :: flattenAlt rest

def mkConcat (ps : List Plain) : Plain :=
  match joinChars (flattenConcat ps) with
  | [] => empty
  | [p] => p
  | ps => concat ps

def single? : Plain → Option CharSet
  | set s => some s
  | chars [c] => some (.singleton c)
  | _ => none

def concat? : Plain → Option (List Plain)
  | concat ps => some ps
  | _ => none

def commonPart : List Plain → List Plain → List Plain
  | p :: ps, q :: qs => if same p q then p :: commonPart ps qs else []
  | _, _ => []

/-- Alternatives.  Taking out a common part leaves shorter alternatives, so the fuel is their
size. -/
def mkAltFuel : Nat → List Plain → Plain
  | 0, ps => alt ps
  | fuel + 1, ps =>
    match flattenAlt ps with
    | [] => set .empty
    | [p] => p
    | p :: qs =>
      match (p :: qs).mapM single? with
      | some sets => ofSet (.ofList sets)
      | none =>
        match (p :: qs).mapM concat? with
        | none => alt (p :: qs)
        | some [] => alt (p :: qs)
        | some (first :: others) =>
          match others.foldl commonPart first with
          | [] => alt (p :: qs)
          | common =>
            let rest := (first :: others).map fun items => mkConcat (items.drop common.length)
            mkConcat (common ++ [mkAltFuel fuel rest])

def mkAlt (ps : List Plain) : Plain := mkAltFuel (sizes ps + 1) ps

def countLimit : Nat := 0x100000000

mutual

def ofExpr? : Expr → Option Plain
  | .empty => some empty
  | .set s => some (ofSet s)
  | .anchor a => some (anchor a)
  | .concat es => (ofExprs? es).map mkConcat
  | .alt es => (ofExprs? es).map mkAlt
  | .group i e => (ofExpr? e).map (capture i)
  | .rep e lo hi greedy => do
    let p ← ofExpr? e
    let ordered := lo < countLimit && match hi with
      | none => true
      | some hi => lo ≤ hi && hi < countLimit
    if ordered then some (mkRep p lo hi greedy) else none
  | _ => none

def ofExprs? : List Expr → Option (List Plain)
  | [] => some []
  | e :: es => do some ((← ofExpr? e) :: (← ofExprs? es))

end

mutual

def captures : Plain → List Nat
  | capture i p => i :: captures p
  | concat ps | alt ps => allCaptures ps
  | rep p _ _ _ => captures p
  | _ => []

def allCaptures : List Plain → List Nat
  | [] => []
  | p :: ps => captures p ++ allCaptures ps

end

mutual

/-- An estimate of the bytes that an automaton takes. -/
def weight : Plain → Nat
  | empty => 0
  | chars cs => 24 * cs.length
  | set s => 24 + 70 * (s.rangeCount - 1)
  | anchor _ => 24
  | concat ps => weights ps
  | alt ps => 24 + weights ps
  | capture _ p => 48 + weight p
  | rep p lo hi _ => 24 + (weight p + 24) * max 1 (max lo (hi.getD 0))

def weights : List Plain → Nat
  | [] => 0
  | p :: ps => weight p + weights ps

end

def weightLimit : Nat := 10 * 1024 * 1024

end Plain
end NamedCapture.Regex
