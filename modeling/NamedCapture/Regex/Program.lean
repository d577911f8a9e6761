import NamedCapture.Regex.Automaton

/-!
Programs for expressions that need backtracking.  A program is a list of instructions that refer
to each other by their place.  What needs no backtracking is left to automata where that cannot
change the match: in front of and behind what needs it when its width is fixed, and wherever the
first match is the only one wanted.
-/

namespace NamedCapture.Regex

inductive Insn where
  | set (s : CharSet)
  | anchor (a : Anchor)
  | split (first second : Nat)
  | jump (target : Nat)
  | save (slot : Nat)
  | zero (slot : Nat)
  | restore (slot : Nat)
  | back (count : Nat)
  /-- What a negative look must not find has been found: fail, and with it every choice made since
  the instruction that ends the look was set up as the way out. -/
  | failLook
  /-- One more turn of a repetition, or its end at `exit`.  `counter` is the slot that counts the
  turns.  With `check`, a turn that has consumed nothing fails, and `check` is the slot for the
  position at which a turn began. -/
  | turn (lo : Nat) (hi : Option Nat) (greedy : Bool) (exit counter : Nat) (check : Option Nat)
  | backref (group : Nat)
  | isSet (group : Nat)
  | beginAtomic
  | endAtomic
  | searchStart
  /-- The one preferred match of an automaton from here, setting the groups of a list. -/
  | automaton (a : Automaton) (groups : List Nat)
  | accept

abbrev Code := List Insn

namespace Program

abbrev Built := Option (Code × Nat)

mutual

def groupsOf : Expr → List Nat
  | .group i e => i :: groupsOf e
  | .concat es | .alt es => groupsOfAll es
  | .rep e _ _ _ | .atomic e | .look _ _ e => groupsOf e
  | .cond test yes no => groupsOf test ++ groupsOf yes ++ groupsOf no
  | _ => []

def groupsOfAll : List Expr → List Nat
  | [] => []
  | e :: es => groupsOf e ++ groupsOfAll es

end

def sets? : List Expr → Option (List CharSet)
  | [] => some []
  | .set s :: es => (sets? es).map (s :: ·)
  | _ => none

def delegate (es : List Expr) : Option Code :=
  if es.isEmpty then some []
  else
    match sets? es with
    | some sets => some (sets.map .set)
    | none => do
      let p ← (Plain.ofExprs? es).map Plain.mkConcat
      let a ← Automaton.ofPlain? p
      some [.automaton a (groupsOfAll es)]

def isSimple (refs : List Nat) (e : Expr) : Bool := e.isFixed && !e.needsBacktracking refs

/-- A look at the expression of `code`, which stands behind the instruction that begins the look
and, for a look behind, the one that goes back.  `slot` is for the position to return to. -/
def wrapLook (negative : Bool) (width : Option Nat) (base slot : Nat) (code : Code) : Code :=
  let inner := match width with
    | some n => .back n :: code
    | none => code
  if negative then .split (base + 1) (base + inner.length + 2) :: inner ++ [.failLook]
  else .save slot :: inner ++ [.restore slot]

mutual

/-- Instructions for an expression that stand from `base` on.  Unless `backtracks`, nothing that
follows can want another match than the preferred one. -/
def emit (refs : List Nat) (backtracks : Bool) (e : Expr) (base free : Nat) : Built :=
  if !backtracks && !e.needsBacktracking refs then (delegate [e]).map (·, free)
  else
    match e with
    | .empty => some ([], free)
    | .set s => some ([.set s], free)
    | .anchor a => some ([.anchor a], free)
    | .backref i => some ([.backref i], free)
    | .isSet i => some ([.isSet i], free)
    | .keepOut => some ([.save 0], free)
    | .searchStart => some ([.searchStart], free)
    | .group i e => do
      let (code, free) ← emit refs backtracks e (base + 1) free
      some (.save (2 * i) :: code ++ [.save (2 * i + 1)], free)
    | .atomic e => do
      let (code, free) ← emit refs false e (base + 1) free
      some (.beginAtomic :: code ++ [.endAtomic], free)
    | .alt es => emitAlt refs backtracks es base free
    | .concat es => do
      -- the ends are left to automata as far as that cannot change the match
      let ahead := (es.takeWhile (isSimple refs)).length
      let rest := es.drop ahead
      let trailing :=
        if backtracks then isSimple refs else fun e => !e.needsBacktracking refs
      let behind := (rest.reverse.takeWhile trailing).length
      let middle := rest.length - behind
      let first ← delegate (es.take ahead)
      let (code, free) ← emitRun refs ahead middle es (base + first.length) free
      let last ← delegate (rest.drop middle)
      some (first ++ code ++ last, free)
    | .rep e lo hi greedy =>
      if lo = 0 ∧ hi = some 1 then do
        let (code, free) ← emit refs backtracks e (base + 1) free
        let inside := base + 1
        let exit := inside + code.length
        some ((if greedy then .split inside exit else .split exit inside) :: code, free)
      else
        let backtracks := backtracks || e.needsBacktracking refs
        if hi = none ∧ e.leastWidth = 0 then do
          -- without a limit only turns that consume something come to an end
          let (code, next) ← emit refs backtracks e (base + 2) (free + 2)
          let exit := base + 2 + code.length + 1
          some (.zero free :: .turn lo none greedy exit free (some (free + 1)) ::
            code ++ [.jump (base + 1)], next)
        else if lo = 0 ∧ hi = none then do
          let (code, free) ← emit refs backtracks e (base + 1) free
          let inside := base + 1
          let exit := inside + code.length + 1
          some ((if greedy then .split inside exit else .split exit inside) ::
            code ++ [.jump base], free)
        else if lo = 1 ∧ hi = none then do
          let (code, free) ← emit refs backtracks e base free
          let exit := base + code.length + 1
          some (code ++ [if greedy then .split base exit else .split exit base], free)
        else do
          let (code, next) ← emit refs backtracks e (base + 2) (free + 1)
          let exit := base + 2 + code.length + 1
          some (.zero free :: .turn lo hi greedy exit free none ::
            code ++ [.jump (base + 1)], next)
    | .look behind negative e =>
      if behind && !e.isFixed then
        match e with
        | .alt es =>
          if negative then emitLooksBehind refs es base free
          else emitEitherBehind refs es base free
        | _ => none
      else do
        let start := if behind then base + 2 else base + 1
        let (code, next) ← emit refs false e start (free + 1)
        some (wrapLook negative (if behind then some e.leastWidth else none) base free code, next)
    | .cond test yes no => do
      let (test, free) ← emit refs backtracks test (base + 2) free
      let yesAt := base + 2 + test.length + 1
      let (yes, free) ← emit refs backtracks yes yesAt free
      let noAt := yesAt + yes.length + 1
      let (no, free) ← emit refs backtracks no noAt free
      -- once the test has held, its failing is no longer a way on
      some (.beginAtomic :: .split (base + 2) noAt :: test ++ [.endAtomic] ++ yes ++
        [.jump (noAt + no.length)] ++ no, free)

def emitRun (refs : List Nat) (skip take : Nat) (es : List Expr) (base free : Nat) : Built :=
  match es, skip, take with
  | [], _, _ => some ([], free)
  | _ :: es, n + 1, _ => emitRun refs n take es base free
  | _ :: _, 0, 0 => some ([], free)
  | e :: es, 0, n + 1 => do
    let (code, free) ← emit refs true e base free
    let (rest, free) ← emitRun refs 0 n es (base + code.length) free
    some (code ++ rest, free)

def emitAlt (refs : List Nat) (backtracks : Bool) (es : List Expr) (base free : Nat) : Built :=
  match es with
  | [] => some ([], free)
  | [e] => emit refs backtracks e base free
  | e :: es => do
    let (code, free) ← emit refs backtracks e (base + 1) free
    let nextAt := base + 1 + code.length + 1
    let (rest, free) ← emitAlt refs backtracks es nextAt free
    some (.split (base + 1) nextAt :: code ++ [.jump (nextAt + rest.length)] ++ rest, free)

def emitLooksBehind (refs : List Nat) (es : List Expr) (base free : Nat) : Built :=
  match es with
  | [] => some ([], free)
  | e :: es =>
    if !e.isFixed then none
    else do
      let (code, free) ← emit refs false e (base + 2) free
      let look := wrapLook true (some e.leastWidth) base 0 code
      let (rest, free) ← emitLooksBehind refs es (base + look.length) free
      some (look ++ rest, free)

def emitEitherBehind (refs : List Nat) (es : List Expr) (base free : Nat) : Built :=
  match es with
  | [] => some ([], free)
  | e :: es =>
    if !e.isFixed then none
    else do
      let start := if es.isEmpty then base else base + 1
      let (code, next) ← emit refs false e (start + 2) (free + 1)
      let look := wrapLook false (some e.leastWidth) start free code
      if es.isEmpty then some (look, next)
      else
        let nextAt := start + look.length + 1
        let (rest, next) ← emitEitherBehind refs es nextAt next
        some (.split start nextAt :: look ++ [.jump (nextAt + rest.length)] ++ rest, next)

end

/-- The program of a pattern: a search that tries each position in turn, the whole match as group
0, and behind it the end.  Gives the number of slots too. -/
def assemble (refs : List Nat) (groupCount : Nat) (e : Expr) : Option (Array Insn × Nat) := do
  let (code, free) ← emit refs true e 4 (2 * (groupCount + 1))
  -- try here first, and else one character further on
  let search : Code := [.split 3 1, .set .all, .jump 0, .save 0]
  let stop : Code := [.save 1, .accept]
  some ((search ++ code ++ stop).toArray, free)

end Program
end NamedCapture.Regex
