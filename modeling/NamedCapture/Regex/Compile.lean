import NamedCapture.Engine
import NamedCapture.Regex.Backtrack
import NamedCapture.Regex.Reader

/-!
Compiling patterns.  A pattern that needs no backtracking becomes an automaton and never gives up;
any other becomes a program that runs on a budget.
-/

namespace NamedCapture.Regex

inductive Machine where
  | automaton (a : Automaton)
  | program (code : Array Insn) (slotCount : Nat)

structure Compiled where
  machine : Machine
  /-- Number of captures stated, the whole match included. -/
  captureCount : Nat
  /-- Number of captures given with a match. -/
  entries : Nat

/-- The automaton of a pattern, or its program.  An automaton forgets a group that is repeated no
times, and then states fewer captures; it still gives an entry for each up to the last it keeps. -/
def Pattern.compile? (p : Pattern) : Option Compiled :=
  if p.expr.needsBacktracking p.refs then do
    let (code, slotCount) ← Program.assemble p.refs p.groupCount p.expr
    some
      { machine := .program code slotCount
        captureCount := p.groupCount + 1
        entries := p.groupCount + 1 }
  else do
    let plain ← Plain.ofExpr? p.expr
    let automaton ← Automaton.ofPlain? (.capture 0 plain)
    some
      { machine := .automaton automaton
        captureCount := plain.captures.length + 1
        entries := plain.captures.foldl max 0 + 1 }

namespace Compiled

def run (c : Compiled) (budget : Nat) (s : Subject) (position : Nat) : RunEnd :=
  match c.machine with
  | .automaton a =>
    match a.search s (Array.replicate (2 * c.entries) none) position with
    | some path => .matched path.slots
    | none => .failed
  | .program code slotCount => Program.search code slotCount budget s position

def search (c : Compiled) (budget : Nat) (t : Text) (offset : Nat) : Outcome :=
  let s := Subject.ofText t
  match c.run budget s (s.position offset) with
  | .failed => .absent
  | .gaveUp => .gaveUp
  | .matched slots =>
    match slots.span? s 0 with
    | none => .absent
    | some whole =>
      .found whole ((List.range (c.entries - 1)).map fun i => slots.span? s (i + 1))

def toEngine (c : Compiled) (budget : Nat) : Engine :=
  { captureCount := c.captureCount
    search := c.search budget
    test := fun t =>
      match c.search budget t 0 with
      | .found .. => some true
      | .absent => some false
      | .gaveUp => none }

end Compiled

def defaultBudget : Nat := 1000000

def dialect (budget : Nat) : Dialect := fun pattern => do
  let p ← Pattern.read? pattern
  let c ← p.compile?
  some (c.toEngine budget)

end NamedCapture.Regex
