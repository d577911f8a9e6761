import NamedCapture.Regex.Program

/-!
Running programs.  A thread is a place in the program and in the subject with what has been
captured so far.  When a thread fails, the latest choice that is still open is taken up; each time
is charged to a budget, and when that is spent the run gives up.
-/

namespace NamedCapture.Regex

structure Thread where
  pc : Nat
  position : Nat
  slots : Slots
  /-- How many choices were open when each atomic part that is under way began. -/
  marks : List Nat

inductive Effect where
  | go (t : Thread)
  | fork (t other : Thread)
  | fail
  /-- Go on as `t` with only the `count` oldest choices open. -/
  | cut (t : Thread) (count : Nat)
  /-- Fail, and drop choices up to the one that stands at `pc`. -/
  | dropTo (pc : Nat)
  | done (t : Thread)

namespace Thread

def jumpTo (t : Thread) (pc : Nat) : Thread := { t with pc }

def next (t : Thread) : Thread := t.jumpTo (t.pc + 1)

def put (t : Thread) (slot value : Nat) : Thread := { t with slots := t.slots.put slot (some value) }

def afterRef (s : Subject) (t : Thread) (group : Nat) : Option Thread := do
  let start ← t.slots.get (2 * group)
  let stop ← t.slots.get (2 * group + 1)
  let width := stop - start
  let same := (List.range width).all fun i =>
    match s.chars[start + i]?, s.chars[t.position + i]? with
    | some c, some d => c == d
    | _, _ => false
  if start ≤ stop && same then some { t with position := t.position + width } else none

def turn (t : Thread) (lo : Nat) (hi : Option Nat) (greedy : Bool) (exit counter : Nat)
    (check : Option Nat) : Effect :=
  let turns := (t.slots.get counter).getD 0
  if hi = some turns then .go (t.jumpTo exit)
  else if turns > lo && check.any (fun slot => t.slots.get slot == some t.position) then .fail
  else
    let t := t.put counter (turns + 1)
    if turns < lo then .go t.next
    else
      let t := match check with
        | some slot => t.put slot t.position
        | none => t
      if greedy then .fork t.next (t.jumpTo exit) else .fork (t.jumpTo exit) t.next

end Thread

namespace Insn

/-- Run one instruction.  `origin` is where the search started and `opened` how many choices are
open. -/
def run (s : Subject) (origin opened : Nat) (t : Thread) : Insn → Effect
  | set chars =>
    if s.isIn chars t.position then .go { t.next with position := t.position + 1 } else .fail
  | anchor a => if s.holds a t.position then .go t.next else .fail
  | split first second => .fork (t.jumpTo first) (t.jumpTo second)
  | jump target => .go (t.jumpTo target)
  | save slot => .go (t.put slot t.position).next
  | zero slot => .go (t.put slot 0).next
  | restore slot =>
    match t.slots.get slot with
    | some position => .go { t.next with position }
    | none => .fail
  | back count =>
    if count ≤ t.position then .go { t.next with position := t.position - count } else .fail
  | failLook => .dropTo (t.pc + 1)
  | turn lo hi greedy exit counter check => t.turn lo hi greedy exit counter check
  | backref group =>
    match t.afterRef s group with
    | some t => .go t.next
    | none => .fail
  | isSet group => if (t.slots.get (2 * group)).isSome then .go t.next else .fail
  | beginAtomic => .go { t.next with marks := opened :: t.marks }
  | endAtomic =>
    match t.marks with
    | count :: marks => .cut { t.next with marks } count
    | [] => .go t.next
  | searchStart => if t.position = origin then .go t.next else .fail
  | automaton a groups =>
    match a.matchAt s (groups.foldl Slots.clearGroup t.slots) t.position with
    | some path => .go { t.next with position := path.position, slots := path.slots }
    | none => .fail
  | accept => .done t

end Insn

inductive RunEnd where
  | matched (slots : Slots)
  | failed
  | gaveUp

namespace Program

def openLimit : Nat := 1000000

def dropTo (pc : Nat) : List Thread → List Thread
  | [] => []
  | t :: rest => if t.pc = pc then rest else dropTo pc rest

/-- Run a thread with the choices that are open, of which there are `opened`.  `budget` is what is
left for taking up choices. -/
def run (program : Array Insn) (s : Subject) (origin : Nat) :
    Nat → Nat → Thread → Nat → List Thread → RunEnd
  | 0, _, _, _, _ => .gaveUp
  | fuel + 1, budget, t, opened, choices =>
    let resume (opened : Nat) (choices : List Thread) : RunEnd :=
      match choices with
      | [] => .failed
      | t :: choices =>
        match budget with
        | 0 => .gaveUp
        | budget + 1 => run program s origin fuel budget t (opened - 1) choices
    match (program.getD t.pc .accept).run s origin opened t with
    | .go t => run program s origin fuel budget t opened choices
    | .fork t other =>
      if openLimit ≤ opened then .gaveUp
      else run program s origin fuel budget t (opened + 1) (other :: choices)
    | .fail => resume opened choices
    | .cut t count =>
      run program s origin fuel budget t (min count opened) (choices.drop (opened - count))
    | .dropTo pc =>
      let choices := dropTo pc choices
      resume choices.length choices
    | .done t => .matched t.slots

def stepLimit : Nat := 0x1000000000000000

/-- Search from a position.  The start of a match that was moved behind its end is put at the
end. -/
def search (program : Array Insn) (slotCount budget : Nat) (s : Subject) (position : Nat) :
    RunEnd :=
  let start : Thread := { pc := 0, position, slots := Array.replicate slotCount none, marks := [] }
  match run program s position stepLimit budget start 0 [] with
  | .matched slots =>
    match slots.get 0, slots.get 1 with
    | some start, some stop => .matched (if stop < start then slots.put 0 (some stop) else slots)
    | _, _ => .matched slots
  | ended => ended

end Program
end NamedCapture.Regex
