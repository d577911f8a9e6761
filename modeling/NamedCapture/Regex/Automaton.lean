import NamedCapture.Regex.Plain
import NamedCapture.Regex.Subject

/-!
Automata for plain expressions.  A search follows the paths of an automaton in order of preference
and enters no node twice at one position: a path that comes back to where an earlier one has been
can only end as that one did.  So a search takes time in proportion to the automaton and to the
subject, and never gives up.
-/

namespace NamedCapture.Regex

inductive Node where
  | accept
  | fail
  | set (s : CharSet) (next : Nat)
  | anchor (a : Anchor) (next : Nat)
  | save (slot : Nat) (next : Nat)
  /-- Paths in order of preference. -/
  | split (nexts : List Nat)

structure Automaton where
  nodes : Array Node
  start : Nat

namespace Automaton

def add (nodes : Array Node) (node : Node) : Nat × Array Node := (nodes.size, nodes.push node)

def choice (greedy : Bool) (onward exit : Nat) : Node :=
  .split (if greedy then [onward, exit] else [exit, onward])

def iterate (build : Nat → Array Node → Nat × Array Node) :
    Nat → Nat → Array Node → Nat × Array Node
  | 0, next, nodes => (next, nodes)
  | n + 1, next, nodes =>
    let (next, nodes) := build next nodes
    iterate build n next nodes

mutual

/-- Nodes that match an expression and go on at `next`. -/
def build (p : Plain) (next : Nat) (nodes : Array Node) : Nat × Array Node :=
  match p with
  | .empty => (next, nodes)
  | .chars cs =>
    cs.foldr (fun c (next, nodes) => add nodes (.set (.singleton c) next)) (next, nodes)
  | .set s => add nodes (if s.bounds.isEmpty then .fail else .set s next)
  | .anchor a => add nodes (.anchor a next)
  | .concat ps => buildConcat ps next nodes
  | .alt ps =>
    let (starts, nodes) := buildAlt ps next nodes
    add nodes (.split starts)
  | .capture i p =>
    let (stop, nodes) := add nodes (.save (2 * i + 1) next)
    let (inner, nodes) := build p stop nodes
    add nodes (.save (2 * i) inner)
  | .rep p lo (some hi) greedy =>
    let optional (following : Nat) (nodes : Array Node) : Nat × Array Node :=
      let (inner, nodes) := build p following nodes
      add nodes (choice greedy inner next)
    let (start, nodes) := iterate optional (hi - lo) next nodes
    iterate (build p) lo start nodes
  | .rep p lo none greedy =>
    -- the node to come back to is put in once there is something to come back from
    let (loop, nodes) := add nodes .fail
    let (inner, nodes) := build p loop nodes
    let nodes := nodes.setIfInBounds loop (choice greedy inner next)
    -- no node is entered twice at one place, so what may match nothing needs an entry of its own
    match lo with
    | 0 => if p.consumes then (loop, nodes) else add nodes (choice greedy inner next)
    | n + 1 => iterate (build p) n inner nodes

def buildConcat (ps : List Plain) (next : Nat) (nodes : Array Node) : Nat × Array Node :=
  match ps with
  | [] => (next, nodes)
  | p :: ps =>
    let (next, nodes) := buildConcat ps next nodes
    build p next nodes

def buildAlt (ps : List Plain) (next : Nat) (nodes : Array Node) : List Nat × Array Node :=
  match ps with
  | [] => ([], nodes)
  | p :: ps =>
    let (start, nodes) := build p next nodes
    let (starts, nodes) := buildAlt ps next nodes
    (start :: starts, nodes)

end

def ofPlain? (p : Plain) : Option Automaton :=
  if Plain.weightLimit < p.weight then none
  else
    let (start, nodes) := build p 0 #[.accept]
    some { nodes, start }

structure Path where
  node : Nat
  position : Nat
  slots : Slots

def edges (a : Automaton) : Nat :=
  a.nodes.foldl (fun n node => match node with
    | .split nexts => n + nexts.length
    | _ => n + 1) 0

/-- Follow paths, the first of the list first, up to one that is accepted.  `seen` holds the nodes
that have been entered at each position.  Each node is entered once at each position, so the fuel
is one for each path that leads on from there, and one for each path at the start. -/
def follow (a : Automaton) (s : Subject) : Nat → List Path → Array Bool → Option Path × Array Bool
  | 0, _, seen => (none, seen)
  | _ + 1, [], seen => (none, seen)
  | fuel + 1, path :: rest, seen =>
    let place := path.node * (s.size + 1) + path.position
    if seen.getD place true then follow a s fuel rest seen
    else
      let seen := seen.setIfInBounds place true
      match a.nodes.getD path.node .fail with
      | .accept => (some path, seen)
      | .fail => follow a s fuel rest seen
      | .set set next =>
        if s.isIn set path.position then
          follow a s fuel ({ path with node := next, position := path.position + 1 } :: rest) seen
        else follow a s fuel rest seen
      | .anchor anchor next =>
        if s.holds anchor path.position then follow a s fuel ({ path with node := next } :: rest) seen
        else follow a s fuel rest seen
      | .save slot next =>
        let slots := path.slots.put slot (some path.position)
        follow a s fuel ({ path with node := next, slots } :: rest) seen
      | .split nexts =>
        follow a s fuel (nexts.map (fun node => { path with node }) ++ rest) seen

def fuel (a : Automaton) (s : Subject) : Nat := (a.edges + 1) * (s.size + 1) + 1

def unseen (a : Automaton) (s : Subject) : Array Bool :=
  Array.replicate (a.nodes.size * (s.size + 1)) false

def matchAt (a : Automaton) (s : Subject) (slots : Slots) (position : Nat) : Option Path :=
  (follow a s (a.fuel s) [⟨a.start, position, slots⟩] (a.unseen s)).1

/-- The match that begins first from a position on, with `count` positions to try.  What one
attempt has seen the next need not see again. -/
def searchFrom (a : Automaton) (s : Subject) (slots : Slots) :
    Nat → Nat → Array Bool → Option Path
  | 0, _, _ => none
  | count + 1, position, seen =>
    match follow a s (a.fuel s) [⟨a.start, position, slots⟩] seen with
    | (some path, _) => some path
    | (none, seen) => searchFrom a s slots count (position + 1) seen

def search (a : Automaton) (s : Subject) (slots : Slots) (position : Nat) : Option Path :=
  a.searchFrom s slots (s.size + 1 - position) position (a.unseen s)

end Automaton
end NamedCapture.Regex
