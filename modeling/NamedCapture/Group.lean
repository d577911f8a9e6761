import NamedCapture.Text

/-!
The capturing groups of a pattern.  A group table holds every group in order of its opening
parenthesis, and beside that list the index that each name is bound to.  A name given twice is
bound to the later group; the earlier one stays in the list.
-/

namespace NamedCapture

structure Group where
  /-- Counted from 1, because 0 is the whole match. -/
  index : Nat
  name : Option Text
  offset : Nat
  deriving DecidableEq, Repr

def Group.isNamed (g : Group) : Bool := g.name.isSome

/-- Names with the index each is bound to, in ascending order of the names. -/
abbrev Bindings := List (Text × Nat)

namespace Bindings

/-- Bind a name, over an earlier binding if there is one. -/
def bind (name : Text) (index : Nat) : Bindings → Bindings
  | [] => [(name, index)]
  | (n, i) :: rest =>
    if name = n then (name, index) :: rest
    else if name < n then (name, index) :: (n, i) :: rest
    else (n, i) :: bind name index rest

def indexOf? (name : Text) : Bindings → Option Nat
  | [] => none
  | (n, i) :: rest => if n = name then some i else indexOf? name rest

theorem indexOf?_bind (name other : Text) (index : Nat) (bs : Bindings) :
    indexOf? other (bind name index bs) =
      if name = other then some index else indexOf? other bs := by
  induction bs with
  | nil => simp [bind, indexOf?]
  | cons b rest ih =>
    obtain ⟨n, i⟩ := b
    by_cases hn : name = n
    · subst hn
      by_cases ho : name = other <;> simp [bind, indexOf?, ho]
    · by_cases hlt : name < n
      · simp [bind, hn, hlt, indexOf?]
      · by_cases ho : n = other
        · subst ho
          simp [bind, hn, hlt, indexOf?]
        · simp [bind, hn, hlt, indexOf?, ho, ih]

end Bindings

structure GroupTable where
  groups : List Group := []
  bindings : Bindings := []
  deriving DecidableEq, Repr

namespace GroupTable

def empty : GroupTable := {}

def count (t : GroupTable) : Nat := t.groups.length

def nameCount (t : GroupTable) : Nat := t.bindings.length

def hasNames (t : GroupTable) : Bool := !t.bindings.isEmpty

def register (t : GroupTable) (name : Option Text) (offset : Nat) : Nat × GroupTable :=
  let index := t.count + 1
  let bindings := match name with
    | some n => t.bindings.bind n index
    | none => t.bindings
  (index, { groups := t.groups ++ [⟨index, name, offset⟩], bindings })

def indexOf? (t : GroupTable) (name : Text) : Option Nat := t.bindings.indexOf? name

def contains (t : GroupTable) (name : Text) : Bool := (t.indexOf? name).isSome

/-- The group of an index; there is none of index 0. -/
def get? (t : GroupTable) (index : Nat) : Option Group :=
  match index with
  | 0 => none
  | i + 1 => t.groups[i]?

def names (t : GroupTable) : List Text := t.bindings.map (·.1)

structure Cursor where
  rest : Bindings

def cursor (t : GroupTable) : Cursor := ⟨t.bindings⟩

namespace Cursor

def remaining (c : Cursor) : Nat := c.rest.length

def next : Cursor → Option (Text × Nat) × Cursor
  | ⟨[]⟩ => (none, ⟨[]⟩)
  | ⟨b :: rest⟩ => (some b, ⟨rest⟩)

/-- The pairs of up to `n` steps, and the walk after them. -/
def take : Nat → Cursor → List (Text × Nat) × Cursor
  | 0, c => ([], c)
  | n + 1, c =>
    match c.next with
    | (none, c) => ([], c)
    | (some b, c) =>
      let (taken, c) := take n c
      (b :: taken, c)

end Cursor

structure Opening where
  name : Option Text
  offset : Nat
  deriving DecidableEq, Repr

def registerAll (t : GroupTable) (openings : List Opening) : GroupTable :=
  openings.foldl (fun t o => (t.register o.name o.offset).2) t

def ofOpenings (openings : List Opening) : GroupTable := empty.registerAll openings

@[simp] theorem count_register (t : GroupTable) (name : Option Text) (offset : Nat) :
    (t.register name offset).2.count = t.count + 1 := by
  simp [register, count]

theorem count_registerAll (t : GroupTable) (openings : List Opening) :
    (t.registerAll openings).count = t.count + openings.length := by
  induction openings generalizing t with
  | nil => rfl
  | cons o os ih =>
    have h := ih (t.register o.name o.offset).2
    simp only [registerAll, List.foldl_cons, List.length_cons] at h ⊢
    rw [h, count_register]
    omega

end GroupTable
end NamedCapture
