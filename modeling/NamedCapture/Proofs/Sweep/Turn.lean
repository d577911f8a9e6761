import Mathlib.Logic.Relation
import NamedCapture.Annotated
import NamedCapture.Proofs.Bytes
import NamedCapture.Proofs.Turns

/-!
# Reading a pattern with a cursor that counts bytes

A `Sweep` reads a pattern byte by byte and rewrites it on the way: what it has not yet copied is
copied when an annotation is met and once more at the end.  All that it acts on are single bytes,
and a turn that acts on none moves the cursor by one byte, into a character if need be.  Whatever
part of the pattern a turn takes, it takes between two offsets that it has computed, by a cut that
is refused when there is no such part.  Every turn moves the cursor forward (`lt_pos_of_turn`), so
that the loop ends.
-/

namespace NamedCapture.Annotated

inductive Sweep.Mode where
  | pattern
  /-- In a character class, and in how many. -/
  | charClass (depth : Nat)
  /-- Behind a backslash, in that many classes. -/
  | escaped (depth : Nat)
  | comment
  deriving DecidableEq, Repr

def Sweep.Mode.ofPlace : Place → Sweep.Mode
  | .pattern => .pattern
  | .charClass outer => .charClass (outer + 1)
  | .comment => .comment

def Sweep.Mode.ofDepth : Nat → Sweep.Mode
  | 0 => .pattern
  | depth + 1 => .charClass (depth + 1)

structure Sweep where
  mode : Sweep.Mode := .pattern
  verbose : Bool := false
  /-- For each open group, innermost first, what `verbose` was outside it. -/
  scopes : List Bool := []
  /-- What the pattern is without annotations, up to `copied`. -/
  output : Text := []
  copied : Nat := 0
  table : GroupTable := .empty
  pos : Nat := 0
  deriving DecidableEq, Repr

namespace Sweep

inductive Fault where
  | unterminated (e : UnterminatedName)
  | badCut (c : Text.BadCut)
  /-- It wanted to leave a class and was in none. -/
  | noClass
  deriving DecidableEq, Repr

/-- What a `(` opens, with the offsets at which its parts end. -/
inductive Opened where
  | capturing
  | named (nameEnd stop : Nat)
  | flags (stop : Nat) (opens : Bool) (verbose : Option Bool)
  | grouping
  deriving DecidableEq, Repr

def Opened.stop (pos : Nat) : Opened → Nat
  | capturing => pos + 1
  | named _ stop => stop
  | flags stop _ _ => stop
  | grouping => pos + 1

def take (t : Text) (start stop : Nat) : Except Fault Text :=
  (Text.cut t start stop).mapError .badCut

/-! ## Looking ahead -/

/-- Where the members of a class begin, whose `[` stands before `start`. -/
def classBodyStart (pattern : Text) (start : Nat) : Nat :=
  let bytes := Text.bytes pattern
  let members := if bytes[start]? = some '^'.toUInt8 then start + 1 else start
  if bytes[members]? = some ']'.toUInt8 then members + 1 else members

def isFlagByte (b : UInt8) : Bool :=
  'A'.toUInt8 ≤ b && b ≤ 'Z'.toUInt8 || 'a'.toUInt8 ≤ b && b ≤ 'z'.toUInt8 || b == '-'.toUInt8

/-- Read flags from left to right, with what they say so far and whether a `-` was among them. -/
def switch (acc : Option Bool × Bool) (b : UInt8) : Option Bool × Bool :=
  if b = '-'.toUInt8 then (acc.1, true)
  else if b = 'x'.toUInt8 then (some !acc.2, acc.2)
  else acc

/-- What the `(` at `pos` opens when `?<` and then `text` follow it, which is no look behind. -/
def namedOpened (pos : Nat) (text : Text) : Except Fault Opened := do
  let length := Text.byteLength (text.takeWhile isNameChar)
  let behind ← take text length (Text.byteLength text)
  if length = 0 ∨ behind.head? ≠ some '>' then throw (.unterminated ⟨pos⟩)
  else return .named (pos + 3 + length) (pos + 3 + length + 1)

def flagsOpened (pos : Nat) (text : Text) : Except Fault Opened :=
  let length := ((Text.bytes text).takeWhile isFlagByte).length
  let flags (opens : Bool) : Except Fault Opened := do
    let letters ← take text 0 length
    let (verbose, _) := (Text.bytes letters).foldl switch (none, false)
    return .flags (pos + 2 + length + 1) opens verbose
  if (Text.bytes text)[length]? = some ')'.toUInt8 then flags false
  else if (Text.bytes text)[length]? = some ':'.toUInt8 then flags true
  else return .grouping

/-- What the `(` at `pos` opens when `rest` follows it. -/
def openedBy (pos : Nat) (rest : Text) : Except Fault Opened :=
  match rest with
  | '?' :: 'P' :: '<' :: _ => return .capturing
  | '?' :: '<' :: '=' :: _ => return .grouping
  | '?' :: '<' :: '!' :: _ => return .grouping
  | '?' :: '<' :: text => namedOpened pos text
  | '?' :: text => flagsOpened pos text
  | _ => return .capturing

def opened (pattern : Text) (pos : Nat) : Except Fault Opened := do
  let rest ← take pattern (pos + 1) (Text.byteLength pattern)
  openedBy pos rest

/-! ## Turns -/

def advance (s : Sweep) (mode : Mode) : Sweep := { s with mode, pos := s.pos + 1 }

def enter (s : Sweep) : Sweep := { s with scopes := s.verbose :: s.scopes }

/-- A `)` that closes no group changes nothing. -/
def leave (s : Sweep) : Sweep :=
  match s.scopes with
  | [] => s
  | outer :: scopes => { s with verbose := outer, scopes }

def openAs (pattern : Text) (s : Sweep) : Opened → Except Fault Sweep
  | .capturing =>
    return { s.enter with table := (s.table.register none s.pos).2, pos := s.pos + 1 }
  | .named nameEnd stop => do
    let name ← take pattern (s.pos + 3) nameEnd
    let kept ← take pattern s.copied s.pos
    return { s.enter with
      output := s.output ++ (kept ++ ['(']), copied := stop
      table := (s.table.register (some name) s.pos).2, pos := stop }
  | .flags stop opens verbose =>
    let inner := if opens then s.enter else s
    return { inner with verbose := verbose.getD s.verbose, pos := stop }
  | .grouping => return { s.enter with pos := s.pos + 1 }

def openGroup (pattern : Text) (s : Sweep) : Except Fault Sweep := do
  s.openAs pattern (← opened pattern s.pos)

def step (pattern : Text) (s : Sweep) (b : UInt8) : Except Fault Sweep :=
  match s.mode with
  | .escaped depth => return s.advance (.ofDepth depth)
  | .comment => return s.advance (if b = '\n'.toUInt8 then .pattern else .comment)
  | .charClass depth =>
    if b = '\\'.toUInt8 then return s.advance (.escaped depth)
    else if b = '['.toUInt8 then
      return { s with mode := .charClass (depth + 1), pos := classBodyStart pattern (s.pos + 1) }
    else if b = ']'.toUInt8 then
      match depth with
      | 0 => throw .noClass
      | outer + 1 => return s.advance (.ofDepth outer)
    else return s.advance s.mode
  | .pattern =>
    if b = '\\'.toUInt8 then return s.advance (.escaped 0)
    else if b = '['.toUInt8 then
      return { s with mode := .charClass 1, pos := classBodyStart pattern (s.pos + 1) }
    else if b = '#'.toUInt8 ∧ s.verbose then return s.advance .comment
    else if b = '('.toUInt8 then s.openGroup pattern
    else if b = ')'.toUInt8 then return s.leave.advance .pattern
    else return s.advance .pattern

def turn (pattern : Text) (s : Sweep) : Option (Except Fault Sweep) :=
  (Text.bytes pattern)[s.pos]?.map (s.step pattern)

theorem Mode.one_le_of_ofDepth {n depth : Nat} (h : ofDepth n = .charClass depth) : 1 ≤ depth := by
  cases n with
  | zero => cases h
  | succ n =>
    cases h
    exact Nat.succ_le_succ (Nat.zero_le n)

inductive StepCase (pattern : Text) (s : Sweep) (b : UInt8) (outcome : Except Fault Sweep) : Prop
  | advance (u : Sweep) (mode : Mode) (hpos : u.pos = s.pos) (hcopied : u.copied = s.copied)
      (hmode : ∀ depth, mode = .charClass depth → 1 ≤ depth ∨ s.mode = mode)
      (h : outcome = .ok (u.advance mode))
  | openClass (outer : Nat) (h : outcome = .ok { s with
      mode := .charClass (outer + 1), pos := classBodyStart pattern (s.pos + 1) })
  | openGroup (hmode : s.mode = .pattern) (hb : b = '('.toUInt8)
      (h : outcome = s.openGroup pattern)
  | noClass (hmode : s.mode = .charClass 0) (h : outcome = .error .noClass)

theorem step_cases (pattern : Text) (s : Sweep) (b : UInt8) :
    StepCase pattern s b (s.step pattern b) := by
  have hadvance : ∀ mode, (∀ depth, mode = .charClass depth → 1 ≤ depth ∨ s.mode = mode) →
      StepCase pattern s b (.ok (s.advance mode)) :=
    fun mode hmode => .advance s mode rfl rfl hmode rfl
  have hofDepth : ∀ n, StepCase pattern s b (.ok (s.advance (.ofDepth n))) :=
    fun n => hadvance _ fun _ h => Or.inl (Mode.one_le_of_ofDepth h)
  unfold step
  split
  · exact hofDepth _
  · refine hadvance _ fun depth h => ?_
    split at h <;> cases h
  · rename_i depth hmode
    split
    · exact hadvance _ nofun
    · split
      · exact .openClass depth rfl
      · split
        · split
          · exact .noClass hmode rfl
          · exact hofDepth _
        · exact hadvance _ fun _ _ => Or.inr rfl
  · rename_i hmode
    split
    · exact hadvance _ nofun
    · split
      · exact .openClass 0 rfl
      · split
        · exact hadvance _ nofun
        · split
          · rename_i hb
            exact .openGroup hmode hb rfl
          · split
            · refine .advance s.leave .pattern ?_ ?_ nofun rfl
              · unfold leave
                split <;> rfl
              · unfold leave
                split <;> rfl
            · exact hadvance _ nofun

/-! ## Every turn moves the cursor forward -/

section Progress

variable {pattern : Text} {s next : Sweep}

theorem le_classBodyStart (pattern : Text) (start : Nat) : start ≤ classBodyStart pattern start := by
  unfold classBodyStart
  dsimp only
  split <;> split <;> omega

theorem lt_stop_of_namedOpened {pos : Nat} {text : Text} {o : Opened}
    (h : namedOpened pos text = .ok o) : pos < o.stop pos := by
  obtain ⟨behind, -, h⟩ := exists_of_bind h
  split at h
  · cases h
  · cases h
    show pos < pos + 3 + _ + 1
    omega

theorem lt_stop_of_flagsOpened {pos : Nat} {text : Text} {o : Opened}
    (h : flagsOpened pos text = .ok o) : pos < o.stop pos := by
  unfold flagsOpened at h
  dsimp only at h
  split at h
  · obtain ⟨letters, -, h⟩ := exists_of_bind h
    cases h
    show pos < pos + 2 + _ + 1
    omega
  · split at h
    · obtain ⟨letters, -, h⟩ := exists_of_bind h
      cases h
      show pos < pos + 2 + _ + 1
      omega
    · cases h
      exact Nat.lt_succ_self pos

theorem lt_stop_of_opened {pos : Nat} {o : Opened} (h : opened pattern pos = .ok o) :
    pos < o.stop pos := by
  obtain ⟨rest, -, h⟩ := exists_of_bind h
  unfold openedBy at h
  split at h
  · cases h
    exact Nat.lt_succ_self pos
  · cases h
    exact Nat.lt_succ_self pos
  · cases h
    exact Nat.lt_succ_self pos
  · exact lt_stop_of_namedOpened h
  · exact lt_stop_of_flagsOpened h
  · cases h
    exact Nat.lt_succ_self pos

theorem lt_pos_of_openGroup (h : s.openGroup pattern = .ok next) : s.pos < next.pos := by
  obtain ⟨o, ho, h⟩ := exists_of_bind h
  have hlt := lt_stop_of_opened ho
  cases o with
  | capturing =>
    cases h
    exact hlt
  | named nameEnd stop =>
    obtain ⟨name, -, h⟩ := exists_of_bind h
    obtain ⟨kept, -, h⟩ := exists_of_bind h
    cases h
    exact hlt
  | flags stop opens verbose =>
    cases h
    exact hlt
  | grouping =>
    cases h
    exact hlt

theorem lt_pos_of_step {b : UInt8} (h : s.step pattern b = .ok next) : s.pos < next.pos := by
  cases step_cases pattern s b with
  | advance u mode hpos _ _ hstep =>
    cases hstep.symm.trans h
    show s.pos < u.pos + 1
    omega
  | openClass outer hstep =>
    cases hstep.symm.trans h
    exact le_classBodyStart pattern (s.pos + 1)
  | openGroup _ _ hstep => exact lt_pos_of_openGroup (hstep.symm.trans h)
  | noClass _ hstep => cases hstep.symm.trans h

theorem exists_byte_of_turn {outcome : Except Fault Sweep} (h : s.turn pattern = some outcome) :
    ∃ b, (Text.bytes pattern)[s.pos]? = some b ∧ s.step pattern b = outcome :=
  Option.map_eq_some_iff.mp h

theorem lt_pos_of_turn (h : s.turn pattern = some (.ok next)) : s.pos < next.pos := by
  obtain ⟨b, -, hstep⟩ := exists_byte_of_turn h
  exact lt_pos_of_step hstep

theorem pos_lt_of_turn {outcome : Except Fault Sweep} (h : s.turn pattern = some outcome) :
    s.pos < Text.byteLength pattern := by
  obtain ⟨b, hb, -⟩ := exists_byte_of_turn h
  rw [← Text.length_bytes]
  exact (List.getElem?_eq_some_iff.mp hb).1

theorem left_lt_of_turn (h : s.turn pattern = some (.ok next)) :
    Text.byteLength pattern - next.pos < Text.byteLength pattern - s.pos :=
  Nat.sub_lt_sub_left (pos_lt_of_turn h) (lt_pos_of_turn h)

end Progress

/-! ## The loop -/

def loop (pattern : Text) : Sweep → Except Fault Sweep :=
  turns (turn pattern) (fun s => Text.byteLength pattern - s.pos) left_lt_of_turn

def run (pattern : Text) : Except Fault Stripped := do
  let last ← loop pattern {}
  let kept ← take pattern last.copied (Text.byteLength pattern)
  return ⟨last.output ++ kept, last.table⟩

def Reaches (pattern : Text) : Sweep → Sweep → Prop :=
  Relation.ReflTransGen fun s next => s.turn pattern = some (.ok next)

theorem loop_of_reaches {pattern : Text} {s t : Sweep} (h : Reaches pattern s t) :
    loop pattern s = loop pattern t := by
  induction h with
  | refl => rfl
  | tail _ hturn ih => exact ih.trans (turns_ok hturn)

end Sweep
end NamedCapture.Annotated
