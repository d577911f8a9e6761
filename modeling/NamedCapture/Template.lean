import NamedCapture.Match

/-!
Replacement templates.  A `$` refers to a part of the match or of the subject around it: `$$` is
`$` itself, `$&` the match, `$1` to `$99` a group, `$<name>` a name, and a grave accent or an
apostrophe after `$` stand for what lies before or after the match.  A `$` that refers to nothing
stays as it is.
-/

namespace NamedCapture

inductive Template.Part where
  | literal (text : Text)
  | group (index : Nat)
  | named (name : Text)
  | whole
  | before
  | after
  deriving DecidableEq, Repr

abbrev Template := List Template.Part

namespace Template

def digit? (c : Char) : Option Nat := if c.isDigit then some (c.toNat - '0'.toNat) else none

/-- The number of a group at the front of a text and the number of its digits.  Two digits are
read when there is a group of that number, and else one. -/
def groupNumber? (count : Nat) (text : Text) : Option (Nat × Nat) :=
  let valid (n : Nat) : Bool := 1 ≤ n && n ≤ count
  match text.head? >>= digit? with
  | none => none
  | some tens =>
    let one := if valid tens then some (tens, 1) else none
    match text.tail.head? >>= digit? with
    | none => one
    | some ones => if valid (10 * tens + ones) then some (10 * tens + ones, 2) else one

/-- What a `$` before a text refers to, and how many characters of the text belong to it. -/
def reference? (table : GroupTable) : Text → Option (Part × Nat)
  | '&' :: _ => some (.whole, 1)
  | '\x60' :: _ => some (.before, 1)
  | '\x27' :: _ => some (.after, 1)
  | '<' :: rest =>
    let name := rest.takeWhile (· != '>')
    if table.hasNames && name.length < rest.length then some (.named name, name.length + 2)
    else none
  | text => (groupNumber? table.count text).map fun (n, length) => (.group n, length)

def consChar (c : Char) : Template → Template
  | .literal t :: parts => .literal (c :: t) :: parts
  | parts => .literal [c] :: parts

/-- The parts of a text whose first `skip` characters belong to the part before. -/
def parseFrom (table : GroupTable) (skip : Nat) : Text → Template
  | [] => []
  | c :: rest =>
    match skip with
    | n + 1 => parseFrom table n rest
    | 0 =>
      if c ≠ '$' then consChar c (parseFrom table 0 rest)
      else if rest.head? = some '$' then consChar '$' (parseFrom table 1 rest)
      else
        match reference? table rest with
        | some (part, length) => part :: parseFrom table length rest
        | none => consChar '$' (parseFrom table 0 rest)

def parse (table : GroupTable) (text : Text) : Template := parseFrom table 0 text

/-- The text a part stands for.  Unset and unknown groups stand for nothing. -/
def Part.expand (m : NamedMatch) : Part → Text
  | literal t => t
  | group n => (m.get? n).getD []
  | named name => (m.group? name).getD []
  | whole => m.text
  | before => Text.takeBytes m.whole.start m.subject
  | after => Text.dropBytes m.whole.stop m.subject

def expand (t : Template) (m : NamedMatch) : Text := t.flatMap (Part.expand m)

theorem expand_consChar (c : Char) (t : Template) (m : NamedMatch) :
    expand (consChar c t) m = c :: expand t m := by
  unfold consChar
  split <;> rfl

end Template
end NamedCapture
