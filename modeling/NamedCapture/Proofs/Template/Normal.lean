import Mathlib.Data.List.Chain
import NamedCapture.Proofs.Template

/-!
# The form of a parsed template

Literal text is joined as it is read, so that a literal of a template is never empty and never
stands beside another one, and what is referred to are groups and names that there can be
(`normal_parse`).  Text without a `$` in front of a template is spelled in front of its parts
(`parse_append`), and is all there is to a template that has no `$` (`parse_literal`).
-/

namespace NamedCapture.Template

def Part.isLiteral : Part → Bool
  | literal _ => true
  | _ => false

def Part.Possible (table : GroupTable) : Part → Prop
  | literal t => t ≠ []
  | group n => 1 ≤ n ∧ n ≤ min table.count 99
  | named name => table.hasNames = true ∧ '>' ∉ name
  | _ => True

structure Normal (table : GroupTable) (parts : Template) : Prop where
  possible : ∀ part ∈ parts, part.Possible table
  /-- No two literals stand beside each other. -/
  apart : parts.IsChain fun p q => p.isLiteral = true → q.isLiteral = false

section Normal

variable {table : GroupTable} {parts : Template} {part : Part}

theorem normal_nil : Normal table [] := ⟨nofun, .nil⟩

theorem normal_cons_iff :
    Normal table (part :: parts) ↔ part.Possible table ∧
      (∀ q ∈ parts.head?, part.isLiteral = true → q.isLiteral = false) ∧ Normal table parts := by
  constructor
  · rintro ⟨hpossible, hapart⟩
    obtain ⟨hhead, htail⟩ := List.isChain_cons.mp hapart
    exact ⟨hpossible part List.mem_cons_self, hhead,
      ⟨fun q hq => hpossible q (List.mem_cons_of_mem part hq), htail⟩⟩
  · rintro ⟨hpart, hhead, hpossible, hapart⟩
    exact ⟨List.forall_mem_cons.mpr ⟨hpart, hpossible⟩, List.isChain_cons.mpr ⟨hhead, hapart⟩⟩

theorem Normal.consChar (h : Normal table parts) (c : Char) : Normal table (consChar c parts) := by
  unfold Template.consChar
  split
  · rename_i t rest
    obtain ⟨-, hhead, hrest⟩ := normal_cons_iff.mp h
    exact normal_cons_iff.mpr ⟨List.cons_ne_nil c t, hhead, hrest⟩
  · rename_i hliteral
    refine normal_cons_iff.mpr ⟨List.cons_ne_nil c [], fun q hq _ => ?_, h⟩
    obtain ⟨rest, rfl⟩ := List.head?_eq_some_iff.mp hq
    cases q with
    | literal t => exact absurd rfl (hliteral t rest)
    | _ => rfl

theorem Refers.possible {t rest : Text} (h : Refers table t part rest) : part.Possible table := by
  cases h with
  | dollar => exact List.cons_ne_nil '$' []
  | whole => trivial
  | before => trivial
  | after => trivial
  | twoDigits _ htens hones h =>
    obtain ⟨hpos, hcount⟩ := h
    exact ⟨hpos, Nat.le_min.mpr ⟨hcount, by omega⟩⟩
  | oneDigit hn h =>
    obtain ⟨hpos, hcount⟩ := h
    exact ⟨hpos, Nat.le_min.mpr ⟨hcount, by omega⟩⟩
  | named _ hnames hname => exact ⟨hnames, hname⟩

theorem isLiteral_of_reference? {t : Text} {length : Nat}
    (h : reference? table t = some (part, length)) : part.isLiteral = false := by
  unfold reference? at h
  split at h
  · cases h
    rfl
  · cases h
    rfl
  · cases h
    rfl
  · dsimp only at h
    split at h <;> cases h
    rfl
  · obtain ⟨_, -, heq⟩ := Option.map_eq_some_iff.mp h
    cases heq
    rfl

theorem normal_parseFrom (table : GroupTable) (skip : Nat) (t : Text) :
    Normal table (parseFrom table skip t) := by
  induction t generalizing skip with
  | nil => exact normal_nil
  | cons c rest ih =>
    unfold parseFrom
    split
    · exact ih _
    · split
      · exact (ih 0).consChar c
      · split
        · exact (ih 1).consChar '$'
        · split
          · rename_i part length hfound
            have hliteral := isLiteral_of_reference? hfound
            refine normal_cons_iff.mpr ⟨(refers_of_reference? hfound).possible, ?_, ih length⟩
            intro q _ h
            rw [hliteral] at h
            cases h
          · exact (ih 0).consChar '$'

theorem normal_parse (table : GroupTable) (t : Text) : Normal table (parse table t) :=
  normal_parseFrom table 0 t

end Normal

/-! ## Text in front of a template -/

/-- Text in front of parts, joined to literal text. -/
def spell (t : Text) (parts : Template) : Template := t.foldr consChar parts

/-- Text as parts of a template: none at all where there is no text. -/
def literals : Text → Template
  | [] => []
  | c :: t => [.literal (c :: t)]

variable {table : GroupTable}

theorem spell_append (s t : Text) (parts : Template) : spell (s ++ t) parts = spell s (spell t parts) :=
  List.foldr_append

theorem spell_eq_literals (t : Text) {parts : Template}
    (h : ∀ q ∈ parts.head?, q.isLiteral = false) : spell t parts = literals t ++ parts := by
  induction t with
  | nil => rfl
  | cons c t ih =>
    show consChar c (spell t parts) = .literal (c :: t) :: parts
    rw [ih]
    cases t with
    | cons d t => rfl
    | nil =>
      show consChar c parts = .literal [c] :: parts
      unfold consChar
      split
      · cases h _ rfl
      · rfl

theorem parse_append {t : Text} (h : '$' ∉ t) (rest : Text) :
    parse table (t ++ rest) = spell t (parse table rest) := by
  induction t with
  | nil => rfl
  | cons c t ih =>
    obtain ⟨hc, ht⟩ := not_or.mp (mt List.mem_cons.mpr h)
    rw [List.cons_append, parse_cons (Ne.symm hc), ih ht]
    rfl

theorem parse_literal {t : Text} (h : '$' ∉ t) : parse table t = literals t := by
  have hparse : parse table (t ++ []) = spell t [] := parse_append h []
  have hspell : spell t [] = literals t ++ [] := spell_eq_literals t nofun
  rw [List.append_nil] at hparse hspell
  rw [hparse, hspell]

end NamedCapture.Template
