import NamedCapture.Proofs.Bytes
import NamedCapture.Proofs.Template.Normal
import NamedCapture.Proofs.Turns

/-!
# Building a template by offsets

A `Builder` reads a template from one `$` to the next.  It finds them by their offsets, tells a
reference by its first byte, and takes every part of the text by a cut that is refused when there is
no such part.  None ever is, whatever characters stand behind a `$`, and what is built is what the
template is parsed as (`build_eq`).
-/

namespace NamedCapture.Template

def offsetOf? (c : Char) (t : Text) : Option Nat :=
  if c ∈ t then some (Text.byteLength (t.takeWhile (· != c))) else none

def isDigitByte (b : UInt8) : Bool := '0'.toUInt8 ≤ b && b ≤ '9'.toUInt8

def numberAt? (count : Nat) (t : Text) : Option (Nat × Nat) :=
  let digits := ((Text.bytes t).take 2).takeWhile isDigitByte
  let values := digits.map fun b => (b - '0'.toUInt8).toNat
  let one := values.head?.bind fun n => if IsGroup count n then some (n, 1) else none
  match values with
  | [tens, ones] =>
    if IsGroup count (tens * 10 + ones) then some (tens * 10 + ones, 2) else one
  | _ => one

/-- The name that a text with a `<` in front begins with, if there is an end to it. -/
def namedAt (t : Text) : Except Text.BadCut (Part × Nat) :=
  match offsetOf? '>' t with
  | some close => do
    let name ← Text.cut t 1 close
    return (.named name, close + 1)
  | none => return (.literal ['$'], 0)

/-- What a `$` in front of a text stands for, and how many bytes of the text belong to it. -/
def partAt (table : GroupTable) (t : Text) : Except Text.BadCut (Part × Nat) :=
  match (Text.bytes t).head? with
  | none => return (.literal ['$'], 0)
  | some b =>
    if b = '$'.toUInt8 then return (.literal ['$'], 1)
    else if b = '&'.toUInt8 then return (.whole, 1)
    else if b = '\x60'.toUInt8 then return (.before, 1)
    else if b = '\x27'.toUInt8 then return (.after, 1)
    else if isDigitByte b = true then
      match numberAt? table.count t with
      | some (n, length) => return (.group n, length)
      | none => return (.literal ['$'], 0)
    else if b = '<'.toUInt8 ∧ table.hasNames = true then namedAt t
    else return (.literal ['$'], 0)

structure Builder where
  parts : Template := []
  /-- Literal text behind the parts, which may still grow. -/
  literal : Text := []
  rest : Text
  deriving DecidableEq, Repr

namespace Builder

def put (s : Builder) : Part → Builder
  | .literal t => { s with literal := s.literal ++ t }
  | part => { s with parts := s.parts ++ (literals s.literal ++ [part]), literal := [] }

/-- Read up to the next `$` and what that stands for, if there is one. -/
def turn (table : GroupTable) (s : Builder) : Option (Except Text.BadCut Builder) :=
  (offsetOf? '$' s.rest).map fun dollar => do
    let front ← Text.cut s.rest 0 dollar
    let behind ← Text.cut s.rest (dollar + 1) (Text.byteLength s.rest)
    let (part, used) ← partAt table behind
    let rest ← Text.cut behind used (Text.byteLength behind)
    return { s with literal := s.literal ++ front, rest }.put part

theorem put_rest (s : Builder) (part : Part) : (s.put part).rest = s.rest := by
  cases part <;> rfl

theorem length_lt_of_turn {table : GroupTable} {s next : Builder}
    (h : s.turn table = some (.ok next)) : next.rest.length < s.rest.length := by
  obtain ⟨dollar, -, hturn⟩ := Option.map_eq_some_iff.mp h
  obtain ⟨front, -, hturn⟩ := exists_of_bind hturn
  obtain ⟨behind, hbehind, hturn⟩ := exists_of_bind hturn
  obtain ⟨⟨part, used⟩, -, hturn⟩ := exists_of_bind hturn
  obtain ⟨rest, hrest, hturn⟩ := exists_of_bind hturn
  cases hturn
  obtain ⟨a, b, hsplit, ha, -⟩ := Text.cut_eq_ok_iff.mp hbehind
  obtain ⟨a', b', rfl, -, -⟩ := Text.cut_eq_ok_iff.mp hrest
  have hpos : 0 < a.length := by
    cases a with
    | nil => cases ha
    | cons c a => exact Nat.succ_pos _
  rw [put_rest, hsplit]
  simp only [List.length_append]
  omega

def loop (table : GroupTable) : Builder → Except Text.BadCut Builder :=
  turns (turn table) (fun s => s.rest.length) length_lt_of_turn

def finish (s : Builder) : Template := s.parts ++ literals (s.literal ++ s.rest)

end Builder

def build (table : GroupTable) (t : Text) : Except Text.BadCut Template := do
  let last ← Builder.loop table { rest := t }
  return last.finish

/-! ## What stands behind a `$` -/

section PartAt

variable {table : GroupTable}

theorem toNat_lt_of_isDigit {c : Char} (h : c.isDigit = true) : c.toNat < 128 := by
  simp only [Char.isDigit, Bool.and_eq_true, decide_eq_true_eq, UInt32.le_iff_toNat_le] at h
  exact Nat.lt_of_le_of_lt h.2 (by decide)

theorem isDigitByte_leadByte (c : Char) : isDigitByte (Text.leadByte c) = c.isDigit := by
  rw [Bool.eq_iff_iff]
  simp (disch := decide) only [isDigitByte, Char.isDigit, Bool.and_eq_true, decide_eq_true_eq,
    ge_iff_le, Text.toUInt8_le_leadByte_iff, Text.leadByte_le_toUInt8_iff]

theorem toNat_sub_zero {c : Char} (h : c.isDigit = true) :
    (c.toUInt8 - '0'.toUInt8).toNat = c.toNat - '0'.toNat := by
  have hascii := Text.toNat_toUInt8 (toNat_lt_of_isDigit h)
  have hle : '0'.toUInt8 ≤ c.toUInt8 := by
    simp only [Char.isDigit, Bool.and_eq_true, decide_eq_true_eq, ge_iff_le,
      UInt32.le_iff_toNat_le] at h
    rw [UInt8.le_iff_toNat_le, hascii]
    exact h.1
  rw [UInt8.toNat_sub_of_le _ _ hle, hascii]
  rfl

theorem values_eq (t : Text) :
    (((Text.bytes t).take 2).takeWhile isDigitByte).map (fun b => (b - '0'.toUInt8).toNat) =
      ((t.takeWhile Char.isDigit).take 2).map fun c => c.toNat - '0'.toNat := by
  have hdigits : ∀ c ∈ t.takeWhile Char.isDigit, c.isDigit = true :=
    List.all_eq_true.mp List.all_takeWhile
  rw [← List.take_takeWhile, Text.takeWhile_bytes isDigitByte_leadByte fun _ => toNat_lt_of_isDigit,
    Text.bytes_ascii fun c hc => toNat_lt_of_isDigit (hdigits c hc), ← List.map_take, List.map_map]
  exact List.map_congr_left fun c hc => toNat_sub_zero (hdigits c (List.mem_of_mem_take hc))

theorem numberAt?_eq (count : Nat) (t : Text) : numberAt? count t = groupNumber? count t := by
  unfold numberAt?
  dsimp only
  rw [values_eq]
  cases t with
  | nil => rfl
  | cons c rest =>
    rw [groupNumber?_cons, digit?]
    by_cases hc : c.isDigit = true
    · rw [List.takeWhile_cons_of_pos hc, if_pos hc]
      cases rest with
      | nil => rfl
      | cons d rest =>
        show _ = Option.or (Option.bind (digit? d) _) _
        rw [digit?]
        by_cases hd : d.isDigit = true
        · rw [List.takeWhile_cons_of_pos hd, if_pos hd]
          show (if IsGroup count (_ * 10 + _) then _ else _) = Option.or (if _ then _ else _) _
          rw [Nat.mul_comm _ 10]
          split <;> rfl
        · rw [List.takeWhile_cons_of_neg hd, if_neg hd]
          rfl
    · rw [List.takeWhile_cons_of_neg hc, if_neg hc]
      rfl

theorem offsetOf?_append {c : Char} {s : Text} (h : c ∉ s) (r : Text) :
    offsetOf? c (s ++ c :: r) = some (Text.byteLength s) := by
  rw [offsetOf?, if_pos (List.mem_append_right s List.mem_cons_self), takeWhile_ne h]

theorem byteLength_take_of_groupNumber? {count n length : Nat} {t : Text}
    (h : groupNumber? count t = some (n, length)) : Text.byteLength (t.take length) = length := by
  have hsize : ∀ k < 10, k.digitChar.utf8Size = 1 := by decide
  obtain ⟨-, htwo | hone⟩ := groupNumber?_cases h
  · obtain ⟨tens, ones, r, htens, hones, -, rfl, rfl⟩ := htwo
    simp [hsize tens htens, hsize ones hones]
  · obtain ⟨r, hn, rfl, rfl, -⟩ := hone
    simp [hsize n hn]

/-- A reference with its length in bytes, and the `$` itself where there is none. -/
def inBytes (t : Text) : Option (Part × Nat) → Part × Nat
  | some (part, length) => (part, Text.byteLength (t.take length))
  | none => (.literal ['$'], 0)

theorem namedAt_eq (hnames : table.hasNames = true) (rest : Text) :
    namedAt ('<' :: rest) = .ok (inBytes ('<' :: rest) (reference? table ('<' :: rest))) := by
  unfold namedAt
  by_cases hclose : '>' ∈ rest
  · obtain ⟨name, r, rfl, hname⟩ := List.eq_append_cons_of_mem hclose
    have hoffset : offsetOf? '>' ('<' :: (name ++ '>' :: r)) =
        some (Text.byteLength ('<' :: name)) :=
      offsetOf?_append (List.not_mem_cons_of_ne_of_not_mem (by decide) hname) r
    have hcut : Text.cut ('<' :: (name ++ '>' :: r)) 1 (Text.byteLength ('<' :: name)) =
        .ok name := Text.cut_eq_ok_iff.mpr ⟨['<'], '>' :: r, rfl, rfl, rfl⟩
    have hfound : reference? table ('<' :: (name ++ '>' :: r)) =
        some (.named name, name.length + 2) := by
      rw [reference?, takeWhile_ne hname]
      exact if_pos (by simp [hnames])
    rw [hoffset, hfound]
    show (Text.cut _ _ _ >>= _) = _
    rw [hcut]
    have htake : ('<' :: (name ++ '>' :: r)).take (name.length + 2) = '<' :: (name ++ ['>']) := by
      simp [List.take_append, List.take_of_length_le]
    have hlength : Text.byteLength ('<' :: (name ++ ['>'])) = Text.byteLength ('<' :: name) + 1 :=
      Text.byteLength_append ('<' :: name) ['>']
    rw [inBytes, htake, hlength]
    rfl
  · have hoffset : offsetOf? '>' ('<' :: rest) = none :=
      if_neg (List.not_mem_cons_of_ne_of_not_mem (by decide) hclose)
    have hfound : reference? table ('<' :: rest) = none := by
      rw [reference?, takeWhile_ne_self hclose]
      exact if_neg (by simp)
    rw [hoffset, hfound]
    rfl

theorem reference?_other {c : Char} {rest : Text} (hwhole : c ≠ '&') (hbefore : c ≠ '\x60')
    (hafter : c ≠ '\x27') (hangle : c ≠ '<') :
    reference? table (c :: rest) =
      (groupNumber? table.count (c :: rest)).map fun found => (.group found.1, found.2) := by
  unfold reference?
  split
  · exact absurd (List.head_eq_of_cons_eq ‹_›) hwhole
  · exact absurd (List.head_eq_of_cons_eq ‹_›) hbefore
  · exact absurd (List.head_eq_of_cons_eq ‹_›) hafter
  · exact absurd (List.head_eq_of_cons_eq ‹_›) hangle
  · rfl

theorem partAt_eq {t : Text} (h : t.head? ≠ some '$') :
    partAt table t = .ok (inBytes t (reference? table t)) := by
  cases t with
  | nil => rfl
  | cons c rest =>
    have hdollar : c ≠ '$' := fun hc => h (congrArg some hc)
    unfold partAt
    rw [Text.head?_bytes]
    simp (disch := decide) only [List.head?_cons, Option.map_some, isDigitByte_leadByte,
      numberAt?_eq, Text.leadByte_eq_iff]
    rw [if_neg hdollar]
    by_cases hwhole : c = '&'
    · subst hwhole
      rfl
    by_cases hbefore : c = '\x60'
    · subst hbefore
      rfl
    by_cases hafter : c = '\x27'
    · subst hafter
      rfl
    rw [if_neg hwhole, if_neg hbefore, if_neg hafter]
    by_cases hangle : c = '<'
    · subst hangle
      rw [if_neg (by decide)]
      cases hnames : table.hasNames with
      | true => exact namedAt_eq hnames rest
      | false =>
        have hfound : reference? table ('<' :: rest) = none := by
          rw [reference?, hnames]
          rfl
        rw [hfound]
        rfl
    · rw [reference?_other hwhole hbefore hafter hangle, if_neg fun h : _ ∧ _ => hangle h.1]
      by_cases hdigit : c.isDigit = true
      · rw [if_pos hdigit]
        cases hnumber : groupNumber? table.count (c :: rest) with
        | none => rfl
        | some found =>
          have hlength := byteLength_take_of_groupNumber? hnumber
          show _ = Except.ok (Part.group found.1, Text.byteLength _)
          rw [hlength]
          rfl
      · have hnumber : groupNumber? table.count (c :: rest) = none := by
          rw [groupNumber?_cons, digit?, if_neg hdigit]
          rfl
        rw [if_neg hdigit, hnumber]
        rfl

def consPart : Part → Template → Template
  | .literal t, parts => spell t parts
  | part, parts => part :: parts

theorem partAt_spec (table : GroupTable) (t : Text) :
    ∃ part used rest, t = used ++ rest ∧ partAt table t = .ok (part, Text.byteLength used) ∧
      parse table ('$' :: t) = consPart part (parse table rest) := by
  by_cases h : t.head? = some '$'
  · obtain ⟨r, rfl⟩ := List.head?_eq_some_iff.mp h
    refine ⟨.literal ['$'], ['$'], r, rfl, rfl, ?_⟩
    rw [parse_dollar, if_pos h]
    rfl
  · cases hfound : reference? table t with
    | none =>
      refine ⟨.literal ['$'], [], t, rfl, ?_, ?_⟩
      · rw [partAt_eq h, hfound]
        rfl
      · rw [parse_dollar, if_neg h, hfound]
        rfl
    | some found =>
      obtain ⟨part, length⟩ := found
      have hliteral := isLiteral_of_reference? hfound
      refine ⟨part, t.take length, t.drop length, (List.take_append_drop length t).symm, ?_, ?_⟩
      · rw [partAt_eq h, hfound]
        rfl
      · rw [parse_dollar, if_neg h, hfound]
        cases part with
        | literal u => cases hliteral
        | _ => rfl

end PartAt

/-! ## What is built -/

namespace Builder

/-- The template that a builder is on the way to. -/
def template (table : GroupTable) (s : Builder) : Template :=
  s.parts ++ spell s.literal (parse table s.rest)

theorem template_put (table : GroupTable) (s : Builder) (part : Part) :
    (s.put part).template table = s.parts ++ spell s.literal (consPart part (parse table s.rest)) := by
  have hpart : part.isLiteral = false →
      s.parts ++ (literals s.literal ++ [part]) ++ spell [] (parse table s.rest) =
        s.parts ++ spell s.literal (part :: parse table s.rest) := by
    intro h
    rw [spell_eq_literals s.literal (fun q hq => by cases hq; exact h)]
    simp [spell]
  cases part with
  | literal t =>
    show s.parts ++ spell (s.literal ++ t) _ = _
    rw [spell_append]
    rfl
  | _ => exact hpart rfl

/-- Every turn succeeds and leaves what is built as it is. -/
theorem turn_spec (table : GroupTable) {s : Builder} (h : '$' ∈ s.rest) :
    ∃ next, s.turn table = some (.ok next) ∧ next.template table = s.template table := by
  obtain ⟨front, behind, hrest, hfront⟩ := List.eq_append_cons_of_mem h
  obtain ⟨part, used, rest, rfl, hpart, hparse⟩ := partAt_spec table behind
  have hcutFront : Text.cut s.rest 0 (Text.byteLength front) = .ok front :=
    Text.cut_eq_ok_iff.mpr ⟨[], _, hrest, rfl, rfl⟩
  have hcutBehind : Text.cut s.rest (Text.byteLength front + 1) (Text.byteLength s.rest) =
      .ok (used ++ rest) := by
    refine Text.cut_eq_ok_iff.mpr ⟨front ++ ['$'], [], ?_, ?_, ?_⟩
    · simp [hrest]
    · exact Text.byteLength_append front ['$']
    · simp [hrest]
  have hcutRest : Text.cut (used ++ rest) (Text.byteLength used) (Text.byteLength (used ++ rest)) =
      .ok rest := Text.cut_behind used rest
  have hturn : s.turn table = some (.ok ({ s with literal := s.literal ++ front, rest }.put part)) := by
    have hoffset : offsetOf? '$' s.rest = some (Text.byteLength front) := by
      rw [hrest, offsetOf?_append hfront]
    rw [turn, hoffset, Option.map_some, hcutFront]
    show some (Text.cut _ _ _ >>= _) = _
    rw [hcutBehind]
    show some (partAt table _ >>= _) = _
    rw [hpart]
    show some (Text.cut _ _ _ >>= _) = _
    rw [hcutRest]
    rfl
  refine ⟨_, hturn, ?_⟩
  rw [template_put]
  show s.parts ++ spell (s.literal ++ front) _ = s.parts ++ spell s.literal (parse table s.rest)
  rw [hrest, parse_append hfront, hparse, spell_append]

theorem finish_eq (table : GroupTable) {s : Builder} (h : '$' ∉ s.rest) : s.finish = s.template table := by
  have hrest : parse table (s.rest ++ []) = spell s.rest [] := parse_append h []
  have hspell : spell (s.literal ++ s.rest) [] = literals (s.literal ++ s.rest) ++ [] :=
    spell_eq_literals _ nofun
  rw [List.append_nil] at hrest hspell
  rw [finish, template, hrest, ← spell_append, hspell]

theorem loop_spec (table : GroupTable) (s : Builder) :
    ∃ last, loop table s = .ok last ∧ last.finish = s.template table := by
  -- a turn takes any number of characters, so the induction is on how many are left
  generalize hn : s.rest.length = n
  induction n using Nat.strongRecOn generalizing s with
  | ind n ih =>
    by_cases h : '$' ∈ s.rest
    · obtain ⟨next, hturn, htemplate⟩ := turn_spec table h
      have hlength := length_lt_of_turn hturn
      obtain ⟨last, hloop, hfinish⟩ := ih next.rest.length (by omega) next rfl
      exact ⟨last, (turns_ok hturn).trans hloop, hfinish.trans htemplate⟩
    · have hturn : s.turn table = none := by
        rw [turn, offsetOf?, if_neg h]
        rfl
      exact ⟨s, turns_none hturn, finish_eq table h⟩

end Builder

theorem build_eq (table : GroupTable) (t : Text) : build table t = .ok (parse table t) := by
  obtain ⟨last, hloop, hfinish⟩ := Builder.loop_spec table { rest := t }
  rw [build, hloop]
  exact congrArg Except.ok hfinish

/-- Whatever its text, a template is built, and of parts in normal form; without a `$` it is the text
itself, if there is any. -/
theorem build_normal (table : GroupTable) (t : Text) :
    build table t = .ok (parse table t) ∧ Normal table (parse table t) ∧
      ('$' ∉ t → parse table t = if t = [] then [] else [.literal t]) := by
  refine ⟨build_eq table t, normal_parse table t, fun h => ?_⟩
  rw [parse_literal h]
  cases t <;> rfl

/-- An `é` before, behind and within what a `$` stands for, with a `$$` and a number that is none
between literal text. -/
theorem build_normal_multibyte :
    let table := GroupTable.ofOpenings [⟨some ['n'], 0⟩]
    let t : Text := ['é', '$', '$', '$', 'é', '$', '1', '2', '$', '<', 'é', '>', '$', '0', '$', '<']
    build table t = .ok [.literal ['é', '$', '$', 'é'], .group 1, .literal ['2'], .named ['é'],
        .literal ['$', '0', '$', '<']] ∧
      Normal table (parse table t) ∧
      '$' ∉ ['é', 'a'] ∧ parse table ['é', 'a'] = [.literal ['é', 'a']] := by
  intro table t
  obtain ⟨hbuild, hnormal, -⟩ := build_normal table t
  have hplain : '$' ∉ ['é', 'a'] := by decide
  exact ⟨hbuild.trans rfl, hnormal, hplain, (build_normal table ['é', 'a']).2.2 hplain⟩

end NamedCapture.Template
