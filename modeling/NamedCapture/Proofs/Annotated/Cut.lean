import NamedCapture.Proofs.Annotated.Append
import NamedCapture.Proofs.Boundary

/-!
# Patterns cut in front of a group

Nothing that the scan looks ahead for goes on over a `(`, so in front of a group the pattern may as
well end (`read_append_paren`).  Only an escape takes the `(`, and then it opens nothing.  What is
read up to a group therefore does not depend on the group or on what stands behind it (`Run.cut`,
`Run.recut`), and the groups before it are numbered without it (`strip_takeBytes`).
-/

namespace NamedCapture.Annotated

open GroupTable (Opening)

theorem sight_append_paren (s t : Text) : sight (s ++ '(' :: t) = sight s := by
  induction s with
  | nil => rfl
  | cons c s ih => rw [List.cons_append, sight, sight, ih]

/-- What is read in front of a `(` is read in front of the end, unless an escape takes the `(`. -/
theorem read_append_paren {ctx : Context} {c : Char} {s : Text}
    (h : ctx.place ≠ .comment → c = '\\' → s ≠ []) (t : Text) :
    ctx.read c (s ++ '(' :: t) = ctx.read c s :=
  read_eq_of_sight (fun hplace hc => List.head?_append_of_ne_nil s (h hplace hc))
    (sight_append_paren s t)

/-! ## What is read up to a `(` -/

namespace Run

variable {ctx last : Context} {u r t : Text} {ls : List Lexeme}

theorem cut (h : Run ctx u ls last r) (hr : r = '(' :: t) :
    Run ctx (ls.flatMap Lexeme.text) ls last [] := by
  induction h with
  | done ctx r => exact .done ctx []
  | @step ctx next last c rest s r l ls hread hs hrun ih =>
    obtain ⟨tail, hcons, rfl⟩ := Lexeme.exists_tail hs
    have hbehind : s = ls.flatMap Lexeme.text ++ '(' :: t := by rw [hrun.text_append, hr]
    have hescape : ctx.place ≠ .comment → c = '\\' → tail ++ ls.flatMap Lexeme.text ≠ [] := by
      intro hplace hc hnil
      obtain ⟨rfl, hflat⟩ := List.append_eq_nil_iff.mp hnil
      -- the escape would have taken the `(`
      rw [hc, read_backslash hplace, hbehind, hflat] at hread
      cases hread
      cases hcons
    rw [hbehind, ← List.append_assoc, read_append_paren hescape] at hread
    rw [List.flatMap_cons, hcons]
    exact .step hread (by rw [hcons]; rfl) (ih hr)

theorem recut (h : Run ctx u ls last r) (hr : r = '(' :: t) (t' : Text) :
    Run ctx (ls.flatMap Lexeme.text ++ '(' :: t') ls last ('(' :: t') := by
  induction h with
  | done ctx r => exact .done ctx _
  | @step ctx next last c rest s r l ls hread hs hrun ih =>
    have hbehind : s = ls.flatMap Lexeme.text ++ '(' :: t := by rw [hrun.text_append, hr]
    have halike : Alike s (ls.flatMap Lexeme.text ++ '(' :: t') := by
      rw [hbehind]
      exact (Alike.paren (Or.inl rfl) t t').append_left _
    rw [List.flatMap_cons, List.append_assoc]
    exact .cons_alike hread hs halike (ih hr)

end Run

/-! ## The groups in front of a group -/

/-- In front of each of its groups a pattern can be cut.  The front is stripped to a front of what
is left of the whole, behind which stands the group's `(`, and has the groups before that one. -/
theorem strip_front {pattern : Text} {s : Stripped} (h : strip pattern = .ok s) {k : Nat}
    {g : Group} (hg : s.groups.groups[k]? = some g) :
    ∃ front behind t, pattern = front ++ behind ∧ Text.byteLength front = g.offset ∧
      strip front = .ok t ∧ t.groups.groups = s.groups.groups.take k ∧
      t.pattern ++ ['('] <+: s.pattern := by
  obtain ⟨hfailure, rfl⟩ := strip_eq_ok h
  obtain ⟨last, hrun⟩ := run_of_scan hfailure
  have htext := text_scan hfailure
  rw [Scan.table, GroupTable.groups_ofOpenings] at hg ⊢
  rw [Scan.numbered]
  generalize (scan pattern).lexemes = ls at *
  rw [GroupTable.getElem?_numberFrom] at hg
  obtain ⟨o, ho, rfl⟩ := Option.map_eq_some_iff.mp hg
  obtain ⟨before, l, behind, rfl, hgroup, hoffset, htake⟩ := exists_lexeme ho
  obtain ⟨hopening, hnumbered⟩ := Lexeme.text_of_group? hgroup o.offset
  obtain ⟨mid, r, hfront, hrest⟩ := hrun.exists_mid
  have hparen : r = '(' :: (o.label ++ behind.flatMap Lexeme.text) := by
    rw [hrest.text_append, List.append_nil, List.flatMap_cons, hopening]
    rfl
  refine ⟨before.flatMap Lexeme.text, (l :: behind).flatMap Lexeme.text, _, ?_, ?_,
    strip_of_run (hfront.cut hparen), ?_, ?_⟩
  · rw [← htext, List.flatMap_append]
  · rw [← hoffset, Nat.zero_add]
  · rw [GroupTable.groups_ofOpenings, htake, GroupTable.take_numberFrom]
  · rw [List.flatMap_append, List.flatMap_cons, hnumbered, ← List.append_assoc]
    exact List.prefix_append _ _

/-- The groups before a group are numbered without it and without what stands behind it: they are
the groups of the text in front of it.  So patterns that are the same up to the same group have the
same groups before that. -/
theorem strip_takeBytes {pattern : Text} {s : Stripped} (h : strip pattern = .ok s) {k : Nat}
    {g : Group} (hg : s.groups.groups[k]? = some g) :
    Text.isBoundary pattern g.offset = true ∧
      (∃ t, strip (Text.takeBytes g.offset pattern) = .ok t ∧
        t.groups.groups = s.groups.groups.take k ∧ t.pattern ++ ['('] <+: s.pattern) ∧
      ∀ pattern' s' g', strip pattern' = .ok s' → s'.groups.groups[k]? = some g' →
        g'.offset = g.offset →
        Text.takeBytes g.offset pattern' = Text.takeBytes g.offset pattern →
        s'.groups.groups.take k = s.groups.groups.take k := by
  obtain ⟨front, behind, t, rfl, hoffset, hfront, hgroups, hprefix⟩ := strip_front h hg
  rw [← hoffset, Text.takeBytes_append]
  refine ⟨Text.isBoundary_iff.mpr ⟨front, behind, rfl, rfl⟩, ⟨t, hfront, hgroups, hprefix⟩, ?_⟩
  intro pattern' s' g' h' hg' hsame htake
  obtain ⟨front', behind', t', rfl, hoffset', hfront', hgroups', -⟩ := strip_front h' hg'
  rw [← hoffset'] at hsame
  rw [← hsame, Text.takeBytes_append] at htake
  obtain rfl : t' = t := by
    rw [htake, hfront] at hfront'
    cases hfront'
    rfl
  rw [← hgroups', hgroups]

/-- In front of the third group of `[(?<](?P<a>\((?<é>x)(?x-i)#(\n(?<b>` stand two, and a `(` in a
class, one behind a backslash and one in a comment, which open none.  Another text behind that front
has the same two. -/
theorem strip_takeBytes_third :
    let front := ['[', '(', '?', '<', ']', '(', '?', 'P', '<', 'a', '>', '\\', '(',
      '(', '?', '<', 'é', '>', 'x', ')', '(', '?', 'x', '-', 'i', ')', '#', '(', '\n']
    let s : Stripped := ⟨['[', '(', '?', '<', ']', '(', '?', 'P', '<', 'a', '>', '\\', '(',
        '(', 'x', ')', '(', '?', 'x', '-', 'i', ')', '#', '(', '\n', '('],
      ⟨[⟨1, none, 5⟩, ⟨2, some ['é'], 13⟩, ⟨3, some ['b'], 30⟩], [(['b'], 3), (['é'], 2)]⟩⟩
    strip (front ++ ['(', '?', '<', 'b', '>']) = .ok s ∧
      (∃ t, strip front = .ok t ∧ t.groups.groups = [⟨1, none, 5⟩, ⟨2, some ['é'], 13⟩] ∧
        t.pattern ++ ['('] <+: s.pattern) ∧
      ∃ s', strip (front ++ ['(', '[']) = .ok s' ∧
        s'.groups.groups.take 2 = [⟨1, none, 5⟩, ⟨2, some ['é'], 13⟩] := by
  intro front s
  have h : strip (front ++ ['(', '?', '<', 'b', '>']) = .ok s := rfl
  obtain ⟨-, hfront, hother⟩ := strip_takeBytes h (k := 2) (g := ⟨3, some ['b'], 30⟩) rfl
  exact ⟨h, hfront, _, rfl, hother (front ++ ['(', '[']) _ ⟨3, none, 30⟩ rfl rfl rfl rfl⟩

end NamedCapture.Annotated
