import NamedCapture.Proofs.Annotated.Lookahead
import NamedCapture.Proofs.Annotated.Removal

/-!
# Stripping what is stripped already

A pattern without annotations is read as the pattern was: the scan looks no further than the next
parenthesis, where the two are still alike, and is in the same context behind each lexeme
(`run_bare`).  The one thing that can go wrong is a `?` behind an annotation, which then follows the
`(` at once and makes it open something else.  Where there is none, stripping again changes nothing
(`strip_strip`).
-/

namespace NamedCapture.Annotated

open GroupTable (Opening closeUp cutsOut)

theorem alike_numbered (ls : List Lexeme) :
    Alike (ls.flatMap Lexeme.text) (ls.flatMap Lexeme.numbered) := by
  induction ls with
  | nil => exact .nil
  | cons l ls ih =>
    rw [List.flatMap_cons, List.flatMap_cons]
    cases l with
    | named name => exact .paren (Or.inl rfl) _ _
    | _ => exact ih.append_left _

/-- No annotation is followed by a `?`. -/
def Unquestioned : List Lexeme → Prop
  | [] => True
  | l :: ls =>
    ((∃ name, l = .named name) → (ls.flatMap Lexeme.text).head? ≠ some '?') ∧ Unquestioned ls

theorem unquestioned_of_openings (before : Text) {ls : List Lexeme}
    (h : ∀ o ∈ openings (Text.byteLength before) ls, o.name ≠ none →
      (Text.dropBytes (o.offset + 1 + Text.byteLength o.label)
        (before ++ ls.flatMap Lexeme.text)).head? ≠ some '?') : Unquestioned ls := by
  induction ls generalizing before with
  | nil => trivial
  | cons l ls ih =>
    rw [List.flatMap_cons, ← List.append_assoc] at h
    constructor
    · intro hparts
      obtain ⟨name, rfl⟩ := hparts
      have hfirst := h ⟨some name, Text.byteLength before⟩ List.mem_cons_self nofun
      have hbehind : Text.byteLength before + 1 +
            Text.byteLength (Opening.label ⟨some name, Text.byteLength before⟩) =
          Text.byteLength (before ++ (Lexeme.named name).text) := by
        rw [Text.byteLength_append]
        exact Nat.add_assoc _ _ _
      rwa [hbehind, Text.dropBytes_append] at hfirst
    · refine ih (before ++ l.text) fun o ho => h o ?_
      rw [Text.byteLength_append] at ho
      cases hl : l.group? with
      | none => rwa [openings_cons_none hl]
      | some name =>
        rw [openings_cons_some hl]
        exact List.mem_cons_of_mem _ ho

theorem read_paren {ctx next : Context} {rest : Text} {name : Text} {c : Char} {t : Text}
    (h : ctx.read c rest = some (.named name, next)) (hs : c :: rest = (Lexeme.named name).text ++ t)
    {u : Text} (hu : u.head? ≠ some '?') : ctx.read '(' u = some (.capturing, next) := by
  obtain ⟨hplace, rfl, -⟩ := read_named_spec h hs
  obtain ⟨place, verbose, scopes⟩ := ctx
  cases hplace
  show (groupOpening u).map _ = _
  rw [groupOpening_plain hu]
  rfl

theorem run_bare {ctx last : Context} {t s : Text} {ls : List Lexeme} (h : Run ctx t ls last s)
    (hs : s = []) (hplain : Unquestioned ls) :
    Run ctx (ls.flatMap Lexeme.numbered) (ls.map Lexeme.bare) last [] := by
  induction h with
  | done ctx t => exact .done ctx []
  | @step ctx next last c rest s t l ls hread htext hrun ih =>
    have hrest : s = ls.flatMap Lexeme.text := by
      rw [hrun.text_append, hs, List.append_nil]
    have hahead : Alike s (ls.flatMap Lexeme.numbered) := hrest ▸ alike_numbered ls
    have hlast := ih hs hplain.2
    rw [List.flatMap_cons, List.map_cons]
    by_cases hl : ∃ name, l = .named name
    · obtain ⟨name, rfl⟩ := hl
      have hquestion := hplain.1 ⟨name, rfl⟩
      rw [← hrest, hahead.head?] at hquestion
      exact .step (read_paren hread htext hquestion) rfl hlast
    · have hbare : l.bare = l := by
        cases l with
        | named name => exact absurd ⟨name, rfl⟩ hl
        | _ => rfl
      have hnumbered : l.numbered = l.text := by rw [← l.text_bare, hbare]
      rw [hbare, hnumbered]
      exact .cons_alike hread htext hahead hlast

/-- Stripping once more changes nothing, if no annotation is followed by a `?`.  The same groups are
found, all without names, each at the place of the `(` that was left of it, which is where it was
less the lengths of the annotations before it. -/
theorem strip_strip {pattern : Text} {s : Stripped} (h : strip pattern = .ok s)
    (hplain : ∀ o ∈ s.groups.openings, o.name ≠ none →
      (Text.dropBytes (o.offset + 1 + Text.byteLength o.label) pattern).head? ≠ some '?') :
    ∃ t, strip s.pattern = .ok t ∧ t.pattern = s.pattern ∧ t.groups.count = s.groups.count ∧
      t.groups.names = [] ∧
      ∀ k o, s.groups.openings[k]? = some o →
        ∃ place, t.groups.openings[k]? = some ⟨none, place⟩ ∧
          place + ((s.groups.openings.take k).map fun o => Text.byteLength o.label).sum =
            o.offset ∧
          Text.byteLength (Text.keep (fun i => !cutsOut s.groups.openings i) 0
            (Text.takeBytes o.offset pattern)) = place := by
  obtain ⟨hfailure, rfl⟩ := strip_eq_ok h
  obtain ⟨last, hrun⟩ := run_of_scan hfailure
  have htext := text_scan hfailure
  have hopenings := GroupTable.openings_ofOpenings (openings 0 (scan pattern).lexemes)
  rw [Scan.table, hopenings] at hplain
  rw [Scan.numbered, Scan.table, hopenings]
  generalize (scan pattern).lexemes = ls at *
  have hbare := run_bare hrun rfl (unquestioned_of_openings [] (by rwa [← htext] at hplain))
  refine ⟨_, strip_of_run hbare, flatMap_numbered_bare ls, ?_, ?_, fun k o hk => ?_⟩
  · rw [openings_bare 0 0, GroupTable.count_ofOpenings, GroupTable.count_ofOpenings,
      GroupTable.length_closeUp]
  · rw [openings_bare 0 0]
    exact GroupTable.names_ofOpenings GroupTable.name_of_mem_closeUp
  · obtain ⟨before, l, behind, rfl, -, hoffset, htake⟩ := exists_lexeme hk
    have hlost := byteLength_numbered 0 before
    rw [htake] at hlost
    rw [Nat.zero_add] at hoffset
    refine ⟨Text.byteLength (before.flatMap Lexeme.numbered), ?_, by omega, ?_⟩
    · rw [GroupTable.openings_ofOpenings, openings_bare 0 0, GroupTable.getElem?_closeUp, hk,
        Option.map_some, ← hoffset, ← hlost, Nat.zero_add, Nat.add_sub_cancel]
    · rw [← htext, List.flatMap_append, ← hoffset, Text.takeBytes_append, keep_lexemes]

/-- A group that is not closed, behind a class that holds one, where blanks are free: the names of
`(?x)[(?<n>](?<é>(?<n>#(`, which ends in a comment, go. -/
theorem strip_strip_unclosed :
    let pattern := ['(', '?', 'x', ')', '[', '(', '?', '<', 'n', '>', ']',
      '(', '?', '<', 'é', '>', '(', '?', '<', 'n', '>', '#', '(']
    let s : Stripped := ⟨['(', '?', 'x', ')', '[', '(', '?', '<', 'n', '>', ']', '(', '(', '#', '('],
      ⟨[⟨1, some ['é'], 11⟩, ⟨2, some ['n'], 17⟩], [(['n'], 2), (['é'], 1)]⟩⟩
    strip pattern = .ok s ∧
      (∀ o ∈ s.groups.openings, o.name ≠ none →
        (Text.dropBytes (o.offset + 1 + Text.byteLength o.label) pattern).head? ≠ some '?') ∧
      ∃ t, strip s.pattern = .ok t ∧ t.pattern = s.pattern ∧ t.groups.count = 2 ∧
        t.groups.names = [] ∧ t.groups.openings[1]? = some ⟨none, 12⟩ := by
  intro pattern s
  have h : strip pattern = .ok s := rfl
  have hplain : ∀ o ∈ s.groups.openings, o.name ≠ none →
      (Text.dropBytes (o.offset + 1 + Text.byteLength o.label) pattern).head? ≠ some '?' := by
    decide
  obtain ⟨t, ht, hpattern, hcount, hnames, hplaces⟩ := strip_strip h hplain
  obtain ⟨place, hplace, hsum, -⟩ := hplaces 1 ⟨some ['n'], 17⟩ rfl
  obtain rfl : place = 12 := Nat.add_right_cancel hsum
  exact ⟨h, hplain, t, ht, hpattern, hcount, hnames, hplace⟩

/-- A `?` behind an annotation makes the `(` open something else. -/
example :
    (strip ['(', '?', '<', 'n', '>', '?', ':', ')']).toOption.map (·.pattern) =
        some ['(', '?', ':', ')'] ∧
      (strip ['(', '?', ':', ')']).toOption.map (·.groups.count) = some 0 := by
  decide +kernel

end NamedCapture.Annotated
