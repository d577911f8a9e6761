import NamedCapture.Matcher.Named
import NamedCapture.Proofs.Group
import NamedCapture.Proofs.Numbering.Kept
import NamedCapture.Proofs.Numbering.Reading

/-!
# Counting groups as the engine does

A matcher asks an engine for the pattern without its annotations and keeps a table of the groups by
itself.  For patterns that two readers read alike (`Annotated.unambiguous`) the two count the same
groups, and an engine that knows the annotations binds the names to the groups of the table.  Two
things are left that can set them apart: a pattern that is ambiguous, and an automaton that forgets
a group in a repetition of no times.
-/

namespace NamedCapture

namespace Annotated

open GroupTable (Opening numberFrom)

/-! ## Flags in front -/

/-- The flags that an engine has to know are a lexeme in front of a pattern. -/
def prefixLexemes (flags : Flags) : List Lexeme :=
  let inline := ([.ignoreCase, .multiline, .dotAll].filter flags.has).map fun f : Flag => f.letter
  if inline = [] then [] else [.flags inline false]

section Prefix

variable (annotated : Bool) (flags : Flags)

theorem shownAll_prefixLexemes (ls : List Lexeme) :
    shownAll annotated (prefixLexemes flags ++ ls) =
      flags.enginePrefix ++ shownAll annotated ls := by
  unfold prefixLexemes Flags.enginePrefix
  dsimp only
  split
  · rfl
  · simp [Lexeme.text]

theorem groupNames_prefixLexemes (ls : List Lexeme) :
    groupNames (prefixLexemes flags ++ ls) = groupNames ls := by
  unfold prefixLexemes
  dsimp only
  split <;> rfl

theorem Legible.prefixLexemes {annotated : Bool} {ls : List Lexeme}
    (h : Legible annotated [] {} ls) (flags : Flags) :
    Legible annotated [] {} (prefixLexemes flags ++ ls) := by
  obtain ⟨_, _, ignoreCase, multiline, dotAll, _, _⟩ := flags
  cases ignoreCase <;> cases multiline <;> cases dotAll
  case false.false.false => exact h
  all_goals exact ⟨rfl, rfl, rfl, h⟩

end Prefix

/-! ## The table of a pattern -/

theorem map_name_openings (offset : Nat) (ls : List Lexeme) :
    (openings offset ls).map Opening.name = groupNames ls := by
  induction ls generalizing offset with
  | nil => rfl
  | cons l ls ih =>
    unfold openings groupNames
    cases hl : l.group? with
    | none =>
      rw [List.filterMap_cons_none hl]
      exact ih _
    | some name =>
      rw [List.filterMap_cons_some hl]
      exact congrArg (List.cons name) (ih _)

theorem map_name_numberFrom (first : Nat) (os : List Opening) :
    (numberFrom first os).map Group.name = os.map Opening.name := by
  induction os generalizing first with
  | nil => rfl
  | cons o os ih => exact congrArg (List.cons o.name) (ih (first + 1))

theorem map_name_table (s : Scan) : s.table.groups.map Group.name = groupNames s.lexemes := by
  rw [Scan.table, GroupTable.groups_ofOpenings, map_name_numberFrom, map_name_openings]

theorem count_table (s : Scan) : s.table.count = (groupNames s.lexemes).length := by
  rw [← map_name_table, List.length_map]
  rfl

theorem groupNames_of_indexOf? {s : Scan} {name : Text} {i : Nat}
    (h : s.table.indexOf? name = some i) :
    ∃ j, i = j + 1 ∧ (groupNames s.lexemes)[j]? = some (some name) := by
  have hcoherent := GroupTable.coherent_ofOpenings (openings 0 s.lexemes)
  obtain ⟨⟨g, hg, hname, rfl⟩, -⟩ := hcoherent.indexOf?_iff.mp h
  obtain ⟨j, hj⟩ := List.getElem?_of_mem hg
  refine ⟨j, hcoherent.index_eq hj, ?_⟩
  rw [← map_name_table, List.getElem?_map]
  have hj' : s.table.groups[j]? = some g := hj
  rw [hj', Option.map_some, hname]

end Annotated

theorem lookup_of_mem {names : List (Text × Nat)} {name : Text} {i : Nat}
    (hnodup : (names.map Prod.fst).Nodup) (h : (name, i) ∈ names) :
    names.lookup name = some i := by
  induction names with
  | nil => cases h
  | cons b names ih =>
    obtain ⟨n, j⟩ := b
    rw [List.map_cons, List.nodup_cons] at hnodup
    rcases List.mem_cons.mp h with heq | hmem
    · cases heq
      exact List.lookup_cons_self
    · have hne : name ≠ n := by
        intro heq
        obtain rfl := heq
        exact hnodup.1 (List.mem_map.mpr ⟨(name, i), hmem, rfl⟩)
      rw [List.lookup_cons, beq_eq_false_iff_ne.mpr hne]
      exact ih hnodup.2 hmem

namespace NamedMatcher

variable {budget : Nat} {pattern : Text} {flags : Flags} {m : NamedMatcher}

theorem exists_of_compile (h : compile (Regex.dialect budget) pattern flags = .ok m) :
    (Annotated.scan pattern).failure = none ∧ m.table = (Annotated.scan pattern).table ∧
      m.matcher.enginePattern = flags.enginePrefix ++ (Annotated.scan pattern).numbered ∧
      ∃ p c, Regex.Pattern.read? m.matcher.enginePattern = some p ∧ p.compile? = some c ∧
        m.matcher.engine = c.toEngine budget := by
  unfold compile Annotated.strip at h
  dsimp only at h
  cases hfailure : (Annotated.scan pattern).failure with
  | some position =>
    rw [hfailure] at h
    cases h
  | none =>
    rw [hfailure] at h
    unfold Matcher.compile at h
    dsimp only at h
    split at h
    · cases h
    · rename_i engine hdialect
      cases h
      obtain ⟨p, hread, hdialect⟩ := Option.bind_eq_some_iff.mp hdialect
      obtain ⟨c, hcompile, heq⟩ := Option.bind_eq_some_iff.mp hdialect
      cases heq
      exact ⟨rfl, rfl, rfl, p, c, hread, hcompile, rfl⟩

/-! ## The warning -/

theorem level_openingEvents (t : GroupTable) (os : List GroupTable.Opening) :
    ∀ event ∈ t.openingEvents os, event.level = .trace := by
  induction os generalizing t with
  | nil =>
    intro event hevent
    cases hevent
  | cons o os ih =>
    intro event hevent
    unfold GroupTable.openingEvents at hevent
    rcases List.mem_append.mp hevent with hregister | hopened
    · unfold GroupTable.registerEvents at hregister
      split at hregister
      · cases hregister
      · split at hregister
        · cases hregister
        · rw [List.mem_singleton.mp hregister]
          rfl
    · rcases List.mem_cons.mp hopened with rfl | hrest
      · rfl
      · exact ih _ event hrest

theorem level_stripEvents (pattern : Text) :
    ∀ event ∈ Annotated.stripEvents pattern, event.level = .trace ∨ event.level = .debug := by
  intro event hevent
  have hopened := level_openingEvents .empty
    (Annotated.openings 0 (Annotated.scan pattern).lexemes)
  unfold Annotated.stripEvents at hevent
  dsimp only at hevent
  split at hevent
  · exact Or.inl (hopened event hevent)
  · rcases List.mem_append.mp hevent with hmem | hmem
    · exact Or.inl (hopened event hmem)
    · rw [List.mem_singleton.mp hmem]
      exact Or.inr rfl

theorem exists_warn_iff {dialect : Dialect} (h : compile dialect pattern flags = .ok m) :
    (∃ event ∈ compileEvents dialect pattern flags, event.level = .warn) ↔ ¬m.Agrees := by
  unfold compileEvents
  rw [h]
  cases hstrip : Annotated.strip pattern with
  | error e =>
    rw [compile, hstrip] at h
    cases h
  | ok stripped =>
    dsimp only
    constructor
    · intro hparts hagrees
      obtain ⟨event, hevent, hwarn⟩ := hparts
      rw [if_pos hagrees, List.append_nil] at hevent
      rcases List.mem_append.mp hevent with hmem | hmem
      · rcases level_stripEvents pattern event hmem with hlevel | hlevel
        · rw [hlevel] at hwarn
          cases hwarn
        · rw [hlevel] at hwarn
          cases hwarn
      · unfold Matcher.compileEvents at hmem
        split at hmem
        · cases hmem
        · rw [List.mem_singleton.mp hmem] at hwarn
          cases hwarn
    · intro hagrees
      rw [if_neg hagrees]
      refine ⟨_, List.mem_append_right _ (List.mem_append_right _ (List.mem_singleton_self _)), ?_⟩
      rfl

/-! ## The two counts -/

/-- The engine reads the groups of the table in a pattern that is not ambiguous, and counts them
when it keeps them; otherwise there is a warning.  An engine that is given the pattern with its
annotations, all names of which are different, binds them as the table does. -/
theorem agrees_iff_of_unambiguous (h : compile (Regex.dialect budget) pattern flags = .ok m)
    (hclear : Annotated.unambiguous pattern = true) :
    (∃ p, Regex.Pattern.read? m.matcher.enginePattern = some p ∧
      p.groupCount = m.table.count ∧ (m.Agrees ↔ p.KeepsGroups)) ∧
      ((∃ event ∈ compileEvents (Regex.dialect budget) pattern flags, event.level = .warn) ↔
        ¬m.Agrees) ∧
      ∀ p, Regex.Pattern.read? (flags.enginePrefix ++ pattern) = some p →
        (p.names.map Prod.fst).Nodup →
        ∀ name i, m.table.indexOf? name = some i → p.names.lookup name = some i := by
  obtain ⟨hscan, htable, hsource, p, c, hread, hcompile, hengine⟩ := exists_of_compile h
  obtain ⟨last, hrun⟩ := Annotated.run_of_scan hscan
  rw [Annotated.unambiguous, Bool.and_eq_true] at hclear
  refine ⟨⟨p, hread, ?_⟩, exists_warn_iff h, ?_⟩
  · have hlegible := (Annotated.legible_of_run hrun rfl hclear.2).prefixLexemes flags
    have hshown : Annotated.shownAll false
        (Annotated.prefixLexemes flags ++ (Annotated.scan pattern).lexemes) =
          m.matcher.enginePattern := by
      rw [Annotated.shownAll_prefixLexemes, hsource, Annotated.shownAll_false]
      rfl
    rw [← hshown] at hread
    obtain ⟨hcount, hgroups, -⟩ := Annotated.counts_of_read hlegible hread
    rw [Annotated.groupNames_prefixLexemes, ← Annotated.count_table, ← htable] at hcount hgroups
    refine ⟨hcount, ?_⟩
    rw [Agrees, hengine]
    exact Regex.captureCount_eq_iff hcompile hcount hgroups
  -- here the engine is given the annotations, so the same lexemes are shown with them
  · intro q hq hnodup name i hi
    have hlegible := (Annotated.legible_of_run hrun rfl hclear.1).prefixLexemes flags
    have hshown : Annotated.shownAll true
        (Annotated.prefixLexemes flags ++ (Annotated.scan pattern).lexemes) =
          flags.enginePrefix ++ pattern := by
      rw [Annotated.shownAll_prefixLexemes, Annotated.shownAll_true, Annotated.text_scan hscan]
    rw [← hshown] at hq
    obtain ⟨-, -, hnamed⟩ := Annotated.counts_of_read hlegible hq
    rw [htable] at hi
    obtain ⟨j, rfl, hj⟩ := Annotated.groupNames_of_indexOf? hi
    rw [← Annotated.groupNames_prefixLexemes flags] at hj
    exact lookup_of_mem hnodup (hnamed rfl hj)

/-- `(a)[(](?<y>b)`, in which a class holds a parenthesis. -/
theorem agrees_of_bracket :
    ∃ m, compile (Regex.dialect 1000)
        ['(', 'a', ')', '[', '(', ']', '(', '?', '<', 'y', '>', 'b', ')']
        { multiline := true } = .ok m ∧
      Annotated.unambiguous
        ['(', 'a', ')', '[', '(', ']', '(', '?', '<', 'y', '>', 'b', ')'] = true ∧
      m.Agrees ∧ m.table.indexOf? ['y'] = some 2 ∧
      ∃ p ∈ Regex.Pattern.read?
        (['(', '?', 'm', ')', '(', 'a', ')', '[', '(', ']', '(', '?', '<', 'y', '>', 'b', ')']),
        (p.names.map Prod.fst).Nodup ∧ p.names.lookup ['y'] = some 2 := by
  have hcompiled : ∃ m ∈ (compile (Regex.dialect 1000)
      ['(', 'a', ')', '[', '(', ']', '(', '?', '<', 'y', '>', 'b', ')']
      { multiline := true }).toOption, m.table.indexOf? ['y'] = some 2 ∧
        ∀ p ∈ Regex.Pattern.read? m.matcher.enginePattern, p.KeepsGroups := by decide +kernel
  have hclear : Annotated.unambiguous
      ['(', 'a', ')', '[', '(', ']', '(', '?', '<', 'y', '>', 'b', ')'] = true := by decide +kernel
  have hread : ∃ p ∈ Regex.Pattern.read?
      (['(', '?', 'm', ')', '(', 'a', ')', '[', '(', ']', '(', '?', '<', 'y', '>', 'b', ')']),
      (p.names.map Prod.fst).Nodup := by decide +kernel
  obtain ⟨m, hm, hindex, hkeeps⟩ := hcompiled
  have h : compile (Regex.dialect 1000)
      ['(', 'a', ')', '[', '(', ']', '(', '?', '<', 'y', '>', 'b', ')']
      { multiline := true } = .ok m := by
    generalize compile _ _ _ = compiled at hm ⊢
    cases compiled with
    | error e => cases hm
    | ok m' =>
      cases hm
      rfl
  obtain ⟨⟨p, hp, -, hagrees⟩, -, hnames⟩ := agrees_iff_of_unambiguous h hclear
  obtain ⟨q, hq, hnodup⟩ := hread
  exact ⟨m, h, hclear, hagrees.mpr (hkeeps p hp), hindex, q, hq, hnodup,
    hnames q hq hnodup ['y'] 2 hindex⟩

/-- A parenthesis in a comment is counted, and what follows is shifted. -/
theorem not_agrees_comment :
    ∃ m ∈ (compile (Regex.dialect 1000)
        ['(', '?', '#', '(', 'a', ')', '(', '?', '<', 'x', '>', 'b', ')'] {}).toOption,
      ¬m.Agrees ∧ m.table.indexOf? ['x'] = some 2 ∧
        ∃ p ∈ Regex.Pattern.read? ['(', '?', '#', '(', 'a', ')', '(', '?', '<', 'x', '>', 'b', ')'],
          p.names = [(['x'], 1)] := by
  decide +kernel

end NamedMatcher

end NamedCapture
