import Mathlib.Data.List.Basic
import NamedCapture.Flags
import NamedCapture.Proofs.Annotated.Lookahead
import NamedCapture.Proofs.Annotated.Removal
import NamedCapture.Proofs.Annotated.Spelling

/-!
# Patterns one behind the other

A pattern is `Closed` when its scan ends as it began: in no class, escape or comment, with no group
open and blanks not free.  Then nothing the scan looked for can lie behind the end: whatever a `(`
opens is closed, so there is a `)` that the look ahead does not get over, and a class goes on behind
its `[`.  The scan therefore comes to the end in the same way whatever follows (`Run.append_text`),
and starts anew there, so a closed pattern and any text are stripped one after the other
(`strip_append`).
-/

namespace NamedCapture

namespace GroupTable

def Opening.shift (bytes : Nat) (o : Opening) : Opening := ⟨o.name, bytes + o.offset⟩

end GroupTable

/-- A group as it stands behind `count` more groups and `bytes` more bytes. -/
def Group.shift (count bytes : Nat) (g : Group) : Group :=
  ⟨count + g.index, g.name, bytes + g.offset⟩

namespace GroupTable

variable {os os' : List Opening} {bytes : Nat}

theorem numberFrom_shift (first count : Nat) :
    numberFrom (count + first) (os.map (Opening.shift bytes)) =
      (numberFrom first os).map (Group.shift count bytes) := by
  induction os generalizing first with
  | nil => rfl
  | cons o os ih => exact congrArg (List.cons _) (ih (first + 1))

theorem indexOf?_ofOpenings_shift (name : Text) :
    (ofOpenings (os.map (Opening.shift bytes))).indexOf? name = (ofOpenings os).indexOf? name := by
  induction os with
  | nil => rfl
  | cons o os ih =>
    rw [List.map_cons, ofOpenings_cons, ofOpenings_cons, indexOf?_registerAll,
      indexOf?_registerAll, ih, indexOf?_register, indexOf?_register]
    rfl

theorem groups_append_shift :
    (ofOpenings (os ++ os'.map (Opening.shift bytes))).groups =
      (ofOpenings os).groups ++ (ofOpenings os').groups.map (Group.shift os.length bytes) := by
  rw [groups_ofOpenings, numberFrom_append, Nat.add_comm 1, numberFrom_shift, groups_ofOpenings,
    groups_ofOpenings]

theorem indexOf?_append_shift (name : Text) :
    (ofOpenings (os ++ os'.map (Opening.shift bytes))).indexOf? name =
      (((ofOpenings os').indexOf? name).map (os.length + ·)).or
        ((ofOpenings os).indexOf? name) := by
  rw [ofOpenings_append, indexOf?_registerAll, indexOf?_ofOpenings_shift, count_ofOpenings]

end GroupTable

namespace Annotated

open GroupTable (Opening)

/-- The scan of the pattern ends as it began, and not in an escape that lacks its character. -/
def Closed (pattern : Text) : Prop := ∃ ls, Run {} pattern ls {} [] ∧ .escape none ∉ ls

theorem Run.last_eq {ctx last : Context} {t s : Text} {ls : List Lexeme}
    (h : Run ctx t ls last s) : last = ls.foldl Context.next ctx := by
  induction h with
  | done => rfl
  | step hread hs _ ih =>
    rw [ih, (read_spec hread hs).1]
    rfl

theorem closed_iff {pattern : Text} :
    Closed pattern ↔ (scan pattern).failure = none ∧
      (scan pattern).lexemes.foldl Context.next {} = {} ∧
      .escape none ∉ (scan pattern).lexemes := by
  constructor
  · intro hparts
    obtain ⟨ls, hrun, hescape⟩ := hparts
    rw [scan_of_run hrun]
    exact ⟨rfl, hrun.last_eq.symm, hescape⟩
  · intro hparts
    obtain ⟨hfailure, hlast, hescape⟩ := hparts
    obtain ⟨last, hrun⟩ := run_of_scan hfailure
    rw [← hrun.last_eq] at hlast
    exact ⟨_, hlast ▸ hrun, hescape⟩

instance {pattern : Text} : Decidable (Closed pattern) := decidable_of_iff' _ closed_iff

/-! ## Nothing is looked for behind the end -/

/-- A group that is open stays open up to a `)`. -/
theorem scopes_next {ctx : Context} {l : Lexeme} (h : ctx.scopes ≠ []) (hl : l ≠ .close) :
    (ctx.next l).scopes ≠ [] := by
  obtain ⟨place, verbose, scopes⟩ := ctx
  cases place with
  | comment =>
    unfold Context.next
    dsimp only
    split <;> exact h
  | charClass outer => cases l <;> exact h
  | pattern =>
    cases l with
    | close => exact absurd rfl hl
    | plain c =>
      unfold Context.next
      dsimp only
      split <;> exact h
    | flags letters opens =>
      cases opens with
      | true => exact List.cons_ne_nil _ _
      | false => exact h
    | escape c => exact h
    | classOpen negated bracket => exact h
    | classClose => exact h
    | capturing => exact List.cons_ne_nil _ _
    | named name => exact List.cons_ne_nil _ _
    | grouping => exact List.cons_ne_nil _ _

theorem close_mem {ctx last : Context} {t s : Text} {ls : List Lexeme} (h : Run ctx t ls last s)
    (hopen : ctx.scopes ≠ []) (hlast : last.scopes = []) : .close ∈ ls := by
  induction h with
  | done => exact absurd hlast hopen
  | @step ctx next last c rest s t l ls hread hs _ ih =>
    by_cases hl : l = .close
    · exact hl ▸ List.mem_cons_self
    · rw [(read_spec hread hs).1] at ih
      exact List.mem_cons_of_mem _ (ih (scopes_next hopen hl) hlast)

theorem scopes_next_of_paren {ctx : Context} {rest s : Text} {l : Lexeme}
    (hplace : ctx.place = .pattern) (hadmits : ctx.admits l = true)
    (hs : '(' :: rest = l.text ++ s) : (ctx.next l).scopes ≠ [] ∨ ')' ∈ rest := by
  obtain ⟨place, verbose, scopes⟩ := ctx
  cases hplace
  cases l with
  | capturing => exact Or.inl (List.cons_ne_nil _ _)
  | named name => exact Or.inl (List.cons_ne_nil _ _)
  | grouping => exact Or.inl (List.cons_ne_nil _ _)
  | flags letters opens =>
    cases opens with
    | true => exact Or.inl (List.cons_ne_nil _ _)
    | false =>
      right
      rw [(List.cons.inj hs).2]
      simp
  | plain c =>
    obtain rfl : '(' = c := (List.cons.inj hs).1
    cases hadmits
  | escape c => cases c <;> cases (List.cons.inj hs).1
  | classOpen negated bracket => cases (List.cons.inj hs).1
  | classClose => cases (List.cons.inj hs).1
  | close => cases (List.cons.inj hs).1

theorem classOpening_append {rest s : Text} (hs : '[' :: rest = (classOpening rest).text ++ s)
    (h : s ≠ []) (u : Text) : classOpening (rest ++ u) = classOpening rest := by
  have hhead : (s ++ u).head? = s.head? := List.head?_append_of_ne_nil s h
  by_cases hcaret : rest.head? = some '^'
  · obtain ⟨t, rfl⟩ := List.head?_eq_some_iff.mp hcaret
    by_cases hbracket : t.head? = some ']'
    · obtain ⟨r, rfl⟩ := List.head?_eq_some_iff.mp hbracket
      rfl
    · rw [classOpening_caret hbracket] at hs ⊢
      obtain rfl : t = s := (List.cons.inj (List.cons.inj hs).2).2
      exact classOpening_caret (hhead ▸ hbracket)
  · by_cases hbracket : rest.head? = some ']'
    · obtain ⟨r, rfl⟩ := List.head?_eq_some_iff.mp hbracket
      rfl
    · rw [classOpening_members hcaret hbracket] at hs ⊢
      obtain rfl : rest = s := (List.cons.inj hs).2
      exact classOpening_members (hhead ▸ hcaret) (hhead ▸ hbracket)

theorem read_backslash {ctx : Context} (h : ctx.place ≠ .comment) (rest : Text) :
    ctx.read '\\' rest = some (.escape rest.head?, ctx) := by
  obtain ⟨place, verbose, scopes⟩ := ctx
  cases place with
  | comment => exact absurd rfl h
  | charClass outer => rfl
  | pattern => rfl

theorem read_bracket {ctx : Context} (h : ctx.place ≠ .comment) (rest : Text) :
    ∃ outer, ctx.read '[' rest =
      some (classOpening rest, { ctx with place := .charClass outer }) := by
  obtain ⟨place, verbose, scopes⟩ := ctx
  cases place with
  | comment => exact absurd rfl h
  | charClass outer => exact ⟨outer + 1, rfl⟩
  | pattern => exact ⟨0, rfl⟩

/-- What is read in front of the end of a closed pattern is read whatever follows the pattern. -/
theorem read_append {ctx next last : Context} {c : Char} {rest s : Text} {l : Lexeme}
    {ls : List Lexeme} (hread : ctx.read c rest = some (l, next)) (hs : c :: rest = l.text ++ s)
    (hrun : Run next s ls last []) (hplace : last.place = .pattern) (hscopes : last.scopes = [])
    (hescape : l ≠ .escape none) (u : Text) : ctx.read c (rest ++ u) = some (l, next) := by
  obtain ⟨hnext, hadmits, -⟩ := read_spec hread hs
  rw [← hread]
  -- only a backslash, a `[` and a `(` look ahead, each for something else
  refine read_eq_of_seen (fun hcomment hc => ?_) (fun hcomment hc => ?_) fun hpattern hc => ?_
  · subst hc
    rw [read_backslash hcomment] at hread
    have hrest : rest ≠ [] := by
      intro hnil
      subst hnil
      cases hread
      exact hescape rfl
    exact List.head?_append_of_ne_nil rest hrest
  · subst hc
    obtain ⟨outer, hbracket⟩ := read_bracket hcomment rest
    rw [hbracket] at hread
    cases hread
    have hmembers : s ≠ [] := by
      intro hnil
      subst hnil
      cases hrun
      cases hplace
    exact classOpening_append hs hmembers u
  · subst hc
    have hclose : ')' ∈ rest := by
      rcases scopes_next_of_paren hpattern hadmits hs with hopen | hmem
      · -- the group is closed behind its opening, where nothing looked for can go on
        have hbehind := close_mem hrun (hnext ▸ hopen) hscopes
        obtain ⟨tail, -, htail⟩ := Lexeme.exists_tail hs
        rw [htail, hrun.text_append]
        refine List.mem_append_right _ (List.mem_append_left _ ?_)
        exact List.mem_flatMap.mpr ⟨.close, hbehind, List.mem_singleton.mpr rfl⟩
      · exact hmem
    exact (groupOpening_congr (Alike.append_right (Or.inr rfl) hclose u).sight_eq).symm

theorem Run.append_text {ctx last : Context} {t s : Text} {ls : List Lexeme}
    (h : Run ctx t ls last s) (hs : s = []) (hplace : last.place = .pattern)
    (hscopes : last.scopes = []) (hescape : .escape none ∉ ls) (u : Text) :
    Run ctx (t ++ u) ls last u := by
  induction h with
  | done ctx t =>
    subst hs
    exact .done ctx u
  | @step ctx next last c rest s t l ls hread htext hrun ih =>
    subst hs
    obtain ⟨hl, hrest⟩ := not_or.mp fun h => hescape (List.mem_cons.mpr h)
    have hread' := read_append hread htext hrun hplace hscopes (Ne.symm hl) u
    have htext' : c :: (rest ++ u) = l.text ++ (s ++ u) := by
      rw [← List.cons_append, htext, List.append_assoc]
    exact .step hread' htext' (ih rfl hplace hscopes hrest)

/-! ## The scan of the rest -/

theorem scanFrom_shift (ctx : Context) (k offset skip : Nat) (t : Text) :
    scanFrom ctx (k + offset) skip t =
      ⟨(scanFrom ctx offset skip t).lexemes,
        (scanFrom ctx offset skip t).failure.map (k + ·)⟩ := by
  induction t generalizing ctx offset skip with
  | nil => rfl
  | cons c rest ih =>
    cases skip with
    | succ n => exact ih ctx offset n
    | zero =>
      rw [scanFrom, scanFrom]
      cases ctx.read c rest with
      | none => rfl
      | some found =>
        dsimp only
        rw [Nat.add_assoc, ih]

theorem openings_shift (k offset : Nat) (ls : List Lexeme) :
    openings (k + offset) ls = (openings offset ls).map (Opening.shift k) := by
  induction ls generalizing offset with
  | nil => rfl
  | cons l ls ih =>
    cases hl : l.group? with
    | none => rw [openings_cons_none hl, openings_cons_none hl, Nat.add_assoc, ih]
    | some name =>
      rw [openings_cons_some hl, openings_cons_some hl, Nat.add_assoc, ih]
      rfl

/-- Behind a closed pattern the scan starts anew. -/
theorem scan_append {front : Text} (h : Closed front) (behind : Text) :
    scan (front ++ behind) =
      ⟨(scan front).lexemes ++ (scan behind).lexemes,
        (scan behind).failure.map (Text.byteLength front + ·)⟩ := by
  obtain ⟨ls, hrun, hescape⟩ := h
  have htext := hrun.text_append
  rw [List.append_nil] at htext
  have hgoes := scanFrom_of_run (hrun.append_text rfl rfl rfl hescape behind) 0
  rw [← htext, Nat.zero_add, ← Nat.add_zero (Text.byteLength front), scanFrom_shift] at hgoes
  rw [scan_of_run hrun]
  exact hgoes

theorem closed_flags {letters : Text} (h : letters.all isFlagChar = true)
    (hverbose : verboseOf false letters ≠ some true) :
    Closed (['(', '?'] ++ letters ++ [')']) := by
  have hall := List.all_eq_true.mp h
  have htake : (letters ++ [')']).takeWhile isFlagChar = letters := by
    rw [List.takeWhile_append_of_pos hall, List.takeWhile_cons_of_neg (by decide), List.append_nil]
  have hdrop : (letters ++ [')']).dropWhile isFlagChar = [')'] := by
    rw [List.dropWhile_append_of_pos hall, List.dropWhile_cons_of_neg (by decide)]
  have hend : ((letters ++ [')']).dropWhile isFlagChar).head? =
      some (if false then ':' else ')') := by
    rw [hdrop]
    rfl
  have hopening := groupOpening_flags hend
  rw [htake] at hopening
  have hread : Context.read {} '(' ('?' :: (letters ++ [')']) ++ []) =
      some (.flags letters false, {}) := by
    have hoff : (verboseOf false letters).getD false = false := by
      cases hvalue : verboseOf false letters with
      | none => rfl
      | some value =>
        cases value with
        | false => rfl
        | true => exact absurd hvalue hverbose
    rw [List.append_nil]
    show (groupOpening _).map _ = _
    rw [hopening]
    exact congrArg
      (fun verbose => some (Lexeme.flags letters false, Context.mk .pattern verbose [])) hoff
  refine ⟨[.flags letters false], ?_, by simp⟩
  have hrun := Run.single hread rfl
  rwa [List.append_nil] at hrun

theorem closed_enginePrefix (flags : Flags) : Closed flags.enginePrefix := by
  rw [Flags.enginePrefix]
  generalize hinline :
    (([.ignoreCase, .multiline, .dotAll].filter flags.has).map fun f : Flag => f.letter) = inline
  have halpha : inline.all Char.isAlpha = true := by
    rw [← hinline, List.all_map, List.all_eq_true]
    intro f _
    cases f <;> rfl
  have hx : 'x' ∉ inline := by
    rw [← hinline, List.mem_map]
    rintro ⟨f, -, hf⟩
    cases f <;> cases hf
  split
  · exact ⟨[], .done {} [], List.not_mem_nil⟩
  · refine closed_flags ?_ ?_
    · rw [List.all_eq_true] at halpha ⊢
      intro c hc
      rw [isFlagChar, halpha c hc, Bool.true_or]
    · rw [verboseOf_letters false halpha, if_neg hx]
      intro hnone
      cases hnone

/-- Behind a closed pattern any text is stripped as if it stood alone.  It is refused where it would
be, that much further on; otherwise what is left of it comes behind what is left of the first, its
groups are numbered behind the first's, and its names win.  Flags in front of a pattern are
closed. -/
theorem strip_append :
    (∀ flags : Flags, Closed flags.enginePrefix) ∧
      ∀ front, Closed front → ∃ s, strip front = .ok s ∧ ∀ behind,
        (∀ e, strip behind = .error e →
          strip (front ++ behind) = .error ⟨Text.byteLength front + e.position⟩) ∧
        ∀ t, strip behind = .ok t → ∃ u, strip (front ++ behind) = .ok u ∧
          u.pattern = s.pattern ++ t.pattern ∧
          u.groups.groups = s.groups.groups ++
            t.groups.groups.map (Group.shift s.groups.count (Text.byteLength front)) ∧
          ∀ name, u.groups.indexOf? name =
            ((t.groups.indexOf? name).map (s.groups.count + ·)).or (s.groups.indexOf? name) := by
  refine ⟨closed_enginePrefix, fun front hfront => ?_⟩
  have hfailure := (closed_iff.mp hfront).1
  refine ⟨⟨(scan front).numbered, (scan front).table⟩, by rw [strip, hfailure], fun behind => ?_⟩
  have hscan := scan_append hfront behind
  constructor
  · intro e he
    cases hbehind : (scan behind).failure with
    | none =>
      rw [strip, hbehind] at he
      cases he
    | some position =>
      rw [strip, hbehind] at he
      cases he
      rw [strip, hscan, hbehind]
      rfl
  · intro t ht
    obtain ⟨hbehind, rfl⟩ := strip_eq_ok ht
    have hopenings : openings 0 ((scan front).lexemes ++ (scan behind).lexemes) =
        openings 0 (scan front).lexemes ++
          (openings 0 (scan behind).lexemes).map (Opening.shift (Text.byteLength front)) := by
      rw [openings_append, text_scan hfailure, Nat.zero_add, ← openings_shift, Nat.add_zero]
    refine ⟨⟨(scan (front ++ behind)).numbered, (scan (front ++ behind)).table⟩, ?_, ?_, ?_, ?_⟩
    · rw [strip, hscan, hbehind]
      rfl
    · rw [hscan]
      exact List.flatMap_append
    · rw [hscan]
      simp only [Scan.table]
      rw [hopenings, GroupTable.groups_append_shift, GroupTable.count_ofOpenings]
    · intro name
      rw [hscan]
      simp only [Scan.table]
      rw [hopenings, GroupTable.indexOf?_append_shift, GroupTable.count_ofOpenings]

/-- Blanks are free in front of `(?-x)`, and a class holds a `(`.  Behind that stand a name without
an end, or the same name again, behind a `)` too many and before a class that is left open. -/
theorem strip_append_misshapen :
    let front := ['(', '?', 'x', ')', '#', '(', '\n', '(', '?', '-', 'x', ')', '[', '^', ']', '#',
      '[', '(', ']', ']', '(', '?', '<', 'é', '>', 'a', ')']
    Closed front ∧ strip (front ++ ['(', '?', '<', 'é']) = .error ⟨28⟩ ∧
      ∃ u, strip (front ++ [')', '(', '?', '<', 'é', '>', '[', '(']) = .ok u ∧
        u.pattern = ['(', '?', 'x', ')', '#', '(', '\n', '(', '?', '-', 'x', ')', '[', '^', ']', '#',
          '[', '(', ']', ']', '(', 'a', ')', ')', '(', '[', '('] ∧
        u.groups.groups = [⟨1, some ['é'], 20⟩, ⟨2, some ['é'], 29⟩] ∧
        u.groups.indexOf? ['é'] = some 2 := by
  intro front
  have hclosed : Closed front := by decide
  obtain ⟨s, hs, hbehind⟩ := strip_append.2 front hclosed
  cases hs
  have herror : strip ['(', '?', '<', 'é'] = .error ⟨0⟩ := rfl
  have hok : strip [')', '(', '?', '<', 'é', '>', '[', '('] =
      .ok ⟨[')', '(', '[', '('], ⟨[⟨1, some ['é'], 1⟩], [(['é'], 1)]⟩⟩ := rfl
  obtain ⟨u, hu, hpattern, hgroups, hnames⟩ := (hbehind _).2 _ hok
  exact ⟨hclosed, (hbehind _).1 _ herror, u, hu, hpattern, hgroups, hnames ['é']⟩

end Annotated
end NamedCapture
