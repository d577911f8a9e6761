import NamedCapture.Proofs.Annotated.Spelling
import NamedCapture.Proofs.Group

/-!
# Stripping a pattern that a tree spells

Every piece of a well-formed tree is read by itself, and the scopes of the groups around it are
what they were when it ends (`spells_piece`).  Read from the start, the tree gives the pattern
without annotations and its groups in order (`strip_textOf`).
-/

namespace NamedCapture.Annotated

open GroupTable (Opening)

theorem spells_comment {body : Text} (h : body.all (· != '\n') = true) (scopes : List Bool) :
    Spells Anything ⟨.pattern, true, scopes⟩ (Piece.comment body).text (Piece.comment body).text
      (fun _ => []) ⟨.pattern, true, scopes⟩ := by
  have hopen : Spells Anything ⟨.pattern, true, scopes⟩ ['#'] ['#'] (fun _ => [])
      ⟨.comment, true, scopes⟩ :=
    Spells.single (l := .plain '#') rfl fun rest _ => rfl
  have hbody : Spells Anything ⟨.comment, true, scopes⟩ body body (fun _ => [])
      ⟨.comment, true, scopes⟩ := spells_chars h
  have hclose : Spells Anything ⟨.comment, true, scopes⟩ ['\n'] ['\n'] (fun _ => [])
      ⟨.pattern, true, scopes⟩ :=
    Spells.single (l := .plain '\n') rfl fun rest _ => rfl
  exact (hopen.append hbody fun _ _ => trivial).append hclose fun _ _ => trivial

theorem spells_switches {s : Switches} (h : s.wellFormed = true) (verbose : Bool)
    (scopes : List Bool) :
    Spells Anything ⟨.pattern, verbose, scopes⟩ (Piece.flags s).text (Piece.flags s).text
      (fun _ => []) ⟨.pattern, s.verbose verbose, scopes⟩ :=
  Spells.single (l := .flags s.text false) rfl fun rest _ => read_flags h false verbose scopes rest

theorem spells_close (inside outside : Bool) (scopes : List Bool) :
    Spells Anything ⟨.pattern, inside, outside :: scopes⟩ [')'] [')'] (fun _ => [])
      ⟨.pattern, outside, scopes⟩ :=
  Spells.single (l := .close) rfl fun _ _ => rfl

theorem spells_group {o : Opener} {body : List Piece} {verbose inside : Bool} {scopes : List Bool}
    (ho : o.wellFormed = true) (hahead : o.ahead (textOf body ++ [')']))
    (hbody : Spells Anything ⟨.pattern, o.verbose verbose, verbose :: scopes⟩ (textOf body)
      (numberedOf body) (fun offset => groupsOf offset body)
      ⟨.pattern, inside, verbose :: scopes⟩) :
    Spells Anything ⟨.pattern, verbose, scopes⟩ (Piece.group o body).text
      (Piece.group o body).numbered (fun offset => (Piece.group o body).groups offset)
      ⟨.pattern, verbose, scopes⟩ := by
  have hrest := hbody.append (spells_close inside verbose scopes) fun _ _ => trivial
  have hall := (spells_opener ho verbose scopes).append hrest fun _ _ hplain => by
    have hhead := hahead hplain
    cases htext : textOf body with
    | nil => simp
    | cons c t => simpa [htext] using hhead
  simpa only [List.append_nil, Piece.text, Piece.numbered, Piece.groups] using hall

mutual

theorem spells_piece {p : Piece} {verbose : Bool} (h : p.wellFormed verbose = true)
    (scopes : List Bool) :
    Spells Anything ⟨.pattern, verbose, scopes⟩ p.text p.numbered (fun offset => p.groups offset)
      ⟨.pattern, p.verboseAfter verbose, scopes⟩ := by
  cases p with
  | char c => exact spells_char h
  | escape c => exact spells_escape (by simp) c
  | charClass negated bracket members =>
    simp only [Piece.wellFormed, Bool.and_eq_true] at h
    exact spells_class (by simp) h.1 h.2 (spells_members h.2 0)
  | comment body =>
    simp only [Piece.wellFormed, Bool.and_eq_true] at h
    obtain ⟨rfl, hbody⟩ := h
    exact spells_comment hbody scopes
  | flags s => exact spells_switches h verbose scopes
  | group o body =>
    simp only [Piece.wellFormed, Bool.and_eq_true] at h
    obtain ⟨⟨ho, hbody⟩, hplain⟩ := h
    obtain ⟨inside, hspells⟩ := spells_pieces hbody (verbose :: scopes)
    refine spells_group ho (fun hp => ?_) hspells
    subst hp
    cases htext : textOf body with
    | nil => simp
    | cons c t => simpa [htext] using hplain

theorem spells_pieces {ps : List Piece} {verbose : Bool} (h : wellFormed verbose ps = true)
    (scopes : List Bool) :
    ∃ after, Spells Anything ⟨.pattern, verbose, scopes⟩ (textOf ps) (numberedOf ps)
      (fun offset => groupsOf offset ps) ⟨.pattern, after, scopes⟩ := by
  cases ps with
  | nil => exact ⟨verbose, Spells.nil _⟩
  | cons p ps =>
    simp only [wellFormed, Bool.and_eq_true] at h
    obtain ⟨after, hrest⟩ := spells_pieces h.2 scopes
    exact ⟨after, (spells_piece h.1 scopes).append hrest fun _ _ => trivial⟩

end

theorem strip_of_spells {t n : Text} {g : Nat → List Opening} {last : Context}
    (h : Spells Anything {} t n g last) : strip t = .ok ⟨n, GroupTable.ofOpenings (g 0)⟩ := by
  obtain ⟨ls, hrun, -, hnumbered, hgroups⟩ := h
  have hrun := hrun [] trivial
  rw [List.append_nil] at hrun
  rw [strip_of_run hrun, hnumbered, hgroups]

/-- A well-formed tree's text is stripped to what the tree is without annotations.  The groups are
those of the tree, numbered by their opening parentheses, and a name is bound to the last group
that bears it. -/
theorem strip_textOf {ps : List Piece} (h : wellFormed false ps = true) :
    ∃ table, strip (textOf ps) = .ok ⟨numberedOf ps, table⟩ ∧
      table.groups = GroupTable.numberFrom 1 (groupsOf 0 ps) ∧
      ∀ name i, table.indexOf? name = some i ↔ IsGreatest (table.indicesOf name) i := by
  obtain ⟨after, hspells⟩ := spells_pieces h []
  exact ⟨_, strip_of_spells hspells, GroupTable.groups_ofOpenings _,
    fun _ _ => (GroupTable.coherent_ofOpenings _).indexOf?_iff⟩

/-- A comment that holds a `(`, a class that holds a class, flags that end with their group, and a
name that is given twice. -/
theorem strip_textOf_nested :
    let ps : List Piece :=
      [.flags ⟨['x'], none⟩, .comment [' ', '('],
        .group (.named ['n']) [.charClass true true [.nested false false [.char '('], .escape ']'],
          .flags ⟨[], some ['x']⟩, .char '#'],
        .comment ['é'], .group (.look true false) [.group (.named ['n']) [.char 'é']]]
    wellFormed false ps = true ∧
      ∃ table, strip (textOf ps) = .ok ⟨numberedOf ps, table⟩ ∧
        table.groups = GroupTable.numberFrom 1 (groupsOf 0 ps) ∧
        ∀ name i, table.indexOf? name = some i ↔ IsGreatest (table.indicesOf name) i :=
  ⟨by decide, strip_textOf (by decide)⟩

end NamedCapture.Annotated
