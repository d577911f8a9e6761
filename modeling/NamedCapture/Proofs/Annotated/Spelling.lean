import NamedCapture.Proofs.Annotated.Lookahead
import NamedCapture.Proofs.Annotated.Tree
import NamedCapture.Proofs.Group

/-!
# Stripping a pattern that a tree spells

The scan of a well-formed tree's text reads each piece by itself: a piece spells its text and its
groups in any context of the right kind, and leaves the scopes of the groups around it as they
were (`spells_piece`).  So `strip` gives what the tree is written as without annotations, and a
table of its groups.
-/

namespace NamedCapture.Annotated

open GroupTable (Opening)

/-! ## Characters that stand for themselves -/

/-- A character that is a lexeme by itself and leaves the context as it is. -/
def Context.passes (ctx : Context) (c : Char) : Bool :=
  match ctx.place with
  | .pattern => c != '\\' && c != '[' && c != '(' && c != ')' && !(ctx.verbose && c == '#')
  | .charClass _ => c != '[' && c != ']' && c != '\\'
  | .comment => c != '\n'

theorem read_of_passes {ctx : Context} {c : Char} (h : ctx.passes c = true) (rest : Text) :
    ctx.read c rest = some (.plain c, ctx) := by
  obtain ⟨place, verbose, scopes⟩ := ctx
  cases place with
  | pattern =>
    simp only [Context.passes, Bool.and_eq_true, bne_iff_ne, ne_eq, Bool.not_eq_true'] at h
    obtain ⟨⟨⟨⟨hescape, hclass⟩, hopen⟩, hclose⟩, hcomment⟩ := h
    have hcomment' : ¬(c = '#' ∧ verbose = true) := by
      intro hparts
      obtain ⟨rfl, rfl⟩ := hparts
      cases hcomment
    simp [Context.read, hescape, hclass, hopen, hclose, hcomment']
  | charClass outer =>
    simp only [Context.passes, Bool.and_eq_true, bne_iff_ne, ne_eq] at h
    simp [Context.read, h.1.1, h.1.2, h.2]
  | comment =>
    simp only [Context.passes, bne_iff_ne, ne_eq] at h
    simp [Context.read, h]

theorem spells_char {ctx : Context} {c : Char} (h : ctx.passes c = true) :
    Spells Anything ctx [c] [c] (fun _ => []) ctx :=
  Spells.single (l := .plain c) rfl fun rest _ => read_of_passes h rest

theorem spells_chars {ctx : Context} {t : Text} (h : t.all ctx.passes = true) :
    Spells Anything ctx t t (fun _ => []) ctx := by
  induction t with
  | nil => exact Spells.nil ctx
  | cons c t ih =>
    simp only [List.all_cons, Bool.and_eq_true] at h
    exact (spells_char h.1).append (ih h.2) fun _ _ => trivial

theorem spells_escape {ctx : Context} (hplace : ctx.place ≠ .comment) (c : Char) :
    Spells Anything ctx ['\\', c] ['\\', c] (fun _ => []) ctx := by
  refine Spells.single (l := .escape (some c)) rfl fun rest _ => ?_
  obtain ⟨place, verbose, scopes⟩ := ctx
  cases place with
  | pattern => rfl
  | charClass outer => rfl
  | comment => exact absurd rfl hplace

theorem passes_of_isNameChar {verbose : Bool} {scopes : List Bool} {c : Char}
    (h : isNameChar c = true) : Context.passes ⟨.pattern, verbose, scopes⟩ c = true := by
  have hne : ∀ d, isNameChar d = false → c ≠ d := by
    intro d hd heq
    obtain rfl := heq
    rw [h] at hd
    cases hd
  simp [Context.passes, hne '\\' (by decide), hne '[' (by decide), hne '(' (by decide),
    hne ')' (by decide), hne '#' (by decide)]

/-! ## Flags -/

theorem verboseOf_letters (negated : Bool) {t : Text} (h : t.all Char.isAlpha = true) :
    verboseOf negated t = if 'x' ∈ t then some !negated else none := by
  induction t with
  | nil => rfl
  | cons c t ih =>
    simp only [List.all_cons, Bool.and_eq_true] at h
    have hdash : c ≠ '-' := by
      intro heq
      obtain rfl := heq
      exact absurd h.1 (by decide)
    rw [verboseOf, if_neg hdash, ih h.2]
    by_cases hx : c = 'x'
    · by_cases ht : 'x' ∈ t <;> simp [hx, ht]
    · simp [hx, Ne.symm hx]

/-- Letters in front count only where none behind them says anything. -/
theorem verboseOf_append {s : Text} (h : s.all Char.isAlpha = true) (t : Text) :
    verboseOf false (s ++ t) = (verboseOf false t).or (verboseOf false s) := by
  induction s with
  | nil => exact (Option.or_none).symm
  | cons c s ih =>
    simp only [List.all_cons, Bool.and_eq_true] at h
    have hdash : c ≠ '-' := by
      intro heq
      obtain rfl := heq
      exact absurd h.1 (by decide)
    rw [List.cons_append, verboseOf, verboseOf, if_neg hdash, if_neg hdash, ih h.2]
    by_cases hx : c = 'x'
    · rw [if_pos hx, if_pos hx, Option.or_assoc]
    · rw [if_neg hx, if_neg hx]

namespace Switches

variable {s : Switches}

theorem verboseOf_text (h : s.wellFormed = true) (outside : Bool) :
    (verboseOf false s.text).getD outside = s.verbose outside := by
  obtain ⟨set, cleared⟩ := s
  simp only [wellFormed, Bool.and_eq_true] at h
  cases cleared with
  | none =>
    simp only [text, List.append_nil, verboseOf_letters false h.1, verbose]
    by_cases hx : 'x' ∈ set <;> simp [hx]
  | some t =>
    have hbehind : verboseOf false ('-' :: t) = if 'x' ∈ t then some false else none :=
      verboseOf_letters true h.2
    rw [text, verboseOf_append h.1, hbehind, verboseOf_letters false h.1, verbose]
    by_cases hx : 'x' ∈ set <;> by_cases ht : 'x' ∈ t <;> simp [hx, ht]

theorem isFlagChar_of_mem_text (h : s.wellFormed = true) : ∀ c ∈ s.text, isFlagChar c = true := by
  obtain ⟨set, cleared⟩ := s
  simp only [wellFormed, Bool.and_eq_true, List.all_eq_true] at h
  intro c hc
  rw [text, List.mem_append] at hc
  rcases hc with hc | hc
  · simp [isFlagChar, h.1 c hc]
  · cases cleared with
    | none => cases hc
    | some t =>
      rcases List.mem_cons.mp hc with rfl | hc
      · rfl
      · simp [isFlagChar, h.2 c hc]

end Switches

theorem span_flags {s : Switches} (h : s.wellFormed = true) {c : Char} (hc : isFlagChar c = false)
    (rest : Text) :
    (s.text ++ c :: rest).takeWhile isFlagChar = s.text ∧
      (s.text ++ c :: rest).dropWhile isFlagChar = c :: rest := by
  have hall := s.isFlagChar_of_mem_text h
  constructor
  · rw [List.takeWhile_append_of_pos hall, List.takeWhile_cons_of_neg (by simp [hc]),
      List.append_nil]
  · rw [List.dropWhile_append_of_pos hall, List.dropWhile_cons_of_neg (by simp [hc])]

theorem groupOpening_flags {t : Text} {opens : Bool}
    (hend : (t.dropWhile isFlagChar).head? = some (if opens then ':' else ')')) :
    groupOpening ('?' :: t) = some (.flags (t.takeWhile isFlagChar) opens) := by
  -- Neither `<` nor the `<` behind a `P` can stand where the flags end.
  have hstop : ∀ r,
      (('<' :: r).dropWhile isFlagChar).head? ≠ some (if opens then ':' else ')') := by
    intro r
    rw [List.dropWhile_cons_of_neg (by decide)]
    cases opens <;> simp
  have hangle : t.head? ≠ some '<' := by
    intro hhead
    obtain ⟨r, rfl⟩ := List.head?_eq_some_iff.mp hhead
    exact hstop r hend
  have hP : ¬['P', '<'] <+: t := by
    intro hprefix
    obtain ⟨r, rfl⟩ := hprefix
    exact hstop r hend
  rw [groupOpening_letters hangle hP, hend]
  cases opens <;> rfl

theorem span_name {name : Text} (h : ∀ c ∈ name, isNameChar c = true) (rest : Text) :
    (name ++ '>' :: rest).takeWhile isNameChar = name ∧
      (name ++ '>' :: rest).dropWhile isNameChar = '>' :: rest := by
  constructor
  · rw [List.takeWhile_append_of_pos h, List.takeWhile_cons_of_neg (by decide), List.append_nil]
  · rw [List.dropWhile_append_of_pos h, List.dropWhile_cons_of_neg (by decide)]

theorem groupOpening_named {name : Text} (h : IsName name) (rest : Text) :
    groupOpening ('?' :: '<' :: (name ++ '>' :: rest)) = some (.named name) := by
  obtain ⟨hne, hall⟩ := h
  obtain ⟨htake, hdrop⟩ := span_name hall rest
  have hhead : ∀ d, isNameChar d = false → (name ++ '>' :: rest).head? ≠ some d := by
    intro d hd hhead
    cases name with
    | nil => exact hne rfl
    | cons c name =>
      cases hhead
      rw [hall d List.mem_cons_self] at hd
      cases hd
  rw [groupOpening_angle (hhead '=' (by decide)) (hhead '!' (by decide)), htake, hdrop]
  exact if_pos ⟨hne, rfl⟩

theorem read_named (ctx : Context) (hplace : ctx.place = .pattern) {name : Text} (h : IsName name)
    (rest : Text) :
    ctx.read '(' ('?' :: '<' :: (name ++ '>' :: rest)) = some (.named name, ctx.enter) := by
  obtain ⟨place, verbose, scopes⟩ := ctx
  cases hplace
  show (groupOpening _).map _ = _
  rw [groupOpening_named h]
  rfl

theorem Run.cons_named {ctx last : Context} {name s r : Text} {ls : List Lexeme}
    (hplace : ctx.place = .pattern) (h : IsName name) (hrun : Run ctx.enter s ls last r) :
    Run ctx ('(' :: '?' :: '<' :: (name ++ '>' :: s)) (.named name :: ls) last r :=
  .step (read_named ctx hplace h s) (by simp [Lexeme.text]) hrun

/-! ## Openers -/

/-- A `(` by itself must not be followed by what would make it another opener. -/
def Opener.ahead (o : Opener) (rest : Text) : Prop := o = .plain → rest.head? ≠ some '?'

theorem spells_grouping {verbose : Bool} {scopes : List Bool} {t : Text}
    (hgroup : ∀ rest, groupOpening (t ++ rest) = some .grouping)
    (ht : t.all (Context.passes ⟨.pattern, verbose, verbose :: scopes⟩) = true) :
    Spells Anything ⟨.pattern, verbose, scopes⟩ ('(' :: t) ('(' :: t) (fun _ => [])
      ⟨.pattern, verbose, verbose :: scopes⟩ := by
  have hopen : Spells (fun rest => ∃ s, rest = t ++ s) ⟨.pattern, verbose, scopes⟩ ['('] ['(']
      (fun _ => []) ⟨.pattern, verbose, verbose :: scopes⟩ := by
    refine Spells.single (l := .grouping) rfl ?_
    intro rest hparts
    obtain ⟨s, rfl⟩ := hparts
    show (groupOpening (t ++ s)).map _ = _
    rw [hgroup s]
    rfl
  exact hopen.append (spells_chars ht) fun rest _ => ⟨rest, rfl⟩

theorem spells_engineNamed {name : Text} (h : name.all isNameChar = true) (verbose : Bool)
    (scopes : List Bool) :
    Spells Anything ⟨.pattern, verbose, scopes⟩ (Opener.engineNamed name).text
      (Opener.engineNamed name).text (fun o => [⟨none, o⟩])
      ⟨.pattern, verbose, verbose :: scopes⟩ := by
  have hopen : Spells (fun rest => ∃ s, rest = '?' :: 'P' :: '<' :: s)
      ⟨.pattern, verbose, scopes⟩ ['('] ['('] (fun o => [⟨none, o⟩])
      ⟨.pattern, verbose, verbose :: scopes⟩ := by
    refine Spells.single (l := .capturing) rfl ?_
    intro rest hparts
    obtain ⟨s, rfl⟩ := hparts
    rfl
  have hname : (['?', 'P', '<'] ++ name ++ ['>']).all
      (Context.passes ⟨.pattern, verbose, verbose :: scopes⟩) = true := by
    simp only [List.all_append, Bool.and_eq_true]
    refine ⟨⟨?_, ?_⟩, ?_⟩
    · cases verbose <;> rfl
    · rw [List.all_eq_true] at h ⊢
      exact fun c hc => passes_of_isNameChar (h c hc)
    · cases verbose <;> rfl
  refine hopen.append (spells_chars hname) fun rest _ => ⟨name ++ ['>'] ++ rest, ?_⟩
  simp

theorem read_flags {s : Switches} (h : s.wellFormed = true) (opens verbose : Bool)
    (scopes : List Bool) (rest : Text) :
    Context.read ⟨.pattern, verbose, scopes⟩ '('
        ('?' :: (s.text ++ [if opens then ':' else ')']) ++ rest) =
      some (.flags s.text opens,
        ⟨.pattern, s.verbose verbose, if opens then verbose :: scopes else scopes⟩) := by
  have hstop : isFlagChar (if opens then ':' else ')') = false := by
    cases opens <;> rfl
  obtain ⟨htake, hdrop⟩ := span_flags h hstop rest
  have hopening : groupOpening ('?' :: (s.text ++ (if opens then ':' else ')') :: rest)) =
      some (.flags s.text opens) := by
    rw [groupOpening_flags (by rw [hdrop]; rfl), htake]
  have hverbose := Switches.verboseOf_text h verbose
  show (groupOpening ('?' :: (s.text ++ [if opens then ':' else ')']) ++ rest)).map _ = _
  rw [List.cons_append, List.append_assoc, List.singleton_append, hopening]
  cases opens <;> simp [Context.after, Context.enter, hverbose]

theorem spells_opener {o : Opener} (h : o.wellFormed = true) (verbose : Bool)
    (scopes : List Bool) :
    Spells o.ahead ⟨.pattern, verbose, scopes⟩ o.text o.numbered (fun offset => o.groups offset)
      ⟨.pattern, o.verbose verbose, verbose :: scopes⟩ := by
  cases o with
  | plain =>
    refine Spells.single (l := .capturing) rfl fun rest hrest => ?_
    show (groupOpening rest).map _ = _
    rw [groupOpening_plain (hrest rfl)]
    rfl
  | named name =>
    refine Spells.single (l := .named name) rfl fun rest _ => ?_
    have hname := read_named ⟨.pattern, verbose, scopes⟩ rfl (of_decide_eq_true h) rest
    rwa [List.append_cons] at hname
  | engineNamed name => exact (spells_engineNamed h verbose scopes).weaken
  | nonCapturing =>
    exact Spells.single (l := .flags [] true) rfl fun rest _ => rfl
  | atomic =>
    refine (spells_grouping (fun _ => rfl) ?_).weaken
    cases verbose <;> rfl
  | look behind negative =>
    cases behind <;> cases negative <;> refine (spells_grouping (fun _ => rfl) ?_).weaken <;>
      cases verbose <;> rfl
  | flags s =>
    exact Spells.single (l := .flags s.text true) rfl fun rest _ =>
      read_flags h true verbose scopes rest

/-! ## Classes -/

/-- What follows the head of a class does not belong to it. -/
def headAhead (negated bracket : Bool) (rest : Text) : Prop :=
  classOpening ((if negated then ['^'] else []) ++ (if bracket then [']'] else []) ++ rest) =
    .classOpen negated bracket

theorem head?_membersText {m : Member} (h : m.wellFormed = true) (ms : List Member) (rest : Text) :
    (membersText (m :: ms) ++ rest).head? ≠ some ']' ∧
      (startsWithCaret (m :: ms) = false → (membersText (m :: ms) ++ rest).head? ≠ some '^') := by
  cases m with
  | char c =>
    simp only [Member.wellFormed, Bool.and_eq_true, bne_iff_ne, ne_eq] at h
    simp [membersText, Member.text, startsWithCaret, h.1.2]
  | escape c => simp [membersText, Member.text]
  | nested negated bracket members => simp [membersText, Member.text, classHead]

theorem headAhead_members {negated bracket : Bool} {members : List Member}
    (hhead : headWellFormed negated bracket members = true)
    (hmembers : membersWellFormed members = true) (rest : Text) :
    headAhead negated bracket (membersText members ++ ']' :: rest) := by
  cases bracket with
  | true => cases negated <;> rfl
  | false =>
    cases members with
    | nil => cases hhead
    | cons m ms =>
      simp only [membersWellFormed, Bool.and_eq_true] at hmembers
      obtain ⟨hbracket, hcaret⟩ := head?_membersText hmembers.1 ms (']' :: rest)
      cases negated with
      | true => exact classOpening_caret hbracket
      | false =>
        have hfirst : startsWithCaret (m :: ms) = false := by
          simpa [headWellFormed] using hhead
        exact classOpening_members (hcaret hfirst) hbracket

/-- How many classes a class that opens here is in. -/
def Place.depth : Place → Nat
  | charClass outer => outer + 1
  | _ => 0

variable {place : Place} {verbose : Bool} {scopes : List Bool}

theorem spells_classHead (hplace : place ≠ .comment) (negated bracket : Bool) :
    Spells (headAhead negated bracket) ⟨place, verbose, scopes⟩ (classHead negated bracket)
      (classHead negated bracket) (fun _ => []) ⟨.charClass place.depth, verbose, scopes⟩ := by
  refine Spells.single (l := .classOpen negated bracket) rfl fun rest hrest => ?_
  cases place with
  | pattern =>
    show some (classOpening _, _) = _
    rw [hrest]
    rfl
  | charClass outer =>
    show some (classOpening _, _) = _
    rw [hrest]
    rfl
  | comment => exact absurd rfl hplace

theorem spells_classClose (hplace : place ≠ .comment) :
    Spells Anything ⟨.charClass place.depth, verbose, scopes⟩ [']'] [']'] (fun _ => [])
      ⟨place, verbose, scopes⟩ := by
  refine Spells.single (l := .classClose) rfl fun rest _ => ?_
  cases place with
  | pattern => rfl
  | charClass outer => rfl
  | comment => exact absurd rfl hplace

theorem spells_class (hplace : place ≠ .comment) {negated bracket : Bool} {members : List Member}
    (hhead : headWellFormed negated bracket members = true)
    (hmembers : membersWellFormed members = true)
    (hspells : Spells Anything ⟨.charClass place.depth, verbose, scopes⟩ (membersText members)
      (membersText members) (fun _ => []) ⟨.charClass place.depth, verbose, scopes⟩) :
    Spells Anything ⟨place, verbose, scopes⟩
      (classHead negated bracket ++ membersText members ++ [']'])
      (classHead negated bracket ++ membersText members ++ [']']) (fun _ => [])
      ⟨place, verbose, scopes⟩ := by
  have hinner : Spells (fun rest => ∃ s, rest = ']' :: s) ⟨place, verbose, scopes⟩
      (classHead negated bracket ++ membersText members)
      (classHead negated bracket ++ membersText members) (fun _ => [])
      ⟨.charClass place.depth, verbose, scopes⟩ := by
    refine (spells_classHead hplace negated bracket).append hspells.weaken ?_
    intro rest hparts
    obtain ⟨s, rfl⟩ := hparts
    exact headAhead_members hhead hmembers s
  exact hinner.append (spells_classClose hplace) fun rest _ => ⟨rest, rfl⟩

mutual

theorem spells_member {m : Member} (h : m.wellFormed = true) (outer : Nat) :
    Spells Anything ⟨.charClass outer, verbose, scopes⟩ m.text m.text (fun _ => [])
      ⟨.charClass outer, verbose, scopes⟩ := by
  cases m with
  | char c => exact spells_char h
  | escape c => exact spells_escape (by simp) c
  | nested negated bracket members =>
    simp only [Member.wellFormed, Bool.and_eq_true] at h
    exact spells_class (by simp) h.1 h.2 (spells_members h.2 (outer + 1))

theorem spells_members {ms : List Member} (h : membersWellFormed ms = true) (outer : Nat) :
    Spells Anything ⟨.charClass outer, verbose, scopes⟩ (membersText ms) (membersText ms)
      (fun _ => []) ⟨.charClass outer, verbose, scopes⟩ := by
  cases ms with
  | nil => exact Spells.nil _
  | cons m ms =>
    simp only [membersWellFormed, Bool.and_eq_true] at h
    exact (spells_member h.1 outer).append (spells_members h.2 outer) fun _ _ => trivial

end

end NamedCapture.Annotated
