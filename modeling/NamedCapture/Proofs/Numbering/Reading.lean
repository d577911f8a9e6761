import NamedCapture.Proofs.Numbering.Alignment

/-!
# Reading a pattern beside its scan

The readers of an engine call each other on less and less fuel.  `Reads` says of all of them at once
that they number the groups that the lexemes passed open; one lemma for each reader carries it over
to the next amount of fuel, and at the end of a pattern nothing is left of either.
-/

namespace NamedCapture.Regex.Program

theorem groupsOf_ofList (es : List Expr) : groupsOf (Expr.ofList es) = groupsOfAll es := by
  unfold Expr.ofList
  split
  · rfl
  · rw [groupsOfAll, groupsOfAll, List.append_nil]
  · rw [groupsOf]

end NamedCapture.Regex.Program

namespace NamedCapture.Annotated

open Regex (Reading Expr isInert skipBlanks Takes TakesInert readExpr readAlternatives readBranch
  readPiece readAtom readGroup)

/-- A reader numbers the groups that it puts into its answer, wherever it starts. -/
def ReadsGroups {α : Type} (annotated : Bool) (read : Reading → Option (α × Reading))
    (groups : α → List Nat) : Prop :=
  ∀ ⦃r a next⦄, read r = some (a, next) →
    ∀ byFlags scopes, Advances annotated byFlags scopes r (groups a) next

/-- All readers that may come to a group number what they read on an amount of fuel.  The reader of
groups starts behind a `(`. -/
structure Reads (annotated : Bool) (limit fuel : Nat) : Prop where
  expr : ∀ depth, ReadsGroups annotated (readExpr limit fuel depth) Regex.Program.groupsOf
  alternatives : ∀ depth,
    ReadsGroups annotated (readAlternatives limit fuel depth) Regex.Program.groupsOfAll
  branch : ∀ depth, ReadsGroups annotated (readBranch limit fuel depth) Regex.Program.groupsOfAll
  piece : ∀ depth, ReadsGroups annotated (readPiece limit fuel depth) Regex.Program.groupsOf
  atom : ∀ depth, ReadsGroups annotated (readAtom limit fuel depth) Regex.Program.groupsOf
  group : ∀ depth ⦃r e next⦄, readGroup limit fuel depth r = some (e, next) →
    ∀ byFlags scopes,
      Advances annotated byFlags scopes { r with rest := '(' :: r.rest }
        (Regex.Program.groupsOf e) next

variable {annotated : Bool} {byFlags scopes : List Bool} {limit fuel depth : Nat}
  {r mid next : Reading}

/-! ## Single characters -/

theorem Advances.of_char {c : Char} {t : Text} (hrest : r.rest = c :: t) (hc : isInert c = true) :
    Advances annotated byFlags scopes r [] { r with rest := t } := by
  refine .of_leads ?_ rfl rfl rfl
  rw [hrest]
  exact leads_cons rfl hc

theorem Advances.of_plain {c : Char} {t : Text} (hrest : r.rest = c :: t)
    (hc : c ∉ ['\\', '[', '(', ')']) (hhash : c = '#' → r.modes.verbose = false) :
    Advances annotated byFlags scopes r [] { r with rest := t } := by
  intro ls hparts
  obtain ⟨ht, hlegible⟩ := hparts
  obtain ⟨ls', rfl, ht', hlegible'⟩ := hlegible.of_plain (ht.trans hrest) hc hhash
  exact ⟨[.plain c], ls', rfl, ⟨ht', hlegible'⟩, .of_eq rfl rfl⟩

theorem verbose_of_skipBlanks {verbose : Bool} {blank : Regex.Blank} {t s : Text}
    (h : skipBlanks verbose blank t = some ('#' :: s)) : verbose = false := by
  fun_induction skipBlanks verbose blank t with
  | case1 => cases h
  | case2 => cases h
  | case3 c t ih => exact ih h
  | case4 c t ih => exact ih h
  | case5 c t hne ih => exact ih h
  | case6 t ih => exact ih h
  | case7 c t hne hhash ih => exact ih h
  | case8 c t hne hhash hblank ih => exact ih h
  | case9 c t hne hhash hblank =>
    cases h
    simpa using hhash

theorem Advances.of_readBackslash {e : Expr} {t : Text} (hrest : r.rest = '\\' :: t)
    (h : { r with rest := t }.readBackslash limit = some (e, next)) :
    Advances annotated byFlags scopes r (Regex.Program.groupsOf e) next := by
  obtain ⟨c, u, rfl, hahead, hgroups⟩ := Regex.Reading.readBackslash_spec h
  rw [hgroups]
  refine .of_leads ?_ ?_ hahead.groupCount hahead.names
  · intro ls ht hlegible
    rw [hrest] at ht
    obtain ⟨ls', rfl, ht', hlegible'⟩ := hlegible.of_escape nofun ht
    have hleads : Leads annotated byFlags ⟨.pattern, r.modes.verbose, scopes⟩ u next.rest :=
      leads_of_takesInert nofun hahead.takes
    exact (hleads ls' ht' hlegible').cons rfl
  · rw [hahead.modes]

theorem Advances.of_readClass {fold : Bool} {s : CharSet} {t rest : Text}
    (hrest : r.rest = '[' :: t) (h : Regex.readClass fold t = some (s, rest)) :
    Advances annotated byFlags scopes r [] { r with rest } := by
  refine .of_leads ?_ rfl rfl rfl
  intro ls ht hlegible
  exact reaches_of_readClass h hlegible (ht.trans hrest)

/-! ## What is not a group -/

/-- A branch ends where a piece takes nothing, and drops the piece. -/
theorem Reads.branch_succ (h : Reads annotated limit fuel) (depth : Nat) :
    ReadsGroups annotated (readBranch limit (fuel + 1) depth) Regex.Program.groupsOfAll := by
  intro r es next hread byFlags scopes
  unfold readBranch at hread
  split at hread
  · cases hread
    exact Advances.refl r
  · obtain ⟨⟨e, mid⟩, hpiece, hread⟩ := Option.bind_eq_some_iff.mp hread
    dsimp only at hread
    split at hread
    · cases hread
      exact Advances.refl r
    · obtain ⟨⟨es', last⟩, hbranch, heq⟩ := Option.bind_eq_some_iff.mp hread
      cases heq
      have hwhole := (h.piece depth hpiece byFlags scopes).trans
        (h.branch depth hbranch byFlags scopes)
      split
      · rename_i hempty
        cases e with
        | empty => exact hwhole
        | _ => cases hempty
      · exact hwhole

theorem Reads.alternatives_succ (h : Reads annotated limit fuel) (depth : Nat) :
    ReadsGroups annotated (readAlternatives limit (fuel + 1) depth) Regex.Program.groupsOfAll := by
  intro r es next hread byFlags scopes
  unfold readAlternatives at hread
  split at hread
  · rename_i rest hrest
    obtain ⟨⟨es', mid⟩, hbranch, hread⟩ := Option.bind_eq_some_iff.mp hread
    obtain ⟨mid', hskip, hread⟩ := Option.bind_eq_some_iff.mp hread
    obtain ⟨⟨others, last⟩, halternatives, heq⟩ := Option.bind_eq_some_iff.mp hread
    cases heq
    have hbar : Advances annotated byFlags scopes r [] { r with rest } :=
      .of_char hrest (by decide)
    rw [Regex.Program.groupsOfAll, Regex.Program.groupsOf_ofList]
    exact hbar.trans (((h.branch depth hbranch byFlags scopes).quiet (.of_skip hskip)).trans
      (h.alternatives depth halternatives byFlags scopes))
  · cases hread
    exact Advances.refl r

theorem Reads.expr_succ (h : Reads annotated limit fuel) (depth : Nat) :
    ReadsGroups annotated (readExpr limit (fuel + 1) depth) Regex.Program.groupsOf := by
  intro r e next hread byFlags scopes
  unfold readExpr at hread
  obtain ⟨⟨es, mid⟩, hbranch, hread⟩ := Option.bind_eq_some_iff.mp hread
  obtain ⟨mid', hskip, hread⟩ := Option.bind_eq_some_iff.mp hread
  have hfirst := (h.branch depth hbranch byFlags scopes).quiet (.of_skip hskip)
  split at hread
  · obtain ⟨⟨others, last⟩, halternatives, heq⟩ := Option.bind_eq_some_iff.mp hread
    cases heq
    rw [Regex.Program.groupsOf, Regex.Program.groupsOfAll, Regex.Program.groupsOf_ofList]
    exact hfirst.trans (h.alternatives depth halternatives byFlags scopes)
  · split at hread
    · cases hread
    · cases hread
      rw [Regex.Program.groupsOf_ofList]
      exact hfirst

theorem Advances.of_readQuantifier {lo : Nat} {hi : Option Nat} {t : Text}
    (h : Regex.readQuantifier r.modes.verbose r.rest = some (lo, hi, t)) :
    Advances annotated byFlags scopes r [] { r with rest := t } :=
  .of_leads (leads_of_readQuantifier rfl h) rfl rfl rfl

theorem Reads.piece_succ (h : Reads annotated limit fuel) (depth : Nat) :
    ReadsGroups annotated (readPiece limit (fuel + 1) depth) Regex.Program.groupsOf := by
  intro r e next hread byFlags scopes
  unfold readPiece at hread
  obtain ⟨⟨atom, mid⟩, hatom, hread⟩ := Option.bind_eq_some_iff.mp hread
  obtain ⟨mid', hskip, hread⟩ := Option.bind_eq_some_iff.mp hread
  have hfirst := (h.atom depth hatom byFlags scopes).quiet (.of_skip hskip)
  split at hread
  · cases hread
    exact hfirst
  · rename_i lo hi rest hquantifier
    split at hread
    · cases hread
    · obtain ⟨mid, hskip', hread⟩ := Option.bind_eq_some_iff.mp hread
      have hquantified := (hfirst.quiet (.of_readQuantifier hquantifier)).quiet (.of_skip hskip')
      split at hread
      rename_i greedy mid' heq
      have hgreedy : Advances annotated byFlags scopes mid [] mid' := by
        split at heq
        · rename_i rest hrest
          cases heq
          exact .of_char hrest (by decide)
        · cases heq
          exact Advances.refl _
      have hlast := hquantified.quiet hgreedy
      dsimp only at hread
      split at hread
      · rename_i rest hrest
        cases hread
        exact hlast.quiet (.of_char hrest (by decide))
      · cases hread
        exact hlast

theorem Reads.atom_succ (h : Reads annotated limit fuel) (depth : Nat) :
    ReadsGroups annotated (readAtom limit (fuel + 1) depth) Regex.Program.groupsOf := by
  intro r e next hread byFlags scopes
  unfold readAtom at hread
  obtain ⟨mid, hskip, hread⟩ := Option.bind_eq_some_iff.mp hread
  refine Advances.trans (.of_skip hskip) ?_
  split at hread
  · cases hread
    exact Advances.refl _
  · rename_i c rest hrest
    dsimp only at hread
    split at hread
    case h_1 =>
      cases hread
      exact .of_char hrest (by decide)
    case h_2 =>
      cases hread
      exact .of_char hrest (by decide)
    case h_3 =>
      cases hread
      exact .of_char hrest (by decide)
    case h_4 =>
      have hgroup := h.group _ hread byFlags scopes
      rw [← hrest] at hgroup
      exact hgroup
    case h_5 => exact .of_readBackslash hrest hread
    case h_11 =>
      obtain ⟨⟨s, rest'⟩, hclass, heq⟩ := Option.map_eq_some_iff.mp hread
      cases heq
      exact .of_readClass hrest hclass
    case h_12 hdot hcaret hdollar hopen hescape _ _ _ _ hclose hclass =>
      cases hread
      have hgroups : Regex.Program.groupsOf (mid.charExpr c true) = [] := by
        unfold Regex.Reading.charExpr
        split <;> rfl
      rw [hgroups]
      refine .of_plain hrest ?_ ?_
      · simp only [List.mem_cons, List.not_mem_nil, or_false, not_or]
        exact ⟨hescape, hclass, hopen, hclose⟩
      · intro heq
        obtain rfl := heq
        obtain ⟨hskip, heq⟩ := skip_spec hskip
        rw [heq]
        rw [hrest] at hskip
        exact verbose_of_skipBlanks hskip
    all_goals
      cases hread
      exact Advances.refl _

/-! ## Groups -/

theorem Reads.inner (h : Reads annotated limit fuel) {e : Expr} {outer : Bool} {ls : List Lexeme}
    (hexpr : readExpr limit fuel depth r = some (e, mid)) (hclose : mid.close = some next)
    (haligned : Aligned annotated (false :: byFlags) (outer :: scopes) r ls) :
    Passes annotated byFlags scopes r (Regex.Program.groupsOf e) next ls := by
  obtain ⟨ks, ls', rfl, hmid, hcounts⟩ := h.expr depth hexpr _ _ ls haligned
  have hpasses := Passes.append hcounts (hmid.of_readClose hclose)
  rw [List.append_nil] at hpasses
  exact hpasses

/-- A group that counts, from where it is opened. -/
theorem Reads.capture (h : Reads annotated limit fuel) {e : Expr} {outer : Bool} {l : Lexeme}
    (ks : List Lexeme) {ls : List Lexeme} {name given : Option Text} {t : Text}
    (hl : l.group? = some given)
    (hname : annotated = true → ∀ n, given = some n → name = some n) (hks : groupNames ks = [])
    (hexpr : readExpr limit fuel depth (r.openGroup name t) = some (e, mid))
    (hclose : mid.close = some next)
    (haligned : Aligned annotated (false :: byFlags) (outer :: scopes) (r.openGroup name t) ls) :
    Passes annotated byFlags scopes r (Regex.Program.groupsOf (.group (r.groupCount + 1) e)) next
      (l :: (ks ++ ls)) := by
  have hopened : Counts annotated r (r.openGroup name t) (groupNames (l :: ks))
      [r.groupCount + 1] := by
    rw [groupNames, List.filterMap_cons_some hl]
    show Counts annotated r (r.openGroup name t) (given :: groupNames ks) [r.groupCount + 1]
    rw [hks]
    exact .of_openGroup hname
  exact Passes.append hopened (h.inner hexpr hclose haligned)

theorem takesInert_named {t name rest : Text}
    (h : Regex.readName [] '>' false t = some (name, rest)) : TakesInert t rest := by
  have hname := Regex.takesInert_readName rfl h
  exact hname.trans (Takes.cons (by decide) (Takes.refl rest))

/-- A group that counts and whose name the engine sees, though its lexeme gives it none: the
annotation stands behind blanks, or as `?P<`. -/
theorem Reads.capture_named (h : Reads annotated limit fuel) {e : Expr} {outer : Bool} {l : Lexeme}
    {ks ls : List Lexeme} {given : Option Text} {u rest : Text} (hl : l.group? = some given)
    (hgiven : annotated = true → given = none) (hks : groupNames ks = [])
    (hrest : mid.rest = u ++ rest) (hu : u.all isInert = true)
    (haligned : Aligned annotated (false :: byFlags) (outer :: scopes) mid ls)
    (hread : (Regex.readName [] '>' false rest).bind (fun named =>
      (readExpr limit fuel depth (mid.openGroup (some named.1) named.2)).bind fun body =>
        body.2.close.bind fun r => some (Expr.group (mid.groupCount + 1) body.1, r)) =
      some (e, next)) :
    Passes annotated byFlags scopes mid (Regex.Program.groupsOf e) next (l :: (ks ++ ls)) := by
  obtain ⟨⟨name, rest'⟩, hreadName, hread⟩ := Option.bind_eq_some_iff.mp hread
  obtain ⟨⟨body, inside⟩, hexpr, hread⟩ := Option.bind_eq_some_iff.mp hread
  obtain ⟨last, hclose, heq⟩ := Option.bind_eq_some_iff.mp hread
  cases heq
  have hname : annotated = true → ∀ n, given = some n → some name = some n := by
    intro hannotated n hn
    rw [hgiven hannotated] at hn
    cases hn
  have htakes : TakesInert mid.rest rest' :=
    Takes.trans ⟨u, hrest, hu⟩ (takesInert_named hreadName)
  have hleads : Leads annotated (false :: byFlags)
      ⟨.pattern, mid.modes.verbose, outer :: scopes⟩ mid.rest rest' :=
    leads_of_takesInert nofun htakes
  obtain ⟨ks', ls', rfl, hks', ht, hlegible⟩ := hleads ls haligned.1 haligned.2
  have hquiet : groupNames (ks ++ ks') = [] := by
    rw [groupNames_append, hks, hks']
    rfl
  rw [← List.append_assoc]
  exact h.capture _ hl hname hquiet hexpr hclose ⟨ht, hlegible⟩

theorem Reads.group_of_paren (h : Reads annotated limit fuel) {e : Expr} {l : Lexeme}
    {ls : List Lexeme} {given : Option Text} (hl : l.group? = some given)
    (hgiven : annotated = true → given = none)
    (hopens : (!opensOtherwise
      ((skipBlanks r.modes.verbose .none (shownAll annotated ls)).getD [])) = true)
    (haligned : Aligned annotated (false :: byFlags) (r.modes.verbose :: scopes) r ls)
    (hread : readGroup limit (fuel + 1) depth r = some (e, next)) :
    Passes annotated byFlags scopes r (Regex.Program.groupsOf e) next (l :: ls) := by
  unfold readGroup at hread
  split at hread
  · cases hread
  · obtain ⟨mid, hskip, hread⟩ := Option.bind_eq_some_iff.mp hread
    rw [haligned.1, (skip_spec hskip).1, Option.getD_some, Bool.not_eq_true'] at hopens
    obtain ⟨ks, ls', rfl, haligned', hcounts⟩ := Advances.of_skip hskip ls haligned
    have hks := hcounts.eq_nil
    rw [hks] at hcounts
    refine Passes.after hcounts ?_
    have hname : annotated = true → ∀ n, given = some n → (none : Option Text) = some n := by
      intro hannotated n hn
      rw [hgiven hannotated] at hn
      cases hn
    dsimp only at hread
    split at hread
    case h_5 hrest =>
      exact h.capture_named hl hgiven hks (u := ['?', '<']) hrest rfl haligned' hread
    case h_6 hrest =>
      exact h.capture_named hl hgiven hks (u := ['?', 'P', '<']) hrest rfl haligned' hread
    case h_10 rest _ _ _ _ hless hengine _ _ _ hrest =>
      rw [hrest] at hopens
      unfold opensOtherwise at hopens
      split at hopens
      · rename_i heq
        exact absurd (List.cons.inj heq).2 (hengine _)
      · rename_i heq
        exact absurd (List.cons.inj heq).2 (hless _)
      · cases hopens
      · rename_i hne
        exact absurd rfl (hne rest)
    case h_11 =>
      obtain ⟨⟨body, inside⟩, hexpr, hread⟩ := Option.bind_eq_some_iff.mp hread
      obtain ⟨last, hclose, heq⟩ := Option.bind_eq_some_iff.mp hread
      cases heq
      exact h.capture _ hl hname hks hexpr hclose haligned'
    all_goals
      rename_i hrest
      rw [hrest] at hopens
      cases hopens

theorem Reads.group_of_named (h : Reads true limit fuel) {e : Expr} {name t : Text}
    {ls : List Lexeme} (hname : IsName name) (hrest : r.rest = '?' :: '<' :: (name ++ '>' :: t))
    (haligned : Aligned true (false :: byFlags) (r.modes.verbose :: scopes) { r with rest := t } ls)
    (hread : readGroup limit (fuel + 1) depth r = some (e, next)) :
    Passes true byFlags scopes r (Regex.Program.groupsOf e) next (.named name :: ls) := by
  obtain ⟨c, cs, hcons⟩ := List.exists_cons_of_ne_nil hname.1
  have hc : isNameChar c = true := hname.2 c (by rw [hcons]; exact List.mem_cons_self)
  unfold readGroup at hread
  split at hread
  · cases hread
  · rw [skip_eq_self hrest (by decide)] at hread
    dsimp only [Option.bind_eq_bind, Option.bind_some] at hread
    split at hread
    case h_5 rest _ _ hrest' =>
      rw [hrest] at hrest'
      cases hrest'
      obtain ⟨⟨name', rest'⟩, hreadName, hread⟩ := Option.bind_eq_some_iff.mp hread
      rw [Regex.readName_of_isName hname] at hreadName
      cases hreadName
      obtain ⟨⟨body, inside⟩, hexpr, hread⟩ := Option.bind_eq_some_iff.mp hread
      obtain ⟨last, hclose, heq⟩ := Option.bind_eq_some_iff.mp hread
      cases heq
      have hgiven : ∀ n, some name = some n → some name = some n := fun n hn => hn
      exact h.capture [] rfl (fun _ => hgiven) rfl hexpr hclose haligned
    case h_3 hrest' =>
      rw [hrest, hcons] at hrest'
      cases hrest'
      cases hc
    case h_4 hrest' =>
      rw [hrest, hcons] at hrest'
      cases hrest'
      cases hc
    case h_10 hless _ _ _ _ hrest' =>
      rw [hrest] at hrest'
      cases hrest'
      exact absurd rfl (hless _)
    case h_11 hne => exact absurd hrest (hne _)
    all_goals
      rename_i hrest'
      rw [hrest] at hrest'
      cases hrest'

theorem readFlags_hash {t : Text} {read : Nat} {negated : Bool} (hrest : r.rest = '#' :: t)
    (hverbose : r.modes.verbose = false) : Regex.Reading.readFlags fuel read negated r = none := by
  cases fuel with
  | zero => rfl
  | succ fuel =>
    have hskip : r.skip = some r := by
      rw [Regex.Reading.skip, hrest, hverbose, skipBlanks_cons (by simp), ← hrest]
      rfl
    unfold Regex.Reading.readFlags
    rw [hskip]
    simp [hrest]

theorem Reads.group_of_body (h : Reads annotated limit fuel) {e : Expr} {outer : Bool}
    (front : List Lexeme) {ls : List Lexeme} (build : Expr → Expr) {t : Text}
    (hfront : groupNames front = [])
    (hbuild : ∀ e, Regex.Program.groupsOf (build e) = Regex.Program.groupsOf e)
    (haligned : Aligned annotated (false :: byFlags) (outer :: scopes) { r with rest := t } ls)
    (hread : ((readExpr limit fuel depth { r with rest := t }).bind fun body =>
      body.2.close.bind fun r => some (build body.1, r)) = some (e, next)) :
    Passes annotated byFlags scopes r (Regex.Program.groupsOf e) next
      (.grouping :: (front ++ ls)) := by
  obtain ⟨⟨body, inside⟩, hexpr, hread⟩ := Option.bind_eq_some_iff.mp hread
  obtain ⟨last, hclose, heq⟩ := Option.bind_eq_some_iff.mp hread
  cases heq
  rw [hbuild]
  have hopened : Counts annotated r { r with rest := t } (groupNames (.grouping :: front)) [] := by
    show Counts annotated _ _ (groupNames front) []
    rw [hfront]
    exact .of_eq rfl rfl
  exact Passes.append hopened (h.inner hexpr hclose haligned)

theorem Passes.of_namedRef (front : List Lexeme) {ls : List Lexeme} {group : Nat} {t : Text}
    (hfront : groupNames front = [])
    (haligned : Aligned annotated (false :: byFlags) (r.modes.verbose :: scopes)
      { r with rest := t } ls)
    (href : { r with rest := t }.namedRef [] ')' false = some (group, next)) :
    Passes annotated byFlags scopes r [] next (.grouping :: (front ++ ls)) := by
  obtain ⟨htakes, hmodes, hcount, hnames⟩ := Regex.Reading.namedRef_spec rfl href
  have hleads : Leads annotated (false :: byFlags)
      ⟨.pattern, r.modes.verbose, r.modes.verbose :: scopes⟩ t (')' :: next.rest) :=
    leads_of_takesInert nofun htakes
  obtain ⟨ks, ls', rfl, hks, ht, hlegible⟩ := hleads ls haligned.1 haligned.2
  have hend : Aligned annotated (false :: byFlags) (r.modes.verbose :: scopes)
      { next with rest := ')' :: next.rest } ls' := by
    refine ⟨ht, ?_⟩
    show Legible annotated (false :: byFlags) ⟨.pattern, next.modes.verbose, _⟩ ls'
    rw [show next.modes = r.modes from hmodes]
    exact hlegible
  obtain ⟨ls'', rfl, hnext⟩ := hend.of_closeGroup rfl
  refine ⟨.grouping :: (front ++ (ks ++ [.close])), ls'', by simp, hnext, ?_⟩
  show Counts annotated _ next (groupNames (front ++ (ks ++ [.close]))) []
  rw [groupNames_append, groupNames_append, hfront, hks]
  exact .of_eq hcount hnames

/-- A `(` that does not count, with what an engine knows behind it. -/
theorem Reads.group_of_grouping (h : Reads annotated limit fuel) {e : Expr} {ls : List Lexeme}
    (hknown : opensKnown r.modes.verbose ls = true)
    (haligned : Aligned annotated (false :: byFlags) (r.modes.verbose :: scopes) r ls)
    (hread : readGroup limit (fuel + 1) depth r = some (e, next)) :
    Passes annotated byFlags scopes r (Regex.Program.groupsOf e) next (.grouping :: ls) := by
  obtain ⟨rest, modes, groupCount, names, refs, numbered⟩ := r
  obtain ⟨hrest, hlegible⟩ := haligned
  subst hrest
  unfold readGroup at hread
  split at hread
  · cases hread
  · obtain ⟨mid, hskip, hmid⟩ := Option.bind_eq_some_iff.mp hread
    clear hread
    unfold opensKnown at hknown
    split at hknown
    case h_8 => cases hknown
    all_goals
      simp only [shownAll_cons, Lexeme.shown_plain, List.cons_append, List.nil_append] at hskip
      rw [skip_eq_self rfl (by decide)] at hskip
      cases hskip
    case h_1 =>
      exact h.group_of_body [.plain '?', .plain '='] (.look false false) rfl (fun _ => rfl)
        ⟨rfl, hlegible.tail.tail⟩ hmid
    case h_2 =>
      exact h.group_of_body [.plain '?', .plain '!'] (.look false true) rfl (fun _ => rfl)
        ⟨rfl, hlegible.tail.tail⟩ hmid
    case h_3 =>
      exact h.group_of_body [.plain '?', .plain '>'] .atomic rfl (fun _ => rfl)
        ⟨rfl, hlegible.tail.tail⟩ hmid
    case h_4 =>
      exact h.group_of_body [.plain '?', .plain '<', .plain '='] (.look true false) rfl
        (fun _ => rfl) ⟨rfl, hlegible.tail.tail.tail⟩ hmid
    case h_5 =>
      exact h.group_of_body [.plain '?', .plain '<', .plain '!'] (.look true true) rfl
        (fun _ => rfl) ⟨rfl, hlegible.tail.tail.tail⟩ hmid
    case h_6 =>
      obtain ⟨⟨group, r'⟩, href, heq⟩ := Option.bind_eq_some_iff.mp hmid
      cases heq
      exact .of_namedRef [.plain '?', .plain 'P', .plain '='] rfl
        ⟨rfl, hlegible.tail.tail.tail⟩ href
    case h_7 ls =>
      rw [Bool.and_eq_true, Bool.not_eq_true'] at hknown
      obtain ⟨finish, hflags, -⟩ := Option.bind_eq_some_iff.mp hmid
      exact absurd (hflags.symm.trans (readFlags_hash rfl hknown.1)) nofun

theorem first_of_flags {letters t s : Text} {c d : Char} (hletters : letters.all isFlagChar = true)
    (h : letters ++ d :: t = c :: s) :
    c = d ∨ isFlagChar c = true ∧ ∃ more, more.all isFlagChar = true ∧ s = more ++ d :: t := by
  cases letters with
  | nil => exact Or.inl (List.cons.inj h).1.symm
  | cons e letters =>
    rw [List.all_cons, Bool.and_eq_true] at hletters
    obtain ⟨rfl, rfl⟩ := List.cons.inj h
    exact Or.inr ⟨hletters.1, letters, hletters.2, rfl⟩

/-- A character that neither is a letter of flags nor ends them does not stand behind a `(?` of
flags, and not behind the first letter either. -/
theorem ne_of_flags {letters t s : Text} {c : Char} {opens : Bool}
    (hletters : letters.all isFlagChar = true)
    (hc : (!isFlagChar c && c != ')' && c != ':') = true) :
    letters ++ (if opens then ':' else ')') :: t ≠ c :: s ∧
      ∀ d, isFlagChar d = true → letters ++ (if opens then ':' else ')') :: t ≠ d :: c :: s := by
  have hfirst : ∀ {letters s : Text}, letters.all isFlagChar = true →
      letters ++ (if opens then ':' else ')') :: t ≠ c :: s := by
    intro letters s hletters h
    rcases first_of_flags hletters h with rfl | ⟨hflag, -⟩
    · cases opens <;> cases hc
    · rw [hflag] at hc
      cases hc
  refine ⟨hfirst hletters, fun d hd h => ?_⟩
  rcases first_of_flags hletters h with rfl | ⟨-, more, hmore, h'⟩
  · cases opens <;> cases hd
  · exact hfirst hmore h'.symm

/-- A group that flags open, from behind its `:` to its `)`, which gives back the flags before. -/
theorem Reads.flags_body (h : Reads annotated limit fuel) {e : Expr} {letters t rest : Text}
    {modes : Regex.Modes} {ls : List Lexeme}
    (hexpr : readExpr limit fuel depth { r with rest := t, modes } = some (e, mid))
    (hclose : mid.rest = ')' :: rest)
    (haligned : Aligned annotated (true :: byFlags) (r.modes.verbose :: scopes)
      { r with rest := t, modes } ls) :
    Passes annotated byFlags scopes r (Regex.Program.groupsOf e)
      { mid with rest, modes := r.modes } (.flags letters true :: ls) := by
  obtain ⟨ks, ls', rfl, hinside, hcounts⟩ := h.expr depth hexpr _ _ ls haligned
  obtain ⟨ls'', rfl, hnext⟩ := hinside.of_closeFlags hclose
  refine ⟨.flags letters true :: (ks ++ [.close]), ls'', by simp, hnext, ?_⟩
  show Counts annotated _ _ (groupNames (ks ++ [.close])) _
  rw [groupNames_append, show groupNames [.close] = [] from rfl, List.append_nil]
  exact ⟨hcounts.count, hcounts.groups_eq, hcounts.older, hcounts.named⟩

theorem Reads.group_of_flags (h : Reads annotated limit fuel) {e : Expr} {letters t : Text}
    {opens : Bool} {ls : List Lexeme} (hletters : letters.all isFlagChar = true)
    (hrest : r.rest = '?' :: (letters ++ (if opens then ':' else ')') :: t))
    (ht : shownAll annotated ls = t)
    (hlegible : Legible annotated ((Lexeme.flags letters opens).nest byFlags)
      (Context.after ⟨.pattern, r.modes.verbose, scopes⟩ (.flags letters opens)) ls)
    (hread : readGroup limit (fuel + 1) depth r = some (e, next)) :
    Passes annotated byFlags scopes r (Regex.Program.groupsOf e) next
      (.flags letters opens :: ls) := by
  unfold readGroup at hread
  split at hread
  · cases hread
  · rw [skip_eq_self hrest (by decide)] at hread
    dsimp only [Option.bind_eq_bind, Option.bind_some] at hread
    split at hread
    case h_10 rest _ _ _ _ _ _ _ _ _ hrest' =>
      rw [hrest] at hrest'
      cases hrest'
      obtain ⟨finish, hflags, hread⟩ := Option.bind_eq_some_iff.mp hread
      obtain ⟨modes, hverbose, rfl⟩ := readFlags_spec hletters rfl hflags
      cases opens with
      | false =>
        cases hread
        refine ⟨[.flags letters false], ls, rfl, ⟨ht, ?_⟩, .of_eq rfl rfl⟩
        show Legible annotated byFlags ⟨.pattern, modes.verbose, scopes⟩ ls
        rw [hverbose]
        exact hlegible
      | true =>
        obtain ⟨⟨body, inside⟩, hexpr, hread⟩ := Option.bind_eq_some_iff.mp hread
        dsimp only at hread
        split at hread
        · rename_i rest hclose
          cases hread
          refine h.flags_body hexpr hclose ⟨ht, ?_⟩
          show Legible annotated (true :: byFlags) ⟨.pattern, modes.verbose, _⟩ ls
          rw [hverbose]
          exact hlegible
        · cases hread
    case h_11 hne => exact absurd hrest (hne _)
    case h_6 hrest' =>
      refine absurd (List.cons.inj (hrest.symm.trans hrest')).2 ?_
      exact (ne_of_flags hletters (by decide)).2 'P' (by decide)
    case h_7 hrest' =>
      refine absurd (List.cons.inj (hrest.symm.trans hrest')).2 ?_
      exact (ne_of_flags hletters (by decide)).2 'P' (by decide)
    all_goals
      rename_i hrest'
      refine absurd (List.cons.inj (hrest.symm.trans hrest')).2 ?_
      exact (ne_of_flags hletters (by decide)).1

/-- Whatever stands behind a `(` is what its lexeme says. -/
theorem Reads.group_succ (h : Reads annotated limit fuel) (depth : Nat) ⦃r : Reading⦄ ⦃e : Expr⦄
    ⦃next : Reading⦄ (hread : readGroup limit (fuel + 1) depth r = some (e, next))
    (byFlags scopes : List Bool) :
    Advances annotated byFlags scopes { r with rest := '(' :: r.rest }
      (Regex.Program.groupsOf e) next := by
  intro ls hparts
  obtain ⟨ht, hlegible⟩ := hparts
  obtain ⟨l, ls', rfl, hfirst, htail⟩ := exists_first ht
  obtain ⟨hadmits, -, hclear, hrest⟩ := hlegible
  -- each lexeme that starts with `(` has a way of its own through `readGroup`
  have hpasses : Passes annotated byFlags scopes r (Regex.Program.groupsOf e) next (l :: ls') := by
    cases l with
    | plain c =>
      rw [show c = '(' from hfirst] at hadmits
      cases hadmits
    | capturing =>
      have ht' : shownAll annotated ls' = r.rest := by simpa using htail
      exact h.group_of_paren rfl (fun _ => rfl) hclear ⟨ht', hrest⟩ hread
    | named name =>
      cases annotated with
      | true =>
        have ht' : '?' :: '<' :: (name ++ '>' :: shownAll true ls') = r.rest := by
          rw [← htail]
          simp [Lexeme.shown, Lexeme.text]
        exact h.group_of_named (of_decide_eq_true hadmits) ht'.symm ⟨rfl, hrest⟩ hread
      | false =>
        have ht' : shownAll false ls' = r.rest := htail
        exact h.group_of_paren rfl (fun hfalse => absurd hfalse Bool.false_ne_true) hclear
          ⟨ht', hrest⟩ hread
    | grouping =>
      have ht' : shownAll annotated ls' = r.rest := by simpa using htail
      exact h.group_of_grouping hclear ⟨ht', hrest⟩ hread
    | flags letters opens =>
      have ht' : '?' :: (letters ++ (if opens then ':' else ')') :: shownAll annotated ls') =
          r.rest := by
        rw [← htail]
        simp [Lexeme.text]
      exact h.group_of_flags hadmits ht'.symm rfl hrest hread
    | escape c => cases hfirst
    | classOpen negated bracket => cases hfirst
    | classClose => cases hfirst
    | close => cases hfirst
  have hsame : Counts annotated { r with rest := '(' :: r.rest } r [] [] := .of_eq rfl rfl
  exact hpasses.after hsame

/-- The readers number what they read, whatever their fuel is. -/
theorem reads (annotated : Bool) (limit fuel : Nat) : Reads annotated limit fuel := by
  induction fuel with
  | zero =>
    constructor
    all_goals
      intro depth r a next hread
      simp [readExpr, readAlternatives, readBranch, readPiece, readAtom, readGroup] at hread
  | succ fuel ih =>
    exact ⟨ih.expr_succ, ih.alternatives_succ, ih.branch_succ, ih.piece_succ, ih.atom_succ,
      ih.group_succ⟩

theorem eq_nil_of_shownAll {ls : List Lexeme} (h : shownAll annotated ls = []) : ls = [] := by
  cases ls with
  | nil => rfl
  | cons l ls =>
    rw [shownAll_cons] at h
    exact absurd (List.append_eq_nil_iff.mp h).1 l.shown_ne_nil

/-- An engine that reads a pattern to its end has numbered the groups of its lexemes, and has bound
the names that it was given to them. -/
theorem counts_of_read {ls : List Lexeme} {p : Regex.Pattern}
    (hlegible : Legible annotated [] {} ls)
    (h : Regex.Pattern.read? (shownAll annotated ls) = some p) :
    p.groupCount = (groupNames ls).length ∧
      Regex.Program.groupsOf p.expr = List.range' 1 (groupNames ls).length ∧
      (annotated = true → ∀ {i name}, (groupNames ls)[i]? = some (some name) →
        (name, i + 1) ∈ p.names) := by
  obtain ⟨⟨e, last⟩, hread, h⟩ := Option.bind_eq_some_iff.mp h
  dsimp only at h
  split at h
  · cases h
  · rename_i hrest
    split at h
    · cases h
      have hadvances := (reads annotated _ _).expr 0 hread [] []
      obtain ⟨ks, ls', rfl, ⟨ht, -⟩, hcounts⟩ := hadvances ls ⟨rfl, hlegible⟩
      have hnil := eq_nil_of_shownAll (ht.trans (Classical.not_not.mp hrest))
      rw [hnil, List.append_nil]
      refine ⟨hcounts.count.trans (Nat.zero_add _), hcounts.groups_eq, ?_⟩
      intro hannotated i name hi
      have hmem := hcounts.named hannotated hi
      rw [Nat.zero_add] at hmem
      exact hmem
    · cases h

end NamedCapture.Annotated
