import NamedCapture.Proofs.Numbering.Inert
import NamedCapture.Proofs.Numbering.Legible

/-!
# Going on without passing a group

An engine passes inert text, blanks and comments, and bounds of repetitions, where the scan finds
lexemes that open no group and leave the context as it was.  `Reaches` says that lexemes can be
taken off until a given text is left, and each of these readers is shown to do no more.
-/

namespace NamedCapture.Annotated

open Regex (skipBlanks isInert Takes TakesInert)

def groupNames (ls : List Lexeme) : List (Option Text) := ls.filterMap Lexeme.group?

@[simp] theorem groupNames_append (ls ks : List Lexeme) :
    groupNames (ls ++ ks) = groupNames ls ++ groupNames ks := List.filterMap_append

/-- Lexemes that open no group lead to lexemes of the given text, in the same context. -/
def Reaches (annotated : Bool) (byFlags : List Bool) (ctx : Context) (ls : List Lexeme)
    (t : Text) : Prop :=
  ∃ ks ls', ls = ks ++ ls' ∧ groupNames ks = [] ∧ shownAll annotated ls' = t ∧
    Legible annotated byFlags ctx ls'

section

variable {annotated : Bool} {byFlags : List Bool} {ctx : Context} {ls : List Lexeme} {t t' : Text}

theorem Reaches.refl (h : Legible annotated byFlags ctx ls) (ht : shownAll annotated ls = t) :
    Reaches annotated byFlags ctx ls t :=
  ⟨[], ls, rfl, rfl, ht, h⟩

theorem Reaches.append {ks : List Lexeme} (hks : groupNames ks = [])
    (h : Reaches annotated byFlags ctx ls t) : Reaches annotated byFlags ctx (ks ++ ls) t := by
  obtain ⟨ks', ls', rfl, hks', ht, hlegible⟩ := h
  refine ⟨ks ++ ks', ls', (List.append_assoc ks ks' ls').symm, ?_, ht, hlegible⟩
  rw [groupNames_append, hks, hks']
  rfl

theorem Reaches.cons {l : Lexeme} (hl : l.group? = none)
    (h : Reaches annotated byFlags ctx ls t) : Reaches annotated byFlags ctx (l :: ls) t := by
  have hquiet : groupNames [l] = [] := by
    rw [groupNames, List.filterMap_cons_none hl]
    rfl
  exact h.append hquiet

/-- Wherever lexemes of one text stand, they lead to lexemes of the other. -/
def Leads (annotated : Bool) (byFlags : List Bool) (ctx : Context) (t t' : Text) : Prop :=
  ∀ ls, shownAll annotated ls = t → Legible annotated byFlags ctx ls →
    Reaches annotated byFlags ctx ls t'

theorem Leads.trans {s : Text} (h : Leads annotated byFlags ctx t s)
    (h' : Leads annotated byFlags ctx s t') : Leads annotated byFlags ctx t t' := by
  intro ls ht hlegible
  obtain ⟨ks, ls', rfl, hks, hs, hlegible'⟩ := h ls ht hlegible
  exact (h' ls' hs hlegible').append hks

/-! ## Inert text -/

theorem Legible.of_isInert {c : Char} (h : Legible annotated byFlags ctx ls)
    (hplace : ctx.place ≠ .comment) (ht : shownAll annotated ls = c :: t)
    (hc : isInert c = true) :
    ∃ ls', ls = .plain c :: ls' ∧ shownAll annotated ls' = t ∧
      Legible annotated byFlags ctx ls' := by
  obtain ⟨place, verbose, scopes⟩ := ctx
  have hmem : c ∉ Regex.brackets := fun hmem => by simp [isInert, hmem] at hc
  simp only [Regex.brackets, List.mem_cons, List.not_mem_nil, or_false, not_or] at hmem
  obtain ⟨hescape, hopen, hclose, hgroup, hend, hhash⟩ := hmem
  cases place with
  | comment => exact absurd rfl hplace
  | charClass outer => exact h.of_member ht (by simp [hescape, hopen, hclose])
  | pattern =>
    exact h.of_plain ht (by simp [hescape, hopen, hgroup, hend]) fun heq => absurd heq hhash

theorem leads_of_takesInert (hplace : ctx.place ≠ .comment) (htakes : TakesInert t t') :
    Leads annotated byFlags ctx t t' := by
  intro ls ht h
  obtain ⟨u, rfl, hu⟩ := htakes
  induction u generalizing ls with
  | nil => exact Reaches.refl h ht
  | cons c u ih =>
    simp only [List.all_cons, Bool.and_eq_true] at hu
    obtain ⟨ls', rfl, hrest, hlegible⟩ := h.of_isInert hplace ht hu.1
    exact (ih ls' hlegible hu.2 hrest).cons rfl

/-! ## Blanks and comments -/

theorem skipBlanks_cons {verbose : Bool} {c : Char}
    (h : ∀ s, c :: t ≠ '(' :: '?' :: '#' :: s) :
    skipBlanks verbose .none (c :: t) =
      if verbose && c == '#' then skipBlanks verbose .line t
      else if verbose && (c == ' ' || c == '\n' || c == '\r' || c == '\t') then
        skipBlanks verbose .none t
      else some (c :: t) := by
  rw [skipBlanks]
  intro s hc ht
  exact h s (by rw [hc, ht])

theorem skipBlanks_line {verbose : Bool} {scopes : List Bool}
    (h : Legible annotated byFlags ⟨.comment, verbose, scopes⟩ ls) :
    ∃ ks ls', ls = ks ++ ls' ∧ groupNames ks = [] ∧
      Legible annotated byFlags ⟨.pattern, verbose, scopes⟩ ls' ∧
      skipBlanks verbose .line (shownAll annotated ls) =
        skipBlanks verbose .none (shownAll annotated ls') := by
  induction ls with
  | nil => exact ⟨[], [], rfl, rfl, trivial, rfl⟩
  | cons l ls ih =>
    cases l with
    | plain c =>
      have hrest := h.tail
      by_cases hc : c = '\n'
      · subst hc
        exact ⟨[.plain '\n'], ls, rfl, rfl, hrest, by cases annotated <;> rfl⟩
      · have hnext : Context.next ⟨.comment, verbose, scopes⟩ (.plain c) =
            ⟨.comment, verbose, scopes⟩ := if_neg (by simpa using hc)
        rw [hnext] at hrest
        obtain ⟨ks, ls', rfl, hks, hlegible, hskip⟩ := ih hrest
        refine ⟨.plain c :: ks, ls', rfl, hks, hlegible, ?_⟩
        rw [← hskip, shownAll_cons, Lexeme.shown_plain, List.singleton_append, skipBlanks,
          if_neg hc]
    | _ => cases h.1

theorem skipBlanks_group {scopes : List Bool}
    (h : Legible annotated (false :: byFlags) ⟨.pattern, false, false :: scopes⟩ ls)
    (hplain : isPlainComment ls = true) :
    ∃ ks ls', ls = ks ++ ls' ∧ groupNames ks = [] ∧
      Legible annotated byFlags ⟨.pattern, false, scopes⟩ ls' ∧
      skipBlanks false .group (shownAll annotated ls) =
        skipBlanks false .none (shownAll annotated ls') := by
  induction ls with
  | nil => cases hplain
  | cons l ls ih =>
    have hrest := h.tail
    cases l with
    | plain c =>
      rw [Context.next_plain fun _ => rfl] at hrest
      obtain ⟨ks, ls', rfl, hks, hlegible, hskip⟩ := ih hrest hplain
      refine ⟨.plain c :: ks, ls', rfl, hks, hlegible, ?_⟩
      have hadmits : (c != '\\' && c != '[' && c != '(' && c != ')') = true := h.1
      rw [Bool.and_eq_true, Bool.and_eq_true, Bool.and_eq_true] at hadmits
      have hescape : c ≠ '\\' := bne_iff_ne.mp hadmits.1.1.1
      have hclose : c ≠ ')' := bne_iff_ne.mp hadmits.2
      rw [← hskip, shownAll_cons, Lexeme.shown_plain, List.singleton_append, skipBlanks,
        if_neg hclose]
      intro d s hc hs
      exact hescape hc
    | escape c =>
      cases c with
      | none => cases hplain
      | some c =>
        obtain ⟨ks, ls', rfl, hks, hlegible, hskip⟩ := ih hrest hplain
        refine ⟨.escape (some c) :: ks, ls', rfl, hks, hlegible, ?_⟩
        rw [← hskip]
        cases annotated <;> rfl
    | close => exact ⟨[.close], ls, rfl, rfl, hrest, by cases annotated <;> rfl⟩
    | _ => cases hplain

theorem ne_comment_of_not_opensOtherwise {verbose : Bool}
    (h : (!opensOtherwise ((skipBlanks verbose .none t).getD [])) = true) (s : Text) :
    t ≠ '?' :: '#' :: s := by
  intro heq
  obtain rfl := heq
  have hskip : skipBlanks verbose .none ('?' :: '#' :: s) = some ('?' :: '#' :: s) := by
    rw [skipBlanks_cons (by simp)]
    simp
  rw [hskip] at h
  cases h

/-- Behind the `(` of a group that does not count stands no comment, unless its lexemes say so. -/
theorem ne_comment_of_opensKnown {verbose : Bool} (h : opensKnown verbose ls = true)
    (hcomment : ∀ ks, ls ≠ .plain '?' :: .plain '#' :: ks) (s : Text) :
    shownAll annotated ls ≠ '?' :: '#' :: s := by
  unfold opensKnown at h
  split at h
  case h_7 => exact absurd rfl (hcomment _)
  case h_8 => cases h
  all_goals
    intro hs
    simp at hs

/-- What opens a group does not look like a comment in parentheses, unless it is one. -/
theorem Legible.ne_comment {verbose : Bool} {scopes : List Bool} {l : Lexeme}
    (h : Legible annotated byFlags ⟨.pattern, verbose, scopes⟩ (l :: ls))
    (hcomment : ∀ ks, l :: ls ≠ .grouping :: .plain '?' :: .plain '#' :: ks) (s : Text) :
    shownAll annotated (l :: ls) ≠ '(' :: '?' :: '#' :: s := by
  obtain ⟨hadmits, -, hclear, -⟩ := h
  intro hs
  have hopen : l.first = '(' := by
    rw [shownAll_cons, l.shown_eq_cons] at hs
    exact (List.cons.inj hs).1
  cases l with
  | plain c =>
    rw [show c = '(' from hopen] at hadmits
    cases hadmits
  | capturing =>
    rw [shownAll_cons, Lexeme.shown_capturing] at hs
    exact ne_comment_of_not_opensOtherwise hclear s (List.cons.inj hs).2
  | named name =>
    cases annotated with
    | true =>
      have ht := (List.cons.inj hs).2
      simp at ht
    | false => exact ne_comment_of_not_opensOtherwise hclear s (List.cons.inj hs).2
  | grouping =>
    rw [shownAll_cons, Lexeme.shown_grouping] at hs
    refine ne_comment_of_opensKnown hclear (fun ks hks => ?_) s (List.cons.inj hs).2
    exact hcomment ks (by rw [hks])
  | flags letters opens =>
    have hletters : letters.all isFlagChar = true := hadmits
    rw [shownAll_cons, Lexeme.shown_flags] at hs
    cases letters with
    | nil => cases opens <;> simp [Lexeme.text] at hs
    | cons c letters =>
      have hc : c = '#' := by
        simp only [Lexeme.text, List.cons_append, List.nil_append, List.cons.injEq,
          true_and] at hs
        exact hs.1
      rw [hc] at hletters
      cases hletters
  | _ => cases hopen

theorem eq_plain_of_first {l : Lexeme} {c : Char} (hfirst : l.first = c)
    (hc : c ∉ ['\\', '[', ']', '(', ')']) : l = .plain c := by
  cases l with
  | plain d => rw [← hfirst]; rfl
  | _ =>
    subst hfirst
    exact absurd (by simp [Lexeme.first]) hc

theorem Legible.of_blank {verbose : Bool} {scopes : List Bool} {l : Lexeme} {ls : List Lexeme}
    (h : Legible annotated byFlags ⟨.pattern, verbose, scopes⟩ (l :: ls))
    (hfirst : l.first ∈ [' ', '\n', '\r', '\t']) :
    l = .plain l.first ∧ Legible annotated byFlags ⟨.pattern, verbose, scopes⟩ ls := by
  have hnot : [' ', '\n', '\r', '\t'].all (fun d =>
      decide (d ∉ ['\\', '[', ']', '(', ')'] ∧ d ≠ '#')) = true := by decide
  obtain ⟨hplain, hhash⟩ := of_decide_eq_true (List.all_eq_true.mp hnot _ hfirst)
  have hl := eq_plain_of_first rfl hplain
  rw [hl] at h
  have hrest := h.tail
  rw [Context.next_plain fun heq => absurd heq hhash] at hrest
  exact ⟨hl, hrest⟩

/-- One comment or blank is skipped with its lexemes, unless nothing is skipped. -/
theorem exists_skipped {verbose : Bool} {scopes : List Bool} {ls : List Lexeme}
    (h : Legible annotated byFlags ⟨.pattern, verbose, scopes⟩ ls)
    (hskip : skipBlanks verbose .none (shownAll annotated ls) = some t) :
    shownAll annotated ls = t ∨
      ∃ ks ls', ls = ks ++ ls' ∧ ks ≠ [] ∧ groupNames ks = [] ∧
        Legible annotated byFlags ⟨.pattern, verbose, scopes⟩ ls' ∧
        skipBlanks verbose .none (shownAll annotated ls') = some t := by
  cases ls with
  | nil =>
    cases hskip
    exact Or.inl rfl
  | cons l ls =>
    by_cases hcomment : ∃ ks, l :: ls = .grouping :: .plain '?' :: .plain '#' :: ks
    · obtain ⟨ks, hks⟩ := hcomment
      cases hks
      have hclear : (!verbose && isPlainComment ks) = true := h.2.2.1
      rw [Bool.and_eq_true, Bool.not_eq_true'] at hclear
      obtain ⟨rfl, hplain⟩ := hclear
      obtain ⟨ks, ls', rfl, hks, hlegible, hgroup⟩ := skipBlanks_group h.tail.tail.tail hplain
      refine Or.inr ⟨.grouping :: .plain '?' :: .plain '#' :: ks, ls', rfl, nofun, hks,
        hlegible, ?_⟩
      rw [← hgroup, ← hskip]
      cases annotated <;> rfl
    · have hne := h.ne_comment fun ks hks => hcomment ⟨ks, hks⟩
      rw [shownAll_cons, l.shown_eq_cons, List.cons_append] at hne
      rw [shownAll_cons, l.shown_eq_cons, List.cons_append, skipBlanks_cons hne] at hskip
      split at hskip
      · rename_i hhash
        rw [Bool.and_eq_true, beq_iff_eq] at hhash
        obtain ⟨rfl, hfirst⟩ := hhash
        cases eq_plain_of_first hfirst (by decide)
        obtain ⟨ks, ls', rfl, hks, hlegible, hline⟩ := skipBlanks_line h.tail
        refine Or.inr ⟨.plain '#' :: ks, ls', rfl, nofun, hks, hlegible, ?_⟩
        rw [← hline, ← hskip]
        cases annotated <;> rfl
      · split at hskip
        · rename_i hblank
          rw [Bool.and_eq_true] at hblank
          obtain ⟨hl, hlegible⟩ := h.of_blank (by simpa [or_assoc] using hblank.2)
          rw [hl] at hskip
          refine Or.inr ⟨[.plain l.first], ls, by rw [hl]; rfl, nofun, rfl, hlegible, ?_⟩
          rw [← hskip, Lexeme.shown_plain]
          rfl
        · cases hskip
          exact Or.inl (by rw [shownAll_cons, l.shown_eq_cons]; rfl)

/-- Blanks and comments are passed, and what is left is the text of lexemes. -/
theorem leads_of_skipBlanks (hplace : ctx.place = .pattern)
    (hskip : skipBlanks ctx.verbose .none t' = some t) : Leads annotated byFlags ctx t' t := by
  intro ls heq h
  obtain rfl := heq
  obtain ⟨place, verbose, scopes⟩ := ctx
  cases hplace
  -- a skipped comment may take any number of lexemes, but takes one at least
  generalize hn : ls.length = n
  induction n using Nat.strongRecOn generalizing ls with
  | ind n ih =>
    rcases exists_skipped h hskip with hend | ⟨ks, ls', rfl, hne, hks, hlegible, hskip'⟩
    · exact Reaches.refl h hend
    · have hpos := List.length_pos_iff.mpr hne
      rw [List.length_append] at hn
      exact (ih ls'.length (by omega) ls' hlegible hskip' rfl).append hks

/-! ## Quantifiers -/

theorem leads_of_readDecimal {n : Nat} (hplace : ctx.place = .pattern)
    (h : Regex.readDecimal t = some (n, t')) : Leads annotated byFlags ctx t t' :=
  leads_of_takesInert (by rw [hplace]; exact nofun) (Regex.takesInert_readDecimal h)

theorem leads_cons {c : Char} (hplace : ctx.place = .pattern) (hc : isInert c = true) :
    Leads annotated byFlags ctx (c :: t) t :=
  leads_of_takesInert (by rw [hplace]; exact nofun) ((Takes.refl t).cons hc)

theorem leads_of_closeBounds {lo lo' : Nat} {hi hi' : Option Nat} (hplace : ctx.place = .pattern)
    (h : Regex.closeBounds ctx.verbose lo hi t = some (lo', hi', t')) :
    Leads annotated byFlags ctx t t' := by
  obtain ⟨s, hskip, h⟩ := Option.bind_eq_some_iff.mp h
  refine (leads_of_skipBlanks hplace hskip).trans ?_
  split at h
  · split at h
    · rename_i hclose
      cases h
      exact leads_cons hplace (Regex.isInert_of_toNat (by decide) hclose)
    · cases h
  · cases h

theorem leads_of_upperBound {lo lo' : Nat} {hi : Option Nat} (hplace : ctx.place = .pattern)
    (h : Regex.upperBound ctx.verbose lo t = some (lo', hi, t')) :
    Leads annotated byFlags ctx t t' := by
  obtain ⟨s, hskip, h⟩ := Option.bind_eq_some_iff.mp h
  refine (leads_of_skipBlanks hplace hskip).trans ?_
  split at h
  · cases h
  · split at h
    · exact leads_of_closeBounds hplace h
    · split at h
      · rename_i hcomma
        subst hcomma
        obtain ⟨s', hskip', h⟩ := Option.bind_eq_some_iff.mp h
        refine (leads_cons hplace (by decide)).trans
          ((leads_of_skipBlanks hplace hskip').trans ?_)
        split at h
        · rename_i hread
          exact (leads_of_readDecimal hplace hread).trans (leads_of_closeBounds hplace h)
        · exact leads_of_closeBounds hplace h
      · cases h

theorem leads_of_readBounds {lo : Nat} {hi : Option Nat} (hplace : ctx.place = .pattern)
    (h : Regex.readBounds ctx.verbose t = some (lo, hi, t')) :
    Leads annotated byFlags ctx t t' := by
  rw [Regex.readBounds_eq] at h
  obtain ⟨s, hskip, h⟩ := Option.bind_eq_some_iff.mp h
  refine (leads_of_skipBlanks hplace hskip).trans ?_
  split at h
  · exact leads_of_upperBound hplace h
  · obtain ⟨⟨lo', s'⟩, hread, h⟩ := Option.bind_eq_some_iff.mp h
    exact (leads_of_readDecimal hplace hread).trans (leads_of_upperBound hplace h)

theorem leads_of_readQuantifier {lo : Nat} {hi : Option Nat} (hplace : ctx.place = .pattern)
    (h : Regex.readQuantifier ctx.verbose t = some (lo, hi, t')) :
    Leads annotated byFlags ctx t t' := by
  unfold Regex.readQuantifier at h
  split at h
  · cases h
    exact leads_cons hplace (by decide)
  · cases h
    exact leads_cons hplace (by decide)
  · cases h
    exact leads_cons hplace (by decide)
  · split at h
    · rename_i hopen
      exact (leads_cons hplace (Regex.isInert_of_toNat (by decide) hopen)).trans
        (leads_of_readBounds hplace h)
    · cases h
  · cases h

end

end NamedCapture.Annotated
