import NamedCapture.Proofs.Annotated.Lookahead
import NamedCapture.Regex.Reader

/-!
# Patterns that two readers read alike

The scan of an annotated pattern and the reader of an engine decide by themselves where a group
opens.  `unambiguous` is a test on the lexemes of a pattern that leaves them no choice: behind a
`(` that counts there is no `?` that the engine would see, one that does not count opens what both
know, switches do not outlive a group that does not end them, and no range in a class ends with a
`[`.  `Legible` is what this says of a run of lexemes that starts anywhere.
-/

namespace NamedCapture.Annotated

/-! ## The text of lexemes -/

/-- A lexeme as it is written, or without its annotation. -/
def Lexeme.shown (annotated : Bool) (l : Lexeme) : Text := if annotated then l.text else l.numbered

def shownAll (annotated : Bool) (ls : List Lexeme) : Text := ls.flatMap (Lexeme.shown annotated)

section Shown

variable {annotated : Bool}

@[simp] theorem shownAll_cons (l : Lexeme) (ls : List Lexeme) :
    shownAll annotated (l :: ls) = l.shown annotated ++ shownAll annotated ls := List.flatMap_cons

theorem shownAll_true (ls : List Lexeme) : shownAll true ls = ls.flatMap Lexeme.text := rfl

theorem shownAll_false (ls : List Lexeme) : shownAll false ls = ls.flatMap Lexeme.numbered := rfl

theorem Lexeme.shown_eq_text {l : Lexeme} (h : ∀ name, l ≠ .named name) :
    l.shown annotated = l.text := by
  cases l with
  | named name => exact absurd rfl (h name)
  | _ => cases annotated <;> rfl

@[simp] theorem Lexeme.shown_plain (c : Char) : (plain c).shown annotated = [c] :=
  shown_eq_text nofun

@[simp] theorem Lexeme.shown_escape (c : Option Char) :
    (escape c).shown annotated = (escape c).text := shown_eq_text nofun

@[simp] theorem Lexeme.shown_classOpen (negated bracket : Bool) :
    (classOpen negated bracket).shown annotated = (classOpen negated bracket).text :=
  shown_eq_text nofun

@[simp] theorem Lexeme.shown_classClose : classClose.shown annotated = [']'] :=
  shown_eq_text nofun

@[simp] theorem Lexeme.shown_capturing : capturing.shown annotated = ['('] := shown_eq_text nofun

@[simp] theorem Lexeme.shown_grouping : grouping.shown annotated = ['('] := shown_eq_text nofun

@[simp] theorem Lexeme.shown_flags (letters : Text) (opens : Bool) :
    (flags letters opens).shown annotated = (flags letters opens).text := shown_eq_text nofun

@[simp] theorem Lexeme.shown_close : close.shown annotated = [')'] := shown_eq_text nofun

def Lexeme.first : Lexeme → Char
  | plain c => c
  | escape _ => '\\'
  | classOpen _ _ => '['
  | classClose => ']'
  | capturing | named _ | grouping | flags _ _ => '('
  | close => ')'

theorem Lexeme.text_eq_cons (l : Lexeme) : l.text = l.first :: l.text.tail := by
  cases l with
  | escape c => cases c <;> rfl
  | _ => rfl

theorem Lexeme.shown_eq_cons (l : Lexeme) :
    l.shown annotated = l.first :: (l.shown annotated).tail := by
  cases annotated with
  | true => exact l.text_eq_cons
  | false =>
    cases l with
    | escape c => cases c <;> rfl
    | _ => rfl

theorem Lexeme.shown_ne_nil (l : Lexeme) : l.shown annotated ≠ [] := by
  rw [l.shown_eq_cons]
  exact List.cons_ne_nil _ _

theorem head?_shownAll (ls : List Lexeme) :
    (shownAll annotated ls).head? = ls.head?.map Lexeme.first := by
  cases ls with
  | nil => rfl
  | cons l ls =>
    rw [shownAll_cons, l.shown_eq_cons]
    rfl

theorem exists_first {ls : List Lexeme} {c : Char} {t : Text}
    (ht : shownAll annotated ls = c :: t) :
    ∃ l ls', ls = l :: ls' ∧ l.first = c ∧
      (l.shown annotated).tail ++ shownAll annotated ls' = t := by
  cases ls with
  | nil => cases ht
  | cons l ls =>
    rw [shownAll_cons, l.shown_eq_cons] at ht
    obtain ⟨hfirst, htail⟩ := List.cons.inj ht
    exact ⟨l, ls, rfl, hfirst, htail⟩

end Shown

/-! ## What both readers understand -/

/-- Behind a `(`, the text makes an engine take the group for another kind than one that counts. -/
def opensOtherwise : Text → Bool
  | '?' :: 'P' :: '<' :: _ => false
  | '?' :: '<' :: c :: _ => c == '=' || c == '!'
  | '?' :: _ => true
  | _ => false

/-- A comment in parentheses, behind its `(?#`, in which nothing opens or closes. -/
def isPlainComment : List Lexeme → Bool
  | .plain _ :: ls => isPlainComment ls
  | .escape (some _) :: ls => isPlainComment ls
  | .close :: _ => true
  | _ => false

/-- Behind a `(` that does not count stands what an engine knows: a look, an atomic group, a
reference to a name, or a plain comment. -/
def opensKnown (verbose : Bool) : List Lexeme → Bool
  | .plain '?' :: .plain '=' :: _ => true
  | .plain '?' :: .plain '!' :: _ => true
  | .plain '?' :: .plain '>' :: _ => true
  | .plain '?' :: .plain '<' :: .plain '=' :: _ => true
  | .plain '?' :: .plain '<' :: .plain '!' :: _ => true
  | .plain '?' :: .plain 'P' :: .plain '=' :: _ => true
  | .plain '?' :: .plain '#' :: ls => !verbose && isPlainComment ls
  | _ => false

/-- A hyphen that a class follows would make a range up to a `[`. -/
def endsRangeWithClass : List Lexeme → Bool
  | .plain '-' :: .classOpen _ _ :: _ => true
  | _ => false

/-- Whether the open groups, the innermost first, were opened by flags, which end with them. -/
def Lexeme.nest (byFlags : List Bool) : Lexeme → List Bool
  | capturing | named _ | grouping => false :: byFlags
  | flags _ true => true :: byFlags
  | close => byFlags.tail
  | _ => byFlags

/-- A lexeme leaves an engine no other way to read it and what is behind it.  An engine skips blanks
and comments behind a `(`, and lets switches outlive a group that no flags opened. -/
def Lexeme.isClear (annotated : Bool) (byFlags : List Bool) (ctx : Context) (l : Lexeme)
    (ls : List Lexeme) : Bool :=
  match ctx.place, l with
  | .pattern, .capturing | .pattern, .named _ =>
    !opensOtherwise ((Regex.skipBlanks ctx.verbose .none (shownAll annotated ls)).getD [])
  | .pattern, .grouping => opensKnown ctx.verbose ls
  | .pattern, .close => byFlags.head? != some false || ctx.scopes.head? == some ctx.verbose
  | .charClass _, .plain c => c == '-' || !endsRangeWithClass ls
  | .charClass _, .escape _ => !endsRangeWithClass ls
  | _, _ => true

def isClearFrom (annotated : Bool) (byFlags : List Bool) (ctx : Context) : List Lexeme → Bool
  | [] => true
  | l :: ls =>
    l.isClear annotated byFlags ctx ls && isClearFrom annotated (l.nest byFlags) (ctx.next l) ls

/-- An engine finds the groups of a pattern where the scan finds them, whether it knows the
annotations or is given the pattern without them. -/
def unambiguous (pattern : Text) : Bool :=
  isClearFrom true [] {} (scan pattern).lexemes && isClearFrom false [] {} (scan pattern).lexemes

/-- Lexemes that the scan may find in a context, all of them clear. -/
def Legible (annotated : Bool) (byFlags : List Bool) (ctx : Context) : List Lexeme → Prop
  | [] => True
  | l :: ls =>
    ctx.admits l = true ∧ l.faces (shownAll annotated ls) = true ∧
      l.isClear annotated byFlags ctx ls = true ∧
      Legible annotated (l.nest byFlags) (ctx.next l) ls

theorem Legible.tail {annotated : Bool} {byFlags : List Bool} {ctx : Context} {l : Lexeme}
    {ls : List Lexeme} (h : Legible annotated byFlags ctx (l :: ls)) :
    Legible annotated (l.nest byFlags) (ctx.next l) ls :=
  h.2.2.2

theorem Lexeme.faces_shown {annotated : Bool} {l : Lexeme} {ls : List Lexeme}
    (h : l.faces (shownAll true ls) = true) : l.faces (shownAll annotated ls) = true := by
  cases l with
  | escape c =>
    cases c with
    | none =>
      cases ls with
      | nil => rfl
      | cons k ks =>
        have hnil : shownAll true (k :: ks) = [] := by simpa [faces] using h
        rw [shownAll_cons] at hnil
        exact absurd (List.append_eq_nil_iff.mp hnil).1 k.shown_ne_nil
    | some c => rfl
  | classOpen negated bracket =>
    simp only [faces, head?_shownAll ls] at h ⊢
    exact h
  | _ => rfl

theorem legible_of_run {annotated : Bool} {byFlags : List Bool} {ctx last : Context}
    {t s : Text} {ls : List Lexeme} (h : Run ctx t ls last s) (hs : s = [])
    (hclear : isClearFrom annotated byFlags ctx ls = true) : Legible annotated byFlags ctx ls := by
  induction h generalizing byFlags with
  | done => exact trivial
  | @step ctx next last c rest s t l ls hread htext hrun ih =>
    obtain ⟨rfl, hadmits, hfaces⟩ := read_spec hread htext
    simp only [isClearFrom, Bool.and_eq_true] at hclear
    have hrest : s = shownAll true ls := by
      rw [hrun.text_append, hs, List.append_nil, shownAll_true]
    rw [hrest] at hfaces
    exact ⟨hadmits, Lexeme.faces_shown hfaces, hclear.1, ih hs hclear.2⟩

/-! ## The first of legible lexemes -/

section

variable {annotated verbose : Bool} {byFlags scopes : List Bool} {n : Nat} {ls : List Lexeme}
  {t : Text}

theorem Context.next_plain {c : Char} (h : c = '#' → verbose = false) :
    Context.next ⟨.pattern, verbose, scopes⟩ (.plain c) = ⟨.pattern, verbose, scopes⟩ := by
  refine if_neg ?_
  intro hparts
  obtain ⟨hc, hverbose⟩ := hparts
  rw [h hc] at hverbose
  cases hverbose

theorem Legible.of_plain {c : Char}
    (h : Legible annotated byFlags ⟨.pattern, verbose, scopes⟩ ls)
    (ht : shownAll annotated ls = c :: t) (hc : c ∉ ['\\', '[', '(', ')'])
    (hhash : c = '#' → verbose = false) :
    ∃ ls', ls = .plain c :: ls' ∧ shownAll annotated ls' = t ∧
      Legible annotated byFlags ⟨.pattern, verbose, scopes⟩ ls' := by
  obtain ⟨l, ls', rfl, rfl, htail⟩ := exists_first ht
  cases l with
  | plain d =>
    have hnext :
        Context.next ⟨.pattern, verbose, scopes⟩ (.plain d) = ⟨.pattern, verbose, scopes⟩ :=
      Context.next_plain hhash
    have hrest := h.tail
    rw [hnext] at hrest
    exact ⟨ls', rfl, by simpa using htail, hrest⟩
  | classClose => cases h.1
  | _ => exact absurd (by simp [Lexeme.first]) hc

theorem Legible.of_member {c : Char}
    (h : Legible annotated byFlags ⟨.charClass n, verbose, scopes⟩ ls)
    (ht : shownAll annotated ls = c :: t) (hc : c ∉ ['\\', '[', ']']) :
    ∃ ls', ls = .plain c :: ls' ∧ shownAll annotated ls' = t ∧
      Legible annotated byFlags ⟨.charClass n, verbose, scopes⟩ ls' := by
  obtain ⟨l, ls', rfl, rfl, htail⟩ := exists_first ht
  cases l with
  | plain d => exact ⟨ls', rfl, by simpa using htail, h.tail⟩
  | escape d => exact absurd (by simp [Lexeme.first]) hc
  | classOpen negated bracket => exact absurd (by simp [Lexeme.first]) hc
  | classClose => exact absurd (by simp [Lexeme.first]) hc
  | _ => cases h.1

theorem Legible.of_escape {ctx : Context} {c : Char} (h : Legible annotated byFlags ctx ls)
    (hplace : ctx.place ≠ .comment) (ht : shownAll annotated ls = '\\' :: c :: t) :
    ∃ ls', ls = .escape (some c) :: ls' ∧ shownAll annotated ls' = t ∧
      Legible annotated byFlags ctx ls' := by
  obtain ⟨place, verbose, scopes⟩ := ctx
  obtain ⟨l, ls', rfl, hfirst, htail⟩ := exists_first ht
  cases l with
  | plain d =>
    have hadmits := h.1
    rw [show d = '\\' from hfirst] at hadmits
    cases place with
    | comment => exact absurd rfl hplace
    | charClass outer => cases hadmits
    | pattern => cases hadmits
  | escape d =>
    cases d with
    | none =>
      have hfaces := h.2.1
      rw [show shownAll annotated ls' = c :: t by simpa [Lexeme.text] using htail] at hfaces
      cases hfaces
    | some d =>
      have hshown : d :: shownAll annotated ls' = c :: t := by simpa [Lexeme.text] using htail
      obtain ⟨rfl, hrest⟩ := List.cons.inj hshown
      refine ⟨ls', rfl, hrest, ?_⟩
      cases place with
      | comment => exact absurd rfl hplace
      | charClass outer => exact h.tail
      | pattern => exact h.tail
  | _ => cases hfirst

end

end NamedCapture.Annotated
