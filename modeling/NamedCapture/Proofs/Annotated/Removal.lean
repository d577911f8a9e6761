import Mathlib.Algebra.GroupWithZero.Nat
import NamedCapture.Proofs.Annotated.Run
import NamedCapture.Proofs.Group

/-!
# Taking annotations out and putting them back

Stripping a pattern cuts out what stands behind the `(` of each named group, and nothing else: the
characters that are left are those whose offsets no annotation covers, in their order
(`keep_lexemes`).  A group's `(` is then as many bytes further in front as the annotations
before it are long (`closeUp`).  The annotations put back behind these give the pattern again, so
no two patterns with the same table of groups are stripped to the same text (`strip_invertible`).
-/

namespace NamedCapture

namespace Text

/-- The characters of a text whose offsets pass a test; the first of them is at `offset`. -/
def keep (p : Nat → Bool) (offset : Nat) : Text → Text
  | [] => []
  | c :: t =>
    let rest := keep p (offset + c.utf8Size) t
    if p offset then c :: rest else rest

/-- The text from `last` on, with other texts put in.  Their offsets count the text as given. -/
def insertAll (t : Text) (last : Nat) : List (Nat × Text) → Text
  | [] => dropBytes last t
  | (offset, u) :: rest => slice t last offset ++ u ++ insertAll t offset rest

variable {p q : Nat → Bool}

theorem keep_append (s t : Text) (offset : Nat) :
    keep p offset (s ++ t) = keep p offset s ++ keep p (offset + byteLength s) t := by
  induction s generalizing offset with
  | nil => rfl
  | cons c s ih =>
    rw [List.cons_append, keep, keep, ih, byteLength_cons, Nat.add_assoc]
    by_cases h : p offset = true
    · rw [if_pos h, if_pos h, List.cons_append]
    · rw [if_neg h, if_neg h]

theorem keep_congr {t : Text} {offset : Nat}
    (h : ∀ i, offset ≤ i → i < offset + byteLength t → p i = q i) :
    keep p offset t = keep q offset t := by
  induction t generalizing offset with
  | nil => rfl
  | cons c t ih =>
    have hpos := c.utf8Size_pos
    rw [byteLength_cons] at h
    have hrest : keep p (offset + c.utf8Size) t = keep q (offset + c.utf8Size) t :=
      ih fun i hi hlt => h i (by omega) (by omega)
    rw [keep, keep, hrest, h offset (Nat.le_refl _) (by omega)]

theorem keep_true (t : Text) (offset : Nat) : keep (fun _ => true) offset t = t := by
  induction t generalizing offset with
  | nil => rfl
  | cons c t ih => rw [keep, ih, if_pos rfl]

theorem keep_false (t : Text) (offset : Nat) : keep (fun _ => false) offset t = [] := by
  induction t generalizing offset with
  | nil => rfl
  | cons c t ih => rw [keep, ih, if_neg Bool.false_ne_true]

end Text

namespace GroupTable

def openings (t : GroupTable) : List Opening := t.groups.map fun g => ⟨g.name, g.offset⟩

theorem openings_ofOpenings (os : List Opening) : (ofOpenings os).openings = os := by
  rw [openings, groups_ofOpenings]
  generalize 1 = first
  induction os generalizing first with
  | nil => rfl
  | cons o os ih => exact congrArg (List.cons o) (ih (first + 1))

namespace Opening

/-- The annotation: what stands behind the `(` and names the group, if anything does. -/
def label (o : Opening) : Text :=
  match o.name with
  | none => []
  | some name => ['?', '<'] ++ name ++ ['>']

def covers (o : Opening) (i : Nat) : Bool :=
  o.offset + 1 ≤ i && i < o.offset + 1 + Text.byteLength o.label

theorem covers_of_le {o : Opening} {i : Nat} (h : i ≤ o.offset) : o.covers i = false := by
  have hi : ¬o.offset + 1 ≤ i := by omega
  rw [covers, decide_eq_false hi, Bool.false_and]

theorem covers_of_ge {o : Opening} {i : Nat}
    (h : o.offset + 1 + Text.byteLength o.label ≤ i) : o.covers i = false := by
  rw [covers, decide_eq_false (Nat.not_lt.mpr h), Bool.and_false]

theorem covers_of_unnamed {o : Opening} (h : o.name = none) (i : Nat) : o.covers i = false := by
  have hlength : Text.byteLength o.label = 0 := by rw [label, h]; rfl
  rcases Nat.lt_or_ge o.offset i with hlt | hge
  · exact covers_of_ge (by omega)
  · exact covers_of_le hge

end Opening

/-- The byte at an offset belongs to an annotation. -/
def cutsOut (os : List Opening) (i : Nat) : Bool := os.any (·.covers i)

/-- Openings as they stand without their annotations, `removed` bytes of which are already gone in
front of them. -/
def closeUp (removed : Nat) : List Opening → List Opening
  | [] => []
  | o :: os => ⟨none, o.offset - removed⟩ :: closeUp (removed + Text.byteLength o.label) os

/-- What to put back into a pattern without annotations: each annotation, behind the `(` that its
group has there. -/
def insertions (removed : Nat) (os : List Opening) : List (Nat × Text) :=
  List.zipWith (fun bare o => (bare.offset + 1, o.label)) (closeUp removed os) os

theorem getElem?_closeUp (removed k : Nat) (os : List Opening) :
    (closeUp removed os)[k]? = os[k]?.map fun o =>
      ⟨none, o.offset -
        (removed + ((os.take k).map fun o => Text.byteLength o.label).sum)⟩ := by
  induction os generalizing removed k with
  | nil => rfl
  | cons o os ih =>
    cases k with
    | zero => rfl
    | succ k => simp [closeUp, ih, Nat.add_assoc]

theorem length_closeUp (removed : Nat) (os : List Opening) :
    (closeUp removed os).length = os.length := by
  induction os generalizing removed with
  | nil => rfl
  | cons o os ih => rw [closeUp, List.length_cons, List.length_cons, ih]

theorem name_of_mem_closeUp {removed : Nat} {os : List Opening} :
    ∀ o ∈ closeUp removed os, o.name = none := by
  induction os generalizing removed with
  | nil => exact nofun
  | cons o os ih =>
    intro o' ho'
    rcases List.mem_cons.mp ho' with rfl | hmem
    · rfl
    · exact ih o' hmem

end GroupTable

namespace Annotated

open GroupTable (Opening closeUp cutsOut insertions)

namespace Lexeme

/-- What stands in the place of a lexeme in the pattern without annotations. -/
def bare : Lexeme → Lexeme
  | named _ => capturing
  | l => l

theorem text_bare (l : Lexeme) : l.bare.text = l.numbered := by
  cases l <;> rfl

theorem numbered_bare (l : Lexeme) : l.bare.numbered = l.numbered := by
  cases l <;> rfl

theorem numbered_of_group? {l : Lexeme} (h : l.group? = none) : l.numbered = l.text := by
  cases l with
  | named name => cases h
  | _ => rfl

theorem text_of_group? {l : Lexeme} {name : Option Text} (h : l.group? = some name)
    (offset : Nat) :
    l.text = '(' :: Opening.label ⟨name, offset⟩ ∧ l.numbered = ['('] := by
  cases l with
  | capturing =>
    cases h
    exact ⟨rfl, rfl⟩
  | named name =>
    cases h
    exact ⟨rfl, rfl⟩
  | _ => cases h

theorem group?_bare (l : Lexeme) : l.bare.group? = l.group?.map fun _ => none := by
  cases l <;> rfl

end Lexeme

theorem flatMap_text_bare (ls : List Lexeme) :
    (ls.map Lexeme.bare).flatMap Lexeme.text = ls.flatMap Lexeme.numbered := by
  rw [List.flatMap_map]
  exact congrArg (ls.flatMap ·) (funext Lexeme.text_bare)

theorem flatMap_numbered_bare (ls : List Lexeme) :
    (ls.map Lexeme.bare).flatMap Lexeme.numbered = ls.flatMap Lexeme.numbered := by
  rw [List.flatMap_map]
  exact congrArg (ls.flatMap ·) (funext Lexeme.numbered_bare)

theorem openings_cons_none {l : Lexeme} (h : l.group? = none) (offset : Nat) (ls : List Lexeme) :
    openings offset (l :: ls) = openings (offset + Text.byteLength l.text) ls := by
  rw [openings, h]

theorem openings_cons_some {l : Lexeme} {name : Option Text} (h : l.group? = some name)
    (offset : Nat) (ls : List Lexeme) :
    openings offset (l :: ls) =
      ⟨name, offset⟩ :: openings (offset + Text.byteLength l.text) ls := by
  rw [openings, h]

theorem byteLength_text_pos (l : Lexeme) : 0 < Text.byteLength l.text := by
  cases htext : l.text with
  | nil => exact absurd htext l.text_ne_nil
  | cons c t =>
    have hpos := c.utf8Size_pos
    rw [Text.byteLength_cons]
    omega

/-! ## Where groups open -/

theorem le_of_mem_openings {offset : Nat} {ls : List Lexeme} {o : Opening}
    (h : o ∈ openings offset ls) : offset ≤ o.offset := by
  induction ls generalizing offset with
  | nil => cases h
  | cons l ls ih =>
    cases hl : l.group? with
    | none =>
      rw [openings_cons_none hl] at h
      have hle := ih h
      omega
    | some name =>
      rw [openings_cons_some hl] at h
      rcases List.mem_cons.mp h with rfl | hmem
      · exact Nat.le_refl _
      · have hle := ih hmem
        omega

theorem pairwise_openings (offset : Nat) (ls : List Lexeme) :
    (openings offset ls).Pairwise fun o o' => o.offset < o'.offset := by
  induction ls generalizing offset with
  | nil => exact .nil
  | cons l ls ih =>
    cases hl : l.group? with
    | none =>
      rw [openings_cons_none hl]
      exact ih _
    | some name =>
      rw [openings_cons_some hl]
      refine .cons (fun o ho => ?_) (ih _)
      have hle := le_of_mem_openings ho
      have hpos := byteLength_text_pos l
      show offset < o.offset
      omega

theorem exists_lexeme {offset k : Nat} {ls : List Lexeme} {o : Opening}
    (h : (openings offset ls)[k]? = some o) :
    ∃ before l behind, ls = before ++ l :: behind ∧ l.group? = some o.name ∧
      offset + Text.byteLength (before.flatMap Lexeme.text) = o.offset ∧
      openings offset before = (openings offset ls).take k := by
  induction ls generalizing offset k with
  | nil => cases h
  | cons l ls ih =>
    cases hl : l.group? with
    | none =>
      rw [openings_cons_none hl] at h ⊢
      obtain ⟨before, l', behind, rfl, hgroup, hoffset, htake⟩ := ih h
      refine ⟨l :: before, l', behind, rfl, hgroup, ?_, ?_⟩
      · rw [List.flatMap_cons, Text.byteLength_append, ← hoffset, Nat.add_assoc]
      · rw [openings_cons_none hl, htake]
    | some name =>
      rw [openings_cons_some hl] at h ⊢
      cases k with
      | zero =>
        cases h
        exact ⟨[], l, ls, rfl, hl, rfl, rfl⟩
      | succ k =>
        obtain ⟨before, l', behind, rfl, hgroup, hoffset, htake⟩ := ih h
        refine ⟨l :: before, l', behind, rfl, hgroup, ?_, ?_⟩
        · rw [List.flatMap_cons, Text.byteLength_append, ← hoffset, Nat.add_assoc]
        · rw [openings_cons_some hl, htake, List.take_succ_cons]

theorem exists_of_mem_openings {ls : List Lexeme} {o : Opening} (h : o ∈ openings 0 ls) :
    ∃ before behind, ls.flatMap Lexeme.text = before ++ '(' :: (o.label ++ behind) ∧
      Text.byteLength before = o.offset := by
  obtain ⟨k, hk⟩ := List.getElem?_of_mem h
  obtain ⟨before, l, behind, rfl, hgroup, hoffset, -⟩ := exists_lexeme hk
  have htext : l.text = '(' :: o.label := (Lexeme.text_of_group? hgroup o.offset).1
  refine ⟨before.flatMap Lexeme.text, behind.flatMap Lexeme.text, ?_, by omega⟩
  rw [List.flatMap_append, List.flatMap_cons, htext, List.cons_append]

/-- Without the annotations the same groups open, closed up. -/
theorem openings_bare (offset removed : Nat) (ls : List Lexeme) :
    openings offset (ls.map Lexeme.bare) = closeUp removed (openings (offset + removed) ls) := by
  induction ls generalizing offset removed with
  | nil => rfl
  | cons l ls ih =>
    cases hl : l.group? with
    | none =>
      have hbare : l.bare.group? = none := by rw [Lexeme.group?_bare, hl]; rfl
      have hplace : offset + removed + Text.byteLength l.text =
          offset + Text.byteLength l.text + removed := by omega
      rw [List.map_cons, openings_cons_none hbare, openings_cons_none hl, Lexeme.text_bare,
        Lexeme.numbered_of_group? hl, hplace]
      exact ih _ _
    | some name =>
      have hbare : l.bare.group? = some none := by rw [Lexeme.group?_bare, hl]; rfl
      obtain ⟨htext, hnumbered⟩ := Lexeme.text_of_group? hl (offset + removed)
      have hlength : Text.byteLength l.text =
          1 + Text.byteLength (Opening.label ⟨name, offset + removed⟩) := by
        rw [htext, Text.byteLength_cons]
        rfl
      have hplace : offset + removed + Text.byteLength l.text =
          offset + 1 +
            (removed + Text.byteLength (Opening.label ⟨name, offset + removed⟩)) := by
        omega
      rw [List.map_cons, openings_cons_some hbare, openings_cons_some hl, closeUp, hplace,
        Lexeme.text_bare, hnumbered, Nat.add_sub_cancel]
      exact congrArg (List.cons _) (ih _ _)

/-! ## What is left -/

theorem cutsOut_eq_false {os : List Opening} {i : Nat} (h : ∀ o ∈ os, o.covers i = false) :
    cutsOut os i = false := by
  rw [cutsOut, List.any_eq_false]
  intro o ho
  rw [h o ho]
  exact Bool.false_ne_true

theorem keep_of_le {os : List Opening} {offset : Nat} {t : Text}
    (h : ∀ o ∈ os, offset + Text.byteLength t ≤ o.offset) :
    Text.keep (fun i => !cutsOut os i) offset t = t := by
  have hall : ∀ i, offset ≤ i → i < offset + Text.byteLength t → (!cutsOut os i) = true := by
    intro i _ hi
    rw [cutsOut_eq_false fun o ho => Opening.covers_of_le (by have := h o ho; omega)]
    rfl
  rw [Text.keep_congr hall, Text.keep_true]

theorem keep_opening {o : Opening} {os : List Opening} (h : ∀ o' ∈ os, o.offset < o'.offset) :
    Text.keep (fun i => !cutsOut (o :: os) i) o.offset ('(' :: o.label) = ['('] := by
  have hparen : (!cutsOut (o :: os) o.offset) = true := by
    rw [cutsOut_eq_false]
    · rfl
    · intro o' ho'
      rcases List.mem_cons.mp ho' with rfl | hmem
      · exact Opening.covers_of_le (Nat.le_refl _)
      · exact Opening.covers_of_le (Nat.le_of_lt (h o' hmem))
  have hcut : ∀ i, o.offset + 1 ≤ i → i < o.offset + 1 + Text.byteLength o.label →
      (!cutsOut (o :: os) i) = false := by
    intro i hle hlt
    rw [cutsOut, List.any_cons, Opening.covers, decide_eq_true hle, decide_eq_true hlt]
    rfl
  have hnone := (Text.keep_congr hcut).trans (Text.keep_false o.label _)
  rw [Text.keep, if_pos hparen]
  exact congrArg (List.cons '(') hnone

/-- Of a lexeme is kept what it is without its annotation, and later ones do not reach it. -/
theorem keep_lexeme (offset : Nat) (l : Lexeme) (ls : List Lexeme) (u : Text) :
    Text.keep (fun i => !cutsOut (openings offset (l :: ls)) i) offset (l.text ++ u) =
      l.numbered ++ Text.keep (fun i => !cutsOut (openings (offset + Text.byteLength l.text) ls) i)
        (offset + Text.byteLength l.text) u := by
  have hlater : ∀ o ∈ openings (offset + Text.byteLength l.text) ls,
      offset + Text.byteLength l.text ≤ o.offset := fun o => le_of_mem_openings
  rw [Text.keep_append]
  cases hl : l.group? with
  | none => rw [openings_cons_none hl, keep_of_le hlater, Lexeme.numbered_of_group? hl]
  | some name =>
    obtain ⟨htext, hnumbered⟩ := Lexeme.text_of_group? hl offset
    have hlength : Text.byteLength l.text =
        1 + Text.byteLength (Opening.label ⟨name, offset⟩) := by
      rw [htext, Text.byteLength_cons]
      rfl
    have hhead : Text.keep (fun i => !cutsOut (openings offset (l :: ls)) i) offset l.text =
        ['('] := by
      have hparen := keep_opening (o := ⟨name, offset⟩) fun o ho =>
        Nat.lt_of_lt_of_le (Nat.lt_add_of_pos_right (byteLength_text_pos l)) (hlater o ho)
      rwa [← htext, ← openings_cons_some hl] at hparen
    rw [hhead, hnumbered]
    refine congrArg (['('] ++ ·) (Text.keep_congr fun i hi _ => ?_)
    have hbehind : offset + 1 + Text.byteLength (Opening.label ⟨name, offset⟩) ≤ i := by omega
    rw [openings_cons_some hl, cutsOut, List.any_cons, Opening.covers_of_ge hbehind,
      Bool.false_or, cutsOut]

theorem keep_lexemes (offset : Nat) (before behind : List Lexeme) :
    Text.keep (fun i => !cutsOut (openings offset (before ++ behind)) i) offset
      (before.flatMap Lexeme.text) = before.flatMap Lexeme.numbered := by
  induction before generalizing offset with
  | nil => rfl
  | cons l before ih =>
    rw [List.cons_append, List.flatMap_cons, keep_lexeme, ih, List.flatMap_cons]

/-- What is lost in length are the annotations. -/
theorem byteLength_numbered (offset : Nat) (ls : List Lexeme) :
    Text.byteLength (ls.flatMap Lexeme.numbered) +
        ((openings offset ls).map fun o => Text.byteLength o.label).sum =
      Text.byteLength (ls.flatMap Lexeme.text) := by
  induction ls generalizing offset with
  | nil => rfl
  | cons l ls ih =>
    have hrest := ih (offset + Text.byteLength l.text)
    rw [List.flatMap_cons, List.flatMap_cons, Text.byteLength_append, Text.byteLength_append]
    cases hl : l.group? with
    | none =>
      rw [openings_cons_none hl, Lexeme.numbered_of_group? hl]
      omega
    | some name =>
      obtain ⟨htext, hnumbered⟩ := Lexeme.text_of_group? hl offset
      have hlength : Text.byteLength l.text =
          1 + Text.byteLength (Opening.label ⟨name, offset⟩) := by
        rw [htext, Text.byteLength_cons]
        rfl
      have hparen : Text.byteLength l.numbered = 1 := by rw [hnumbered]; rfl
      rw [openings_cons_some hl, List.map_cons, List.sum_cons]
      omega

/-! ## Putting back -/

/-- The annotations of what is still to come, behind a text that holds all of theirs already up to
`between`. -/
theorem insertAll_numbered (before between : Text) (removed : Nat) (ls : List Lexeme) :
    Text.insertAll (before ++ (between ++ ls.flatMap Lexeme.numbered)) (Text.byteLength before)
        (insertions removed (openings (Text.byteLength (before ++ between) + removed) ls)) =
      between ++ ls.flatMap Lexeme.text := by
  induction ls generalizing before between removed with
  | nil =>
    show Text.dropBytes (Text.byteLength before) (before ++ (between ++ [])) = between ++ []
    exact Text.dropBytes_append _ _
  | cons l ls ih =>
    cases hl : l.group? with
    | none =>
      have hplace : Text.byteLength (before ++ between) + removed + Text.byteLength l.text =
          Text.byteLength (before ++ (between ++ l.text)) + removed := by
        simp only [Text.byteLength_append]
        omega
      have hrest := ih before (between ++ l.text) removed
      rw [openings_cons_none hl, hplace, List.flatMap_cons, List.flatMap_cons,
        Lexeme.numbered_of_group? hl]
      simpa only [List.append_assoc] using hrest
    | some name =>
      generalize hoffset : Text.byteLength (before ++ between) + removed = offset
      obtain ⟨htext, hnumbered⟩ := Lexeme.text_of_group? hl offset
      generalize hlabel : Opening.label ⟨name, offset⟩ = label at htext
      have hparen : offset - removed + 1 =
          Text.byteLength before + Text.byteLength (between ++ ['(']) := by
        rw [← hoffset, Nat.add_sub_cancel, Text.byteLength_append, Text.byteLength_append]
        exact Nat.add_assoc _ _ 1
      have hplace : offset + Text.byteLength l.text =
          Text.byteLength (before ++ (between ++ ['(']) ++ []) +
            (removed + Text.byteLength label) := by
        rw [htext, List.append_nil, Text.byteLength_append before, ← hparen,
          Text.byteLength_cons, ← hoffset]
        show _ + (1 + _) = _
        omega
      have hrest := ih (before ++ (between ++ ['('])) [] (removed + Text.byteLength label)
      rw [← hplace, htext, List.append_assoc, List.nil_append, List.nil_append] at hrest
      rw [openings_cons_some hl, insertions, closeUp, List.zipWith_cons_cons, hlabel,
        ← insertions, Text.insertAll, hparen, List.flatMap_cons, List.flatMap_cons, hnumbered,
        htext, ← List.append_assoc between, Text.slice_append, ← Text.byteLength_append, hrest]
      simp

theorem keep_scan {pattern : Text} (h : (scan pattern).failure = none) :
    Text.keep (fun i => !cutsOut (openings 0 (scan pattern).lexemes) i) 0 pattern =
      (scan pattern).numbered := by
  have hkept := keep_lexemes 0 (scan pattern).lexemes []
  rw [List.append_nil, text_scan h] at hkept
  exact hkept

theorem strip_of_unnamed {pattern : Text} {s : Stripped} (h : strip pattern = .ok s)
    (hunnamed : ∀ o ∈ s.groups.openings, o.name = none) : s.pattern = pattern := by
  obtain ⟨hfailure, rfl⟩ := strip_eq_ok h
  rw [Scan.table, GroupTable.openings_ofOpenings] at hunnamed
  have hnone : ∀ i, (!cutsOut (openings 0 (scan pattern).lexemes) i) = true := by
    intro i
    rw [cutsOut_eq_false fun o ho => Opening.covers_of_unnamed (hunnamed o ho) i]
    rfl
  rw [← keep_scan hfailure, Text.keep_congr fun i _ _ => hnone i, Text.keep_true]

/-- Stripping cuts out the annotations and nothing else.  The groups of the table stand one behind
the other, each where its `(` and its annotation are in the pattern; what is left is all that no
annotation covers; and the annotations put back behind the same groups give the pattern again. -/
theorem strip_invertible {pattern : Text} {s : Stripped} (h : strip pattern = .ok s) :
    (s.groups.openings.Pairwise fun o o' => o.offset < o'.offset) ∧
      (∀ o ∈ s.groups.openings, ∃ before behind,
        pattern = before ++ '(' :: (o.label ++ behind) ∧ Text.byteLength before = o.offset) ∧
      s.pattern = Text.keep (fun i => !cutsOut s.groups.openings i) 0 pattern ∧
      (∀ o ∈ closeUp 0 s.groups.openings, ∃ before behind,
        s.pattern = before ++ '(' :: behind ∧ Text.byteLength before = o.offset) ∧
      Text.insertAll s.pattern 0 (insertions 0 s.groups.openings) = pattern ∧
      ((∀ o ∈ s.groups.openings, o.name = none) → s.pattern = pattern) := by
  have hunnamed := strip_of_unnamed h
  obtain ⟨hfailure, rfl⟩ := strip_eq_ok h
  have htext := text_scan hfailure
  have hopenings := GroupTable.openings_ofOpenings (openings 0 (scan pattern).lexemes)
  have hbare := openings_bare 0 0 (scan pattern).lexemes
  rw [Scan.table, hopenings] at hunnamed ⊢
  refine ⟨pairwise_openings 0 _, fun o ho => ?_, (keep_scan hfailure).symm, fun o ho => ?_, ?_,
    hunnamed⟩
  · rw [← htext]
    exact exists_of_mem_openings ho
  · rw [← hbare] at ho
    obtain ⟨before, behind, hsplit, hoffset⟩ := exists_of_mem_openings ho
    rw [flatMap_text_bare] at hsplit
    exact ⟨before, o.label ++ behind, hsplit, hoffset⟩
  · have hback := insertAll_numbered [] [] 0 (scan pattern).lexemes
    rw [htext] at hback
    exact hback

/-- A name that is given twice, with a letter of two bytes, in a pattern that closes neither its
class nor its groups and ends in a backslash. -/
theorem strip_invertible_unclosed :
    let pattern := ['(', '(', '?', '<', 'é', '>', ')', '(', '?', '<', 'é', '>', '[', '(', '\\']
    let s : Stripped := ⟨['(', '(', ')', '(', '[', '(', '\\'],
      ⟨[⟨1, none, 0⟩, ⟨2, some ['é'], 1⟩, ⟨3, some ['é'], 8⟩], [(['é'], 3)]⟩⟩
    strip pattern = .ok s ∧
      (∃ before behind, pattern = before ++ '(' :: (['?', '<', 'é', '>'] ++ behind) ∧
        Text.byteLength before = 8) ∧
      s.pattern = Text.keep (fun i => !cutsOut s.groups.openings i) 0 pattern ∧
      Text.insertAll s.pattern 0 [(1, []), (2, ['?', '<', 'é', '>']), (4, ['?', '<', 'é', '>'])] =
        pattern := by
  intro pattern s
  have h : strip pattern = .ok s := rfl
  obtain ⟨-, hstands, hkept, -, hback, -⟩ := strip_invertible h
  exact ⟨h, hstands ⟨some ['é'], 8⟩ (by decide), hkept, hback⟩

end Annotated
end NamedCapture
