import Mathlib.Tactic.SplitIfs
import NamedCapture.Proofs.Annotated.Run

/-!
# How far the scan looks ahead

A lexeme is read with the text behind it in sight.  What was seen there still holds when the
lexeme is done, and the context after it does not depend on where it was read (`read_spec`).  And
the scan sees no further than the next parenthesis: of texts with the same in sight the same is read
(`read_eq_of_sight`).
-/

namespace NamedCapture.Annotated

/-! ## What has been seen -/

def Context.next (ctx : Context) (l : Lexeme) : Context :=
  match ctx.place with
  | .comment => if l = .plain '\n' then { ctx with place := .pattern } else ctx
  | .charClass outer =>
    match l with
    | .classOpen _ _ => { ctx with place := .charClass (outer + 1) }
    | .classClose =>
      { ctx with
        place := match outer with
          | 0 => .pattern
          | n + 1 => .charClass n }
    | _ => ctx
  | .pattern =>
    match l with
    | .classOpen _ _ => { ctx with place := .charClass 0 }
    | .plain c => if c = '#' ∧ ctx.verbose then { ctx with place := .comment } else ctx
    | .close => ctx.leave
    | _ => ctx.after l

/-- A lexeme that may stand in a context. -/
def Context.admits (ctx : Context) (l : Lexeme) : Bool :=
  match ctx.place, l with
  | .comment, .plain _ => true
  | .comment, _ => false
  | .charClass _, .plain c => c != '[' && c != ']' && c != '\\'
  | .charClass _, .escape _ => true
  | .charClass _, .classOpen _ _ => true
  | .charClass _, .classClose => true
  | .charClass _, _ => false
  | .pattern, .plain c => c != '\\' && c != '[' && c != '(' && c != ')'
  | .pattern, .classClose => false
  | .pattern, .named name => decide (IsName name)
  | .pattern, .flags letters _ => letters.all isFlagChar
  | .pattern, _ => true

/-- What a lexeme says of the text behind it, for which it has looked ahead. -/
def Lexeme.faces : Lexeme → Text → Bool
  | escape none, t => t.isEmpty
  | classOpen negated bracket, t =>
    (bracket || t.head? != some ']') && (negated || bracket || t.head? != some '^')
  | _, _ => true

theorem faces_classOpening (rest s : Text) (h : '[' :: rest = (classOpening rest).text ++ s) :
    ∃ negated bracket, classOpening rest = .classOpen negated bracket ∧
      (classOpening rest).faces s = true := by
  unfold classOpening at h ⊢
  split
  · exact ⟨_, _, rfl, rfl⟩
  · rename_i hbracket
    simp only [Lexeme.text, if_true, Bool.false_eq_true, if_false, List.append_nil,
      List.cons_append, List.nil_append, List.cons.injEq, true_and] at h
    refine ⟨_, _, rfl, ?_⟩
    cases s with
    | nil => rfl
    | cons c s =>
      by_cases hc : c = ']'
      · exact absurd (by rw [h, hc]) (hbracket s)
      · simp [Lexeme.faces, hc]
  · exact ⟨_, _, rfl, rfl⟩
  · rename_i hboth hcaret hbracket
    simp only [Lexeme.text, Bool.false_eq_true, if_false, List.append_nil,
      List.cons_append, List.nil_append, List.cons.injEq, true_and] at h
    subst h
    refine ⟨_, _, rfl, ?_⟩
    cases rest with
    | nil => rfl
    | cons c s =>
      have hc : c ≠ ']' := fun hc => hbracket s (by rw [hc])
      have hc' : c ≠ '^' := fun hc => hcaret s (by rw [hc])
      simp [Lexeme.faces, hc, hc']

theorem next_of_groupOpening {ctx : Context} {rest : Text} {l : Lexeme}
    (hplace : ctx.place = .pattern) (h : groupOpening rest = some l) (s : Text) :
    ctx.after l = ctx.next l ∧ ctx.admits l = true ∧ l.faces s = true := by
  obtain ⟨place, verbose, scopes⟩ := ctx
  cases hplace
  unfold groupOpening at h
  split at h
  · cases h
    exact ⟨rfl, rfl, rfl⟩
  · cases h
    exact ⟨rfl, rfl, rfl⟩
  · cases h
    exact ⟨rfl, rfl, rfl⟩
  · dsimp only at h
    split at h
    · rename_i rest _ _ hname
      cases h
      have hchars : ∀ c ∈ rest.takeWhile isNameChar, isNameChar c = true :=
        List.all_eq_true.mp List.all_takeWhile
      exact ⟨rfl, decide_eq_true ⟨hname.1, hchars⟩, rfl⟩
    · cases h
  · dsimp only at h
    rename_i rest _ _ _ _
    have hletters : (rest.takeWhile isFlagChar).all isFlagChar = true := List.all_takeWhile
    split at h
    · cases h
      exact ⟨rfl, hletters, rfl⟩
    · cases h
      exact ⟨rfl, hletters, rfl⟩
    · cases h
      exact ⟨rfl, rfl, rfl⟩
  · cases h
    exact ⟨rfl, rfl, rfl⟩

theorem next_of_classOpening (ctx : Context) {rest s : Text} (hplace : ctx.place ≠ .comment)
    (hs : '[' :: rest = (classOpening rest).text ++ s) :
    ctx.next (classOpening rest) = ctx.next (.classOpen false false) ∧
      ctx.admits (classOpening rest) = true ∧ (classOpening rest).faces s = true := by
  obtain ⟨negated, bracket, hopening, hfaces⟩ := faces_classOpening rest s hs
  rw [hopening] at hfaces ⊢
  obtain ⟨place, verbose, scopes⟩ := ctx
  cases place with
  | comment => exact absurd rfl hplace
  | charClass outer => exact ⟨rfl, rfl, hfaces⟩
  | pattern => exact ⟨rfl, rfl, hfaces⟩

theorem faces_escape {c : Char} {rest s : Text}
    (hs : c :: rest = (Lexeme.escape rest.head?).text ++ s) :
    (Lexeme.escape rest.head?).faces s = true := by
  cases rest with
  | nil =>
    obtain ⟨-, hnil⟩ : c = '\\' ∧ s = [] := by simpa [Lexeme.text, eq_comm] using hs
    rw [hnil]
    rfl
  | cons d t => rfl

theorem read_class_spec {outer : Nat} {verbose : Bool} {scopes : List Bool} {after : Context}
    {c : Char} {rest s : Text} {l : Lexeme}
    (h : Context.read ⟨.charClass outer, verbose, scopes⟩ c rest = some (l, after))
    (hs : c :: rest = l.text ++ s) :
    after = Context.next ⟨.charClass outer, verbose, scopes⟩ l ∧
      Context.admits ⟨.charClass outer, verbose, scopes⟩ l = true ∧ l.faces s = true := by
  simp only [Context.read] at h
  split at h
  · cases h
    exact ⟨rfl, rfl, faces_escape hs⟩
  · split at h
    · rename_i hc
      cases hc
      cases h
      obtain ⟨hnext, hadmits, hfaces⟩ :=
        next_of_classOpening ⟨.charClass outer, verbose, scopes⟩ nofun hs
      exact ⟨hnext.symm, hadmits, hfaces⟩
    · split at h
      · cases h
        exact ⟨rfl, rfl, rfl⟩
      · rename_i hescape hopen hclose
        cases h
        have hadmits : (c != '[' && c != ']' && c != '\\') = true := by
          rw [bne_iff_ne.mpr hopen, bne_iff_ne.mpr hclose, bne_iff_ne.mpr hescape]
          rfl
        exact ⟨rfl, hadmits, rfl⟩

theorem read_pattern_spec {verbose : Bool} {scopes : List Bool} {after : Context} {c : Char}
    {rest s : Text} {l : Lexeme}
    (h : Context.read ⟨.pattern, verbose, scopes⟩ c rest = some (l, after))
    (hs : c :: rest = l.text ++ s) :
    after = Context.next ⟨.pattern, verbose, scopes⟩ l ∧
      Context.admits ⟨.pattern, verbose, scopes⟩ l = true ∧ l.faces s = true := by
  simp only [Context.read] at h
  split at h
  · cases h
    exact ⟨rfl, rfl, faces_escape hs⟩
  · split at h
    · rename_i hc
      cases hc
      cases h
      obtain ⟨hnext, hadmits, hfaces⟩ :=
        next_of_classOpening ⟨.pattern, verbose, scopes⟩ nofun hs
      exact ⟨hnext.symm, hadmits, hfaces⟩
    · split at h
      · rename_i hcomment
        cases h
        obtain ⟨rfl, rfl⟩ := hcomment
        exact ⟨rfl, rfl, rfl⟩
      · split at h
        · obtain ⟨opening, hopening, heq⟩ := Option.map_eq_some_iff.mp h
          cases heq
          exact next_of_groupOpening rfl hopening s
        · split at h
          · cases h
            exact ⟨rfl, rfl, rfl⟩
          · rename_i hescape hclass hcomment hopen hclose
            cases h
            have hadmits : (c != '\\' && c != '[' && c != '(' && c != ')') = true := by
              rw [bne_iff_ne.mpr hescape, bne_iff_ne.mpr hclass, bne_iff_ne.mpr hopen,
                bne_iff_ne.mpr hclose]
              rfl
            exact ⟨(if_neg hcomment).symm, hadmits, rfl⟩

/-- The scan finds what its context admits, and the text behind a lexeme is as it looked ahead. -/
theorem read_spec {ctx after : Context} {c : Char} {rest s : Text} {l : Lexeme}
    (h : ctx.read c rest = some (l, after)) (hs : c :: rest = l.text ++ s) :
    after = ctx.next l ∧ ctx.admits l = true ∧ l.faces s = true := by
  obtain ⟨place, verbose, scopes⟩ := ctx
  cases place with
  | comment =>
    simp only [Context.read, Option.some.injEq, Prod.mk.injEq] at h
    obtain ⟨rfl, rfl⟩ := h
    refine ⟨?_, rfl, rfl⟩
    by_cases hc : c = '\n'
    · rw [hc]
      rfl
    · rw [if_neg hc]
      exact (if_neg fun heq => hc (Lexeme.plain.inj heq)).symm
  | charClass outer => exact read_class_spec h hs
  | pattern => exact read_pattern_spec h hs

theorem read_named_spec {ctx after : Context} {c : Char} {rest s name : Text}
    (h : ctx.read c rest = some (.named name, after))
    (hs : c :: rest = (Lexeme.named name).text ++ s) :
    ctx.place = .pattern ∧ after = ctx.enter ∧ IsName name := by
  obtain ⟨hnext, hadmits, -⟩ := read_spec h hs
  obtain ⟨place, verbose, scopes⟩ := ctx
  cases place with
  | comment => cases hadmits
  | charClass outer => cases hadmits
  | pattern => exact ⟨rfl, hnext, of_decide_eq_true hadmits⟩

/-! ## What is looked for -/

theorem classOpening_caret {t : Text} (h : t.head? ≠ some ']') :
    classOpening ('^' :: t) = .classOpen true false := by
  unfold classOpening
  split
  all_goals first | rfl | simp_all

theorem classOpening_members {t : Text} (hcaret : t.head? ≠ some '^') (h : t.head? ≠ some ']') :
    classOpening t = .classOpen false false := by
  unfold classOpening
  split
  all_goals first | rfl | simp_all

theorem groupOpening_plain {t : Text} (h : t.head? ≠ some '?') :
    groupOpening t = some .capturing := by
  unfold groupOpening
  split
  all_goals first | rfl | exact absurd rfl h

theorem groupOpening_angle {t : Text} (hequal : t.head? ≠ some '=') (hbang : t.head? ≠ some '!') :
    groupOpening ('?' :: '<' :: t) =
      let name := t.takeWhile isNameChar
      if name ≠ [] ∧ (t.dropWhile isNameChar).head? = some '>' then some (.named name)
      else none := by
  unfold groupOpening
  split
  · rename_i heq
    cases heq
  · rename_i heq
    cases heq
    exact absurd rfl hequal
  · rename_i heq
    cases heq
    exact absurd rfl hbang
  · rename_i heq
    cases heq
    rfl
  · rename_i h heq
    cases heq
    exact absurd rfl (h _)
  · rename_i h
    exact absurd rfl (h _)

theorem groupOpening_letters {t : Text} (hangle : t.head? ≠ some '<')
    (hP : ¬['P', '<'] <+: t) :
    groupOpening ('?' :: t) =
      match (t.dropWhile isFlagChar).head? with
      | some ')' => some (.flags (t.takeWhile isFlagChar) false)
      | some ':' => some (.flags (t.takeWhile isFlagChar) true)
      | _ => some .grouping := by
  unfold groupOpening
  split
  · rename_i heq
    cases heq
    exact absurd ⟨_, rfl⟩ hP
  · rename_i heq
    cases heq
    exact absurd rfl hangle
  · rename_i heq
    cases heq
    exact absurd rfl hangle
  · rename_i heq
    cases heq
    exact absurd rfl hangle
  · rename_i heq
    cases heq
    rfl
  · rename_i h
    exact absurd rfl (h _)

/-! ## What is not seen -/

/-- What the scan can see of the text ahead: all up to a `)`, or up to a `(`, which is no better
than the end. -/
def sight : Text → Text
  | [] => []
  | c :: t => if c = '(' then [] else if c = ')' then [c] else c :: sight t

section Sight

variable {p : Char → Bool}

theorem sight_cons {c : Char} (hopen : c ≠ '(') (hclose : c ≠ ')') (t : Text) :
    sight (c :: t) = c :: sight t := by
  rw [sight, if_neg hopen, if_neg hclose]

theorem isPrefix_sight (t : Text) : sight t <+: t := by
  induction t with
  | nil => exact List.nil_prefix
  | cons c t ih =>
    rw [sight]
    split_ifs
    · exact List.nil_prefix
    · exact List.prefix_append [c] t
    · exact (List.prefix_cons_inj c).mpr ih

theorem head?_sight {c : Char} (hc : c ≠ '(') (t : Text) :
    (sight t).head? = some c ↔ t.head? = some c := by
  cases t with
  | nil => rfl
  | cons d t =>
    rw [sight]
    split_ifs with hopen hclose
    · simp [hopen, Ne.symm hc]
    · rfl
    · rfl

theorem takeWhile_sight (hopen : p '(' = false) (hclose : p ')' = false) (t : Text) :
    (sight t).takeWhile p = t.takeWhile p := by
  induction t with
  | nil => rfl
  | cons c t ih =>
    rw [sight]
    split_ifs with hc hc'
    · rw [hc, List.takeWhile_cons_of_neg (by simp [hopen]), List.takeWhile_nil]
    · rw [hc', List.takeWhile_cons_of_neg (by simp [hclose]),
        List.takeWhile_cons_of_neg (by simp [hclose])]
    · rw [List.takeWhile_cons, List.takeWhile_cons, ih]

theorem dropWhile_sight (hopen : p '(' = false) (hclose : p ')' = false) (t : Text) :
    (sight t).dropWhile p = sight (t.dropWhile p) := by
  induction t with
  | nil => rfl
  | cons c t ih =>
    by_cases hp : p c = true
    · have hne : ∀ d, p d = false → c ≠ d := by
        rintro d hd rfl
        rw [hd] at hp
        cases hp
      rw [sight_cons (hne _ hopen) (hne _ hclose), List.dropWhile_cons_of_pos hp,
        List.dropWhile_cons_of_pos hp, ih]
    · rw [List.dropWhile_cons_of_neg hp, sight]
      split_ifs
      · rfl
      · exact List.dropWhile_cons_of_neg hp
      · exact List.dropWhile_cons_of_neg hp

theorem classOpening_sight (t : Text) : classOpening (sight t) = classOpening t := by
  have hhead : ∀ {c : Char} {r : Text}, c ≠ '(' → r.head? ≠ some c → (sight r).head? ≠ some c :=
    fun hc => mt (head?_sight hc _).mp
  by_cases hcaret : t.head? = some '^'
  · obtain ⟨r, rfl⟩ := List.head?_eq_some_iff.mp hcaret
    by_cases hbracket : r.head? = some ']'
    · obtain ⟨u, rfl⟩ := List.head?_eq_some_iff.mp hbracket
      rfl
    · rw [classOpening_caret hbracket]
      exact classOpening_caret (hhead (by decide) hbracket)
  · by_cases hbracket : t.head? = some ']'
    · obtain ⟨r, rfl⟩ := List.head?_eq_some_iff.mp hbracket
      rfl
    · rw [classOpening_members hcaret hbracket]
      exact classOpening_members (hhead (by decide) hcaret) (hhead (by decide) hbracket)

theorem groupOpening_angle_sight (t : Text) :
    groupOpening ('?' :: '<' :: sight t) = groupOpening ('?' :: '<' :: t) := by
  by_cases hequal : t.head? = some '='
  · obtain ⟨r, rfl⟩ := List.head?_eq_some_iff.mp hequal
    rfl
  · by_cases hbang : t.head? = some '!'
    · obtain ⟨r, rfl⟩ := List.head?_eq_some_iff.mp hbang
      rfl
    · have hopen : isNameChar '(' = false := by decide
      have hclose : isNameChar ')' = false := by decide
      rw [groupOpening_angle hequal hbang,
        groupOpening_angle (mt (head?_sight (by decide) t).mp hequal)
          (mt (head?_sight (by decide) t).mp hbang),
        takeWhile_sight hopen hclose, dropWhile_sight hopen hclose]
      simp only [head?_sight (show '>' ≠ '(' by decide)]

/-- Neither a name nor flags go on over a parenthesis. -/
theorem groupOpening_sight (t : Text) : groupOpening (sight t) = groupOpening t := by
  by_cases hquestion : t.head? = some '?'
  · obtain ⟨r, rfl⟩ := List.head?_eq_some_iff.mp hquestion
    by_cases hangle : r.head? = some '<'
    · obtain ⟨u, rfl⟩ := List.head?_eq_some_iff.mp hangle
      exact groupOpening_angle_sight u
    · by_cases hP : ['P', '<'] <+: r
      · obtain ⟨u, rfl⟩ := hP
        rfl
      · have hopen : isFlagChar '(' = false := by decide
        have hclose : isFlagChar ')' = false := by decide
        have hangle' := mt (head?_sight (by decide) r).mp hangle
        have hP' : ¬['P', '<'] <+: sight r := fun h => hP (h.trans (isPrefix_sight r))
        rw [sight_cons (by decide) (by decide), groupOpening_letters hangle hP,
          groupOpening_letters hangle' hP', takeWhile_sight hopen hclose,
          dropWhile_sight hopen hclose]
        -- at a `(` flags are no more ended than at the end
        cases r.dropWhile isFlagChar with
        | nil => rfl
        | cons c u =>
          rw [sight]
          split_ifs with hc
          · rw [hc]
            rfl
          · rfl
          · rfl
  · rw [groupOpening_plain hquestion]
    exact groupOpening_plain (mt (head?_sight (by decide) t).mp hquestion)

theorem classOpening_congr {s t : Text} (h : sight s = sight t) :
    classOpening s = classOpening t := by
  rw [← classOpening_sight s, h, classOpening_sight]

theorem groupOpening_congr {s t : Text} (h : sight s = sight t) :
    groupOpening s = groupOpening t := by
  rw [← groupOpening_sight s, h, groupOpening_sight]

end Sight

/-- Two texts are the same up to a parenthesis that both have, or to the end of both. -/
inductive Alike : Text → Text → Prop
  | nil : Alike [] []
  | paren {c : Char} (hc : c = '(' ∨ c = ')') (s t : Text) : Alike (c :: s) (c :: t)
  | cons (c : Char) {s t : Text} (h : Alike s t) : Alike (c :: s) (c :: t)

namespace Alike

variable {s t : Text}

theorem append_left (u : Text) (h : Alike s t) : Alike (u ++ s) (u ++ t) := by
  induction u with
  | nil => exact h
  | cons c u ih => exact .cons c ih

theorem append_right {c : Char} (hc : c = '(' ∨ c = ')') (h : c ∈ t) (u : Text) :
    Alike t (t ++ u) := by
  induction t with
  | nil => cases h
  | cons d t ih =>
    rcases List.mem_cons.mp h with rfl | hmem
    · exact .paren hc t (t ++ u)
    · exact .cons d (ih hmem)

theorem head? (h : Alike s t) : s.head? = t.head? := by
  cases h <;> rfl

theorem sight_eq (h : Alike s t) : sight s = sight t := by
  induction h with
  | nil => rfl
  | paren hc s t => rcases hc with rfl | rfl <;> rfl
  | cons c _ ih => rw [sight, sight, ih]

end Alike

/-- The scan sees what an escape takes, what belongs to a `[` and what a `(` opens, each where it
looks for it, and nothing else. -/
theorem read_eq_of_seen {ctx : Context} {c : Char} {s t : Text}
    (hescape : ctx.place ≠ .comment → c = '\\' → s.head? = t.head?)
    (hclass : ctx.place ≠ .comment → c = '[' → classOpening s = classOpening t)
    (hgroup : ctx.place = .pattern → c = '(' → groupOpening s = groupOpening t) :
    ctx.read c s = ctx.read c t := by
  obtain ⟨place, verbose, scopes⟩ := ctx
  unfold Context.read
  cases place with
  | comment => rfl
  | charClass outer =>
    refine ite_congr rfl (fun hc => by rw [hescape nofun hc]) fun _ => ?_
    exact ite_congr rfl (fun hc => by rw [hclass nofun hc]) fun _ => rfl
  | pattern =>
    refine ite_congr rfl (fun hc => by rw [hescape nofun hc]) fun _ => ?_
    refine ite_congr rfl (fun hc => by rw [hclass nofun hc]) fun _ => ?_
    refine ite_congr rfl (fun _ => rfl) fun _ => ?_
    exact ite_congr rfl (fun hc => by rw [hgroup rfl hc]) fun _ => rfl

/-- But for the character that an escape takes, the scan sees no further than the next
parenthesis. -/
theorem read_eq_of_sight {ctx : Context} {c : Char} {s t : Text}
    (hescape : ctx.place ≠ .comment → c = '\\' → s.head? = t.head?) (h : sight s = sight t) :
    ctx.read c s = ctx.read c t :=
  read_eq_of_seen hescape (fun _ _ => classOpening_congr h) fun _ _ => groupOpening_congr h

theorem Run.cons_alike {ctx next last : Context} {c : Char} {rest s s' r : Text} {l : Lexeme}
    {ls : List Lexeme} (hread : ctx.read c rest = some (l, next)) (htext : c :: rest = l.text ++ s)
    (hs : Alike s s') (hrun : Run next s' ls last r) : Run ctx (l.text ++ s') (l :: ls) last r := by
  obtain ⟨tail, hcons, rfl⟩ := Lexeme.exists_tail htext
  have halike := hs.append_left tail
  rw [read_eq_of_sight (fun _ _ => halike.head?) halike.sight_eq] at hread
  rw [hcons]
  exact .step hread (by rw [hcons]; rfl) hrun

end NamedCapture.Annotated
