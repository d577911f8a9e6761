import Mathlib.Tactic.SplitIfs
import NamedCapture.Proofs.Annotated.Refusal
import NamedCapture.Proofs.Sweep.Lookahead

/-!
# A sweep passes the lexemes one after another

In front of a lexeme a sweep takes one turn or several, and stands behind it as the scan does
(`lands_of_read`).  Only the lead byte of a character can be one that a turn acts on; over the
others the cursor goes byte by byte (`reaches_end`).
-/

namespace NamedCapture.Annotated.Sweep

open Text (leadByte)

section Steps

variable {pattern front rest : Text} {s : Sweep}

theorem turn_eq {c : Char} (hpattern : pattern = front ++ c :: rest)
    (hpos : s.pos = Text.byteLength front) :
    s.turn pattern = some (s.step pattern (leadByte c)) := by
  rw [turn, hpattern, hpos, Text.getElem?_bytes]
  rfl

theorem step_escaped {depth : Nat} (hmode : s.mode = .escaped depth) (b : UInt8) :
    s.step pattern b = .ok (s.advance (.ofDepth depth)) := by
  rw [step, hmode]
  rfl

theorem step_comment (hmode : s.mode = .comment) (c : Char) :
    s.step pattern (leadByte c) = .ok (s.advance (if c = '\n' then .pattern else .comment)) := by
  rw [step, hmode]
  simp (disch := decide) only [Text.leadByte_eq_iff]
  rfl

theorem step_charClass {outer : Nat} (hmode : s.mode = .charClass (outer + 1)) (c : Char) :
    s.step pattern (leadByte c) =
      if c = '\\' then .ok (s.advance (.escaped (outer + 1)))
      else if c = '[' then
        .ok { s with mode := .charClass (outer + 2), pos := classBodyStart pattern (s.pos + 1) }
      else if c = ']' then .ok (s.advance (.ofDepth outer))
      else .ok (s.advance (.charClass (outer + 1))) := by
  rw [step, hmode]
  simp (disch := decide) only [Text.leadByte_eq_iff]
  rfl

theorem step_pattern (hmode : s.mode = .pattern) (c : Char) :
    s.step pattern (leadByte c) =
      if c = '\\' then .ok (s.advance (.escaped 0))
      else if c = '[' then
        .ok { s with mode := .charClass 1, pos := classBodyStart pattern (s.pos + 1) }
      else if c = '#' ∧ s.verbose then .ok (s.advance .comment)
      else if c = '(' then s.openGroup pattern
      else if c = ')' then .ok (s.leave.advance .pattern)
      else .ok (s.advance .pattern) := by
  rw [step, hmode]
  simp (disch := decide) only [Text.leadByte_eq_iff]
  rfl

theorem step_high {b : UInt8} (hb : 128 ≤ b.toNat) (hmode : ∀ depth, s.mode ≠ .escaped depth) :
    s.step pattern b = .ok (s.advance s.mode) := by
  have hne : ∀ {c : Char}, c.toNat < 128 → b ≠ c.toUInt8 := by
    rintro c hc rfl
    rw [Text.toNat_toUInt8 hc] at hb
    omega
  cases hs : s.mode with
  | escaped depth => exact absurd hs (hmode depth)
  | comment =>
    rw [step, hs]
    simp (disch := decide) only [hne, if_false]
    rfl
  | charClass depth =>
    rw [step, hs]
    simp (disch := decide) only [hne, if_false]
    rfl
  | pattern =>
    rw [step, hs]
    simp (disch := decide) only [hne, if_false, false_and]
    rfl

theorem reaches_end {c : Char} (hpattern : pattern = front ++ c :: rest)
    (hinside : Text.byteLength front < s.pos)
    (hend : s.pos ≤ Text.byteLength front + c.utf8Size)
    (hmode : ∀ depth, s.mode ≠ .escaped depth) :
    Reaches pattern s { s with pos := Text.byteLength front + c.utf8Size } := by
  generalize hk : Text.byteLength front + c.utf8Size - s.pos = k
  induction k generalizing s with
  | zero =>
    have hpos : Text.byteLength front + c.utf8Size = s.pos := by omega
    rw [hpos]
    exact .refl
  | succ k ih =>
    obtain ⟨b, hb, hhigh⟩ := Text.exists_high_inside (c := c) (r := rest) hinside (by omega)
    have hturn : s.turn pattern = some (.ok (s.advance s.mode)) := by
      rw [turn, hpattern, hb, Option.map_some, step_high hhigh hmode]
    have hpos : (s.advance s.mode).pos = s.pos + 1 := rfl
    exact .head hturn (ih (by omega) (by omega) hmode (by omega))

end Steps

theorem Mode.ofPlace_ne_escaped (place : Place) (depth : Nat) : ofPlace place ≠ .escaped depth := by
  cases place <;> nofun

theorem Stands.mode_ne_escaped {s : Sweep} {ctx : Context} (h : s.Stands ctx) (depth : Nat) :
    s.mode ≠ .escaped depth := by
  rw [h.mode]
  exact Mode.ofPlace_ne_escaped ctx.place depth

theorem Stands.leave {s : Sweep} {ctx : Context} (h : s.Stands ctx) : s.leave.Stands ctx.leave := by
  obtain ⟨hmode, hverbose, hscopes⟩ := h
  unfold Sweep.leave Context.leave
  cases hctx : ctx.scopes with
  | nil =>
    rw [hctx] at hscopes
    rw [hscopes]
    exact ⟨hmode, hverbose, by rw [hscopes, hctx]⟩
  | cons outer scopes =>
    rw [hctx] at hscopes
    rw [hscopes]
    exact ⟨hmode, rfl, rfl⟩

/-- In front of `l` and then `r` a sweep takes turns that bring it behind `l`, into a context.  At
the end of the pattern there is nothing to be in a context for. -/
def Lands (pattern : Text) (s : Sweep) (l : Lexeme) (r : Text) (next : Context) : Prop :=
  ∃ t, Reaches pattern s t ∧ Passes pattern s l t ∧ (r ≠ [] → t.Stands next)

section Lands

variable {pattern front rest r kept : Text} {s : Sweep} {ctx next : Context} {c : Char}
  {l : Lexeme}

theorem lands_of_turn {t : Sweep} (hturn : s.turn pattern = some (.ok t))
    (hpasses : Passes pattern s l t) (hstands : t.Stands next) : Lands pattern s l r next :=
  ⟨t, .single hturn, hpasses, fun _ => hstands⟩

/-- A lexeme of one character takes as many turns as that has bytes. -/
theorem lands_of_char {u : Sweep} {mode : Mode} (hpattern : pattern = front ++ c :: r)
    (hpos : s.pos = Text.byteLength front)
    (hstep : s.step pattern (leadByte c) = .ok (u.advance mode))
    (hu : u.pos = s.pos ∧ u.output = s.output ∧ u.copied = s.copied ∧ u.table = s.table)
    (hl : l.text = [c]) (hgroup : l.group? = none) (hstands : (u.advance mode).Stands next) :
    Lands pattern s l r next := by
  obtain ⟨hupos, houtput, hcopied, htable⟩ := hu
  have hsize := c.utf8Size_pos
  have hplace : (u.advance mode).pos = Text.byteLength front + 1 := by
    show u.pos + 1 = _
    omega
  have hreaches := reaches_end (s := u.advance mode) hpattern (by omega) (by omega)
    hstands.mode_ne_escaped
  refine ⟨_, .head ((turn_eq hpattern hpos).trans (congrArg some hstep)) hreaches, ⟨?_, ?_, ?_⟩,
    fun _ => ⟨hstands.mode, hstands.verbose, hstands.scopes⟩⟩
  · rw [hl, hpos]
    rfl
  · rw [openings_cons_none hgroup]
    exact htable
  · exact Or.inl ⟨Lexeme.numbered_of_group? hgroup, hcopied, houtput⟩

theorem lands_of_escape {depth : Nat} (hpattern : pattern = front ++ '\\' :: rest)
    (hpos : s.pos = Text.byteLength front)
    (hstep : s.step pattern (leadByte '\\') = .ok (s.advance (.escaped depth)))
    (hdepth : .ofDepth depth = s.mode) (hctx : s.Stands ctx)
    (hs : '\\' :: rest = (Lexeme.escape rest.head?).text ++ r) :
    Lands pattern s (.escape rest.head?) r ctx := by
  have hturn := (turn_eq hpattern hpos).trans (congrArg some hstep)
  cases rest with
  | nil =>
    obtain rfl : r = [] := by simpa [Lexeme.text] using hs
    exact ⟨_, .single hturn, ⟨rfl, rfl, Or.inl ⟨rfl, rfl, rfl⟩⟩, fun h => absurd rfl h⟩
  | cons d t =>
    obtain rfl : t = r := by simpa [Lexeme.text] using hs
    have hbehind : pattern = (front ++ ['\\']) ++ d :: t := by
      rw [hpattern, List.append_assoc, List.singleton_append]
    have hplace : (s.advance (.escaped depth)).pos = Text.byteLength (front ++ ['\\']) := by
      rw [Text.byteLength_append, ← hpos]
      rfl
    have hlands : Lands pattern (s.advance (.escaped depth)) (.plain d) t ctx :=
      lands_of_char hbehind hplace (step_escaped rfl _) ⟨rfl, rfl, rfl, rfl⟩ rfl rfl
        ⟨hdepth.trans hctx.mode, hctx.verbose, hctx.scopes⟩
    obtain ⟨u, hreaches, ⟨hupos, htable, hcopied⟩, hstands⟩ := hlands
    refine ⟨u, .head hturn hreaches, ⟨?_, htable, Or.inl ⟨rfl, ?_⟩⟩, hstands⟩
    · rw [hupos]
      exact Nat.add_assoc s.pos 1 _
    · rcases hcopied with ⟨-, hcopied⟩ | ⟨_, _, hnamed, -⟩
      · exact hcopied
      · cases hnamed

theorem lands_of_class {outer : Nat} (hpattern : pattern = front ++ '[' :: rest)
    (hpos : s.pos = Text.byteLength front)
    (hstep : s.step pattern (leadByte '[') =
      .ok { s with mode := .charClass (outer + 1), pos := classBodyStart pattern (s.pos + 1) })
    (hctx : s.Stands ctx) :
    Lands pattern s (classOpening rest) r { ctx with place := .charClass outer } := by
  have hgroup : (classOpening rest).group? = none := by
    unfold classOpening
    split <;> rfl
  have hend : classBodyStart pattern (s.pos + 1) =
      s.pos + Text.byteLength (classOpening rest).text := by
    rw [hpattern, hpos, classBodyStart_eq]
  refine lands_of_turn ((turn_eq hpattern hpos).trans (congrArg some hstep)) ⟨hend, ?_, ?_⟩
    ⟨rfl, hctx.verbose, hctx.scopes⟩
  · rw [openings_cons_none hgroup]
    rfl
  · exact Or.inl ⟨Lexeme.numbered_of_group? hgroup, rfl, rfl⟩

theorem eq_of_text_singleton (hl : l.text = [c]) (hs : c :: rest = l.text ++ r) : rest = r := by
  rw [hl] at hs
  exact List.tail_eq_of_cons_eq hs

theorem lands_of_read_class {outer : Nat} {verbose : Bool} {scopes : List Bool}
    (hread : Context.read ⟨.charClass outer, verbose, scopes⟩ c rest = some (l, next))
    (hs : c :: rest = l.text ++ r) (hpattern : pattern = front ++ c :: rest)
    (hpos : s.pos = Text.byteLength front) (hctx : s.Stands ⟨.charClass outer, verbose, scopes⟩) :
    Lands pattern s l r next := by
  have hstep := @step_charClass pattern s outer hctx.mode c
  simp only [Context.read] at hread
  split_ifs at hread with hescape hopen hclose
  · rw [if_pos hescape] at hstep
    obtain rfl := hescape
    cases hread
    exact lands_of_escape hpattern hpos hstep hctx.mode.symm hctx hs
  · rw [if_neg hescape, if_pos hopen] at hstep
    obtain rfl := hopen
    cases hread
    exact lands_of_class hpattern hpos hstep hctx
  · rw [if_neg hescape, if_neg hopen, if_pos hclose] at hstep
    obtain rfl := hclose
    cases hread
    obtain rfl := eq_of_text_singleton rfl hs
    refine lands_of_char hpattern hpos hstep ⟨rfl, rfl, rfl, rfl⟩ rfl rfl
      ⟨?_, hctx.verbose, hctx.scopes⟩
    cases outer <;> rfl
  · rw [if_neg hescape, if_neg hopen, if_neg hclose] at hstep
    cases hread
    obtain rfl := eq_of_text_singleton rfl hs
    exact lands_of_char hpattern hpos hstep ⟨rfl, rfl, rfl, rfl⟩ rfl rfl
      ⟨rfl, hctx.verbose, hctx.scopes⟩

theorem lands_of_read_pattern {verbose : Bool} {scopes : List Bool}
    (hread : Context.read ⟨.pattern, verbose, scopes⟩ c rest = some (l, next))
    (hs : c :: rest = l.text ++ r) (hpattern : pattern = front ++ c :: rest)
    (hpos : s.pos = Text.byteLength front) (hkept : pattern.Between s.copied s.pos kept)
    (hctx : s.Stands ⟨.pattern, verbose, scopes⟩) : Lands pattern s l r next := by
  have hstep := @step_pattern pattern s hctx.mode c
  obtain rfl : s.verbose = verbose := hctx.verbose
  simp only [Context.read] at hread
  split_ifs at hread with hescape hclass hcomment hopen hclose
  · rw [if_pos hescape] at hstep
    obtain rfl := hescape
    cases hread
    exact lands_of_escape hpattern hpos hstep hctx.mode.symm hctx hs
  · rw [if_neg hescape, if_pos hclass] at hstep
    obtain rfl := hclass
    cases hread
    exact lands_of_class hpattern hpos hstep hctx
  · rw [if_neg hescape, if_neg hclass, if_pos hcomment] at hstep
    cases hread
    obtain rfl := eq_of_text_singleton rfl hs
    exact lands_of_char hpattern hpos hstep ⟨rfl, rfl, rfl, rfl⟩ rfl rfl
      ⟨rfl, hctx.verbose, hctx.scopes⟩
  · rw [if_neg hescape, if_neg hclass, if_neg hcomment, if_pos hopen] at hstep
    obtain rfl := hopen
    obtain ⟨opening, hopening, heq⟩ := Option.map_eq_some_iff.mp hread
    cases heq
    have hspec := openGroup_spec hpattern hpos hkept hctx
    rw [hopening] at hspec
    obtain ⟨t, hgroup, hpasses, hstands⟩ := hspec
    have hturn := (turn_eq hpattern hpos).trans (congrArg some (hstep.trans hgroup))
    exact lands_of_turn hturn hpasses hstands
  · rw [if_neg hescape, if_neg hclass, if_neg hcomment, if_neg hopen, if_pos hclose] at hstep
    obtain rfl := hclose
    cases hread
    obtain rfl := eq_of_text_singleton rfl hs
    have hleft := hctx.leave
    refine lands_of_char hpattern hpos hstep ?_ rfl rfl ⟨?_, hleft.verbose, hleft.scopes⟩
    · unfold leave
      split <;> exact ⟨rfl, rfl, rfl, rfl⟩
    · rw [← hleft.mode]
      unfold leave
      split <;> exact hctx.mode.symm
  · rw [if_neg hescape, if_neg hclass, if_neg hcomment, if_neg hopen, if_neg hclose] at hstep
    cases hread
    obtain rfl := eq_of_text_singleton rfl hs
    exact lands_of_char hpattern hpos hstep ⟨rfl, rfl, rfl, rfl⟩ rfl rfl
      ⟨rfl, hctx.verbose, hctx.scopes⟩

/-- Whatever lexeme the scan reads, a sweep that stands where the scan does passes it, and stands
where the scan does again. -/
theorem lands_of_read (hread : ctx.read c rest = some (l, next)) (hs : c :: rest = l.text ++ r)
    (hpattern : pattern = front ++ c :: rest) (hpos : s.pos = Text.byteLength front)
    (hkept : pattern.Between s.copied s.pos kept) (hctx : s.Stands ctx) :
    Lands pattern s l r next := by
  obtain ⟨place, verbose, scopes⟩ := ctx
  cases place with
  | comment =>
    cases hread
    obtain rfl := eq_of_text_singleton rfl hs
    refine lands_of_char hpattern hpos (step_comment hctx.mode c) ⟨rfl, rfl, rfl, rfl⟩ rfl rfl ?_
    by_cases hc : c = '\n'
    · rw [if_pos hc, if_pos hc]
      exact ⟨rfl, hctx.verbose, hctx.scopes⟩
    · rw [if_neg hc, if_neg hc]
      exact ⟨rfl, hctx.verbose, hctx.scopes⟩
  | charClass outer => exact lands_of_read_class hread hs hpattern hpos hctx
  | pattern => exact lands_of_read_pattern hread hs hpattern hpos hkept hctx

theorem turn_of_read_none (hread : ctx.read c rest = none) (hpattern : pattern = front ++ c :: rest)
    (hpos : s.pos = Text.byteLength front) (hkept : pattern.Between s.copied s.pos kept)
    (hctx : s.Stands ctx) : s.turn pattern = some (.error (.unterminated ⟨s.pos⟩)) := by
  obtain ⟨hplace, rfl, hnone⟩ := read_eq_none_iff.mp hread
  have hspec := openGroup_spec hpattern hpos hkept hctx
  rw [hnone] at hspec
  have hmode : s.mode = .pattern := by rw [hctx.mode, hplace]; rfl
  rw [turn_eq hpattern hpos, step_pattern hmode]
  exact congrArg some hspec

end Lands

end NamedCapture.Annotated.Sweep
