import NamedCapture.Proofs.Sweep.Lexeme

/-!
# A sweep keeps to the text

At every turn of a sweep what is copied ends at a boundary that the cursor has passed, although the
cursor itself may stand within a character (`Steady`).  What a turn acts on is a byte below 128, so
there is a boundary there.  No part is ever wanted that the pattern does not have, no turn stands
still, and the only thing that stops a sweep early is an annotation that is not closed
(`Steady.step`).  It ends with what stripping gives (`sweep_safe`).
-/

namespace NamedCapture.Annotated.Sweep

/-! ## The same as stripping -/

/-- A sweep has passed some lexemes of a pattern and stands in front of the rest. -/
structure Follows (pattern : Text) (ls : List Lexeme) (rest : Text) (s : Sweep) : Prop where
  text : pattern = ls.flatMap Lexeme.text ++ rest
  pos : s.pos = Text.byteLength (ls.flatMap Lexeme.text)
  table : s.table = .ofOpenings (openings 0 ls)
  kept : ∃ kept, pattern.Between s.copied s.pos kept ∧
    s.output ++ kept = ls.flatMap Lexeme.numbered

section Follows

variable {pattern rest r : Text} {ls : List Lexeme} {l : Lexeme} {s t : Sweep}

theorem follows_start (pattern : Text) : Follows pattern [] pattern {} where
  text := rfl
  pos := rfl
  table := rfl
  kept := ⟨[], ⟨[], pattern, rfl, rfl, rfl⟩, rfl⟩

theorem Follows.passes (h : Follows pattern ls (l.text ++ r) s) (hpasses : Passes pattern s l t) :
    Follows pattern (ls ++ [l]) r t := by
  obtain ⟨htext, hpos, htable, kept, hkept, hnumbered⟩ := h
  have htext' : pattern = (ls ++ [l]).flatMap Lexeme.text ++ r := by
    rw [htext, List.flatMap_append, List.flatMap_singleton, List.append_assoc]
  have hpos' : t.pos = Text.byteLength ((ls ++ [l]).flatMap Lexeme.text) := by
    rw [hpasses.pos, hpos, List.flatMap_append, List.flatMap_singleton, Text.byteLength_append]
  refine ⟨htext', hpos', ?_, ?_⟩
  · rw [hpasses.table, openings_append, GroupTable.ofOpenings_append, htable, hpos,
      Nat.zero_add]
  · rw [List.flatMap_append, List.flatMap_singleton, ← hnumbered]
    rcases hpasses.copied with ⟨hbare, hcopied, houtput⟩ | ⟨name, kept', -, hkept', hcopied, houtput⟩
    · -- the lexeme is still to be copied, with what was so before
      obtain ⟨a, b, hsplit, ha, hend⟩ := hkept
      have hsplit' := hsplit
      rw [← List.append_assoc, htext] at hsplit'
      obtain ⟨hfront, hbehind⟩ := Text.append_inj_of_byteLength hsplit' (by rw [hend, hpos])
      refine ⟨kept ++ l.text, ⟨a, r, ?_, ha.trans hcopied.symm, ?_⟩, ?_⟩
      · rw [hsplit, ← hbehind, List.append_assoc]
      · rw [← List.append_assoc, Text.byteLength_append, hend, hpasses.pos]
      · rw [houtput, hbare, List.append_assoc]
    · have hsame : kept' = kept := hkept'.slice_eq.symm.trans hkept.slice_eq
      refine ⟨[], ⟨(ls ++ [l]).flatMap Lexeme.text, r, htext', ?_, ?_⟩, ?_⟩
      · rw [hcopied, hpos']
      · rw [List.append_nil, hpos']
      · rw [houtput, hsame, List.append_nil, List.append_assoc]

theorem follows_of_run {ctx last : Context} {ks : List Lexeme} (hrun : Run ctx rest ks last r)
    (h : Follows pattern ls rest s) (hctx : rest ≠ [] → s.Stands ctx) :
    ∃ t, Reaches pattern s t ∧ Follows pattern (ls ++ ks) r t ∧ (r ≠ [] → t.Stands last) := by
  induction hrun generalizing ls s with
  | done ctx rest => exact ⟨s, .refl, by rwa [List.append_nil], hctx⟩
  | @step ctx next last c tail s' r l ks hread hs hrun ih =>
    obtain ⟨kept, hkept, -⟩ := h.kept
    obtain ⟨u, hreaches, hpasses, hstands⟩ :=
      lands_of_read hread hs h.text h.pos hkept (hctx (List.cons_ne_nil c tail))
    rw [hs] at h
    obtain ⟨t, hreaches', hfollows, hlast⟩ := ih (h.passes hpasses) hstands
    rw [List.append_assoc, List.singleton_append] at hfollows
    exact ⟨t, hreaches.trans hreaches', hfollows, hlast⟩

end Follows

theorem run_eq (pattern : Text) : run pattern = (strip pattern).mapError .unterminated := by
  obtain ⟨last, rest, hrun, hend⟩ := exists_run {} 0 pattern
  obtain ⟨t, hreaches, hfollows, hstands⟩ :=
    follows_of_run hrun (follows_start pattern) fun _ => ⟨rfl, rfl, rfl⟩
  obtain ⟨kept, hkept, hnumbered⟩ := hfollows.kept
  have hpos := hfollows.pos
  rw [run, loop_of_reaches hreaches]
  rcases hend with ⟨rfl, hfailure⟩ | ⟨c, tail, rfl, hread, hfailure⟩
  · have htext := hfollows.text
    rw [List.append_nil] at htext
    have hlength : t.pos = Text.byteLength pattern := by rw [hpos, ← htext]
    have hover : t.turn pattern = none := by
      rw [turn, hlength, ← Text.length_bytes, List.getElem?_eq_none (Nat.le_refl _)]
      rfl
    have hloop : loop pattern t = .ok t := turns_none hover
    rw [hlength] at hkept
    rw [hloop, strip, scan, hfailure]
    show (take pattern t.copied _ >>= _) = _
    rw [take_eq_ok hkept]
    show Except.ok (Stripped.mk (t.output ++ kept) t.table) = .ok _
    rw [hnumbered, hfollows.table]
    rfl
  · have hturn := turn_of_read_none hread hfollows.text hpos hkept (hstands (List.cons_ne_nil c tail))
    have hloop : loop pattern t = .error (.unterminated ⟨t.pos⟩) := turns_error hturn
    rw [hloop, strip, scan, hfailure, hpos, Nat.zero_add]
    rfl

/-! ## What holds at every turn -/

/-- What is copied ends at a boundary that the cursor has passed, and a class that the cursor is in
can be left. -/
structure Steady (pattern : Text) (s : Sweep) : Prop where
  copied_le_pos : s.copied ≤ s.pos
  pos_le : s.pos ≤ Text.byteLength pattern
  isBoundary_copied : Text.isBoundary pattern s.copied = true
  one_le_depth : ∀ depth, s.mode = .charClass depth → 1 ≤ depth

/-- A turn moves the cursor forward, and none of its cuts is refused, unless it finds an annotation
there that is not closed. -/
def MovesOn (pattern : Text) (s : Sweep) (outcome : Except Fault Sweep) : Prop :=
  (∃ next, outcome = .ok next ∧ s.pos < next.pos ∧ next.Steady pattern) ∨
    outcome = .error (.unterminated ⟨s.pos⟩)

section Steady

variable {pattern : Text} {s : Sweep}

theorem lt_of_getElem?_bytes {i : Nat} {b : UInt8} (h : (Text.bytes pattern)[i]? = some b) :
    i < Text.byteLength pattern := by
  rw [← Text.length_bytes]
  exact (List.getElem?_eq_some_iff.mp h).1

theorem classBodyStart_le {start : Nat} (h : start ≤ Text.byteLength pattern) :
    classBodyStart pattern start ≤ Text.byteLength pattern := by
  have hsign : ∀ {i : Nat} {b : UInt8}, i ≤ Text.byteLength pattern →
      (if (Text.bytes pattern)[i]? = some b then i + 1 else i) ≤ Text.byteLength pattern := by
    intro i b hi
    split
    · rename_i hb
      exact lt_of_getElem?_bytes hb
    · exact hi
  exact hsign (hsign h)

theorem Steady.openGroup (h : s.Steady pattern) (hmode : s.mode = .pattern)
    (hb : (Text.bytes pattern)[s.pos]? = some '('.toUInt8) :
    MovesOn pattern s (s.openGroup pattern) := by
  obtain ⟨front, rest, hpattern, hpos⟩ := Text.exists_of_getElem?_bytes (by decide) hb
  have hkept := Text.between_slice h.copied_le_pos h.isBoundary_copied
    (Text.isBoundary_iff.mpr ⟨front, _, hpattern, hpos⟩)
  have hctx : s.Stands ⟨.pattern, s.verbose, s.scopes⟩ := ⟨hmode, rfl, rfl⟩
  have hspec := openGroup_spec hpattern hpos.symm hkept hctx
  cases hl : groupOpening rest with
  | none =>
    rw [hl] at hspec
    exact Or.inr hspec
  | some l =>
    rw [hl] at hspec
    obtain ⟨next, hnext, hpasses, hstands⟩ := hspec
    obtain ⟨r, hr⟩ := groupOpening_text hl
    rw [hr, ← List.append_assoc] at hpattern
    have hend : next.pos = Text.byteLength (front ++ l.text) := by
      rw [hpasses.pos, ← hpos, Text.byteLength_append]
    have hforward : s.pos < next.pos := by
      have hlength := byteLength_text_pos l
      rw [hpasses.pos]
      omega
    have hboundary : Text.isBoundary pattern next.pos = true :=
      Text.isBoundary_iff.mpr ⟨_, r, hpattern, hend.symm⟩
    have hinside := Text.le_byteLength_of_isBoundary hboundary
    have hnormal : next.mode = .pattern := by
      rw [hstands.mode]
      rcases groupOpening_cases hl with rfl | rfl | ⟨name, rfl⟩ | ⟨letters, _ | _, rfl⟩ <;> rfl
    have hdepth : ∀ depth, next.mode = .charClass depth → 1 ≤ depth := by
      intro depth h
      rw [hnormal] at h
      cases h
    refine Or.inl ⟨next, hnext, hforward, ?_⟩
    rcases hpasses.copied with ⟨-, hcopied, -⟩ | ⟨_, _, -, -, hcopied, -⟩
    · have hle := h.copied_le_pos
      refine ⟨?_, hinside, ?_, hdepth⟩
      · rw [hcopied]
        omega
      · rw [hcopied]
        exact h.isBoundary_copied
    · refine ⟨Nat.le_of_eq hcopied, hinside, ?_, hdepth⟩
      rw [hcopied]
      exact hboundary

theorem Steady.step (h : s.Steady pattern) {b : UInt8} (hb : (Text.bytes pattern)[s.pos]? = some b) :
    MovesOn pattern s (s.step pattern b) := by
  have hpos := lt_of_getElem?_bytes hb
  have hle := h.copied_le_pos
  cases step_cases pattern s b with
  | advance u mode hu hcopied hmode hstep =>
    refine Or.inl ⟨_, hstep, ?_, ?_, ?_, ?_, ?_⟩
    · show s.pos < u.pos + 1
      omega
    · show u.copied ≤ u.pos + 1
      omega
    · show u.pos + 1 ≤ Text.byteLength pattern
      omega
    · show Text.isBoundary pattern u.copied = true
      rw [hcopied]
      exact h.isBoundary_copied
    · intro depth hdepth
      rcases hmode depth hdepth with hone | hsame
      · exact hone
      · exact h.one_le_depth depth (hsame.trans hdepth)
  | openClass outer hstep =>
    have hforward := le_classBodyStart pattern (s.pos + 1)
    refine Or.inl ⟨_, hstep, hforward, ?_, classBodyStart_le hpos, h.isBoundary_copied, ?_⟩
    · show s.copied ≤ classBodyStart pattern (s.pos + 1)
      omega
    · intro depth hdepth
      cases hdepth
      exact Nat.succ_le_succ (Nat.zero_le outer)
  | openGroup hmode hparen hstep =>
    rw [hstep]
    exact h.openGroup hmode (hparen ▸ hb)
  | noClass hmode _ => exact absurd (h.one_le_depth 0 hmode) (by decide)

theorem steady_turn (h : s.Steady pattern) {outcome : Except Fault Sweep}
    (hturn : s.turn pattern = some outcome) : MovesOn pattern s outcome := by
  obtain ⟨b, hb, rfl⟩ := exists_byte_of_turn hturn
  exact h.step hb

theorem steady_of_reaches (h : Reaches pattern {} s) : s.Steady pattern := by
  induction h with
  | refl =>
    exact ⟨Nat.le_refl 0, Nat.zero_le _, Text.isBoundary_zero pattern, nofun⟩
  | tail _ hturn ih =>
    rcases steady_turn ih hturn with ⟨next, hnext, -, hsteady⟩ | herror
    · cases hnext
      exact hsteady
    · cases herror

end Steady

/-- What makes it safe to take a turn, and to stop. -/
structure Safe (pattern : Text) (s : Sweep) : Prop where
  steady : s.Steady pattern
  moves : ∀ outcome, s.turn pattern = some outcome → MovesOn pattern s outcome
  openClass : (Text.bytes pattern)[s.pos]? = some '['.toUInt8 →
    s.pos < classBodyStart pattern (s.pos + 1) ∧
      classBodyStart pattern (s.pos + 1) ≤ Text.byteLength pattern
  openGroup : s.mode = .pattern → (Text.bytes pattern)[s.pos]? = some '('.toUInt8 →
    MovesOn pattern s (s.openGroup pattern)
  rest : ∃ kept, take pattern s.copied (Text.byteLength pattern) = .ok kept

/-- A sweep ends, with what stripping gives, and every turn on the way there is safe. -/
theorem sweep_safe (pattern : Text) :
    run pattern = (strip pattern).mapError .unterminated ∧
      ∀ s, Reaches pattern {} s → s.Safe pattern := by
  refine ⟨run_eq pattern, fun s hs => ?_⟩
  have h := steady_of_reaches hs
  refine ⟨h, fun _ => steady_turn h, ?_, h.openGroup, ?_⟩
  · intro hb
    exact ⟨le_classBodyStart pattern (s.pos + 1), classBodyStart_le (lt_of_getElem?_bytes hb)⟩
  · exact ⟨_, take_eq_ok (Text.between_slice (Text.le_byteLength_of_isBoundary h.isBoundary_copied)
      h.isBoundary_copied (Text.isBoundary_byteLength pattern))⟩

/-- Behind an escaped `é` the cursor is within the character, and a name with an `é` and the longest
opening of a class are still to come. -/
theorem sweep_safe_inside_character :
    let pattern : Text := ['\\', 'é', '(', '?', '<', 'é', '>', '[', '^', ']', 'a', ']', ')']
    let inside : Sweep := { pos := 2 }
    Reaches pattern {} inside ∧ Text.isBoundary pattern 2 = false ∧ inside.Safe pattern ∧
      run pattern = .ok ⟨['\\', 'é', '(', '[', '^', ']', 'a', ']', ')'],
        .ofOpenings [⟨some ['é'], 3⟩]⟩ := by
  intro pattern inside
  have hreaches : Reaches pattern {} inside := .tail (.single rfl) rfl
  obtain ⟨hrun, hsafe⟩ := sweep_safe pattern
  exact ⟨hreaches, rfl, hsafe inside hreaches, hrun.trans rfl⟩

end NamedCapture.Annotated.Sweep
