import NamedCapture.Proofs.Replace

/-!
# When the loops over matches end

A pattern can put the start of a match before the place that was searched from, or behind the end of
the match.  A walk then stands still at a match that has text and ends where the search began, and a
global replacement at one that ends there and begins elsewhere.  These are the only ways in which
the loops fail to end, and a replacement that ends fails only where its matches overlap:
`loops_total_iff`.
-/

namespace NamedCapture

namespace Match

variable {f : Match} {p : Nat}

theorem resume_eq_iff (hp : p ≤ f.whole.stop) :
    f.resume = p ↔ f.whole.start < f.whole.stop ∧ f.whole.stop = p := by
  by_cases htext : f.whole.start < f.whole.stop
  · rw [resume_eq_stop htext]
    exact ⟨fun h => ⟨htext, h⟩, fun h => h.2⟩
  · have hbehind := stop_lt_resume (Nat.not_lt.mp htext)
    constructor
    · intro h
      omega
    · intro h
      exact absurd h.1 htext

theorem advance_eq_iff (hp : p ≤ f.whole.stop) :
    f.advance = p ↔ f.whole.start ≠ f.whole.stop ∧ f.whole.stop = p := by
  unfold advance
  by_cases hempty : f.whole.start = f.whole.stop
  · have hbehind := stop_lt_resume (Nat.le_of_eq hempty.symm)
    rw [if_pos (by simp [Span.isEmpty, hempty])]
    constructor
    · intro h
      omega
    · intro h
      exact absurd hempty h.1
  · rw [if_neg (by simp [Span.isEmpty, hempty])]
    exact ⟨fun h => ⟨hempty, h⟩, fun h => h.2⟩

end Match

namespace Matcher

variable {m : Matcher} {subject : Text} {p : Nat} {next : Match → Nat}

theorem loop_ends_iff {P : Nat → Match → Prop} (hengine : m.engine.Bounded subject)
    (hnext : GoesOn next) (hstays : ∀ q f, q ≤ f.whole.stop → (next f = q ↔ P q f)) :
    (∃ fs ending, Loop m subject next 0 fs ending) ↔
      ∀ q f, Visits m subject next 0 q → m.Finds subject q f → ¬P q f := by
  have hzero : Text.IsPosition subject 0 := Or.inl (Text.isBoundary_zero subject)
  rw [exists_loop_iff hengine hnext hzero]
  refine forall₄_congr fun q f hvisits hf => ?_
  have hq := position_of_visits hengine.stopsAtBoundary hnext hzero hvisits
  obtain ⟨hle, -⟩ := bounded_of_searchFrom hengine (hq.isBoundary hf.1) hf.2
  rw [Ne, hstays q f hle]

theorem Loop.ending_eq {fs : List Match} {ending : Option Failure}
    (h : Loop m subject next p fs ending) {e : Failure} (he : ending = some e) : e = .gaveUp := by
  induction h with
  | behind => cases he
  | absent => cases he
  | failed _ hsearch =>
    cases he
    exact (searchFrom_eq_error_iff.mp hsearch).2
  | found _ _ ih => exact ih he

end Matcher

namespace NamedMatcher

open Matcher

variable {m : NamedMatcher} {subject : Text}

theorem walk_ends_iff_loop (hengine : m.matcher.engine.Bounded subject) :
    (∃ items, (m.walk subject).Yields items ∧ items.length ≤ subject.length + 1) ↔
      ∃ fs ending, Loop m.matcher subject Match.resume 0 fs ending := by
  constructor
  · intro hparts
    obtain ⟨items, hyields, -⟩ := hparts
    exact Walk.loop_of_yields hyields rfl
  · intro hparts
    obtain ⟨fs, ending, hloop⟩ := hparts
    have hzero : Text.IsPosition subject 0 := Or.inl (Text.isBoundary_zero subject)
    have hturns := hloop.length_le hengine goesOn_resume hzero
    rw [Text.stepsLeft_zero] at hturns
    refine ⟨_, Walk.gives_of_loop hloop, ?_⟩
    rw [List.length_append, List.length_map, List.length_map, List.length_map]
    exact hturns

/-- A global replacement runs out of its fuel only where no fuel is enough. -/
theorem targets_eq_endless_iff (hglobal : m.matcher.flags.global = true)
    (hengine : m.matcher.engine.Bounded subject) :
    (m.targets subject).answer = .error .endless ↔
      ¬∃ fs ending, Loop m.matcher subject Match.advance 0 fs ending := by
  have hzero : Text.IsPosition subject 0 := Or.inl (Text.isBoundary_zero subject)
  have hstateful := stateful_of_global hglobal
  constructor
  · intro hendless hparts
    obtain ⟨fs, ending, hloop⟩ := hparts
    rw [(targets_of_loop hglobal hengine hloop).1] at hendless
    cases ending with
    | none => cases hendless
    | some e =>
      cases hloop.ending_eq rfl
      cases hendless
  · intro hnone
    rw [targets, if_pos hglobal]
    refine Classical.byContradiction fun hends => ?_
    exact hnone (loop_of_gather hstateful hengine hzero hends)

theorem exec_answer (m : NamedMatcher) (subject : Text) :
    (∃ found, (m.exec subject).answer = .ok found) ∨
      (m.exec subject).answer = .error .gaveUp := by
  unfold NamedMatcher.exec NamedMatcher.lift Matcher.exec
  split
  · exact Or.inl ⟨_, rfl⟩
  · split
    · rename_i hsearch
      obtain ⟨-, rfl⟩ := searchFrom_eq_error_iff.mp hsearch
      exact Or.inr rfl
    · exact Or.inl ⟨_, rfl⟩

variable {σ : Type} (replacing : σ → NamedMatch → Text × σ) (state : σ)

theorem replaceWith_of_not_global (hglobal : m.matcher.flags.global ≠ true) :
    (∃ text, (m.replaceWith subject replacing state).answer = .ok text) ∨
      (m.replaceWith subject replacing state).answer = .error .gaveUp := by
  rcases exec_answer m subject with ⟨found, hfound⟩ | hfailed
  · exact Or.inl (replaceWith_of_exec replacing state hglobal hfound)
  · have htargets : (m.targets subject).answer = .error .gaveUp := by
      rw [targets_of_not_global hglobal, hfailed]
      rfl
    exact Or.inr (replaceWith_of_error replacing state htargets).1

/-- A global replacement answers exactly where its loop ends and its matches are spaced. -/
theorem replaceWith_answers_iff (hglobal : m.matcher.flags.global = true)
    (hengine : m.matcher.engine.Bounded subject) :
    ((∃ text, (m.replaceWith subject replacing state).answer = .ok text) ∨
        (m.replaceWith subject replacing state).answer = .error .gaveUp) ↔
      (∃ fs ending, Loop m.matcher subject Match.advance 0 fs ending) ∧
        ∀ fs, Loop m.matcher subject Match.advance 0 fs none →
          Spaced 0 (fs.map (NamedMatch.ofMatch m.table)) := by
  constructor
  · intro hanswers
    constructor
    · refine Classical.byContradiction fun hnone => ?_
      have hendless := (targets_eq_endless_iff hglobal hengine).mpr hnone
      rw [(replaceWith_of_error replacing state hendless).1] at hanswers
      rcases hanswers with ⟨_, hanswer⟩ | hanswer <;> cases hanswer
    · intro fs hloop
      refine Classical.byContradiction fun hoverlap => ?_
      have htargets := (targets_of_loop hglobal hengine hloop).1
      rw [(replaceWith_of_ok replacing state htargets).1,
        weave_of_not_spaced replacing state hoverlap] at hanswers
      rcases hanswers with ⟨_, hanswer⟩ | hanswer <;> cases hanswer
  · intro hparts
    obtain ⟨⟨fs, ending, hloop⟩, hspaced⟩ := hparts
    have htargets := (targets_of_loop hglobal hengine hloop).1
    cases ending with
    | none =>
      left
      rw [(replaceWith_of_ok replacing state htargets).1]
      exact (weave_of_spaced replacing state (hspaced fs hloop)).1
    | some e =>
      right
      cases hloop.ending_eq rfl
      exact (replaceWith_of_error replacing state htargets).1

/-- A walk ends, within the boundaries of its subject, unless it finds a match with text that ends
where it searched from.  A replacement answers unless it is global and finds such a match, which
need not have text but is not empty, or overlapping ones. -/
theorem loops_total_iff (hengine : m.matcher.engine.Bounded subject) :
    ((∃ items, (m.walk subject).Yields items ∧ items.length ≤ subject.length + 1) ↔
        ∀ q f, Visits m.matcher subject Match.resume 0 q → m.matcher.Finds subject q f →
          ¬(f.whole.start < f.whole.stop ∧ f.whole.stop = q)) ∧
      (((∃ text, (m.replaceWith subject replacing state).answer = .ok text) ∨
          (m.replaceWith subject replacing state).answer = .error .gaveUp) ↔
        (m.matcher.flags.global = true →
          (∀ q f, Visits m.matcher subject Match.advance 0 q → m.matcher.Finds subject q f →
            ¬(f.whole.start ≠ f.whole.stop ∧ f.whole.stop = q)) ∧
          ∀ fs, Loop m.matcher subject Match.advance 0 fs none →
            Spaced 0 (fs.map (NamedMatch.ofMatch m.table)))) := by
  constructor
  · rw [walk_ends_iff_loop hengine]
    exact loop_ends_iff hengine goesOn_resume fun _ _ => Match.resume_eq_iff
  · by_cases hglobal : m.matcher.flags.global = true
    · rw [replaceWith_answers_iff replacing state hglobal hengine,
        loop_ends_iff hengine goesOn_advance fun _ _ => Match.advance_eq_iff]
      exact ⟨fun h _ => h, fun h => h hglobal⟩
    · exact ⟨fun _ h => absurd h hglobal,
        fun _ => replaceWith_of_not_global replacing state hglobal⟩

/-- With the sticky flag `(?<=\Ka)` is found once in `a`, where it begins at the cursor. -/
theorem loops_total_sticky :
    ∃ m ∈ (compile (Regex.dialect 1000) ['(', '?', '<', '=', '\\', 'K', 'a', ')']
        { sticky := true }).toOption,
      (∃ items, (m.walk ['a']).Yields items ∧ items.length ≤ 2) ∧
        ((∃ text, (m.replaceWith ['a'] (fun n _ => (['-'], n + 1)) 0).answer = .ok text) ∨
          (m.replaceWith ['a'] (fun n _ => (['-'], n + 1)) 0).answer = .error .gaveUp) := by
  obtain ⟨m, hm, hsticky, hglobal, hengine⟩ :
      ∃ m ∈ (compile (Regex.dialect 1000) ['(', '?', '<', '=', '\\', 'K', 'a', ')']
          { sticky := true }).toOption,
        m.matcher.flags.sticky = true ∧ m.matcher.flags.global = false ∧
          m.matcher.engine.Bounded ['a'] := by
    decide +kernel
  obtain ⟨hwalk, hreplace⟩ :=
    loops_total_iff (fun n (_ : NamedMatch) => (['-'], n + 1)) 0 hengine
  refine ⟨m, hm, hwalk.mpr ?_, hreplace.mpr fun h => ?_⟩
  · intro q f _ hf hparts
    obtain ⟨htext, hstop⟩ := hparts
    have hstart := (searchFrom_eq_found hf.2).2.2 hsticky
    omega
  · rw [hglobal] at h
    cases h

/-- Without it the match begins before the cursor, and is found at the end of `a` for ever. -/
theorem loops_not_total :
    ∃ m ∈ (compile (Regex.dialect 1000) ['(', '?', '<', '=', '\\', 'K', 'a', ')']
        { global := true }).toOption,
      m.matcher.engine.Bounded ['a'] ∧
        (¬∃ items, (m.walk ['a']).Yields items ∧ items.length ≤ 2) ∧
        (m.replace ['a'] []).answer = .error .endless := by
  obtain ⟨m, hm, hengine, htake, hreplace⟩ :
      ∃ m ∈ (compile (Regex.dialect 1000) ['(', '?', '<', '=', '\\', 'K', 'a', ')']
          { global := true }).toOption,
        m.matcher.engine.Bounded ['a'] ∧ ((m.walk ['a']).take 3).length = 3 ∧
          (m.replace ['a'] []).answer = .error .endless := by
    decide +kernel
  refine ⟨m, hm, hengine, ?_, hreplace⟩
  intro hparts
  obtain ⟨items, hyields, hle⟩ := hparts
  have hall := hyields.take_eq (Nat.le_trans hle (by decide : 2 ≤ 3))
  rw [hall] at htake
  omega

end NamedMatcher
end NamedCapture
