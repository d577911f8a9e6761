import NamedCapture.Proofs.Gather
import NamedCapture.Regex.Compile

/-!
# Replacing what a walk gives

A replacement first gathers matches and then weaves the subject around what the replacing function
makes of them.  Weaving comes through exactly where the matches are `Spaced`, one behind the other,
and then it has called the function once on each, in order.  With an engine that searches forward
the matches of a global replacement are those of the walk, and they are spaced: `replaceWith_walk`.
-/

namespace NamedCapture

/-- Matches one behind the other, the first of them not before `last`. -/
def Spaced : Nat → List NamedMatch → Prop
  | _, [] => True
  | last, m :: rest => last ≤ m.whole.start ∧ Spaced m.whole.stop rest

theorem spaced_of_pairwise {last : Nat} {ms : List NamedMatch}
    (hlast : ∀ f ∈ ms, last ≤ f.whole.start)
    (h : ms.Pairwise fun f g => f.toMatch.Before g.toMatch) : Spaced last ms := by
  induction ms generalizing last with
  | nil => exact trivial
  | cons f ms ih =>
    obtain ⟨hhead, htail⟩ := List.pairwise_cons.mp h
    exact ⟨hlast f List.mem_cons_self, ih (fun g hg => (hhead g hg).2) htail⟩

section Weave

variable {σ : Type} (replacing : σ → NamedMatch → Text × σ) (state : σ) {subject : Text}
  {last : Nat}

theorem weave_cons {m : NamedMatch} {rest : List NamedMatch} (h : last ≤ m.whole.start) :
    weave replacing subject state last (m :: rest) =
      ((weave replacing subject (replacing state m).2 m.whole.stop rest).1.map
          (Text.slice subject last m.whole.start ++ (replacing state m).1 ++ ·),
        (weave replacing subject (replacing state m).2 m.whole.stop rest).2) := by
  rw [weave, if_neg (Nat.not_lt.mpr h)]

theorem weave_of_spaced {ms : List NamedMatch} (h : Spaced last ms) :
    (∃ text, (weave replacing subject state last ms).1 = .ok text) ∧
      (weave replacing subject state last ms).2 =
        ms.foldl (fun s m => (replacing s m).2) state := by
  induction ms generalizing last state with
  | nil => exact ⟨⟨_, rfl⟩, rfl⟩
  | cons m rest ih =>
    obtain ⟨⟨text, htext⟩, hstate⟩ := ih (replacing state m).2 h.2
    rw [weave_cons replacing state h.1]
    refine ⟨⟨Text.slice subject last m.whole.start ++ (replacing state m).1 ++ text, ?_⟩, hstate⟩
    rw [htext]
    rfl

theorem weave_of_not_spaced {ms : List NamedMatch} (h : ¬Spaced last ms) :
    (weave replacing subject state last ms).1 = .error .overlap := by
  induction ms generalizing last state with
  | nil => exact absurd trivial h
  | cons m rest ih =>
    by_cases hle : last ≤ m.whole.start
    · have hrest : ¬Spaced m.whole.stop rest := fun hspaced => h ⟨hle, hspaced⟩
      rw [weave_cons replacing state hle, ih _ hrest]
      rfl
    · rw [weave, if_pos (Nat.not_le.mp hle)]

end Weave

namespace NamedMatcher

open Matcher

variable {m : NamedMatcher} {subject : Text} {p : Nat} {fs : List Match}
  {ending : Option Failure}

theorem spaced_of_loop (hengine : m.matcher.engine.Forward subject)
    (hp : Text.IsPosition subject p) (h : Loop m.matcher subject Match.advance p fs ending) :
    Spaced p (fs.map (NamedMatch.ofMatch m.table)) := by
  obtain ⟨hparts, hpairwise⟩ := ((loop_advance_iff hengine hp).mp h).ordered hengine hp
  apply spaced_of_pairwise
  · intro f hf
    obtain ⟨g, hg, rfl⟩ := List.mem_map.mp hf
    exact (hparts g hg).2.1
  · exact List.pairwise_map.mpr hpairwise

section ReplaceWith

variable {σ : Type} (replacing : σ → NamedMatch → Text × σ) (state : σ)

theorem replaceWith_of_ok {ms : List NamedMatch} (h : (m.targets subject).answer = .ok ms) :
    (m.replaceWith subject replacing state).answer = (weave replacing subject state 0 ms).1 ∧
      (m.replaceWith subject replacing state).state = (weave replacing subject state 0 ms).2 ∧
      (m.replaceWith subject replacing state).after = (m.targets subject).after := by
  dsimp only [replaceWith]
  rw [h]
  exact ⟨rfl, rfl, rfl⟩

theorem replaceWith_of_error {e : Failure} (h : (m.targets subject).answer = .error e) :
    (m.replaceWith subject replacing state).answer = .error e ∧
      (m.replaceWith subject replacing state).state = state := by
  dsimp only [replaceWith]
  rw [h]
  exact ⟨rfl, rfl⟩

theorem targets_of_not_global (hglobal : m.matcher.flags.global ≠ true) (subject : Text) :
    m.targets subject =
      { m.exec subject with answer := (m.exec subject).answer.map Option.toList } := by
  rw [targets, if_neg hglobal]

theorem replaceWith_of_exec {found : Option NamedMatch} (hglobal : m.matcher.flags.global ≠ true)
    (h : (m.exec subject).answer = .ok found) :
    ∃ text, (m.replaceWith subject replacing state).answer = .ok text := by
  have htargets : (m.targets subject).answer = .ok found.toList := by
    rw [targets_of_not_global hglobal, h]
    rfl
  have hspaced : Spaced 0 found.toList := by
    cases found with
    | none => exact trivial
    | some f => exact ⟨Nat.zero_le _, trivial⟩
  rw [(replaceWith_of_ok replacing state htargets).1]
  exact (weave_of_spaced replacing state hspaced).1

end ReplaceWith

theorem stateful_of_global (h : m.matcher.flags.global = true) :
    m.matcher.flags.stateful = true := by
  rw [Flags.stateful, h, Bool.true_or]

theorem length_lt_fuel (hengine : m.matcher.engine.Bounded subject)
    (h : Loop m.matcher subject Match.advance 0 fs ending) :
    fs.length < Text.byteLength subject + 2 := by
  have hturns := h.length_le hengine goesOn_advance (Or.inl (Text.isBoundary_zero subject))
  have hchars := Text.length_le_byteLength subject
  rw [Text.stepsLeft_zero] at hturns
  omega

/-- A global replacement has fuel for every loop that ends, and ends with it. -/
theorem targets_eq_of_loop (hglobal : m.matcher.flags.global = true)
    (hengine : m.matcher.engine.Bounded subject)
    (h : Loop m.matcher subject Match.advance 0 fs ending) :
    (m.targets subject).answer =
        ending.elim (.ok (fs.map (NamedMatch.ofMatch m.table))) .error ∧
      (m.targets subject).after =
        m.setCursor (ending.elim 0 fun _ => lastPlace Match.advance 0 fs) := by
  have hzero : Text.IsPosition subject 0 := Or.inl (Text.isBoundary_zero subject)
  rw [targets, if_pos hglobal]
  exact gather_of_loop (stateful_of_global hglobal) hengine hzero h (length_lt_fuel hengine h)

theorem targets_of_loop (hglobal : m.matcher.flags.global = true)
    (hengine : m.matcher.engine.Bounded subject)
    (h : Loop m.matcher subject Match.advance 0 fs ending) :
    (m.targets subject).answer =
        ending.elim (.ok (fs.map (NamedMatch.ofMatch m.table))) .error ∧
      (ending = none → (m.targets subject).after = m.setCursor 0) := by
  obtain ⟨hanswer, hafter⟩ := targets_eq_of_loop hglobal hengine h
  refine ⟨hanswer, fun hnone => ?_⟩
  rw [hafter, hnone]
  rfl

theorem loop_of_gives {ms : List NamedMatch} (hengine : m.matcher.engine.Forward subject)
    (h : (m.walk subject).Gives ms ending) :
    ∃ fs, ms = fs.map (NamedMatch.ofMatch m.table) ∧
      Loop m.matcher subject Match.advance 0 fs ending := by
  have hzero : Text.IsPosition subject 0 := Or.inl (Text.isBoundary_zero subject)
  obtain ⟨fs, hloop, hms⟩ := Walk.gives_iff.mp h
  exact ⟨fs, hms, (loop_advance_iff hengine hzero).mpr hloop⟩

theorem exists_gives (hengine : m.matcher.engine.Forward subject) :
    ∃ ms failure, (m.walk subject).Gives ms failure := by
  have hzero : Text.IsPosition subject 0 := Or.inl (Text.isBoundary_zero subject)
  have hmoves : ∀ q f, Visits m.matcher subject Match.resume 0 q →
      m.matcher.Finds subject q f → f.resume ≠ q := by
    intro q f hvisits hf
    have hq := position_of_visits hengine.bounded.stopsAtBoundary goesOn_resume hzero hvisits
    obtain ⟨hstart, hstop⟩ := start_le_stop hengine (hq.isBoundary hf.1) hf
    have hresume := f.start_lt_resume hstop
    omega
  obtain ⟨fs, failure, hloop⟩ :=
    (exists_loop_iff hengine.bounded goesOn_resume hzero).mpr hmoves
  exact ⟨_, failure, Walk.gives_of_loop hloop⟩

/-- A global replacement and a walk go through the same matches.  The walk ends.  Where it gives
only matches, the replacement answers, has called its function once on each of them in their order,
and leaves the cursor at 0.  Where it gives a failure at the end, the replacement fails in the same
way and has not called its function. -/
theorem replaceWith_walk {σ : Type} (hglobal : m.matcher.flags.global = true)
    (hengine : m.matcher.engine.Forward subject) (replacing : σ → NamedMatch → Text × σ)
    (state : σ) :
    (∃ ms failure, (m.walk subject).Gives ms failure) ∧
      (∀ ms, (m.walk subject).Gives ms none →
        (∃ text, (m.replaceWith subject replacing state).answer = .ok text) ∧
          (m.replaceWith subject replacing state).state =
            ms.foldl (fun s found => (replacing s found).2) state ∧
          (m.replaceWith subject replacing state).after = m.setCursor 0) ∧
      (∀ ms e, (m.walk subject).Gives ms (some e) →
        (m.replaceWith subject replacing state).answer = .error e ∧
          (m.replaceWith subject replacing state).state = state) := by
  have hzero : Text.IsPosition subject 0 := Or.inl (Text.isBoundary_zero subject)
  refine ⟨exists_gives hengine, ?_, ?_⟩
  · intro ms hgives
    obtain ⟨fs, rfl, hloop⟩ := loop_of_gives hengine hgives
    obtain ⟨htargets, hafter⟩ := targets_of_loop hglobal hengine.bounded hloop
    obtain ⟨hanswer, hstate, hcursor⟩ := replaceWith_of_ok replacing state htargets
    have hspaced := spaced_of_loop hengine hzero hloop
    obtain ⟨hwoven, hfold⟩ := weave_of_spaced replacing state hspaced
    rw [hanswer, hstate, hcursor, hafter rfl]
    exact ⟨hwoven, hfold, rfl⟩
  · intro ms e hgives
    obtain ⟨fs, rfl, hloop⟩ := loop_of_gives hengine hgives
    obtain ⟨htargets, -⟩ := targets_of_loop hglobal hengine.bounded hloop
    exact replaceWith_of_error replacing state htargets

/-- Replacing each match of `(?<n>é)?` in `éa` with a dash, and listing what the name captures. -/
theorem replaceWith_walk_optional :
    let list := fun (seen : List (Option Text)) (found : NamedMatch) =>
      (['-'], seen ++ [found.group? ['n']])
    ∃ m ∈ (compile (Regex.dialect 1000) ['(', '?', '<', 'n', '>', 'é', ')', '?']
        { global := true }).toOption,
      ∃ ms, (m.walk ['é', 'a']).Gives ms none ∧
        (∃ text, (m.replaceWith ['é', 'a'] list []).answer = .ok text) ∧
        (m.replaceWith ['é', 'a'] list []).state = [some ['é'], none, none] ∧
        (m.replaceWith ['é', 'a'] list []).after = m.setCursor 0 := by
  intro list
  obtain ⟨m, hm, hglobal, hengine, hitems⟩ :
      ∃ m ∈ (compile (Regex.dialect 1000) ['(', '?', '<', 'n', '>', 'é', ')', '?']
          { global := true }).toOption,
        m.matcher.flags.global = true ∧ m.matcher.engine.Forward ['é', 'a'] ∧
          (m.walk ['é', 'a']).take 4 =
            [.ok ⟨⟨['é', 'a'], ⟨0, 2⟩, [some ⟨0, 2⟩]⟩, [(['n'], some ['é'])]⟩,
              .ok ⟨⟨['é', 'a'], ⟨2, 2⟩, [none]⟩, [(['n'], none)]⟩,
              .ok ⟨⟨['é', 'a'], ⟨3, 3⟩, [none]⟩, [(['n'], none)]⟩] := by
    decide +kernel
  obtain ⟨ms, hms, hseen⟩ : ∃ ms : List NamedMatch,
      (m.walk ['é', 'a']).take 4 = ms.map .ok ++ (none : Option Failure).toList.map .error ∧
        ms.foldl (fun seen found => (list seen found).2) [] = [some ['é'], none, none] := by
    rw [hitems]
    exact ⟨[_, _, _], rfl, by decide⟩
  have hgives : (m.walk ['é', 'a']).Gives ms none := by
    rw [Walk.Gives, ← hms]
    exact Walk.yields_take (by rw [hitems]; decide)
  obtain ⟨-, hreplaced, -⟩ := replaceWith_walk hglobal hengine list []
  obtain ⟨hanswer, hstate, hafter⟩ := hreplaced ms hgives
  exact ⟨m, hm, ms, hgives, hanswer, hstate.trans hseen, hafter⟩

end NamedMatcher
end NamedCapture
