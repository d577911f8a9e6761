import Mathlib.Order.Bounds.Basic
import Mathlib.Order.Nat
import NamedCapture.Proofs.Replace

/-!
# Successive leftmost matches

Suppose that at each place of a text at most one match begins, and that a search finds what begins
at the first place from there on where anything does (`Engine.Leftmost`).  Then a walk of a matcher
that is not sticky is an enumeration of such places: each match is the leftmost one from where the
match before it ends, or from one character further when that is empty, and there is none behind
the last.  `Successive` says so without mention of searches, and a loop of searches comes to the
same (`loop_iff_successive`).
-/

namespace NamedCapture

/-- What begins at each place of a text, if anything does: where it ends, and its groups. -/
abbrev Starts := Nat → Option (Nat × List (Option Span))

namespace Text

/-- The first boundary from `i` on where something begins. -/
def IsFirstStart (t : Text) (starts : Starts) (i p : Nat) : Prop :=
  IsLeast {q | isBoundary t q = true ∧ i ≤ q ∧ (starts q).isSome = true} p

def NoStart (t : Text) (starts : Starts) (i : Nat) : Prop :=
  ∀ q, isBoundary t q = true → i ≤ q → starts q = none

/-- `j` is one character behind the boundary `i`, or behind the end of the text when `i` is its
end. -/
def OneFurther (t : Text) (i j : Nat) : Prop :=
  (∃ s c r, t = s ++ c :: r ∧ byteLength s = i ∧ byteLength (s ++ [c]) = j) ∨
    (i = byteLength t ∧ j = byteLength t + 1)

/-- Where the search goes on behind a span: where the span ends, but one character further when it
is empty. -/
def Follows (t : Text) (s : Span) (r : Nat) : Prop :=
  if s.start = s.stop then t.OneFurther s.stop r else r = s.stop

variable {t : Text} {starts : Starts} {i j p : Nat}

theorem OneFurther.unique {k : Nat} (hj : t.OneFurther i j) (hk : t.OneFurther i k) : j = k := by
  rcases hj with ⟨s, c, r, rfl, rfl, rfl⟩ | ⟨rfl, rfl⟩
  · rcases hk with ⟨s', c', r', hcut, hlength, rfl⟩ | ⟨hend, -⟩
    · obtain ⟨rfl, hrest⟩ := append_inj_of_byteLength hcut hlength.symm
      cases hrest
      rfl
    · exact absurd hend (Nat.ne_of_lt (byteLength_lt_of_cons s c r))
  · rcases hk with ⟨s, c, r, rfl, hend, -⟩ | ⟨-, rfl⟩
    · exact absurd hend (Nat.ne_of_lt (byteLength_lt_of_cons s c r))
    · rfl

theorem noStart_or_exists (t : Text) (starts : Starts) (i : Nat) :
    t.NoStart starts i ∨ ∃ p x, t.IsFirstStart starts i p ∧ starts p = some x := by
  by_cases h : ∃ q, isBoundary t q = true ∧ i ≤ q ∧ (starts q).isSome = true
  · have hp : t.IsFirstStart starts i (Nat.find h) := Nat.isLeast_find h
    obtain ⟨x, hx⟩ := Option.isSome_iff_exists.mp hp.1.2.2
    exact Or.inr ⟨_, x, hp, hx⟩
  · refine Or.inl fun q hq hle => ?_
    rw [← Option.not_isSome_iff_eq_none]
    exact fun hsome => h ⟨q, hq, hle, hsome⟩

theorem IsFirstStart.not_noStart (h : t.IsFirstStart starts i p) : ¬t.NoStart starts i := by
  intro hnone
  have hsome := h.1.2.2
  rw [hnone p h.1.1 h.1.2.1] at hsome
  cases hsome

instance : Decidable (t.IsFirstStart starts i p) :=
  decidable_of_iff ((isBoundary t p = true ∧ i ≤ p ∧ (starts p).isSome = true) ∧
      ∀ q < p, ¬(isBoundary t q = true ∧ i ≤ q ∧ (starts q).isSome = true)) <| by
    refine and_congr_right fun _ => ⟨fun h q hq => ?_, fun h q hlt hq => ?_⟩
    · exact Nat.not_lt.mp fun hlt => h q hlt hq
    · exact absurd (h hq) (Nat.not_le.mpr hlt)

instance decidableForallBoundary {P : Nat → Prop} [DecidablePred P] :
    Decidable (∀ q, isBoundary t q = true → P q) := decidable_of_iff' _ Engine.forall_boundary_iff

instance : Decidable (t.NoStart starts i) :=
  inferInstanceAs (Decidable (∀ q, isBoundary t q = true → i ≤ q → starts q = none))

end Text

theorem Match.follows_iff {f : Match} (h : f.whole.Within f.subject) {r : Nat} :
    f.subject.Follows f.whole r ↔ r = f.resume := by
  have hle := h.start_le_stop
  unfold Text.Follows
  by_cases hempty : f.whole.start = f.whole.stop
  · have hresume : f.subject.OneFurther f.whole.stop f.resume := by
      obtain ⟨s, r, hcut, hlength⟩ := Text.isBoundary_iff.mp h.stop
      rw [resume, if_neg (Nat.not_lt.mpr (Nat.le_of_eq hempty.symm)), ← hlength, hcut,
        Text.dropBytes_append]
      cases r with
      | nil => exact Or.inr ⟨by rw [List.append_nil], by rw [List.append_nil]⟩
      | cons c r => exact Or.inl ⟨s, c, r, rfl, rfl, Text.byteLength_append s [c]⟩
    rw [if_pos hempty]
    exact ⟨fun hr => hr.unique hresume, fun hr => hr ▸ hresume⟩
  · rw [if_neg hempty, Match.resume_eq_stop (by omega)]

/-- The successive leftmost matches of a text from `r` on, when these begin where `starts` says. -/
inductive Successive (t : Text) (starts : Starts) : Nat → List Match → Prop
  | done {r : Nat} (h : t.NoStart starts r) : Successive t starts r []
  | next {r p stop r' : Nat} {groups : List (Option Span)} {fs : List Match}
      (hp : t.IsFirstStart starts r p) (h : starts p = some (stop, groups))
      (hr : t.Follows ⟨p, stop⟩ r') (hrest : Successive t starts r' fs) :
    Successive t starts r (⟨t, ⟨p, stop⟩, groups⟩ :: fs)

/-- A search from a boundary finds the match that begins first from there on.  A match ends at a
boundary not before its beginning. -/
structure Engine.Leftmost (e : Engine) (t : Text) (starts : Starts) : Prop where
  stop : ∀ p, Text.isBoundary t p = true → ∀ x ∈ starts p,
    p ≤ x.1 ∧ Text.isBoundary t x.1 = true
  found : ∀ i, Text.isBoundary t i = true → ∀ p, Text.isBoundary t p = true →
    t.IsFirstStart starts i p → ∀ x ∈ starts p, e.search t i = .found ⟨p, x.1⟩ x.2
  absent : ∀ i, Text.isBoundary t i = true → t.NoStart starts i → e.search t i = .absent

namespace Engine.Leftmost

variable {e : Engine} {t : Text} {starts : Starts}

instance : Decidable (e.Leftmost t starts) :=
  decidable_of_iff
    ((∀ p, Text.isBoundary t p = true → ∀ x ∈ starts p, p ≤ x.1 ∧ Text.isBoundary t x.1 = true) ∧
      (∀ i, Text.isBoundary t i = true → ∀ p, Text.isBoundary t p = true →
        t.IsFirstStart starts i p → ∀ x ∈ starts p, e.search t i = .found ⟨p, x.1⟩ x.2) ∧
      ∀ i, Text.isBoundary t i = true → t.NoStart starts i → e.search t i = .absent)
    ⟨fun h => ⟨h.1, h.2.1, h.2.2⟩, fun h => ⟨h.stop, h.found, h.absent⟩⟩

theorem forward (h : e.Leftmost t starts) : e.Forward t := by
  intro i hi whole hwhole
  rcases t.noStart_or_exists starts i with hnone | ⟨p, x, hp, hx⟩
  · rw [h.absent i hi hnone] at hwhole
    cases hwhole
  · rw [h.found i hi p hp.1.1 hp x hx] at hwhole
    cases hwhole
    obtain ⟨hle, hstop⟩ := h.stop p hp.1.1 x hx
    exact ⟨hp.1.2.1, hle, hp.1.1, hstop⟩

end Engine.Leftmost

namespace Matcher

variable {m : Matcher} {subject : Text} {starts : Starts} {i p r : Nat} {fs : List Match}

theorem searchFrom_leftmost (hsticky : m.flags.sticky = false)
    (hengine : m.engine.Leftmost subject starts) (hi : Text.isBoundary subject i = true) :
    (subject.NoStart starts i ∧ m.searchFrom subject i = .ok none) ∨
      ∃ p x, subject.IsFirstStart starts i p ∧ starts p = some x ∧
        m.searchFrom subject i = .ok (some ⟨subject, ⟨p, x.1⟩, x.2⟩) := by
  rcases subject.noStart_or_exists starts i with hnone | ⟨p, x, hp, hx⟩
  · exact Or.inl ⟨hnone, by rw [searchFrom, hengine.absent i hi hnone]⟩
  · refine Or.inr ⟨p, x, hp, hx, ?_⟩
    rw [searchFrom, hengine.found i hi p hp.1.1 hp x hx, hsticky]
    rfl

theorem loop_iff_successive (hsticky : m.flags.sticky = false)
    (hengine : m.engine.Leftmost subject starts) (hr : Text.IsPosition subject r)
    {ending : Option Failure} :
    Loop m subject Match.resume r fs ending ↔ Successive subject starts r fs ∧ ending = none := by
  have hforward := hengine.forward
  constructor
  · intro h
    -- The place stays a boundary or is behind the end: `searchFrom_leftmost` settles each search.
    induction h with
    | @behind r hbehind =>
      refine ⟨.done fun q hq hle => ?_, rfl⟩
      have hend := Text.le_byteLength_of_isBoundary hq
      omega
    | @absent r hin hsearch =>
      rcases searchFrom_leftmost hsticky hengine (hr.isBoundary hin) with
        ⟨hnone, -⟩ | ⟨p, x, -, -, hfound⟩
      · exact ⟨.done hnone, rfl⟩
      · cases hsearch.symm.trans hfound
    | @failed r e hin hsearch =>
      rcases searchFrom_leftmost hsticky hengine (hr.isBoundary hin) with
        ⟨-, habsent⟩ | ⟨p, x, -, -, hfound⟩
      · cases hsearch.symm.trans habsent
      · cases hsearch.symm.trans hfound
    | @found r f fs ending hf _ ih =>
      have hi := hr.isBoundary hf.1
      obtain ⟨hrest, hending⟩ := ih (position_of_finds hforward.bounded goesOn_resume hr hf).2
      have hwithin := (within_of_finds hforward hi hf).2
      rcases searchFrom_leftmost hsticky hengine hi with ⟨-, habsent⟩ | ⟨p, x, hp, hx, hfound⟩
      · cases hf.2.symm.trans habsent
      · cases hf.2.symm.trans hfound
        exact ⟨.next hp hx ((Match.follows_iff hwithin).mpr rfl) hrest, hending⟩
  · intro hparts
    obtain ⟨h, rfl⟩ := hparts
    induction h with
    | @done r hnone =>
      by_cases hin : r ≤ Text.byteLength subject
      · rcases searchFrom_leftmost hsticky hengine (hr.isBoundary hin) with
          ⟨-, habsent⟩ | ⟨p, x, hp, -⟩
        · exact .absent hin habsent
        · exact absurd hnone hp.not_noStart
      · exact .behind (Nat.not_le.mp hin)
    | @next r p stop r' groups fs hp hx hfollows _ ih =>
      have hin : r ≤ Text.byteLength subject :=
        Nat.le_trans hp.1.2.1 (Text.le_byteLength_of_isBoundary hp.1.1)
      have hi := hr.isBoundary hin
      rcases searchFrom_leftmost hsticky hengine hi with ⟨hnone, -⟩ | ⟨q, x, hq, hqx, hfound⟩
      · exact absurd hnone hp.not_noStart
      · obtain rfl := IsLeast.unique hp hq
        cases hx.symm.trans hqx
        have hf : m.Finds subject r ⟨subject, ⟨p, stop⟩, groups⟩ := ⟨hin, hfound⟩
        have hwithin := (within_of_finds hforward hi hf).2
        obtain rfl := (Match.follows_iff hwithin).mp hfollows
        exact .found hf (ih (position_of_finds hforward.bounded goesOn_resume hr hf).2)

end Matcher

namespace NamedMatcher

open Matcher

variable {m : NamedMatcher} {subject : Text} {starts : Starts}

/-- A walk of a matcher that is not sticky gives the successive leftmost matches of its subject, of
which there is only one list, and no failure.  They are at most one for every boundary, each begins
behind where the one before it begins, and none begins before the one before it ends.  The walk
leaves its matcher as it is, the cursor too, and once it has given nothing it gives nothing for
ever. -/
theorem walk_leftmost (hsticky : m.matcher.flags.sticky = false)
    (hengine : m.matcher.engine.Leftmost subject starts) :
    (∃ fs, Successive subject starts 0 fs ∧ (∀ gs, Successive subject starts 0 gs → gs = fs) ∧
      (m.walk subject).Gives (fs.map (NamedMatch.ofMatch m.table)) none ∧
      fs.length ≤ subject.length + 1 ∧ fs.Pairwise Match.Before) ∧
    (∀ n, ((m.walk subject).after n).matcher = m) ∧
    ∀ n k, (m.walk subject).item? n = none → (m.walk subject).item? (n + k) = none := by
  have hforward := hengine.forward
  have hzero : Text.IsPosition subject 0 := Or.inl (Text.isBoundary_zero subject)
  refine ⟨?_, fun n => (m.walk subject).matcher_after n, fun n k h => Walk.item?_add_of_none h k⟩
  obtain ⟨ms, ending, hgives⟩ := exists_gives hforward
  obtain ⟨fs, hloop, rfl⟩ := Walk.gives_iff.mp hgives
  obtain ⟨hsuccessive, rfl⟩ := (loop_iff_successive hsticky hengine hzero).mp hloop
  refine ⟨fs, hsuccessive, fun gs hgs => ?_, hgives, ?_, (hloop.ordered hforward hzero).2⟩
  · exact (((loop_iff_successive hsticky hengine hzero).mpr ⟨hgs, rfl⟩).unique hloop).1
  · have hturns := hloop.length_le hforward.bounded goesOn_resume hzero
    rw [Text.stepsLeft_zero] at hturns
    exact hturns

/-- In `aéa` the pattern `(?<n>é)|$` begins behind the first character, and at the end, where it is
empty. -/
theorem walk_leftmost_optional :
    let subject := ['a', 'é', 'a']
    let starts : Starts := fun p =>
      if p = 1 then some (3, [some ⟨1, 3⟩]) else if p = 4 then some (4, [none]) else none
    let fs : List Match := [⟨subject, ⟨1, 3⟩, [some ⟨1, 3⟩]⟩, ⟨subject, ⟨4, 4⟩, [none]⟩]
    ∃ m ∈ (compile (Regex.dialect 1000) ['(', '?', '<', 'n', '>', 'é', ')', '|', '$']
        Flags.none).toOption,
      m.matcher.flags.sticky = false ∧ m.matcher.engine.Leftmost subject starts ∧
      Successive subject starts 0 fs ∧
      (m.walk subject).Gives (fs.map (NamedMatch.ofMatch m.table)) none ∧
      ∀ k, (m.walk subject).item? (2 + k) = none := by
  intro subject starts fs
  obtain ⟨m, hm, hsticky, hengine, hover⟩ :
      ∃ m ∈ (compile (Regex.dialect 1000) ['(', '?', '<', 'n', '>', 'é', ')', '|', '$']
          Flags.none).toOption,
        m.matcher.flags.sticky = false ∧ m.matcher.engine.Leftmost subject starts ∧
          (m.walk subject).item? 2 = none := by
    decide +kernel
  obtain ⟨⟨gs, -, hunique, hgives, -⟩, -, hnone⟩ := walk_leftmost hsticky hengine
  have hfs : Successive subject starts 0 fs :=
    .next (by decide) rfl (show (3 : Nat) = 3 from rfl)
      (.next (by decide) rfl (Or.inr ⟨rfl, rfl⟩) (.done (by decide)))
  rw [← hunique fs hfs] at hgives
  exact ⟨m, hm, hsticky, hengine, hfs, hgives, fun k => hnone 2 k hover⟩

end NamedMatcher
end NamedCapture
