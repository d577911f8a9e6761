import NamedCapture.Proofs.Session
import NamedCapture.Proofs.Splice

/-!
# The sticky flag

The sticky flag does not reach the engine.  A sticky matcher makes the searches of the matcher
without the flag and refuses a match that begins elsewhere than its search (`searchFrom_sticky`).
So its walk is the front of the other walk up to the first match that does not begin where the
search for it began: of the fronts with no such match it is the longest (`exists_loop_sticky`).
-/

namespace NamedCapture

structure IsLongestPrefix {α : Type} (P : List α → Prop) (front whole : List α) : Prop where
  isPrefix : front <+: whole
  holds : P front
  longest : ∀ l, l <+: whole → P l → l <+: front

namespace IsLongestPrefix

variable {α : Type} {P Q : List α → Prop} {x : α} {front rest : List α}

theorem refl (h : P rest) : IsLongestPrefix P rest rest :=
  ⟨List.prefix_refl rest, h, fun _ hl _ => hl⟩

theorem nil (h : P []) (hnot : ∀ l, ¬P (x :: l)) : IsLongestPrefix P [] (x :: rest) := by
  refine ⟨List.nil_prefix, h, fun l hl hP => ?_⟩
  rcases List.prefix_cons_iff.mp hl with rfl | ⟨l', rfl, -⟩
  · exact List.nil_prefix
  · exact absurd hP (hnot l')

theorem cons (hPQ : ∀ l, P (x :: l) ↔ Q l) (h : IsLongestPrefix Q front rest) :
    IsLongestPrefix P (x :: front) (x :: rest) := by
  refine ⟨(List.prefix_cons_inj x).mpr h.isPrefix, (hPQ front).mpr h.holds, fun l hl hP => ?_⟩
  rcases List.prefix_cons_iff.mp hl with rfl | ⟨l', rfl, hl'⟩
  · exact List.nil_prefix
  · exact (List.prefix_cons_inj x).mpr (h.longest l' hl' ((hPQ l').mp hP))

end IsLongestPrefix

/-- Each match among the items begins where the search for it began: the first one at `p`, each
other one where a walk goes on behind the one before it. -/
def Contiguous : Nat → List (Except Failure NamedMatch) → Prop
  | _, [] => True
  | p, .error _ :: rest => Contiguous p rest
  | p, .ok found :: rest => found.whole.start = p ∧ Contiguous found.resume rest

namespace Matcher

variable {m : Matcher} {subject : Text} {p : Nat}

def sticky (m : Matcher) : Matcher := { m with flags := { m.flags with sticky := true } }

/-- The flag refuses what is found elsewhere, and does nothing else. -/
theorem searchFrom_sticky (hsticky : m.flags.sticky = false) (subject : Text) (p : Nat) :
    m.sticky.searchFrom subject p =
      (m.searchFrom subject p).map (Option.filter fun f => f.whole.start == p) := by
  have hengine : m.sticky.engine = m.engine := rfl
  have hflag : m.sticky.flags.sticky = true := rfl
  rw [searchFrom, searchFrom, hengine, hflag, hsticky]
  cases m.engine.search subject p with
  | gaveUp => rfl
  | absent => rfl
  | found whole groups =>
    by_cases hstart : whole.start = p
    · simp [hstart, Except.map, Option.filter]
    · simp [hstart, Except.map, Option.filter]

end Matcher

open Matcher

def itemsOf (table : GroupTable) (fs : List Match) (ending : Option Failure) :
    List (Except Failure NamedMatch) :=
  (fs.map (NamedMatch.ofMatch table)).map .ok ++ ending.toList.map .error

theorem exists_loop_sticky {m : Matcher} {subject : Text} {p : Nat} {fs : List Match}
    {ending : Option Failure} (table : GroupTable) (hsticky : m.flags.sticky = false)
    (h : Loop m subject Match.resume p fs ending) :
    ∃ gs ending', Loop m.sticky subject Match.resume p gs ending' ∧
      IsLongestPrefix (Contiguous p) (itemsOf table gs ending') (itemsOf table fs ending) := by
  induction h with
  | @behind p hbehind => exact ⟨[], none, .behind hbehind, .refl trivial⟩
  | @absent p hin hsearch =>
    have hnone : m.sticky.searchFrom subject p = .ok none := by
      rw [searchFrom_sticky hsticky, hsearch]
      rfl
    exact ⟨[], none, .absent hin hnone, .refl trivial⟩
  | @failed p e hin hsearch =>
    have herror : m.sticky.searchFrom subject p = .error e := by
      rw [searchFrom_sticky hsticky, hsearch]
      rfl
    exact ⟨[], some e, .failed hin herror, .refl trivial⟩
  | @found p f fs ending hf _ ih =>
    have hsearch := searchFrom_sticky hsticky subject p
    rw [hf.2] at hsearch
    by_cases hstart : f.whole.start = p
    · have hfound : m.sticky.searchFrom subject p = .ok (some f) := by
        rw [hsearch]
        simp [Except.map, Option.filter, hstart]
      obtain ⟨gs, ending', hloop, hlongest⟩ := ih
      refine ⟨f :: gs, ending', .found ⟨hf.1, hfound⟩ hloop, hlongest.cons fun l => ?_⟩
      exact and_iff_right hstart
    -- What begins elsewhere ends the sticky loop, and no front that has it is contiguous.
    · have hrefused : m.sticky.searchFrom subject p = .ok none := by
        rw [hsearch]
        simp [Except.map, Option.filter, hstart]
      exact ⟨[], none, .absent hf.1 hrefused, .nil trivial fun l hl => hstart hl.1⟩

namespace NamedMatcher

variable {m : NamedMatcher} {subject : Text}

def sticky (m : NamedMatcher) : NamedMatcher := { m with matcher := m.matcher.sticky }

theorem compile_sticky (dialect : Dialect) (pattern : Text) (flags : Flags) :
    compile dialect pattern { flags with sticky := true } =
      (compile dialect pattern flags).map sticky := by
  unfold compile Matcher.compile
  cases Annotated.strip pattern with
  | error e => rfl
  | ok stripped =>
    have hread : Flags.enginePrefix { flags with sticky := true } = flags.enginePrefix := rfl
    dsimp only
    rw [hread]
    cases dialect (flags.enginePrefix ++ stripped.pattern) <;> rfl

theorem exec_sticky (m : NamedMatcher) (subject : Text) (c : Nat) :
    (∃ whole groups, subject.IsCeil c whole.start ∧
      m.matcher.engine.search subject whole.start = .found whole groups ∧
      ((m.sticky.setCursor c).exec subject).answer =
        .ok (some (NamedMatch.ofMatch m.table ⟨subject, whole, groups⟩))) ∨
    (∃ p, subject.IsCeil c p ∧ m.matcher.engine.search subject p = .gaveUp ∧
      ((m.sticky.setCursor c).exec subject).answer = .error .gaveUp) ∨
    ((∀ p, subject.IsCeil c p → m.matcher.engine.search subject p ≠ .gaveUp ∧
        ∀ whole groups, m.matcher.engine.search subject p = .found whole groups →
          whole.start ≠ p) ∧
      ((m.sticky.setCursor c).exec subject).answer = .ok none ∧
      ((m.sticky.setCursor c).exec subject).after = m.sticky.setCursor 0) := by
  have hstateful : (m.sticky.setCursor c).matcher.flags.stateful = true := Bool.or_true _
  obtain ⟨answer, next, hattempt⟩ := Attempt.exists_attempt m.matcher.engine true subject c
  obtain ⟨hanswer, hafter⟩ :=
    (tells_of_attempt (m := m.sticky.setCursor c) hstateful hattempt).exec
  cases hattempt with
  | behind hbehind =>
    refine .inr (.inr ⟨fun p hp => ?_, hanswer, hafter⟩)
    have hend := Nat.le_trans hp.1.2 (Text.le_byteLength_of_isBoundary hp.1.1)
    exact absurd hend (Nat.not_le.mpr hbehind)
  | absent hp habsent =>
    refine .inr (.inr ⟨fun q hq => ?_, hanswer, hafter⟩)
    obtain rfl := IsLeast.unique hp hq
    simp [habsent]
  | refused hp hfound _ hstart =>
    refine .inr (.inr ⟨fun q hq => ?_, hanswer, hafter⟩)
    obtain rfl := IsLeast.unique hp hq
    simp [hfound, hstart]
  | found hp hfound hstart =>
    obtain rfl := hstart rfl
    exact .inl ⟨_, _, hp, hfound, hanswer⟩
  | gaveUp hp hgaveUp => exact .inr (.inl ⟨_, hp, hgaveUp, hanswer⟩)

/-- The sticky walk gives the longest front of what the other walk gives in which each match begins
where the search for it began, a failure that comes next included.  So an attempt under the flag
takes a match only at the first boundary that its cursor comes to, and a replacement that answers
replaces the matches of that front. -/
theorem sticky_walks_front {dialect : Dialect} {pattern : Text} {flags : Flags}
    (h : compile dialect pattern flags = .ok m) (hsticky : flags.sticky = false)
    (hengine : m.matcher.engine.Forward subject) :
    compile dialect pattern { flags with sticky := true } = .ok m.sticky ∧
    (∃ items front, (m.walk subject).Yields items ∧ (m.sticky.walk subject).Yields front ∧
      IsLongestPrefix (Contiguous 0) front items ∧
      (flags.global = true → ∀ template text,
        (m.sticky.replace subject template).answer = .ok text ↔
          ∃ ms, front = ms.map .ok ∧
            Splices subject 0 (partsOf (Template.parse m.table template).expand ms) text)) ∧
    ∀ c,
      (∃ whole groups, subject.IsCeil c whole.start ∧
        m.matcher.engine.search subject whole.start = .found whole groups ∧
        ((m.sticky.setCursor c).exec subject).answer =
          .ok (some (NamedMatch.ofMatch m.table ⟨subject, whole, groups⟩))) ∨
      (∃ p, subject.IsCeil c p ∧ m.matcher.engine.search subject p = .gaveUp ∧
        ((m.sticky.setCursor c).exec subject).answer = .error .gaveUp) ∨
      ((∀ p, subject.IsCeil c p → m.matcher.engine.search subject p ≠ .gaveUp ∧
          ∀ whole groups, m.matcher.engine.search subject p = .found whole groups →
            whole.start ≠ p) ∧
        ((m.sticky.setCursor c).exec subject).answer = .ok none ∧
        ((m.sticky.setCursor c).exec subject).after = m.sticky.setCursor 0) := by
  obtain ⟨-, -, -, hflags, -⟩ := compile_eq_ok h
  refine ⟨?_, ?_, m.exec_sticky subject⟩
  · rw [compile_sticky, h]
    rfl
  · obtain ⟨ms, ending, hgives⟩ := exists_gives hengine
    obtain ⟨fs, hloop, rfl⟩ := Walk.gives_iff.mp hgives
    rw [← hflags] at hsticky
    obtain ⟨gs, ending', hloop', hlongest⟩ := exists_loop_sticky m.table hsticky hloop
    have hfront : (m.sticky.walk subject).Yields (itemsOf m.table gs ending') :=
      Walk.gives_of_loop (m := m.sticky) hloop'
    refine ⟨_, _, hgives, hfront, hlongest, fun hglobal template text => ?_⟩
    have hset : m.sticky.matcher.flags.global = true := by
      rw [← hglobal, ← hflags]
      rfl
    have hreplaces : ∀ ms, m.sticky.Replaces subject ms ↔
        itemsOf m.table gs ending' = ms.map .ok := by
      intro ms
      rw [Replaces, if_pos hset, Walk.Gives, Option.toList_none, List.map_nil, List.append_nil]
      exact ⟨hfront.unique, fun hms => hms ▸ hfront⟩
    rw [replace_eq_ok_iff (m := m.sticky) hengine]
    simp only [hreplaces]
    rfl

/-- `(?<n>é)` is found in `ééaé` at 0, 2 and 5, and under the flag at 0 and 2 only, so that a
replacement leaves the last `é` alone. -/
theorem sticky_walks_front_gap :
    let subject : Text := ['é', 'é', 'a', 'é']
    let template : Text := ['$', '<', 'n', '>', 'b']
    ∃ m, compile (Regex.dialect 1000) ['(', '?', '<', 'n', '>', 'é', ')'] { global := true } =
        .ok m ∧
      m.matcher.engine.Forward subject ∧
      (∃ items front, (m.walk subject).Yields items ∧ (m.sticky.walk subject).Yields front ∧
        items.length = 3 ∧ front.length = 2 ∧ IsLongestPrefix (Contiguous 0) front items ∧
        (m.sticky.replace subject template).answer = .ok ['é', 'b', 'é', 'b', 'a', 'é'] ∧
        ∃ ms, front = ms.map .ok ∧
          Splices subject 0 (partsOf (Template.parse m.table template).expand ms)
            ['é', 'b', 'é', 'b', 'a', 'é']) ∧
      (∃ found, ((m.sticky.setCursor 1).exec subject).answer = .ok (some found) ∧
        subject.IsCeil 1 found.whole.start) ∧
      ((m.sticky.setCursor 3).exec subject).answer = .ok none ∧
      ((m.sticky.setCursor 3).exec subject).after = m.sticky.setCursor 0 := by
  intro subject template
  obtain ⟨m, hm, hengine, hitems, hfront, hreplaced, hfound, hnone⟩ :
      ∃ m ∈ (compile (Regex.dialect 1000) ['(', '?', '<', 'n', '>', 'é', ')']
          { global := true }).toOption,
        m.matcher.engine.Forward subject ∧
          ((m.walk subject).take 4).length = 3 ∧ ((m.sticky.walk subject).take 3).length = 2 ∧
          (m.sticky.replace subject template).answer = .ok ['é', 'b', 'é', 'b', 'a', 'é'] ∧
          ((m.sticky.setCursor 1).exec subject).answer.map Option.isSome = .ok true ∧
          ((m.sticky.setCursor 3).exec subject).answer.map Option.isSome = .ok false := by
    decide +kernel
  have h := eq_ok_of_mem_toOption hm
  obtain ⟨-, ⟨items, front, hyields, hyields', hlongest, hreplaces⟩, hattempt⟩ :=
    sticky_walks_front h rfl hengine
  have hall : items = (m.walk subject).take 4 :=
    hyields.unique (Walk.yields_take (by rw [hitems]; decide))
  have hall' : front = (m.sticky.walk subject).take 3 :=
    hyields'.unique (Walk.yields_take (by rw [hfront]; decide))
  refine ⟨m, h, hengine, ⟨items, front, hyields, hyields', ?_, ?_, hlongest, hreplaced,
    (hreplaces rfl template _).mp hreplaced⟩, ?_, ?_⟩
  · rw [hall, hitems]
  · rw [hall', hfront]
  · rcases hattempt 1 with
      ⟨whole, groups, hstart, -, hanswer⟩ | ⟨-, -, -, hanswer⟩ | ⟨-, hanswer, -⟩
    · exact ⟨_, hanswer, hstart⟩
    · rw [hanswer] at hfound
      cases hfound
    · rw [hanswer] at hfound
      cases hfound
  · rcases hattempt 3 with ⟨whole, groups, -, -, hanswer⟩ | ⟨-, -, -, hanswer⟩ | ⟨-, hmissed⟩
    · rw [hanswer] at hnone
      cases hnone
    · rw [hanswer] at hnone
      cases hnone
    · exact hmissed

end NamedMatcher
end NamedCapture
