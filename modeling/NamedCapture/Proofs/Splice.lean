import NamedCapture.Proofs.Progress
import NamedCapture.Proofs.Template

/-!
# What a replacement leaves alone

A replacement that answers has cut its subject at the ends of matches and put a text in the place of
each match.  The ends are boundaries and stand in order, so all text between the matches is kept as
it was and no character is cut (`Splices`).  Which matches these are depends on the flags only as
far as `Replaces` says.
-/

namespace NamedCapture

namespace Text

variable {t u v : Text} {i j k : Nat}

theorem Between.trans (h : t.Between i j u) (h' : t.Between j k v) : t.Between i k (u ++ v) := by
  obtain ⟨s, r, rfl, rfl, rfl⟩ := h
  obtain ⟨s', r', hcut, hlength, rfl⟩ := h'
  -- Both parts cut the text at `j`, so what stands before the cut is the same.
  rw [← List.append_assoc] at hcut
  obtain ⟨rfl, rfl⟩ := append_inj_of_byteLength hcut hlength.symm
  exact ⟨s, r', by simp, rfl, by rw [List.append_assoc]⟩

end Text

/-- The subject from `last` on, with a text in the place of each span.  The spans stand in order,
and all ends are boundaries. -/
inductive Splices (subject : Text) : Nat → List (Span × Text) → Text → Prop
  | rest {last : Nat} {u : Text} (h : subject.Between last (Text.byteLength subject) u) :
    Splices subject last [] u
  | span {last : Nat} {s : Span} {e u v : Text} {parts : List (Span × Text)}
      (h : subject.Between last s.start u) (hs : s.Within subject)
      (hrest : Splices subject s.stop parts v) :
    Splices subject last ((s, e) :: parts) (u ++ e ++ v)

namespace Splices

variable {subject u v : Text} {last : Nat} {parts : List (Span × Text)}

theorem unique (hu : Splices subject last parts u) (hv : Splices subject last parts v) : u = v := by
  induction hu generalizing v with
  | rest h =>
    cases hv with
    | rest h' => rw [← h.slice_eq, ← h'.slice_eq]
  | span h _ _ ih =>
    cases hv with
    | span h' _ hrest' => rw [ih hrest', ← h.slice_eq, ← h'.slice_eq]

theorem between_of_self (h : Splices subject last parts u)
    (hself : ∀ part ∈ parts, part.2 = Text.slice subject part.1.start part.1.stop) :
    subject.Between last (Text.byteLength subject) u := by
  induction h with
  | rest h => exact h
  | @span last s e u v parts h hs _ ih =>
    obtain ⟨he, hparts⟩ := List.forall_mem_cons.mp hself
    obtain rfl : e = Text.slice subject s.start s.stop := he
    have hspan := Text.between_slice hs.start_le_stop hs.start hs.stop
    exact (h.trans hspan).trans (ih hparts)

theorem eq_self (h : Splices subject 0 parts u)
    (hself : ∀ part ∈ parts, part.2 = Text.slice subject part.1.start part.1.stop) :
    u = subject := by
  have hall := (h.between_of_self hself).slice_eq
  rw [Text.slice_zero] at hall
  have htake := Text.takeBytes_append subject []
  rw [List.append_nil] at htake
  exact hall.symm.trans htake

end Splices

/-- What a function makes of each match, with the place of the match. -/
def partsOf (e : NamedMatch → Text) (ms : List NamedMatch) : List (Span × Text) :=
  ms.map fun f => (f.whole, e f)

theorem splices_weave {subject : Text} {last : Nat} {ms : List NamedMatch} (e : NamedMatch → Text)
    (hlast : Text.isBoundary subject last = true) (hspaced : Spaced last ms)
    (hwithin : ∀ f ∈ ms, f.whole.Within subject) :
    ∃ text, (weave (fun _ f => (e f, ())) subject () last ms).1 = .ok text ∧
      Splices subject last (partsOf e ms) text := by
  induction ms generalizing last with
  | nil =>
    refine ⟨_, rfl, .rest ?_⟩
    rw [← Text.slice_byteLength hlast]
    exact Text.between_slice (Text.le_byteLength_of_isBoundary hlast) hlast
      (Text.isBoundary_byteLength subject)
  | cons f ms ih =>
    obtain ⟨hf, hrest⟩ := List.forall_mem_cons.mp hwithin
    obtain ⟨text, htext, hsplices⟩ := ih hf.stop hspaced.2 hrest
    rw [weave_cons _ _ hspaced.1, htext]
    exact ⟨_, rfl, .span (Text.between_slice hspaced.1 hlast hf.start) hf hsplices⟩

namespace NamedMatcher

open Matcher

variable {m : NamedMatcher} {subject : Text} {ms : List NamedMatch}

/-- The matches that a replacement replaces: with the global flag those of the walk, which has to
end without a failure, and else that of one attempt. -/
def Replaces (m : NamedMatcher) (subject : Text) (ms : List NamedMatch) : Prop :=
  if m.matcher.flags.global then (m.walk subject).Gives ms none
  else ∃ found, (m.exec subject).answer = .ok found ∧ ms = found.toList

theorem targets_eq_ok_iff (hengine : m.matcher.engine.Forward subject) :
    (m.targets subject).answer = .ok ms ↔ m.Replaces subject ms := by
  unfold Replaces
  by_cases hglobal : m.matcher.flags.global = true
  · rw [if_pos hglobal]
    constructor
    · intro htargets
      obtain ⟨ms', ending, hgives⟩ := exists_gives hengine
      obtain ⟨fs, rfl, hloop⟩ := loop_of_gives hengine hgives
      rw [(targets_of_loop hglobal hengine.bounded hloop).1] at htargets
      cases ending with
      | none =>
        cases htargets
        exact hgives
      | some e => cases htargets
    · intro hgives
      obtain ⟨fs, rfl, hloop⟩ := loop_of_gives hengine hgives
      exact (targets_of_loop hglobal hengine.bounded hloop).1
  · rw [if_neg hglobal, targets_of_not_global hglobal]
    constructor
    · intro htargets
      cases hexec : (m.exec subject).answer with
      | error e =>
        rw [hexec] at htargets
        cases htargets
      | ok found =>
        rw [hexec] at htargets
        cases htargets
        exact ⟨found, rfl, rfl⟩
    · intro hparts
      obtain ⟨found, hexec, rfl⟩ := hparts
      rw [hexec]
      rfl

theorem Replaces.ordered (hengine : m.matcher.engine.Forward subject)
    (h : m.Replaces subject ms) :
    (∀ f ∈ ms, f.subject = subject ∧ f.whole.Within subject) ∧
      ms.Pairwise fun f g => f.toMatch.Before g.toMatch := by
  have hzero : Text.IsPosition subject 0 := Or.inl (Text.isBoundary_zero subject)
  unfold Replaces at h
  split at h
  · obtain ⟨fs, hloop, rfl⟩ := Walk.gives_iff.mp h
    obtain ⟨hparts, hpairwise⟩ := hloop.ordered hengine hzero
    refine ⟨fun f hf => ?_, List.pairwise_map.mpr hpairwise⟩
    obtain ⟨g, hg, rfl⟩ := List.mem_map.mp hf
    obtain ⟨hsubject, -, hwithin⟩ := hparts g hg
    exact ⟨hsubject, hwithin⟩
  · obtain ⟨found, hexec, rfl⟩ := h
    cases found with
    | none => exact ⟨nofun, .nil⟩
    | some f =>
      refine ⟨fun g hg => ?_, List.pairwise_singleton _ f⟩
      obtain rfl := List.mem_singleton.mp hg
      obtain ⟨p, f, hp, hsearch, rfl⟩ := exists_of_exec hexec
      have hf : m.matcher.Finds subject p f := ⟨Text.le_byteLength_of_isBoundary hp, hsearch⟩
      exact ⟨(searchFrom_eq_found hsearch).1, (within_of_finds hengine hp hf).2⟩

/-- A replacement answers with the subject in which each match it replaces has made way for the
template read for that match, and answers nothing else. -/
theorem replace_eq_ok_iff (hengine : m.matcher.engine.Forward subject) (template text : Text) :
    (m.replace subject template).answer = .ok text ↔
      ∃ ms, m.Replaces subject ms ∧
        Splices subject 0 (partsOf (Template.parse m.table template).expand ms) text := by
  have hwoven : ∀ ms, m.Replaces subject ms → ∃ woven,
      (m.replace subject template).answer = .ok woven ∧
        Splices subject 0 (partsOf (Template.parse m.table template).expand ms) woven := by
    intro ms hms
    obtain ⟨hparts, hpairwise⟩ := hms.ordered hengine
    have hspaced : Spaced 0 ms := spaced_of_pairwise (fun _ _ => Nat.zero_le _) hpairwise
    obtain ⟨woven, hweave, hsplices⟩ := splices_weave (Template.parse m.table template).expand
      (Text.isBoundary_zero subject) hspaced fun f hf => (hparts f hf).2
    have htargets := (targets_eq_ok_iff hengine).mpr hms
    exact ⟨woven, (replaceWith_of_ok _ _ htargets).1.trans hweave, hsplices⟩
  constructor
  · intro hanswer
    cases htargets : (m.targets subject).answer with
    | error e =>
      cases (replaceWith_of_error _ _ htargets).1.symm.trans hanswer
    | ok ms =>
      have hms := (targets_eq_ok_iff hengine).mp htargets
      obtain ⟨woven, hwoven, hsplices⟩ := hwoven ms hms
      cases hwoven.symm.trans hanswer
      exact ⟨ms, hms, hsplices⟩
  · intro hparts
    obtain ⟨ms, hms, hsplices⟩ := hparts
    obtain ⟨woven, hanswer, hsplices'⟩ := hwoven ms hms
    rw [hanswer, hsplices'.unique hsplices]

theorem eq_subject_of_replace_whole (hengine : m.matcher.engine.Forward subject) {text : Text}
    (h : (m.replace subject ['$', '&']).answer = .ok text) : text = subject := by
  obtain ⟨ms, hms, hsplices⟩ := (replace_eq_ok_iff hengine _ _).mp h
  refine hsplices.eq_self fun part hpart => ?_
  obtain ⟨f, hf, rfl⟩ := List.mem_map.mp hpart
  have hsubject : f.subject = subject := ((hms.ordered hengine).1 f hf).1
  have hwhole : (Template.parse m.table ['$', '&']).expand f = f.text :=
    (Template.expand_of_refers (.whole [])).trans (List.append_nil _)
  show (Template.parse m.table ['$', '&']).expand f = _
  rw [hwhole, ← hsubject]
  rfl

/-- A replacement that answers gives the subject back with each match it replaces cut out, and put
in its place what the template comes to for that match.  It replaces the match of one attempt, or
all matches of the walk when it is global; where there are such matches it answers.  They are parts
of the subject, one behind the other, and so is all that stands between them.  So the template `$&`
changes nothing, and where nothing matches nothing is changed. -/
theorem replace_touches_matches (hengine : m.matcher.engine.Forward subject) (template : Text) :
    (∀ text, (m.replace subject template).answer = .ok text ↔
      ∃ ms, m.Replaces subject ms ∧
        Splices subject 0 (partsOf (Template.parse m.table template).expand ms) text) ∧
    (∀ ms, m.Replaces subject ms →
      (∀ f ∈ ms, f.whole.Within subject ∧ (f.Sound →
        Template.Expands m.table f template ((Template.parse m.table template).expand f))) ∧
      ms.Pairwise fun f g => f.toMatch.Before g.toMatch) ∧
    (∀ text, (m.replace subject ['$', '&']).answer = .ok text → text = subject) ∧
    (m.Replaces subject [] → (m.replace subject template).answer = .ok subject) := by
  refine ⟨replace_eq_ok_iff hengine template, fun ms hms => ?_,
    fun text => eq_subject_of_replace_whole hengine, fun hnone => ?_⟩
  · obtain ⟨hparts, hpairwise⟩ := hms.ordered hengine
    exact ⟨fun f hf => ⟨(hparts f hf).2, fun hsound => Template.expands_expand hsound template⟩,
      hpairwise⟩
  · have hall : subject.Between 0 (Text.byteLength subject) subject := ⟨[], [], by simp⟩
    exact (replace_eq_ok_iff hengine template subject).mpr ⟨[], hnone, .rest hall⟩

/-- `(?<n>é*)` matches in `aéb` at the front, around `é`, right behind it and at the end. -/
theorem replace_touches_matches_adjacent :
    let subject := ['a', 'é', 'b']
    let template := ['<', '$', '<', 'n', '>', '>']
    ∃ m ∈ (compile (Regex.dialect 1000) ['(', '?', '<', 'n', '>', 'é', '*', ')']
        { global := true }).toOption,
      m.matcher.engine.Forward subject ∧
      (∃ ms, m.Replaces subject ms ∧
        Splices subject 0 (partsOf (Template.parse m.table template).expand ms)
          ['<', '>', 'a', '<', 'é', '>', '<', '>', 'b', '<', '>'] ∧
        ms.Pairwise fun f g => f.toMatch.Before g.toMatch) ∧
      ∀ text, (m.replace subject ['$', '&']).answer = .ok text → text = subject := by
  intro subject template
  obtain ⟨m, hm, hengine, hanswer⟩ :
      ∃ m ∈ (compile (Regex.dialect 1000) ['(', '?', '<', 'n', '>', 'é', '*', ')']
          { global := true }).toOption,
        m.matcher.engine.Forward subject ∧
          (m.replace subject template).answer =
            .ok ['<', '>', 'a', '<', 'é', '>', '<', '>', 'b', '<', '>'] := by
    decide +kernel
  obtain ⟨hiff, hordered, hwhole, -⟩ := replace_touches_matches hengine template
  obtain ⟨ms, hms, hsplices⟩ := (hiff _).mp hanswer
  exact ⟨m, hm, hengine, ⟨ms, hms, hsplices, (hordered ms hms).2⟩, hwhole⟩

end NamedMatcher
end NamedCapture
