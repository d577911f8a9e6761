import NamedCapture.Proofs.Annotated.Lookahead
import NamedCapture.Proofs.Annotated.Removal
import NamedCapture.Proofs.Group
import NamedCapture.Proofs.Session
import NamedCapture.Proofs.Template

/-!
# Looking names up

A name is numbered by the scan, bound in the table, read off the captures of a match and written in
a template, and all of them mean the same group: the one that the last annotation with the name
opens (`lastNamed_iff`).  Every match that is given out, wherever, has been read with the table of
its matcher (`exists_of_produces`), so its names are those of the table and each of them is what its
group captured (`readsNames_ofMatch`).
-/

namespace NamedCapture

def Outcome.match? (t : Text) : Outcome → Option Match
  | .found whole groups => some ⟨t, whole, groups⟩
  | _ => none

namespace Engine

/-- The captures of what is found in the text from a boundary are parts of the text. -/
def Sound (e : Engine) (t : Text) : Prop :=
  ∀ i, Text.isBoundary t i = true → ∀ f ∈ (e.search t i).match? t, f.Sound

instance {e : Engine} {t : Text} : Decidable (e.Sound t) :=
  decidable_of_iff' _ forall_boundary_iff

theorem Sound.stopsAtBoundary {e : Engine} {t : Text} (h : e.Sound t) : e.StopsAtBoundary t := by
  intro i hi whole hwhole
  cases hsearch : e.search t i with
  | absent =>
    rw [hsearch] at hwhole
    cases hwhole
  | gaveUp =>
    rw [hsearch] at hwhole
    cases hwhole
  | found span groups =>
    rw [hsearch] at hwhole
    cases hwhole
    exact (h i hi ⟨t, whole, groups⟩ (by rw [hsearch]; rfl)).whole.stop

end Engine

/-! ## The last annotation -/

namespace Annotated

/-- The last annotation with a name opens the group of this index. -/
def LastNamed (ls : List Lexeme) (name : Text) (index : Nat) : Prop :=
  ∃ before behind, ls = before ++ .named name :: behind ∧ .named name ∉ behind ∧
    index = before.countP (·.group?.isSome) + 1

theorem length_openings (offset : Nat) (ls : List Lexeme) :
    (openings offset ls).length = ls.countP (·.group?.isSome) := by
  induction ls generalizing offset with
  | nil => rfl
  | cons l ls ih =>
    cases hl : l.group? with
    | none => rw [openings_cons_none hl, ih, List.countP_cons_of_neg (by simp [hl])]
    | some name =>
      rw [openings_cons_some hl, List.length_cons, ih, List.countP_cons_of_pos (by simp [hl])]

theorem named_mem_of_opening {offset : Nat} {ls : List Lexeme} {o : GroupTable.Opening}
    {name : Text} (ho : o ∈ openings offset ls) (hname : o.name = some name) :
    .named name ∈ ls := by
  obtain ⟨k, hk⟩ := List.getElem?_of_mem ho
  obtain ⟨before, l, behind, rfl, hgroup, -⟩ := exists_lexeme hk
  rw [hname] at hgroup
  have hl : l = .named name := by
    cases l with
    | named other =>
      cases hgroup
      rfl
    | _ => cases hgroup
  rw [hl]
  exact List.mem_append_right _ List.mem_cons_self

theorem indexOf?_of_lastNamed {offset : Nat} {ls : List Lexeme} {name : Text} {index : Nat}
    (h : LastNamed ls name index) :
    (GroupTable.ofOpenings (openings offset ls)).indexOf? name = some index := by
  obtain ⟨before, behind, rfl, hlast, rfl⟩ := h
  have hgroup : (Lexeme.named name).group? = some (some name) := rfl
  rw [openings_append, openings_cons_some hgroup, GroupTable.ofOpenings_append]
  refine (GroupTable.indexOf?_registerAll_of_forall_ne fun o ho hname =>
    hlast (named_mem_of_opening ho hname)).trans ?_
  rw [GroupTable.indexOf?_register, if_pos rfl, GroupTable.count_ofOpenings, length_openings]

theorem lastNamed_iff {offset : Nat} {ls : List Lexeme} {name : Text} {index : Nat} :
    (GroupTable.ofOpenings (openings offset ls)).indexOf? name = some index ↔
      LastNamed ls name index := by
  refine ⟨fun h => ?_, indexOf?_of_lastNamed⟩
  have hmem : .named name ∈ ls := by
    refine Classical.byContradiction fun hnot => ?_
    have hnone : (GroupTable.ofOpenings (openings offset ls)).indexOf? name = none :=
      GroupTable.indexOf?_registerAll_of_forall_ne fun o ho hname =>
        hnot (named_mem_of_opening ho hname)
    cases hnone.symm.trans h
  -- the last one is the first from the end
  obtain ⟨behind, before, hsplit, hlast⟩ := List.eq_append_cons_of_mem (List.mem_reverse.mpr hmem)
  have hls : ls = before.reverse ++ .named name :: behind.reverse := by
    have hback := congrArg List.reverse hsplit
    simpa using hback
  have hnamed : LastNamed ls name (before.reverse.countP (·.group?.isSome) + 1) :=
    ⟨_, _, hls, fun hbehind => hlast (List.mem_reverse.mp hbehind), rfl⟩
  have hindex : (GroupTable.ofOpenings (openings offset ls)).indexOf? name = some _ :=
    indexOf?_of_lastNamed hnamed
  obtain rfl := Option.some.inj (hindex.symm.trans h)
  exact hnamed

theorem isName_of_run {ctx last : Context} {t s : Text} {ls : List Lexeme}
    (h : Run ctx t ls last s) {name : Text} (hname : .named name ∈ ls) : IsName name := by
  induction h with
  | done => cases hname
  | @step ctx next last c rest s t l ls hread hs _ ih =>
    rcases List.mem_cons.mp hname with heq | hrest
    · subst heq
      exact (read_named_spec hread hs).2.2
    · exact ih hrest

end Annotated

/-! ## What a match has for a name -/

namespace NamedMatch

/-- What a name is worth in a match: nothing when no group bears it, when the engine gives no
capture of its number, or when that capture is unset, and else the part of the subject that was
captured. -/
inductive Captured (table : GroupTable) (m : Match) (name : Text) : Option Text → Prop
  | unknown (h : table.indexOf? name = none) : Captured table m name none
  | missing {i : Nat} (h : table.indexOf? name = some i) (hi : m.groups.length < i) :
    Captured table m name none
  | unset {i : Nat} (h : table.indexOf? name = some i) (hi : m.captures[i]? = some none) :
    Captured table m name none
  | set {i : Nat} {s : Span} {u : Text} (h : table.indexOf? name = some i)
      (hi : m.captures[i]? = some (some s)) (hu : m.subject.Between s.start s.stop u) :
    Captured table m name (some u)

/-- All ways to ask a match for a name of a table give the same. -/
structure ReadsNames (table : GroupTable) (found : NamedMatch) : Prop where
  named : found.named = table.names.map fun name => (name, found.group? name)
  group? : ∀ name, found.group? name = (table.indexOf? name).bind found.get?
  captured : ∀ name, Captured table found.toMatch name (found.group? name)
  template : ∀ name k, table.indexOf? name = some k → k ≤ 99 →
    (Template.parse table ('$' :: '<' :: (name ++ ['>']))).expand found =
      (Template.parse table ['$', (k / 10).digitChar, (k % 10).digitChar]).expand found
  template_unknown : table.hasNames = true → ∀ name, '>' ∉ name → table.indexOf? name = none →
    (Template.parse table ('$' :: '<' :: (name ++ ['>']))).expand found = []

variable {table : GroupTable} {f : Match}

theorem named_ofMatch (h : table.bindings.Ascending) :
    (ofMatch table f).named =
      table.names.map fun name => (name, (ofMatch table f).group? name) := by
  rw [GroupTable.names, List.map_map]
  refine List.map_congr_left fun b hb => ?_
  obtain ⟨name, index⟩ := b
  have hindex : table.indexOf? name = some index := h.indexOf?_of_mem hb
  show (name, f.get? index) = (name, (ofMatch table f).group? name)
  rw [group?_ofMatch, hindex]
  rfl

theorem captured_ofMatch (hf : f.Sound) (name : Text) :
    Captured table f name ((ofMatch table f).group? name) := by
  rw [group?_ofMatch]
  cases hindex : table.indexOf? name with
  | none => exact .unknown hindex
  | some i =>
    rw [Option.bind_some, Match.get?]
    cases hcapture : f.captures[i]? with
    | none =>
      have hspan : f.span? i = none := by rw [Match.span?, hcapture]; rfl
      have hlength : f.captures.length ≤ i := List.getElem?_eq_none_iff.mp hcapture
      rw [hspan]
      exact .missing hindex hlength
    | some c =>
      have hspan : f.span? i = c := by rw [Match.span?, hcapture]; rfl
      rw [hspan]
      cases c with
      | none => exact .unset hindex hcapture
      | some s =>
        obtain ⟨hle, hstart, hstop⟩ := hf.of_span? hspan
        exact .set hindex hcapture (Text.between_slice hle hstart hstop)

theorem readsNames_ofMatch (hcoherent : table.Coherent) (hascending : table.bindings.Ascending)
    (hnames : ∀ name i, table.indexOf? name = some i → IsName name) (hf : f.Sound) :
    ReadsNames table (ofMatch table f) where
  named := named_ofMatch hascending
  group? := group?_ofMatch table f
  captured := captured_ofMatch hf
  template name k hk hle := by
    have hgt : '>' ∉ name := fun hmem => by
      have hchar := (hnames name k hk).2 _ hmem
      rw [not_isNameChar_gt] at hchar
      cases hchar
    rw [Template.expand_named (GroupTable.hasNames_of_indexOf? hk) hgt,
      Template.expand_twoDigits (hcoherent.pos_and_le hk) hle, group?_ofMatch, hk]
    rfl
  template_unknown htable name hgt hunknown := by
    rw [Template.expand_named htable hgt, group?_ofMatch, hunknown]
    rfl

end NamedMatch

/-! ## The matches that are given out -/

namespace NamedMatcher

open Matcher

variable {m : NamedMatcher} {subject : Text} {found : NamedMatch}

/-- The replacing function, keeping also the matches that it is given. -/
def logging {σ : Type} (replacing : σ → NamedMatch → Text × σ) :
    σ × List NamedMatch → NamedMatch → Text × (σ × List NamedMatch) :=
  fun state found =>
    let (text, after) := replacing state.1 found
    (text, (after, state.2 ++ [found]))

/-- The matches that come out of a matcher: that of an attempt, those of a walk, and those that a
replacing function is given. -/
inductive Produces (m : NamedMatcher) (subject : Text) (found : NamedMatch) : Prop
  | exec (h : (m.exec subject).answer = .ok (some found))
  | walk {n : Nat} (h : (m.walk subject).item? n = some (.ok found))
  | replaceWith {σ : Type} (replacing : σ → NamedMatch → Text × σ) (state : σ)
      (h : found ∈ (m.replaceWith subject (logging replacing) (state, [])).state.2)

theorem weave_logging {σ : Type} (replacing : σ → NamedMatch → Text × σ) (state : σ)
    (seen : List NamedMatch) (last : Nat) (ms : List NamedMatch) :
    ∀ found ∈ (weave (logging replacing) subject (state, seen) last ms).2.2,
      found ∈ seen ++ ms := by
  induction ms generalizing state seen last with
  | nil => exact fun found hfound => List.mem_append_left _ hfound
  | cons m rest ih =>
    intro found hfound
    by_cases hle : last ≤ m.whole.start
    · rw [weave_cons _ _ hle] at hfound
      have hmem := ih _ _ _ found hfound
      rwa [List.append_assoc] at hmem
    · rw [weave, if_pos (Nat.not_le.mp hle)] at hfound
      exact List.mem_append_left _ hfound

theorem exec_of_mem_gather {fuel : Nat} {ms : List NamedMatch}
    (h : (gather subject fuel m).answer = .ok ms) (hfound : found ∈ ms) :
    ∃ cursor, ((m.setCursor cursor).exec subject).answer = .ok (some found) := by
  -- each turn starts from the matcher that the one before has left
  induction fuel generalizing m ms with
  | zero => cases h
  | succ fuel ih =>
    rw [gather] at h
    cases hexec : (m.exec subject).answer with
    | error e =>
      rw [hexec] at h
      cases h
    | ok answer =>
      rw [hexec] at h
      cases answer with
      | none =>
        cases h
        cases hfound
      | some first =>
        obtain ⟨cursor, hnext⟩ := m.gather_next subject first
        dsimp only at h
        rw [hnext] at h
        cases hrest : (gather subject fuel (m.setCursor cursor)).answer with
        | error e =>
          rw [hrest] at h
          cases h
        | ok rest =>
          rw [hrest] at h
          cases h
          rcases List.mem_cons.mp hfound with rfl | hmem
          · exact ⟨m.matcher.cursor, hexec⟩
          · exact ih (m := m.setCursor cursor) hrest hmem

theorem exec_of_mem_targets {ms : List NamedMatch} (h : (m.targets subject).answer = .ok ms)
    (hfound : found ∈ ms) :
    ∃ cursor, ((m.setCursor cursor).exec subject).answer = .ok (some found) := by
  by_cases hglobal : m.matcher.flags.global = true
  · rw [targets, if_pos hglobal] at h
    exact exec_of_mem_gather (m := m.setCursor 0) h hfound
  · rw [targets_of_not_global hglobal] at h
    cases hexec : (m.exec subject).answer with
    | error e =>
      rw [hexec] at h
      cases h
    | ok answer =>
      rw [hexec] at h
      cases h
      exact ⟨m.matcher.cursor, hexec.trans (congrArg _ (Option.mem_toList.mp hfound))⟩

theorem exists_of_produces (hstops : m.matcher.engine.StopsAtBoundary subject)
    (h : m.Produces subject found) :
    ∃ p f, Text.isBoundary subject p = true ∧ m.matcher.searchFrom subject p = .ok (some f) ∧
      found = NamedMatch.ofMatch m.table f := by
  cases h with
  | exec h => exact exists_of_exec h
  | walk h =>
    obtain ⟨q, f, hvisits, hf, hfound⟩ := Walk.visits_of_item? h
    have hq := position_of_visits hstops goesOn_resume (Or.inl (Text.isBoundary_zero subject))
      hvisits
    exact ⟨q, f, hq.isBoundary hf.1, hf.2, hfound⟩
  | replaceWith replacing state h =>
    cases htargets : (m.targets subject).answer with
    | error e =>
      rw [(replaceWith_of_error _ _ htargets).2] at h
      cases h
    | ok ms =>
      rw [(replaceWith_of_ok _ _ htargets).2.1] at h
      obtain ⟨cursor, hexec⟩ := exec_of_mem_targets htargets (weave_logging _ _ _ _ _ found h)
      exact exists_of_exec (m := m.setCursor cursor) hexec

/-- Looking names up is coherent.  A name is bound to the group that the last annotation with it
opens, and is there once.  Whatever a compiled matcher has been asked before, a match that comes out
of it has the names of the table and no others, and all ways to ask for one of them come to the
capture of that group, which is a part of the subject, or to nothing where the engine gives no such
capture.  The groups that are given without their match are those of such a match. -/
theorem names_read_alike {dialect : Dialect} {pattern : Text} {flags : Flags}
    (h : compile dialect pattern flags = .ok m) :
    m.table.names.Nodup ∧
      (∀ name i, m.table.indexOf? name = some i ↔
        Annotated.LastNamed (Annotated.scan pattern).lexemes name i) ∧
      ∀ (ops : List Operation) (subject : Text), m.matcher.engine.Sound subject →
        (∀ found, (m.afterAll ops).Produces subject found → found.ReadsNames m.table) ∧
        ∀ groups, ((m.afterAll ops).execGroups subject).answer = .ok (some groups) →
          ∃ found, (m.afterAll ops).Produces subject found ∧ groups = found.named := by
  obtain ⟨hstrip, -⟩ := compile_eq_ok h
  obtain ⟨hfailure, hstripped⟩ := Annotated.strip_eq_ok hstrip
  have htable : m.table = (Annotated.scan pattern).table := congrArg Stripped.groups hstripped
  have hbound : ∀ name i, m.table.indexOf? name = some i ↔
      Annotated.LastNamed (Annotated.scan pattern).lexemes name i := by
    intro name i
    rw [htable]
    exact Annotated.lastNamed_iff
  have hcoherent : m.table.Coherent := htable ▸ GroupTable.coherent_ofOpenings _
  have hascending : m.table.bindings.Ascending := htable ▸ GroupTable.ascending_bindings _
  have hnames : ∀ name i, m.table.indexOf? name = some i → IsName name := by
    intro name i hi
    obtain ⟨before, behind, hlexemes, -⟩ := (hbound name i).mp hi
    obtain ⟨last, hrun⟩ := Annotated.run_of_scan hfailure
    exact Annotated.isName_of_run hrun (by rw [hlexemes]; simp)
  refine ⟨hascending.nodup, hbound, fun ops subject hsound => ?_⟩
  obtain ⟨cursor, hafter⟩ := m.afterAll_eq ops
  rw [hafter]
  refine ⟨fun found hfound => ?_, fun groups hgroups => ?_⟩
  · obtain ⟨p, f, hp, hsearch, rfl⟩ :=
      exists_of_produces (m := m.setCursor cursor) hsound.stopsAtBoundary hfound
    obtain ⟨hsubject, hfound, -⟩ := searchFrom_eq_found hsearch
    have hf : f.Sound := by
      refine hsound p hp f ?_
      rw [show m.matcher.engine.search subject p = _ from hfound, ← hsubject]
      rfl
    exact NamedMatch.readsNames_ofMatch hcoherent hascending hnames hf
  · cases hexec : ((m.setCursor cursor).exec subject).answer with
    | error e =>
      rw [execGroups, hexec] at hgroups
      cases hgroups
    | ok answer =>
      rw [execGroups, hexec] at hgroups
      cases answer with
      | none => cases hgroups
      | some found =>
        cases hgroups
        exact ⟨found, .exec hexec, rfl⟩

/-- `(?<n>a)|(?<n>b)` on `a`, after the cursor has been put behind the end: the name is that of the
second group, which is unset. -/
theorem names_read_alike_twice :
    let found : NamedMatch := ⟨⟨['a'], ⟨0, 1⟩, [some ⟨0, 1⟩, none]⟩, [(['n'], none)]⟩
    ∃ m ∈ (compile (Regex.dialect 1000)
        ['(', '?', '<', 'n', '>', 'a', ')', '|', '(', '?', '<', 'n', '>', 'b', ')'] {}).toOption,
      m.table.indexOf? ['n'] = some 2 ∧
        ((m.afterAll [.setCursor 3]).exec ['a']).answer = .ok (some found) ∧
        found.get? 1 = some ['a'] ∧ found.group? ['n'] = none ∧ found.ReadsNames m.table := by
  intro found
  obtain ⟨m, hm, hsound, hexec⟩ :
      ∃ m ∈ (compile (Regex.dialect 1000)
          ['(', '?', '<', 'n', '>', 'a', ')', '|', '(', '?', '<', 'n', '>', 'b', ')'] {}).toOption,
        m.matcher.engine.Sound ['a'] ∧
          ((m.afterAll [.setCursor 3]).exec ['a']).answer = .ok (some found) := by
    decide +kernel
  obtain ⟨-, hbound, hreads⟩ := names_read_alike (eq_ok_of_mem_toOption hm)
  have hindex : m.table.indexOf? ['n'] = some 2 :=
    (hbound _ _).mpr ⟨[.named ['n'], .plain 'a', .close, .plain '|'], [.plain 'b', .close],
      by decide +kernel, by decide, by decide⟩
  exact ⟨m, hm, hindex, hexec, by decide, by decide,
    (hreads [.setCursor 3] ['a'] hsound).1 found (.exec hexec)⟩

end NamedMatcher
end NamedCapture
