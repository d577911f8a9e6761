import NamedCapture.Proofs.Numbering.Class

/-!
# An engine and the scan side by side

`Aligned` says that an engine has come as far in a pattern as the scan, with the same view of
blanks.  `Advances` is what each reader of the engine is shown to do: from an aligned state it comes
to an aligned state, and the groups it has numbered on the way are those that the lexemes passed
open.
-/

namespace NamedCapture.Annotated

open Regex (Reading isInert skipBlanks)

/-- What is left of the pattern to an engine is the text of what is left of the lexemes. -/
def Aligned (annotated : Bool) (byFlags scopes : List Bool) (r : Reading) (ls : List Lexeme) :
    Prop :=
  shownAll annotated ls = r.rest ∧
    Legible annotated byFlags ⟨.pattern, r.modes.verbose, scopes⟩ ls

/-- An engine has numbered the groups that lexemes open, one after another, and has bound their
names if it was given them. -/
structure Counts (annotated : Bool) (r next : Reading) (opened : List (Option Text))
    (groups : List Nat) : Prop where
  count : next.groupCount = r.groupCount + opened.length
  groups_eq : groups = List.range' (r.groupCount + 1) opened.length
  older : ∀ b ∈ r.names, b ∈ next.names
  named : annotated = true → ∀ {i name}, opened[i]? = some (some name) →
    (name, r.groupCount + i + 1) ∈ next.names

/-- An engine has gone on to a place where the scan comes by too. -/
def Passes (annotated : Bool) (byFlags scopes : List Bool) (r : Reading) (groups : List Nat)
    (next : Reading) (ls : List Lexeme) : Prop :=
  ∃ ks ls', ls = ks ++ ls' ∧ Aligned annotated byFlags scopes next ls' ∧
    Counts annotated r next (groupNames ks) groups

/-- Wherever an engine and the scan stand at the same place, an engine goes on to a place where the
scan comes by too. -/
def Advances (annotated : Bool) (byFlags scopes : List Bool) (r : Reading) (groups : List Nat)
    (next : Reading) : Prop :=
  ∀ ls, Aligned annotated byFlags scopes r ls → Passes annotated byFlags scopes r groups next ls

variable {annotated : Bool} {byFlags scopes : List Bool} {r mid next : Reading}

namespace Counts

theorem of_eq (hcount : next.groupCount = r.groupCount) (hnames : next.names = r.names) :
    Counts annotated r next [] [] := by
  refine ⟨hcount, rfl, fun b hb => ?_, fun _ {i name} h => ?_⟩
  · rw [hnames]
    exact hb
  · cases h

theorem trans {opened opened' : List (Option Text)} {groups groups' : List Nat}
    (h : Counts annotated r mid opened groups) (h' : Counts annotated mid next opened' groups') :
    Counts annotated r next (opened ++ opened') (groups ++ groups') := by
  refine ⟨?_, ?_, fun b hb => h'.older b (h.older b hb), fun hannotated {i name} hi => ?_⟩
  · rw [h'.count, h.count, List.length_append, Nat.add_assoc]
  · rw [h.groups_eq, h'.groups_eq, h.count, List.length_append, Nat.add_right_comm]
    exact List.range'_append_1
  · by_cases hlt : i < opened.length
    · rw [List.getElem?_append_left hlt] at hi
      exact h'.older _ (h.named hannotated hi)
    · rw [List.getElem?_append_right (by omega)] at hi
      have hmem := h'.named hannotated hi
      rw [h.count] at hmem
      have hindex : r.groupCount + opened.length + (i - opened.length) + 1 =
          r.groupCount + i + 1 := by omega
      rw [hindex] at hmem
      exact hmem

theorem eq_nil {opened : List (Option Text)} (h : Counts annotated r next opened []) :
    opened = [] := by
  have hlength := congrArg List.length h.groups_eq
  rw [List.length_range'] at hlength
  exact List.length_eq_zero_iff.mp hlength.symm

theorem of_openGroup {name : Option Text} {rest : Text} {given : Option Text}
    (hname : annotated = true → ∀ n, given = some n → name = some n) :
    Counts annotated r (r.openGroup name rest) [given] [r.groupCount + 1] := by
  refine ⟨rfl, rfl, fun b hb => ?_, fun hannotated {i n} hi => ?_⟩
  · cases name with
    | none => exact hb
    | some n => exact List.mem_cons_of_mem _ hb
  · cases i with
    | zero =>
      have hgiven := hname hannotated n (Option.some.inj hi)
      subst hgiven
      exact List.mem_cons_self
    | succ i => cases hi

end Counts

section

variable {groups groups' : List Nat} {ks ls : List Lexeme}

theorem Passes.append (hks : Counts annotated r mid (groupNames ks) groups)
    (h : Passes annotated byFlags scopes mid groups' next ls) :
    Passes annotated byFlags scopes r (groups ++ groups') next (ks ++ ls) := by
  obtain ⟨ks', ls', rfl, haligned, hcounts⟩ := h
  refine ⟨ks ++ ks', ls', (List.append_assoc ks ks' ls').symm, haligned, ?_⟩
  rw [groupNames_append]
  exact hks.trans hcounts

theorem Passes.after (h : Counts annotated r mid [] [])
    (hpasses : Passes annotated byFlags scopes mid groups next ls) :
    Passes annotated byFlags scopes r groups next ls := by
  have hnone : Counts annotated r mid (groupNames []) [] := h
  exact Passes.append hnone hpasses

namespace Advances

theorem refl (r : Reading) : Advances annotated byFlags scopes r [] r :=
  fun ls h => ⟨[], ls, rfl, h, .of_eq rfl rfl⟩

theorem trans (h : Advances annotated byFlags scopes r groups mid)
    (h' : Advances annotated byFlags scopes mid groups' next) :
    Advances annotated byFlags scopes r (groups ++ groups') next := by
  intro ls haligned
  obtain ⟨ks, ls', rfl, hmid, hcounts⟩ := h ls haligned
  exact Passes.append hcounts (h' ls' hmid)

theorem of_leads
    (h : Leads annotated byFlags ⟨.pattern, r.modes.verbose, scopes⟩ r.rest next.rest)
    (hverbose : next.modes.verbose = r.modes.verbose) (hcount : next.groupCount = r.groupCount)
    (hnames : next.names = r.names) : Advances annotated byFlags scopes r [] next := by
  intro ls hparts
  obtain ⟨ht, hlegible⟩ := hparts
  obtain ⟨ks, ls', rfl, hks, ht', hlegible'⟩ := h ls ht hlegible
  refine ⟨ks, ls', rfl, ⟨ht', ?_⟩, ?_⟩
  · rw [hverbose]
    exact hlegible'
  · rw [hks]
    exact .of_eq hcount hnames

theorem quiet (h : Advances annotated byFlags scopes r groups mid)
    (h' : Advances annotated byFlags scopes mid [] next) :
    Advances annotated byFlags scopes r groups next := by
  have htrans := h.trans h'
  rw [List.append_nil] at htrans
  exact htrans

end Advances

end

/-! ## Blanks and closing parentheses -/

theorem skip_spec (h : r.skip = some next) :
    skipBlanks r.modes.verbose .none r.rest = some next.rest ∧
      next = { r with rest := next.rest } := by
  obtain ⟨rest, hskip, rfl⟩ := Option.map_eq_some_iff.mp h
  exact ⟨hskip, rfl⟩

theorem Advances.of_skip (h : r.skip = some next) :
    Advances annotated byFlags scopes r [] next := by
  obtain ⟨hskip, heq⟩ := skip_spec h
  refine .of_leads (leads_of_skipBlanks rfl hskip) ?_ ?_ ?_
  all_goals rw [heq]

theorem skip_eq_self {c : Char} {t : Text} (hrest : r.rest = c :: t)
    (hc : c ∉ ['(', '#', ' ', '\n', '\r', '\t']) : r.skip = some r := by
  have hne : ∀ s, c :: t ≠ '(' :: '?' :: '#' :: s := by
    intro s heq
    rw [(List.cons.inj heq).1] at hc
    exact hc (by decide)
  have hskip : skipBlanks r.modes.verbose .none r.rest = some r.rest := by
    simp only [List.mem_cons, List.not_mem_nil, or_false, not_or] at hc
    rw [hrest, skipBlanks_cons hne]
    simp [hc]
  rw [Reading.skip, hskip]
  rfl

theorem Aligned.of_close {ls : List Lexeme} {t : Text}
    (h : Aligned annotated byFlags scopes r ls) (hrest : r.rest = ')' :: t) :
    ∃ ls', ls = .close :: ls' ∧ shownAll annotated ls' = t ∧
      (byFlags.head? != some false || scopes.head? == some r.modes.verbose) = true ∧
      Legible annotated byFlags.tail (Context.leave ⟨.pattern, r.modes.verbose, scopes⟩) ls' := by
  obtain ⟨ht, hlegible⟩ := h
  rw [hrest] at ht
  obtain ⟨l, ls', rfl, hfirst, htail⟩ := exists_first ht
  cases l with
  | plain c =>
    have hadmits := hlegible.1
    rw [show c = ')' from hfirst] at hadmits
    cases hadmits
  | close => exact ⟨ls', rfl, by simpa using htail, hlegible.2.2.1, hlegible.tail⟩
  | _ => cases hfirst

theorem Aligned.of_closeGroup {ls : List Lexeme} {outer : Bool} {t : Text}
    (h : Aligned annotated (false :: byFlags) (outer :: scopes) r ls) (hrest : r.rest = ')' :: t) :
    ∃ ls', ls = .close :: ls' ∧
      Aligned annotated byFlags scopes { r with rest := t } ls' := by
  obtain ⟨ls', rfl, ht, hclear, hlegible⟩ := h.of_close hrest
  have houter : outer = r.modes.verbose := by simpa using hclear
  rw [houter] at hlegible
  exact ⟨ls', rfl, ht, hlegible⟩

theorem Aligned.of_closeFlags {ls : List Lexeme} {modes : Regex.Modes} {t : Text}
    (h : Aligned annotated (true :: byFlags) (modes.verbose :: scopes) r ls)
    (hrest : r.rest = ')' :: t) :
    ∃ ls', ls = .close :: ls' ∧
      Aligned annotated byFlags scopes { r with rest := t, modes } ls' := by
  obtain ⟨ls', rfl, ht, -, hlegible⟩ := h.of_close hrest
  exact ⟨ls', rfl, ht, hlegible⟩

theorem Aligned.of_readClose {ls : List Lexeme} {outer : Bool}
    (h : Aligned annotated (false :: byFlags) (outer :: scopes) r ls)
    (hclose : r.close = some next) : Passes annotated byFlags scopes r [] next ls := by
  obtain ⟨r', hskip, hclose⟩ := Option.bind_eq_some_iff.mp hclose
  obtain ⟨ks, ls', rfl, haligned, hcounts⟩ := Advances.of_skip hskip ls h
  split at hclose
  · rename_i rest hrest
    cases hclose
    obtain ⟨ls'', rfl, haligned'⟩ := haligned.of_closeGroup hrest
    refine ⟨ks ++ [.close], ls'', by simp, haligned', ?_⟩
    rw [groupNames_append]
    exact hcounts.trans (.of_eq rfl rfl)
  · cases hclose

/-! ## Flags -/

def flagEnd (opens : Bool) (r : Reading) : Regex.Reading.FlagEnd :=
  if opens then .opened r else .closed r

theorem readFlags_end {t : Text} {opens negated : Bool} {fuel read : Nat}
    {finish : Regex.Reading.FlagEnd} (hrest : r.rest = (if opens then ':' else ')') :: t)
    (h : Regex.Reading.readFlags fuel read negated r = some finish) :
    finish = flagEnd opens { r with rest := t } := by
  cases fuel with
  | zero => cases h
  | succ fuel =>
    have hc : (if opens then ':' else ')') ∉ ['(', '#', ' ', '\n', '\r', '\t'] := by
      cases opens <;> decide
    unfold Regex.Reading.readFlags at h
    rw [skip_eq_self hrest hc] at h
    simp only [Option.bind_eq_bind, Option.bind_some, hrest] at h
    cases opens with
    | true =>
      simp only [if_true] at h
      split at h
      · cases h
      · cases h
        rfl
    | false =>
      simp only [Bool.false_eq_true, if_false] at h
      split at h
      · cases h
      · cases h
        rfl

theorem not_mem_of_isFlagChar {c : Char} (hflag : isFlagChar c = true) :
    c ∉ ['(', '#', ' ', '\n', '\r', '\t'] := by
  intro hmem
  have hnot : ['(', '#', ' ', '\n', '\r', '\t'].all (!isFlagChar ·) = true := by decide
  have hc := List.all_eq_true.mp hnot c hmem
  rw [hflag] at hc
  cases hc

/-- Letters of flags are read one by one, and the last `x` decides whether blanks are free. -/
theorem readFlags_spec {letters t : Text} {opens negated : Bool} {fuel read : Nat}
    {finish : Regex.Reading.FlagEnd} (hletters : letters.all isFlagChar = true)
    (hrest : r.rest = letters ++ (if opens then ':' else ')') :: t)
    (h : Regex.Reading.readFlags fuel read negated r = some finish) :
    ∃ modes : Regex.Modes, modes.verbose = (verboseOf negated letters).getD r.modes.verbose ∧
      finish = flagEnd opens { r with rest := t, modes } := by
  induction letters generalizing fuel read negated r with
  | nil => exact ⟨r.modes, rfl, readFlags_end hrest h⟩
  | cons c letters ih =>
    cases fuel with
    | zero => cases h
    | succ fuel =>
      rw [List.all_cons, Bool.and_eq_true] at hletters
      unfold Regex.Reading.readFlags at h
      rw [List.cons_append] at hrest
      rw [skip_eq_self hrest (not_mem_of_isFlagChar hletters.1)] at h
      simp only [Option.bind_eq_bind, Option.bind_some, hrest] at h
      -- whatever the letter says, the last `x` behind it says more
      have hnext : ∀ {read : Nat} {negated' : Bool} {modes : Regex.Modes},
          Regex.Reading.readFlags fuel read negated'
            { r with rest := letters ++ (if opens then ':' else ')') :: t, modes } = some finish →
          (verboseOf negated (c :: letters)).getD r.modes.verbose =
            (verboseOf negated' letters).getD modes.verbose →
          ∃ modes' : Regex.Modes,
            modes'.verbose = (verboseOf negated (c :: letters)).getD r.modes.verbose ∧
            finish = flagEnd opens { r with rest := t, modes := modes' } := by
        intro read negated' modes hread hverbose
        obtain ⟨modes', hmodes, rfl⟩ := ih hletters.2 rfl hread
        exact ⟨modes', hmodes.trans hverbose.symm, rfl⟩
      split at h
      · exact hnext h rfl
      · exact hnext h rfl
      · exact hnext h rfl
      · exact hnext h rfl
      · refine hnext h ?_
        show ((verboseOf negated letters).or (some !negated)).getD r.modes.verbose = _
        cases verboseOf negated letters <;> rfl
      · split at h
        · cases h
        · exact hnext h rfl
      · split at h
        · cases h
        · exact hnext h rfl
      · exact absurd hletters.1 (by decide)
      · exact absurd hletters.1 (by decide)
      · cases h

end NamedCapture.Annotated
