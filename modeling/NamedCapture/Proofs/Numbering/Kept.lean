import Mathlib.Data.List.Nodup
import NamedCapture.Regex.Compile

/-!
# The groups that an automaton keeps

The smart constructors of plain expressions drop nothing that a group stands in but a repetition of
no times.  Taking out the common part of alternatives would drop a group if two alternatives could
have it; groups that are numbered one after another are in one place each.
-/

namespace NamedCapture.Regex

mutual

/-- The groups of an expression, without those that are repeated no times. -/
def keptGroups : Expr → List Nat
  | .group i e => i :: keptGroups e
  | .concat es | .alt es => keptGroupsAll es
  | .rep e _ hi _ => if hi = some 0 then [] else keptGroups e
  | .atomic e | .look _ _ e => keptGroups e
  | .cond test yes no => keptGroups test ++ keptGroups yes ++ keptGroups no
  | _ => []

def keptGroupsAll : List Expr → List Nat
  | [] => []
  | e :: es => keptGroups e ++ keptGroupsAll es

end

mutual

theorem keptGroups_sublist (e : Expr) : (keptGroups e).Sublist (Program.groupsOf e) := by
  cases e with
  | group i e =>
    rw [keptGroups, Program.groupsOf]
    exact (keptGroups_sublist e).cons_cons i
  | concat es =>
    rw [keptGroups, Program.groupsOf]
    exact keptGroupsAll_sublist es
  | alt es =>
    rw [keptGroups, Program.groupsOf]
    exact keptGroupsAll_sublist es
  | rep e lo hi greedy =>
    rw [keptGroups, Program.groupsOf]
    split
    · exact List.nil_sublist _
    · exact keptGroups_sublist e
  | atomic e =>
    rw [keptGroups, Program.groupsOf]
    exact keptGroups_sublist e
  | look behind negative e =>
    rw [keptGroups, Program.groupsOf]
    exact keptGroups_sublist e
  | cond test yes no =>
    rw [keptGroups, Program.groupsOf]
    exact ((keptGroups_sublist test).append (keptGroups_sublist yes)).append
      (keptGroups_sublist no)
  | _ => exact List.nil_sublist _

theorem keptGroupsAll_sublist (es : List Expr) :
    (keptGroupsAll es).Sublist (Program.groupsOfAll es) := by
  cases es with
  | nil => exact List.nil_sublist _
  | cons e es =>
    rw [keptGroupsAll, Program.groupsOfAll]
    exact (keptGroups_sublist e).append (keptGroupsAll_sublist es)

end

namespace Plain

/-! ## Runs of expressions -/

@[simp] theorem allCaptures_append (ps qs : List Plain) :
    allCaptures (ps ++ qs) = allCaptures ps ++ allCaptures qs := by
  induction ps with
  | nil => rfl
  | cons p ps ih => rw [List.cons_append, allCaptures, allCaptures, ih, List.append_assoc]

theorem captures_ofSet (s : CharSet) : captures (ofSet s) = [] := by
  unfold ofSet
  split <;> rfl

theorem allCaptures_flattenConcat (ps : List Plain) :
    allCaptures (flattenConcat ps) = allCaptures ps := by
  induction ps with
  | nil => rfl
  | cons p ps ih =>
    cases p with
    | concat qs => rw [flattenConcat, allCaptures_append, ih, allCaptures, captures]
    | _ => 
      rw [flattenConcat, allCaptures, ih, allCaptures]
      exact nofun

theorem allCaptures_flattenAlt (ps : List Plain) :
    allCaptures (flattenAlt ps) = allCaptures ps := by
  induction ps with
  | nil => rfl
  | cons p ps ih =>
    cases p with
    | alt qs => rw [flattenAlt, allCaptures_append, ih, allCaptures, captures]
    | _ => 
      rw [flattenAlt, allCaptures, ih, allCaptures]
      exact nofun

theorem allCaptures_joinChars (ps : List Plain) : allCaptures (joinChars ps) = allCaptures ps := by
  induction ps with
  | nil => rfl
  | cons p ps ih =>
    unfold joinChars
    rw [allCaptures, ← ih]
    split
    · rfl
    · rename_i heq
      rw [heq]
      rfl
    · rw [allCaptures]

theorem captures_mkConcat (ps : List Plain) : captures (mkConcat ps) = allCaptures ps := by
  have hflat : allCaptures (joinChars (flattenConcat ps)) = allCaptures ps := by
    rw [allCaptures_joinChars, allCaptures_flattenConcat]
  rw [← hflat, mkConcat]
  split
  · rename_i heq
    rw [heq]
    rfl
  · rename_i heq
    rw [heq, allCaptures, allCaptures, List.append_nil]
  · rw [captures]

/-! ## Repetitions -/

def ordered (lo : Nat) (hi : Option Nat) : Bool :=
  lo < countLimit && match hi with
    | none => true
    | some hi => lo ≤ hi && hi < countLimit

theorem captures_mkRep {lo : Nat} {hi : Option Nat} (h : ordered lo hi = true) (p : Plain)
    (greedy : Bool) : captures (mkRep p lo hi greedy) = if hi = some 0 then [] else captures p := by
  have hlo : ∀ n, hi = some n → lo ≤ n := by
    intro n heq
    obtain rfl := heq
    simp only [ordered, Bool.and_eq_true, decide_eq_true_eq] at h
    exact h.2.1
  unfold mkRep
  by_cases hzero : hi = some 0
  · have hzero' := hlo 0 hzero
    rw [if_pos hzero]
    cases hwidth : p.isWidthless with
    | true => simp [hzero, Nat.le_zero.mp hzero', captures]
    | false => simp [hzero, Nat.le_zero.mp hzero', captures]
  · rw [if_neg hzero]
    have hkept : ∀ lo' hi', hi' ≠ some 0 →
        captures (if lo' = 0 ∧ hi' = some 0 then empty
          else if lo' = 1 ∧ hi' = some 1 then p else rep p lo' hi' greedy) = captures p := by
      intro lo' hi' hne
      rw [if_neg fun heq => hne heq.2]
      split
      · rfl
      · rfl
    cases hwidth : p.isWidthless with
    | true =>
      refine hkept (min lo 1) (some (min (hi.getD 1) 1)) ?_
      cases hi with
      | none => simp
      | some n =>
        have hpos : n ≠ 0 := fun heq => hzero (by rw [heq])
        simp only [Option.getD_some, ne_eq, Option.some.injEq]
        omega
    | false => exact hkept lo hi hzero

/-! ## Alternatives -/

mutual

theorem captures_eq_of_same {p q : Plain} (h : same p q = true) : captures p = captures q := by
  cases p with
  | concat ps =>
    cases q with
    | concat qs =>
      rw [captures, captures]
      exact allCaptures_eq_of_allSame h
    | _ => cases h
  | alt ps =>
    cases q with
    | alt qs =>
      rw [captures, captures]
      exact allCaptures_eq_of_allSame h
    | _ => cases h
  | capture i p =>
    cases q with
    | capture j q =>
      rw [same, Bool.and_eq_true, beq_iff_eq] at h
      rw [captures, captures, h.1, captures_eq_of_same h.2]
    | _ => cases h
  | rep p lo hi greedy =>
    cases q with
    | rep q lo' hi' greedy' =>
      simp only [same, Bool.and_eq_true] at h
      rw [captures, captures, captures_eq_of_same h.1.1.1]
    | _ => cases h
  | _ =>
    cases q with
    | empty => rfl
    | chars ds => rfl
    | set t => rfl
    | anchor b => rfl
    | _ => cases h

theorem allCaptures_eq_of_allSame {ps qs : List Plain} (h : allSame ps qs = true) :
    allCaptures ps = allCaptures qs := by
  cases ps with
  | nil =>
    cases qs with
    | nil => rfl
    | cons q qs => cases h
  | cons p ps =>
    cases qs with
    | nil => cases h
    | cons q qs =>
      rw [allSame, Bool.and_eq_true] at h
      rw [allCaptures, allCaptures, captures_eq_of_same h.1, allCaptures_eq_of_allSame h.2]

end

theorem allCaptures_eq_flatten (ps : List Plain) : allCaptures ps = (ps.map captures).flatten := by
  induction ps with
  | nil => rfl
  | cons p ps ih => rw [allCaptures, ih, List.map_cons, List.flatten_cons]

/-- A run of expressions starts with the groups of another, item by item. -/
def StartsLike (front ps : List Plain) : Prop := front.map captures <+: ps.map captures

theorem StartsLike.of_isPrefix {front ps : List Plain} (h : front <+: ps) : StartsLike front ps :=
  h.map captures

theorem startsLike_commonPart (ps qs : List Plain) : StartsLike (commonPart ps qs) qs := by
  induction ps generalizing qs with
  | nil => exact List.nil_prefix
  | cons p ps ih =>
    cases qs with
    | nil => exact List.nil_prefix
    | cons q qs =>
      rw [commonPart]
      split
      · rename_i hsame
        show captures p :: (commonPart ps qs).map captures <+: captures q :: qs.map captures
        rw [captures_eq_of_same hsame]
        exact (List.prefix_cons_inj _).mpr (ih qs)
      · exact List.nil_prefix

theorem commonPart_isPrefix (ps qs : List Plain) : commonPart ps qs <+: ps := by
  induction ps generalizing qs with
  | nil => exact List.prefix_refl []
  | cons p ps ih =>
    cases qs with
    | nil => exact List.nil_prefix
    | cons q qs =>
      rw [commonPart]
      split
      · exact (List.prefix_cons_inj p).mpr (ih qs)
      · exact List.nil_prefix

theorem startsLike_foldl (others : List (List Plain)) (first : List Plain) :
    others.foldl commonPart first <+: first ∧
      ∀ ps ∈ others, StartsLike (others.foldl commonPart first) ps := by
  induction others generalizing first with
  | nil => exact ⟨List.prefix_refl first, nofun⟩
  | cons other others ih =>
    obtain ⟨hstart, hothers⟩ := ih (commonPart first other)
    rw [List.foldl_cons]
    refine ⟨hstart.trans (commonPart_isPrefix first other), fun ps hps => ?_⟩
    rcases List.mem_cons.mp hps with rfl | hmem
    · exact List.IsPrefix.trans (StartsLike.of_isPrefix hstart) (startsLike_commonPart first ps)
    · exact hothers ps hmem

theorem StartsLike.allCaptures_drop {front ps : List Plain} (h : StartsLike front ps) :
    allCaptures ps = allCaptures front ++ allCaptures (ps.drop front.length) := by
  obtain ⟨rest, hrest⟩ := h
  have hdrop : (ps.drop front.length).map captures = rest := by
    rw [List.map_drop, ← hrest, ← List.length_map captures, List.drop_left]
  rw [allCaptures_eq_flatten, allCaptures_eq_flatten, allCaptures_eq_flatten, hdrop, ← hrest,
    List.flatten_append]

theorem allCaptures_of_singles {ps : List Plain} {sets : List CharSet}
    (h : ps.mapM single? = some sets) : allCaptures ps = [] := by
  induction ps generalizing sets with
  | nil => rfl
  | cons p ps ih =>
    rw [List.mapM_cons] at h
    obtain ⟨s, hs, h⟩ := Option.bind_eq_some_iff.mp h
    obtain ⟨sets', hsets, -⟩ := Option.bind_eq_some_iff.mp h
    have hp : captures p = [] := by
      unfold single? at hs
      split at hs
      · rfl
      · rfl
      · cases hs
    rw [allCaptures, hp, ih hsets]
    rfl

theorem eq_map_concat {ps : List Plain} {runs : List (List Plain)}
    (h : ps.mapM concat? = some runs) : ps = runs.map concat := by
  induction ps generalizing runs with
  | nil =>
    cases h
    rfl
  | cons p ps ih =>
    rw [List.mapM_cons] at h
    obtain ⟨run, hrun, h⟩ := Option.bind_eq_some_iff.mp h
    obtain ⟨runs', hruns, heq⟩ := Option.bind_eq_some_iff.mp h
    cases heq
    have hp : p = concat run := by
      unfold concat? at hrun
      split at hrun
      · cases hrun
        rfl
      · cases hrun
    rw [hp, ih hruns, List.map_cons]

theorem allCaptures_map_concat (runs : List (List Plain)) :
    allCaptures (runs.map concat) = runs.flatMap allCaptures := by
  induction runs with
  | nil => rfl
  | cons run runs ih => rw [List.map_cons, allCaptures, ih, captures, List.flatMap_cons]

theorem allCaptures_map_mkConcat (runs : List (List Plain)) (n : Nat) :
    allCaptures (runs.map fun items => mkConcat (items.drop n)) =
      runs.flatMap fun items => allCaptures (items.drop n) := by
  induction runs with
  | nil => rfl
  | cons run runs ih =>
    rw [List.map_cons, allCaptures, ih, captures_mkConcat, List.flatMap_cons]

/-- What several runs start with has no group, if each group is in one place. -/
theorem allCaptures_common {front first second : List Plain} {others : List (List Plain)}
    (hfirst : StartsLike front first) (hsecond : StartsLike front second)
    (h : ((first :: second :: others).flatMap allCaptures).Nodup) : allCaptures front = [] := by
  rw [List.flatMap_cons, List.flatMap_cons, hfirst.allCaptures_drop,
    hsecond.allCaptures_drop] at h
  refine List.eq_nil_iff_forall_not_mem.mpr fun i hi => ?_
  refine List.disjoint_of_nodup_append h ?_ ?_ (a := i)
  · exact List.mem_append_left _ hi
  · exact List.mem_append_left _ (List.mem_append_left _ hi)

theorem allCaptures_drop_common {common : List Plain} {runs : List (List Plain)}
    (hfront : ∀ run ∈ runs, StartsLike common run) (hnone : allCaptures common = []) :
    allCaptures (runs.map fun items => mkConcat (items.drop common.length)) =
      runs.flatMap allCaptures := by
  rw [allCaptures_map_mkConcat, List.flatMap_def, List.flatMap_def]
  refine congrArg List.flatten (List.map_congr_left fun run hrun => ?_)
  rw [(hfront run hrun).allCaptures_drop, hnone, List.nil_append]

theorem startsLike_common (first : List Plain) (others : List (List Plain)) :
    ∀ run ∈ first :: others, StartsLike (others.foldl commonPart first) run := by
  obtain ⟨hstart, hothers⟩ := startsLike_foldl others first
  intro run hrun
  rcases List.mem_cons.mp hrun with rfl | hmem
  · exact .of_isPrefix hstart
  · exact hothers run hmem

/-- Alternatives keep the groups of each, if each group is in one place. -/
theorem captures_mkAltFuel (fuel : Nat) (ps : List Plain) (h : (allCaptures ps).Nodup) :
    captures (mkAltFuel fuel ps) = allCaptures ps := by
  induction fuel generalizing ps with
  | zero => rw [mkAltFuel, captures]
  | succ fuel ih =>
    rw [← allCaptures_flattenAlt] at h ⊢
    unfold mkAltFuel
    split
    · rename_i heq
      rw [heq]
      rfl
    · rename_i p heq
      rw [heq, allCaptures, allCaptures, List.append_nil]
    · rename_i p qs hqs heq
      rw [heq] at h ⊢
      split
      · rename_i sets hsingle
        rw [captures_ofSet, allCaptures_of_singles hsingle]
      · split
        · rw [captures]
        · rw [captures]
        · rename_i first others hconcat
          have hruns := eq_map_concat hconcat
          split
          · rw [captures]
          · have hfront := startsLike_common first others
            generalize others.foldl commonPart first = common at hfront ⊢
            rw [hruns, allCaptures_map_concat] at h ⊢
            -- the common part stands in two runs, so a group in it would be in two places
            have hnone : allCaptures common = [] := by
              cases others with
              | nil => exact absurd (List.cons.inj hruns).2 hqs
              | cons second others =>
                exact allCaptures_common (hfront first (by simp)) (hfront second (by simp)) h
            have hrest := allCaptures_drop_common hfront hnone
            rw [← hrest] at h
            dsimp only
            rw [captures_mkConcat, allCaptures_append, hnone, List.nil_append, allCaptures,
              allCaptures, List.append_nil, ih _ h, hrest]

theorem captures_mkAlt {ps : List Plain} (h : (allCaptures ps).Nodup) :
    captures (mkAlt ps) = allCaptures ps := captures_mkAltFuel _ ps h

mutual

theorem captures_ofExpr? {e : Expr} {p : Plain} (h : ofExpr? e = some p)
    (hnodup : (Program.groupsOf e).Nodup) : captures p = keptGroups e := by
  cases e with
  | empty =>
    cases h
    rfl
  | set s =>
    cases h
    rw [captures_ofSet, keptGroups]
    all_goals exact nofun
  | anchor a =>
    cases h
    rfl
  | concat es =>
    rw [ofExpr?] at h
    obtain ⟨ps, hps, rfl⟩ := Option.map_eq_some_iff.mp h
    rw [captures_mkConcat, keptGroups]
    exact allCaptures_ofExprs? hps hnodup
  | alt es =>
    rw [ofExpr?] at h
    obtain ⟨ps, hps, rfl⟩ := Option.map_eq_some_iff.mp h
    have hkept := allCaptures_ofExprs? hps hnodup
    have hps' : (allCaptures ps).Nodup := by
      rw [hkept]
      exact (keptGroupsAll_sublist es).nodup hnodup
    rw [captures_mkAlt hps', keptGroups, hkept]
  | group i e =>
    rw [ofExpr?] at h
    obtain ⟨q, hq, rfl⟩ := Option.map_eq_some_iff.mp h
    rw [Program.groupsOf] at hnodup
    rw [captures, keptGroups, captures_ofExpr? hq hnodup.of_cons]
  | rep e lo hi greedy =>
    unfold ofExpr? at h
    obtain ⟨q, hq, h⟩ := Option.bind_eq_some_iff.mp h
    have hbounds : (if ordered lo hi then some (mkRep q lo hi greedy) else none) = some p := h
    split at hbounds
    · rename_i hordered
      cases hbounds
      rw [captures_mkRep hordered, keptGroups, captures_ofExpr? hq hnodup]
    · cases hbounds
  | _ => cases h

theorem allCaptures_ofExprs? {es : List Expr} {ps : List Plain} (h : ofExprs? es = some ps)
    (hnodup : (Program.groupsOfAll es).Nodup) : allCaptures ps = keptGroupsAll es := by
  cases es with
  | nil =>
    cases h
    rfl
  | cons e es =>
    rw [ofExprs?] at h
    obtain ⟨p, hp, h⟩ := Option.bind_eq_some_iff.mp h
    obtain ⟨ps', hps, heq⟩ := Option.bind_eq_some_iff.mp h
    cases heq
    rw [Program.groupsOfAll] at hnodup
    rw [allCaptures, keptGroupsAll, captures_ofExpr? hp hnodup.of_append_left,
      allCaptures_ofExprs? hps hnodup.of_append_right]

end

end Plain

/-! ## The captures that are stated -/

/-- A program keeps all groups, and an automaton those that are not repeated no times. -/
def Pattern.KeepsGroups (p : Pattern) : Prop :=
  p.expr.needsBacktracking p.refs = true ∨ keptGroups p.expr = Program.groupsOf p.expr

instance (p : Pattern) : Decidable p.KeepsGroups := inferInstanceAs (Decidable (_ ∨ _))

/-- A pattern whose groups are numbered one after another states a capture for each, and one for
the whole match, just when it keeps them. -/
theorem captureCount_eq_iff {p : Pattern} {c : Compiled} {n : Nat} (h : p.compile? = some c)
    (hcount : p.groupCount = n) (hgroups : Program.groupsOf p.expr = List.range' 1 n) :
    c.captureCount = n + 1 ↔ p.KeepsGroups := by
  unfold Pattern.compile? at h
  split at h
  · rename_i hneeds
    obtain ⟨⟨code, slotCount⟩, -, heq⟩ := Option.bind_eq_some_iff.mp h
    cases heq
    exact ⟨fun _ => Or.inl hneeds, fun _ => by rw [hcount]⟩
  · rename_i hneeds
    obtain ⟨plain, hplain, h⟩ := Option.bind_eq_some_iff.mp h
    obtain ⟨automaton, -, heq⟩ := Option.bind_eq_some_iff.mp h
    cases heq
    have hnodup : (Program.groupsOf p.expr).Nodup := by
      rw [hgroups]
      exact List.nodup_range'
    have hlength : (Program.groupsOf p.expr).length = n := by
      rw [hgroups, List.length_range']
    show plain.captures.length + 1 = n + 1 ↔ _
    rw [Plain.captures_ofExpr? hplain hnodup, ← hlength]
    constructor
    · intro heq
      exact Or.inr ((keptGroups_sublist p.expr).eq_of_length (Nat.succ.inj heq))
    · intro hcases
      rcases hcases with hneeds' | hkept
      · exact absurd hneeds' hneeds
      · rw [hkept]

end NamedCapture.Regex
