import Mathlib.Data.List.TakeWhile
import NamedCapture.Proofs.Annotated.Cut

/-!
# Where a pattern is refused

A pattern is refused at the first `(?<` that opens neither a look behind nor a group with a name
(`strip_eq_error_iff`), and at no other place: not in a class, behind a backslash or in a comment.
The text in front of it is stripped without it.  What follows can change the verdict only where the
pattern ends in the name, because then the name may go on (`strip_refuses`).
-/

namespace NamedCapture.Annotated

/-- What stands behind a `(?<` makes it neither a look behind nor the annotation of a group. -/
def Misnamed (t : Text) : Prop :=
  t.head? ≠ some '=' ∧ t.head? ≠ some '!' ∧ ∀ name, IsName name → ¬name ++ ['>'] <+: t

theorem exists_name_iff {t : Text} :
    (∃ name, IsName name ∧ name ++ ['>'] <+: t) ↔
      t.takeWhile isNameChar ≠ [] ∧ (t.dropWhile isNameChar).head? = some '>' := by
  constructor
  · intro hparts
    obtain ⟨name, ⟨hne, hall⟩, r, rfl⟩ := hparts
    obtain ⟨htake, hdrop⟩ := span_name hall r
    rw [List.append_assoc, List.singleton_append, htake, hdrop]
    exact ⟨hne, rfl⟩
  · intro hparts
    obtain ⟨hne, hhead⟩ := hparts
    obtain ⟨r, hr⟩ := takeWhile_append_stop hhead
    refine ⟨t.takeWhile isNameChar, ⟨hne, List.all_eq_true.mp List.all_takeWhile⟩, r, ?_⟩
    rw [List.append_assoc, List.singleton_append, ← hr]

theorem groupOpening_angle_eq_none_iff {t : Text} :
    groupOpening ('?' :: '<' :: t) = none ↔ Misnamed t := by
  unfold Misnamed
  by_cases hequal : t.head? = some '='
  · obtain ⟨r, rfl⟩ := List.head?_eq_some_iff.mp hequal
    exact ⟨nofun, fun h => absurd hequal h.1⟩
  · by_cases hbang : t.head? = some '!'
    · obtain ⟨r, rfl⟩ := List.head?_eq_some_iff.mp hbang
      exact ⟨nofun, fun h => absurd hbang h.2.1⟩
    · have hname := exists_name_iff (t := t)
      rw [groupOpening_angle hequal hbang]
      dsimp only
      split
      · rename_i hparts
        obtain ⟨name, hisName, hprefix⟩ := hname.mpr hparts
        exact ⟨nofun, fun h => absurd hprefix (h.2.2 name hisName)⟩
      · rename_i hparts
        exact ⟨fun _ => ⟨hequal, hbang, fun name hisName hprefix =>
          hparts (hname.mp ⟨name, hisName, hprefix⟩)⟩, fun _ => rfl⟩

theorem groupOpening_eq_none_iff {t : Text} :
    groupOpening t = none ↔ ∃ r, t = '?' :: '<' :: r ∧ Misnamed r := by
  constructor
  · intro h
    by_cases hquestion : t.head? = some '?'
    · obtain ⟨r, rfl⟩ := List.head?_eq_some_iff.mp hquestion
      by_cases hangle : r.head? = some '<'
      · obtain ⟨u, rfl⟩ := List.head?_eq_some_iff.mp hangle
        exact ⟨u, rfl, groupOpening_angle_eq_none_iff.mp h⟩
      · by_cases hP : ['P', '<'] <+: r
        · obtain ⟨u, rfl⟩ := hP
          cases h
        · rw [groupOpening_letters hangle hP] at h
          split at h <;> cases h
    · rw [groupOpening_plain hquestion] at h
      cases h
  · intro hparts
    obtain ⟨r, rfl, hr⟩ := hparts
    exact groupOpening_angle_eq_none_iff.mpr hr

theorem read_eq_none_iff {ctx : Context} {c : Char} {rest : Text} :
    ctx.read c rest = none ↔
      ctx.place = .pattern ∧ c = '(' ∧ groupOpening rest = none := by
  obtain ⟨place, verbose, scopes⟩ := ctx
  constructor
  · intro h
    cases place with
    | comment => cases h
    | charClass outer =>
      simp only [Context.read] at h
      split_ifs at h
    | pattern =>
      simp only [Context.read] at h
      split_ifs at h with _ _ _ hopen
      exact ⟨rfl, hopen, Option.map_eq_none_iff.mp h⟩
  · intro hparts
    obtain ⟨hplace, rfl, hnone⟩ := hparts
    cases hplace
    show (groupOpening rest).map _ = none
    rw [hnone]
    rfl

theorem strip_eq_error_iff {pattern : Text} {e : UnterminatedName} :
    strip pattern = .error e ↔
      ∃ ls last rest, Run {} pattern ls last ('(' :: '?' :: '<' :: rest) ∧
        last.place = .pattern ∧ Misnamed rest ∧
        Text.byteLength (ls.flatMap Lexeme.text) = e.position := by
  constructor
  · intro h
    obtain ⟨last, s, hrun, ⟨-, hfailure⟩ | ⟨c, rest, rfl, hread, hfailure⟩⟩ :=
      exists_run {} 0 pattern
    · rw [strip, scan, hfailure] at h
      cases h
    · rw [strip, scan, hfailure] at h
      cases h
      obtain ⟨hplace, rfl, hnone⟩ := read_eq_none_iff.mp hread
      obtain ⟨r, rfl, hr⟩ := groupOpening_eq_none_iff.mp hnone
      exact ⟨_, last, r, hrun, hplace, hr, (Nat.zero_add _).symm⟩
  · intro hparts
    obtain ⟨ls, last, rest, hrun, hplace, hrest, hposition⟩ := hparts
    have hread : last.read '(' ('?' :: '<' :: rest) = none :=
      read_eq_none_iff.mpr ⟨hplace, rfl, groupOpening_angle_eq_none_iff.mpr hrest⟩
    have hfailure : (scan pattern).failure = some e.position := by
      rw [scan, scanFrom_of_run hrun 0, scanFrom, hread, Nat.zero_add, hposition]
    rw [strip, hfailure]

/-- Where the name has ended, nothing put behind the pattern makes it one. -/
theorem Misnamed.append {t : Text} (h : Misnamed t) (hstop : t.dropWhile isNameChar ≠ [])
    (u : Text) : Misnamed (t ++ u) := by
  obtain ⟨hequal, hbang, hname⟩ := h
  have hne : t ≠ [] := by
    intro hnil
    subst hnil
    exact hstop rfl
  have hhead : (t ++ u).head? = t.head? := List.head?_append_of_ne_nil t hne
  refine ⟨hhead ▸ hequal, hhead ▸ hbang, fun name hisName hprefix => ?_⟩
  rcases List.prefix_or_prefix_of_prefix hprefix (List.prefix_append t u) with hin | hover
  · exact hname name hisName hin
  · rcases List.prefix_concat_iff.mp hover with rfl | hin
    · exact hname name hisName List.prefix_rfl
    · -- all of it would belong to the name
      exact hstop (List.dropWhile_eq_nil_iff.mpr fun c hc => hisName.2 c (hin.subset hc))

/-- A pattern that is refused is refused at a `(?<` that opens neither a look behind nor a group
with a name, and the text in front of that is not refused.  Where a character that ends the name is
in sight, it is refused there whatever follows; where none is, the name may go on and be closed. -/
theorem strip_refuses {pattern : Text} {e : UnterminatedName} (h : strip pattern = .error e) :
    Text.isBoundary pattern e.position = true ∧
      ∃ rest s, Text.dropBytes e.position pattern = '(' :: '?' :: '<' :: rest ∧ Misnamed rest ∧
        strip (Text.takeBytes e.position pattern) = .ok s ∧
        (rest.dropWhile isNameChar ≠ [] → ∀ more, strip (pattern ++ more) = .error e) ∧
        (rest.dropWhile isNameChar = [] → ∃ t, strip (pattern ++ ['a', '>']) = .ok t ∧
          t.groups.groups = s.groups.groups ++
            [⟨s.groups.count + 1, some (rest ++ ['a']), e.position⟩]) := by
  obtain ⟨ls, last, rest, hrun, hplace, hrest, hposition⟩ := strip_eq_error_iff.mp h
  obtain rfl := hrun.text_append
  -- whatever stands behind the `(?<`, the same is read up to it
  have hbehind : ∀ more, Run {} (ls.flatMap Lexeme.text ++ '(' :: '?' :: '<' :: rest ++ more) ls
      last ('(' :: '?' :: '<' :: (rest ++ more)) := by
    intro more
    rw [List.append_assoc]
    exact hrun.recut rfl _
  rw [← hposition, Text.dropBytes_append, Text.takeBytes_append]
  refine ⟨Text.isBoundary_iff.mpr ⟨_, _, rfl, rfl⟩, rest, _, rfl, hrest,
    strip_of_run (hrun.cut rfl), fun hstop more => ?_, fun hname => ?_⟩
  · exact strip_eq_error_iff.mpr
      ⟨ls, last, rest ++ more, hbehind more, hplace, hrest.append hstop more, hposition⟩
  · have hisName : IsName (rest ++ ['a']) := by
      refine ⟨List.append_ne_nil_of_right_ne_nil _ (List.cons_ne_nil _ _), fun c hc => ?_⟩
      rcases List.mem_append.mp hc with hc | hc
      · exact List.dropWhile_eq_nil_iff.mp hname c hc
      · rw [List.mem_singleton.mp hc]
        decide
    have hlast := Run.cons_named hplace hisName (.done last.enter [])
    rw [List.append_assoc] at hlast
    have hnamed := (hbehind ['a', '>']).append hlast
    refine ⟨_, strip_of_run hnamed, ?_⟩
    rw [GroupTable.groups_ofOpenings, GroupTable.groups_ofOpenings, GroupTable.count_ofOpenings,
      openings_append, GroupTable.numberFrom_append, Nat.zero_add, Nat.add_comm 1]
    rfl

/-- Of `[(?<](?x)#(?<\n\(?<(?<é-` the last `(?<` is refused, not the one in the class, in the
comment or behind the backslash, and a `>` does not help.  `(b)(?<é` is refused as well, until `a>`
closes the name. -/
theorem strip_refuses_ended :
    let ended := ['[', '(', '?', '<', ']', '(', '?', 'x', ')', '#', '(', '?', '<', '\n',
      '\\', '(', '?', '<', '(', '?', '<', 'é', '-']
    let unended := ['(', 'b', ')', '(', '?', '<', 'é']
    strip ended = .error ⟨18⟩ ∧ Misnamed ['é', '-'] ∧ strip (ended ++ ['>']) = .error ⟨18⟩ ∧
      strip unended = .error ⟨3⟩ ∧
      ∃ t, strip (unended ++ ['a', '>']) = .ok t ∧
        t.groups.groups = [⟨1, none, 0⟩, ⟨2, some ['é', 'a'], 3⟩] := by
  intro ended unended
  have hended : strip ended = .error ⟨18⟩ := rfl
  have hunended : strip unended = .error ⟨3⟩ := rfl
  obtain ⟨-, rest, s, hrest, hmisnamed, -, hfinal, -⟩ := strip_refuses hended
  obtain rfl : ['é', '-'] = rest := (List.cons.inj (List.cons.inj (List.cons.inj hrest).2).2).2
  obtain ⟨-, rest, s, hrest, -, hfront, -, hopen⟩ := strip_refuses hunended
  obtain rfl : ['é'] = rest := (List.cons.inj (List.cons.inj (List.cons.inj hrest).2).2).2
  obtain rfl : Stripped.mk ['(', 'b', ')'] ⟨[⟨1, none, 0⟩], []⟩ = s := Except.ok.inj hfront
  exact ⟨hended, hmisnamed, hfinal (List.cons_ne_nil _ _) ['>'], hunended, hopen rfl⟩

end NamedCapture.Annotated
