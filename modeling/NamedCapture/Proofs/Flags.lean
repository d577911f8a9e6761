import Mathlib.Data.List.Induction
import Mathlib.Data.List.Nodup
import NamedCapture.Failure

/-!
# What a text of flags says

A text is read as flags when its letters are letters of flags and no two are the same
(`IsFlagText`).  Then it stands for the set of its letters (`named`), so that its order says
nothing, and the canonical text is the one of the same letters in canonical order.  Any other text
is refused for its first letter that is wrong, whatever is wrong behind that (`FirstFault`).
-/

namespace NamedCapture

def Flag.letters : Text := ['d', 'g', 'i', 'm', 's', 'u', 'y']

namespace Flag

theorem map_letter_all : all.map letter = letters := rfl

theorem letter_mem_letters (f : Flag) : f.letter ∈ letters := by
  cases f <;> decide

theorem exists_letter {c : Char} (h : c ∈ letters) : ∃ f : Flag, f.letter = c := by
  rw [← map_letter_all] at h
  obtain ⟨f, -, hf⟩ := List.mem_map.mp h
  exact ⟨f, hf⟩

theorem letter_inj {f g : Flag} (h : f.letter = g.letter) : f = g := by
  have hf := ofLetter?_letter f
  rw [h, ofLetter?_letter g] at hf
  exact (Option.some.inj hf).symm

theorem ofLetter?_eq_none {c : Char} (h : c ∉ letters) : ofLetter? c = none := by
  refine Option.eq_none_iff_forall_ne_some.mpr fun f hf => h ?_
  rw [← letter_of_ofLetter? hf]
  exact letter_mem_letters f

end Flag

namespace Flags

/-- Letters of flags, no two of them the same. -/
def IsFlagText (t : Text) : Prop := (∀ c ∈ t, c ∈ Flag.letters) ∧ t.Nodup

instance (t : Text) : Decidable (IsFlagText t) :=
  haveI : Decidable (∀ c ∈ t, c ∈ Flag.letters) := List.decidableBAll _ t
  inferInstanceAs (Decidable (_ ∧ _))

/-- The flags whose letters stand in a text. -/
def named (t : Text) : Flags where
  hasIndices := 'd' ∈ t
  global := 'g' ∈ t
  ignoreCase := 'i' ∈ t
  multiline := 'm' ∈ t
  dotAll := 's' ∈ t
  unicode := 'u' ∈ t
  sticky := 'y' ∈ t

/-- The first letter of a text that is wrong, and what is wrong with it: it is no flag's, or it
stood there before.  The text in front of it would be read. -/
inductive FirstFault : Text → FlagFault → Prop
  | unknown {front : Text} {c : Char} (rest : Text) (h : IsFlagText front)
      (hc : c ∉ Flag.letters) : FirstFault (front ++ c :: rest) (.unknown c)
  | duplicate {front : Text} {c : Char} (rest : Text) (h : IsFlagText front) (hc : c ∈ front) :
    FirstFault (front ++ c :: rest) (.duplicate c)

variable {t u : Text}

/-! ## Texts of flags -/

@[simp] theorem has_named (t : Text) (f : Flag) : (named t).has f = decide (f.letter ∈ t) := by
  cases f <;> rfl

theorem isFlagText_append_singleton {c : Char} :
    IsFlagText (t ++ [c]) ↔ IsFlagText t ∧ c ∈ Flag.letters ∧ c ∉ t := by
  unfold IsFlagText
  rw [List.nodup_append_comm, List.singleton_append, List.nodup_cons]
  simp only [List.forall_mem_append, List.forall_mem_singleton]
  tauto

theorem IsFlagText.of_append (h : IsFlagText (t ++ u)) : IsFlagText t :=
  ⟨fun c hc => h.1 c (List.mem_append_left u hc), h.2.of_append_left⟩

theorem IsFlagText.of_perm (h : IsFlagText t) (hperm : t.Perm u) : IsFlagText u :=
  ⟨fun c hc => h.1 c (hperm.mem_iff.mpr hc), hperm.nodup_iff.mp h.2⟩

theorem insert_named (t : Text) (f : Flag) : (named t).insert f = named (t ++ [f.letter]) := by
  refine ext_has fun g => ?_
  by_cases hg : f = g
  · simp [hg]
  · have hne : ¬g.letter = f.letter := fun h => hg (Flag.letter_inj h.symm)
    simp [hg, hne]

theorem named_eq_iff (ht : IsFlagText t) (hu : IsFlagText u) : named t = named u ↔ t.Perm u := by
  rw [List.perm_ext_iff_of_nodup ht.2 hu.2]
  constructor
  · intro h c
    by_cases hc : c ∈ Flag.letters
    · obtain ⟨f, rfl⟩ := Flag.exists_letter hc
      have hhas : (named t).has f = (named u).has f := by rw [h]
      simpa using hhas
    · exact iff_of_false (fun hmem => hc (ht.1 c hmem)) fun hmem => hc (hu.1 c hmem)
  · intro h
    exact ext_has fun f => by simp [h]

theorem letters_named (t : Text) : (named t).letters = Flag.letters.filter (· ∈ t) := by
  rw [← Flag.map_letter_all, List.filter_map]
  show (Flag.all.filter (named t).has).map Flag.letter = _
  congr 2
  funext f
  exact has_named t f

theorem letters_named_perm (h : IsFlagText t) : (named t).letters.Perm t := by
  have hnodup : Flag.letters.Nodup := by decide
  rw [letters_named, List.perm_ext_iff_of_nodup (hnodup.filter _) h.2]
  intro c
  simpa using h.1 c

/-! ## Reading -/

theorem insertAll_letter (s : Flags) (f : Flag) (t : Text) :
    s.insertAll (f.letter :: t) =
      if s.has f then .error (.duplicate f.letter) else (s.insert f).insertAll t := by
  rw [insertAll, Flag.ofLetter?_letter]

/-- With the letters of `t` already read, reading goes on as long as all is a text of flags. -/
theorem insertAll_named (h : IsFlagText (t ++ u)) (rest : Text) :
    (named t).insertAll (u ++ rest) = (named (t ++ u)).insertAll rest := by
  induction u generalizing t with
  | nil => rw [List.append_nil, List.nil_append]
  | cons c u ih =>
    have hfront : t ++ c :: u = t ++ [c] ++ u := by simp
    rw [hfront] at h ⊢
    obtain ⟨-, hc, hnew⟩ := isFlagText_append_singleton.mp h.of_append
    obtain ⟨f, rfl⟩ := Flag.exists_letter hc
    rw [List.cons_append, insertAll_letter, has_named, if_neg (by simpa using hnew), insert_named]
    exact ih h

theorem parse_append (h : IsFlagText t) (rest : Text) :
    parse (t ++ rest) = (named t).insertAll rest := insertAll_named (t := []) h rest

theorem parse_of_isFlagText (h : IsFlagText t) : parse t = .ok (named t) := by
  have hread := parse_append h []
  rwa [List.append_nil] at hread

theorem parse_of_firstFault {fault : FlagFault} (h : FirstFault t fault) :
    parse t = .error fault := by
  cases h with
  | unknown rest h hc => rw [parse_append h, insertAll, Flag.ofLetter?_eq_none hc]
  | duplicate rest h hc =>
    obtain ⟨f, rfl⟩ := Flag.exists_letter (h.1 _ hc)
    rw [parse_append h, insertAll_letter, if_pos (by simpa using hc)]

theorem FirstFault.append {fault : FlagFault} (h : FirstFault t fault) (u : Text) :
    FirstFault (t ++ u) fault := by
  cases h with
  | unknown rest h hc =>
    rw [List.append_assoc]
    exact .unknown (rest ++ u) h hc
  | duplicate rest h hc =>
    rw [List.append_assoc]
    exact .duplicate (rest ++ u) h hc

theorem exists_firstFault (h : ¬IsFlagText t) : ∃ fault, FirstFault t fault := by
  -- the letters are taken off at the end, so that the first fault is met last
  induction t using List.reverseRecOn with
  | nil => exact absurd (by decide) h
  | append_singleton t c ih =>
    by_cases ht : IsFlagText t
    · by_cases hc : c ∈ Flag.letters
      · have hmem : c ∈ t :=
          Classical.byContradiction fun hnew => h (isFlagText_append_singleton.mpr ⟨ht, hc, hnew⟩)
        exact ⟨_, .duplicate [] ht hmem⟩
      · exact ⟨_, .unknown [] ht hc⟩
    · obtain ⟨fault, hfault⟩ := ih ht
      exact ⟨fault, hfault.append [c]⟩

theorem compile_eq_ok_iff {s : Flags} : compile t = .ok s ↔ IsFlagText t ∧ s = named t := by
  by_cases h : IsFlagText t
  · rw [compile, parse_of_isFlagText h]
    show Except.ok (named t) = .ok s ↔ _
    simp [h, eq_comm]
  · obtain ⟨fault, hfault⟩ := exists_firstFault h
    rw [compile, parse_of_firstFault hfault]
    exact iff_of_false nofun fun hparts => h hparts.1

theorem compile_eq_error_iff {e : CompileError} :
    compile t = .error e ↔ ∃ fault, FirstFault t fault ∧ e = .flags t fault := by
  constructor
  · intro h
    by_cases ht : IsFlagText t
    · rw [compile, parse_of_isFlagText ht] at h
      cases h
    · obtain ⟨fault, hfault⟩ := exists_firstFault ht
      rw [compile, parse_of_firstFault hfault] at h
      cases h
      exact ⟨fault, hfault, rfl⟩
  · intro hparts
    obtain ⟨fault, hfault, rfl⟩ := hparts
    rw [compile, parse_of_firstFault hfault]
    rfl

/-- Texts of flags are read, and no others.  What is read are the flags of the letters; the
canonical text has the same letters in canonical order and is read as the same flags, and so are
the texts that have the letters in another order, and no others.  A text that is refused is given
back whole, with what is wrong with its first letter that is wrong. -/
theorem compile_canonical (t : Text) :
    ((∃ s, compile t = .ok s) ↔ IsFlagText t) ∧
      (∀ s, compile t = .ok s →
        s = named t ∧ s.letters = Flag.letters.filter (· ∈ t) ∧ s.letters.Perm t ∧
          compile s.letters = .ok s ∧ ∀ u s', compile u = .ok s' → (s' = s ↔ u.Perm t)) ∧
      ∀ e, compile t = .error e ↔ ∃ fault, FirstFault t fault ∧ e = .flags t fault := by
  refine ⟨?_, fun s hs => ?_, fun e => compile_eq_error_iff⟩
  · simp [compile_eq_ok_iff]
  · obtain ⟨ht, rfl⟩ := compile_eq_ok_iff.mp hs
    have hperm := letters_named_perm ht
    have hletters := ht.of_perm hperm.symm
    refine ⟨rfl, letters_named t, hperm, ?_, fun u s' hu => ?_⟩
    · exact compile_eq_ok_iff.mpr ⟨hletters, (named_eq_iff ht hletters).mpr hperm.symm⟩
    · obtain ⟨hflags, rfl⟩ := compile_eq_ok_iff.mp hu
      exact named_eq_iff hflags ht

/-- `yigs` and `sgiy` are read as the same flags, whose canonical text is `gisy`.  In `gégx` the
first letter that is wrong is the `é`, and in `ygyé` the second `y`. -/
theorem compile_canonical_disordered :
    let s := named ['y', 'i', 'g', 's']
    compile ['y', 'i', 'g', 's'] = .ok s ∧ s.letters = ['g', 'i', 's', 'y'] ∧
      compile ['g', 'i', 's', 'y'] = .ok s ∧ compile ['s', 'g', 'i', 'y'] = .ok s ∧
      compile ['g', 'é', 'g', 'x'] = .error (.flags ['g', 'é', 'g', 'x'] (.unknown 'é')) ∧
      compile ['y', 'g', 'y', 'é'] = .error (.flags ['y', 'g', 'y', 'é'] (.duplicate 'y')) := by
  intro s
  have hs : compile ['y', 'i', 'g', 's'] = .ok s := rfl
  obtain ⟨-, hread, -⟩ := compile_canonical ['y', 'i', 'g', 's']
  obtain ⟨-, hletters, -, hagain, hsame⟩ := hread s hs
  obtain ⟨s', hs'⟩ := (compile_canonical ['s', 'g', 'i', 'y']).1.mpr (by decide)
  obtain rfl := (hsame _ s' hs').mpr (by decide)
  obtain ⟨-, -, hunknown⟩ := compile_canonical ['g', 'é', 'g', 'x']
  obtain ⟨-, -, hduplicate⟩ := compile_canonical ['y', 'g', 'y', 'é']
  refine ⟨hs, hletters, hagain, hs', ?_, ?_⟩
  · have hfault : FirstFault (['g'] ++ 'é' :: ['g', 'x']) (.unknown 'é') :=
      .unknown _ (by decide) (by decide)
    exact (hunknown _).mpr ⟨_, hfault, rfl⟩
  · have hfault : FirstFault (['y', 'g'] ++ 'y' :: ['é']) (.duplicate 'y') :=
      .duplicate _ (by decide) (by decide)
    exact (hduplicate _).mpr ⟨_, hfault, rfl⟩

end Flags
end NamedCapture
