import Mathlib.Data.List.TakeWhile
import Mathlib.Tactic.IntervalCases
import NamedCapture.Proofs.Boundary
import NamedCapture.Template

/-!
# What a template stands for

`Expands` says how a template is read from left to right: a character stands for itself, a `$` for
what it refers to together with the characters behind it, and a `$` that refers to nothing for
itself, whereupon reading goes on with the very next character.  What a reference consists of
(`Refers`) and what it is worth in a match (`Template.Part.Stands`) are said apart from each other.
Parsing a template and expanding its parts comes to the same (`expands_iff`).
-/

namespace NamedCapture

def IsGroup (count n : Nat) : Prop := 1 ≤ n ∧ n ≤ count

instance {count n : Nat} : Decidable (IsGroup count n) := inferInstanceAs (Decidable (_ ∧ _))

namespace Template

/-- The text behind a `$` begins with a reference, and the rest of it is not part of that. -/
inductive Refers (table : GroupTable) : Text → Part → Text → Prop
  | dollar (rest : Text) : Refers table ('$' :: rest) (.literal ['$']) rest
  | whole (rest : Text) : Refers table ('&' :: rest) .whole rest
  | before (rest : Text) : Refers table ('\x60' :: rest) .before rest
  | after (rest : Text) : Refers table ('\x27' :: rest) .after rest
  | twoDigits {tens ones : Nat} (rest : Text) (htens : tens < 10) (hones : ones < 10)
      (h : IsGroup table.count (10 * tens + ones)) :
    Refers table (tens.digitChar :: ones.digitChar :: rest) (.group (10 * tens + ones)) rest
  /-- One digit counts only where two would name no group. -/
  | oneDigit {n : Nat} {rest : Text} (hn : n < 10) (h : IsGroup table.count n)
      (hone : ∀ ones t, ones < 10 → rest = ones.digitChar :: t →
        ¬IsGroup table.count (10 * n + ones)) :
    Refers table (n.digitChar :: rest) (.group n) rest
  | named {name : Text} (rest : Text) (h : table.hasNames = true) (hname : '>' ∉ name) :
    Refers table ('<' :: (name ++ '>' :: rest)) (.named name) rest

/-- The text that a name is worth in a match: the first entry that bears the name holds it.  A name
that took no part or that no entry bears is worth nothing. -/
inductive NameStands (m : NamedMatch) (name : Text) : Text → Prop
  | set {front rest : List (Text × Option Text)} {u : Text}
      (h : m.named = front ++ (name, some u) :: rest) (hfront : ∀ entry ∈ front, entry.1 ≠ name) :
    NameStands m name u
  | unset {front rest : List (Text × Option Text)} (h : m.named = front ++ (name, none) :: rest)
      (hfront : ∀ entry ∈ front, entry.1 ≠ name) :
    NameStands m name []
  | unknown (h : ∀ entry ∈ m.named, entry.1 ≠ name) : NameStands m name []

/-- What a part is worth in a match. -/
def Part.Stands (m : NamedMatch) : Part → Text → Prop
  | literal t, u => u = t
  | group n, u =>
    match m.span? n with
    | some s => m.subject.Between s.start s.stop u
    | none => u = []
  | named name, u => NameStands m name u
  | whole, u => m.subject.Between m.whole.start m.whole.stop u
  | before, u => m.subject.Between 0 m.whole.start u
  | after, u => m.subject.Between m.whole.stop (Text.byteLength m.subject) u

/-- Reading a template for a match, from left to right. -/
inductive Expands (table : GroupTable) (m : NamedMatch) : Text → Text → Prop
  | done : Expands table m [] []
  | char {c : Char} {t u : Text} (hc : c ≠ '$') (hrest : Expands table m t u) :
    Expands table m (c :: t) (c :: u)
  | reference {t rest u v : Text} {part : Part} (h : Refers table t part rest)
      (hpart : part.Stands m u) (hrest : Expands table m rest v) :
    Expands table m ('$' :: t) (u ++ v)
  | dollar {t u : Text} (h : ∀ part rest, ¬Refers table t part rest)
      (hrest : Expands table m t u) : Expands table m ('$' :: t) ('$' :: u)

variable {table : GroupTable} {m : NamedMatch}

/-! ## Numbers of groups -/

theorem digit?_digitChar {n : Nat} (h : n < 10) : digit? n.digitChar = some n := by
  interval_cases n <;> rfl

theorem eq_digitChar_of_digit? {c : Char} {n : Nat} (h : digit? c = some n) :
    n < 10 ∧ c = n.digitChar := by
  unfold digit? at h
  split at h
  · rename_i hdigit
    cases h
    have hle : 48 ≤ c.toNat ∧ c.toNat ≤ 57 := by
      simpa [Char.isDigit, UInt32.le_iff_toNat_le] using hdigit
    obtain ⟨hlow, hhigh⟩ := hle
    show c.toNat - 48 < 10 ∧ c = (c.toNat - 48).digitChar
    refine ⟨by omega, ?_⟩
    rw [← Char.ofNat_toNat c]
    generalize c.toNat = k at hlow hhigh
    interval_cases k <;> rfl
  · cases h

theorem groupNumber?_cons (count : Nat) (c : Char) (rest : Text) :
    groupNumber? count (c :: rest) = (digit? c).bind fun tens =>
      ((rest.head?.bind digit?).bind fun ones =>
        if IsGroup count (10 * tens + ones) then some (10 * tens + ones, 2) else none).or
      (if IsGroup count tens then some (tens, 1) else none) := by
  have hvalid : ∀ n, (decide (1 ≤ n) && decide (n ≤ count)) = decide (IsGroup count n) :=
    fun n => (Bool.decide_and _ _).symm
  simp only [groupNumber?, List.head?_cons, List.tail_cons, Option.bind_eq_bind, Option.bind_some,
    hvalid, decide_eq_true_eq]
  cases digit? c with
  | none => rfl
  | some tens =>
    cases rest.head?.bind digit? with
    | none => rfl
    | some ones =>
      show (if _ then _ else _) = Option.or (if _ then _ else _) _
      split <;> rfl

theorem groupNumber?_cases {count n length : Nat} {t : Text}
    (h : groupNumber? count t = some (n, length)) :
    IsGroup count n ∧
      ((∃ tens ones r, tens < 10 ∧ ones < 10 ∧ n = 10 * tens + ones ∧
          t = tens.digitChar :: ones.digitChar :: r ∧ length = 2) ∨
        ∃ r, n < 10 ∧ t = n.digitChar :: r ∧ length = 1 ∧
          ∀ ones u, ones < 10 → r = ones.digitChar :: u → ¬IsGroup count (10 * n + ones)) := by
  cases t with
  | nil => cases h
  | cons c rest =>
    rw [groupNumber?_cons] at h
    obtain ⟨tens, hc, hnumber⟩ := Option.bind_eq_some_iff.mp h
    obtain ⟨htens, rfl⟩ := eq_digitChar_of_digit? hc
    rcases Option.or_eq_some_iff.mp hnumber with htwo | ⟨hnone, hone⟩
    · obtain ⟨ones, hones, hpair⟩ := Option.bind_eq_some_iff.mp htwo
      obtain ⟨d, hhead, hd⟩ := Option.bind_eq_some_iff.mp hones
      obtain ⟨hlt, rfl⟩ := eq_digitChar_of_digit? hd
      obtain ⟨r, rfl⟩ := List.head?_eq_some_iff.mp hhead
      split at hpair
      · rename_i hgroup
        cases hpair
        exact ⟨hgroup, Or.inl ⟨tens, ones, r, htens, hlt, rfl, rfl, rfl⟩⟩
      · cases hpair
    · split at hone
      · rename_i hgroup
        cases hone
        refine ⟨hgroup, Or.inr ⟨rest, htens, rfl, rfl, fun ones u hones hrest htwo => ?_⟩⟩
        subst hrest
        simp [digit?_digitChar hones, htwo] at hnone
      · cases hone

/-! ## References -/

theorem refers_of_groupNumber? {t : Text} {n length : Nat}
    (h : groupNumber? table.count t = some (n, length)) :
    Refers table t (.group n) (t.drop length) := by
  obtain ⟨hgroup, htwo | hone⟩ := groupNumber?_cases h
  · obtain ⟨tens, ones, r, htens, hones, rfl, rfl, rfl⟩ := htwo
    exact .twoDigits r htens hones hgroup
  · obtain ⟨r, hn, rfl, rfl, hone⟩ := hone
    exact .oneDigit hn hgroup hone

theorem takeWhile_ne_self {c : Char} {t : Text} (h : c ∉ t) : t.takeWhile (· != c) = t :=
  List.takeWhile_eq_self_iff.mpr fun _ hd => bne_iff_ne.mpr fun heq => h (heq ▸ hd)

theorem takeWhile_ne {c : Char} {t : Text} (h : c ∉ t) (rest : Text) :
    (t ++ c :: rest).takeWhile (· != c) = t := by
  have hall : ∀ d ∈ t, (d != c) = true := fun _ hd => bne_iff_ne.mpr fun heq => h (heq ▸ hd)
  rw [List.takeWhile_append_of_pos hall, List.takeWhile_cons_of_neg (by simp), List.append_nil]

theorem exists_name {t : Text} (h : (t.takeWhile (· != '>')).length < t.length) :
    ∃ name rest, t = name ++ '>' :: rest ∧ '>' ∉ name := by
  refine List.eq_append_cons_of_mem (Classical.byContradiction fun hmem => ?_)
  rw [takeWhile_ne_self hmem] at h
  exact Nat.lt_irrefl _ h

theorem refers_of_reference? {t : Text} {part : Part} {length : Nat}
    (h : reference? table t = some (part, length)) : Refers table t part (t.drop length) := by
  unfold reference? at h
  split at h
  · cases h
    exact .whole _
  · cases h
    exact .before _
  · cases h
    exact .after _
  · rename_i rest
    dsimp only at h
    split at h
    · rename_i hclosed
      obtain ⟨hnames, hlength⟩ := Bool.and_eq_true_iff.mp hclosed
      obtain ⟨name, r, rfl, hname⟩ := exists_name (of_decide_eq_true hlength)
      rw [takeWhile_ne hname] at h
      cases h
      have hdrop : ('<' :: (name ++ '>' :: r)).drop (name.length + 2) = r := by simp
      rw [hdrop]
      exact .named r hnames hname
    · cases h
  · obtain ⟨⟨n, digits⟩, hnumber, heq⟩ := Option.map_eq_some_iff.mp h
    cases heq
    exact refers_of_groupNumber? hnumber

theorem reference?_digit {n : Nat} (h : n < 10) (t : Text) :
    reference? table (n.digitChar :: t) =
      (groupNumber? table.count (n.digitChar :: t)).map fun (n, length) => (.group n, length) := by
  interval_cases n <;> rfl

/-- What is found behind a `$` is what stands there, up to `$$`. -/
theorem reference?_of_refers {t rest : Text} {part : Part} (h : Refers table t part rest) :
    (t = '$' :: rest ∧ part = .literal ['$']) ∨
      (t.head? ≠ some '$' ∧ ∃ length, reference? table t = some (part, length) ∧
        t.drop length = rest) := by
  cases h with
  | dollar => exact Or.inl ⟨rfl, rfl⟩
  | whole => exact Or.inr ⟨by simp, 1, rfl, rfl⟩
  | before => exact Or.inr ⟨by simp, 1, rfl, rfl⟩
  | after => exact Or.inr ⟨by simp, 1, rfl, rfl⟩
  | @twoDigits tens ones _ htens hones h =>
    refine Or.inr ⟨by simp, 2, ?_, rfl⟩
    rw [reference?_digit htens, groupNumber?_cons, digit?_digitChar htens]
    simp [digit?_digitChar hones, h]
  | @oneDigit n _ hn h hone =>
    have htwo : ((rest.head?.bind digit?).bind fun ones =>
        if IsGroup table.count (10 * n + ones) then some (10 * n + ones, 2) else none) = none := by
      refine Option.bind_eq_none_iff.mpr fun ones hones => if_neg ?_
      obtain ⟨d, hhead, hd⟩ := Option.bind_eq_some_iff.mp hones
      obtain ⟨hlt, rfl⟩ := eq_digitChar_of_digit? hd
      obtain ⟨r, hrest⟩ := List.head?_eq_some_iff.mp hhead
      exact hone ones r hlt hrest
    refine Or.inr ⟨by simp, 1, ?_, rfl⟩
    rw [reference?_digit hn, groupNumber?_cons, digit?_digitChar hn, Option.bind_some, htwo,
      if_pos h]
    rfl
  | @named name _ h hname =>
    refine Or.inr ⟨by simp, name.length + 2, ?_, by simp⟩
    rw [reference?, takeWhile_ne hname]
    exact if_pos (by simp [h])

/-! ## Expansion -/

theorem group?_of_entry {front rest : List (Text × Option Text)} {name : Text}
    {value : Option Text} (h : m.named = front ++ (name, value) :: rest)
    (hfront : ∀ entry ∈ front, entry.1 ≠ name) : m.group? name = value := by
  have hnone : (front.find? fun entry => entry.1 = name) = none := by
    simpa using hfront
  rw [NamedMatch.group?, h, List.find?_append, hnone, Option.none_or,
    List.find?_cons_of_pos (by simp)]
  rfl

theorem nameStands_iff {name u : Text} : NameStands m name u ↔ (m.group? name).getD [] = u := by
  constructor
  · intro h
    cases h with
    | set h hfront => rw [group?_of_entry h hfront, Option.getD_some]
    | unset h hfront => rw [group?_of_entry h hfront, Option.getD_none]
    | unknown h =>
      have hnone : (m.named.find? fun entry => entry.1 = name) = none := by simpa using h
      rw [NamedMatch.group?, hnone]
      rfl
  · rintro rfl
    cases hfind : m.named.find? fun entry => entry.1 = name with
    | none =>
      have hunknown : ∀ entry ∈ m.named, entry.1 ≠ name := by simpa using hfind
      rw [NamedMatch.group?, hfind]
      exact .unknown hunknown
    | some entry =>
      obtain ⟨n, value⟩ := entry
      obtain ⟨hname, front, rest, h, hbefore⟩ := List.find?_eq_some_iff_append.mp hfind
      obtain rfl : n = name := of_decide_eq_true hname
      have hfront : ∀ entry ∈ front, entry.1 ≠ n := by simpa using hbefore
      rw [group?_of_entry h hfront]
      cases value with
      | none => exact .unset h hfront
      | some u => exact .set h hfront

/-- In a match whose captures are parts of its subject every part is worth what it expands to. -/
theorem Part.stands_iff (hm : m.Sound) (part : Part) (u : Text) :
    part.Stands m u ↔ part.expand m = u := by
  have hbetween : ∀ {i j : Nat}, i ≤ j → Text.isBoundary m.subject i = true →
      Text.isBoundary m.subject j = true →
      (m.subject.Between i j u ↔ Text.slice m.subject i j = u) := by
    intro i j hij hi hj
    exact ⟨Text.Between.slice_eq, fun h => h ▸ Text.between_slice hij hi hj⟩
  obtain ⟨hle, hstart, hstop⟩ := hm.whole
  cases part with
  | literal t => exact eq_comm
  | named name => exact nameStands_iff
  | whole => exact hbetween hle hstart hstop
  | before =>
    have h := hbetween (Nat.zero_le _) (Text.isBoundary_zero _) hstart
    rwa [Text.slice_zero] at h
  | after =>
    have h := hbetween (Text.le_byteLength_of_isBoundary hstop) hstop
      (Text.isBoundary_byteLength _)
    rwa [Text.slice_byteLength hstop] at h
  | group n =>
    show (match m.span? n with | some s => _ | none => _) ↔ (m.get? n).getD [] = u
    unfold Match.get?
    cases hspan : m.span? n with
    | none => exact eq_comm
    | some s =>
      obtain ⟨hle, hstart, hstop⟩ := hm.of_span? hspan
      exact hbetween hle hstart hstop

theorem parseFrom_skip (skip : Nat) (t : Text) :
    parseFrom table skip t = parseFrom table 0 (t.drop skip) := by
  induction t generalizing skip with
  | nil => simp [parseFrom]
  | cons c t ih =>
    cases skip with
    | zero => rfl
    | succ n => exact ih n

theorem parse_cons {c : Char} (hc : c ≠ '$') (t : Text) :
    parse table (c :: t) = consChar c (parse table t) := if_pos hc

theorem parse_dollar (t : Text) :
    parse table ('$' :: t) =
      if t.head? = some '$' then consChar '$' (parse table (t.drop 1))
      else match reference? table t with
        | some (part, length) => part :: parse table (t.drop length)
        | none => consChar '$' (parse table t) := by
  unfold parse
  simp only [← parseFrom_skip]
  rfl

theorem expand_of_refers {t rest : Text} {part : Part} (h : Refers table t part rest) :
    (parse table ('$' :: t)).expand m = part.expand m ++ (parse table rest).expand m := by
  rw [parse_dollar]
  rcases reference?_of_refers h with ⟨rfl, rfl⟩ | ⟨hhead, length, hfound, rfl⟩
  · rw [List.head?_cons, if_pos rfl, expand_consChar]
    rfl
  · rw [if_neg hhead, hfound]
    exact List.flatMap_cons

theorem expand_of_not_refers {t : Text} (h : ∀ part rest, ¬Refers table t part rest) :
    (parse table ('$' :: t)).expand m = '$' :: (parse table t).expand m := by
  have hhead : t.head? ≠ some '$' := by
    intro hhead
    obtain ⟨r, rfl⟩ := List.head?_eq_some_iff.mp hhead
    exact h _ _ (.dollar r)
  have hnone : reference? table t = none := by
    refine Option.eq_none_iff_forall_ne_some.mpr fun found hfound => ?_
    exact h _ _ (refers_of_reference? hfound)
  rw [parse_dollar, if_neg hhead, hnone, expand_consChar]

theorem expand_named (htable : table.hasNames = true) {name : Text} (hname : '>' ∉ name) :
    (parse table ('$' :: '<' :: (name ++ ['>']))).expand m = (m.group? name).getD [] :=
  (expand_of_refers (.named [] htable hname)).trans (List.append_nil _)

theorem expand_twoDigits {k : Nat} (hk : IsGroup table.count k) (hle : k ≤ 99) :
    (parse table ['$', (k / 10).digitChar, (k % 10).digitChar]).expand m = (m.get? k).getD [] := by
  have hvalue : 10 * (k / 10) + k % 10 = k := Nat.div_add_mod k 10
  have hgroup : IsGroup table.count (10 * (k / 10) + k % 10) := by rwa [hvalue]
  have hrefers := Refers.twoDigits [] (by omega) (by omega) hgroup
  rw [hvalue] at hrefers
  exact (expand_of_refers hrefers).trans (List.append_nil _)

theorem Expands.eq_expand (hm : m.Sound) {t u : Text} (h : Expands table m t u) :
    (parse table t).expand m = u := by
  induction h with
  | done => rfl
  | char hc _ ih => rw [parse_cons hc, expand_consChar, ih]
  | reference h hpart _ ih =>
    rw [expand_of_refers h, ih, (Part.stands_iff hm _ _).mp hpart]
  | dollar h _ ih => rw [expand_of_not_refers h, ih]

theorem Refers.length_le {t rest : Text} {part : Part} (h : Refers table t part rest) :
    rest.length ≤ t.length := by
  cases h <;> simp <;> omega

theorem expands_expand (hm : m.Sound) (t : Text) :
    Expands table m t ((parse table t).expand m) := by
  -- a reference takes any number of characters, so the induction is on the length
  generalize hn : t.length = n
  induction n using Nat.strongRecOn generalizing t with
  | ind n ih =>
    cases t with
    | nil => exact .done
    | cons c t =>
      rw [List.length_cons] at hn
      by_cases hc : c = '$'
      · subst hc
        by_cases hrefers : ∃ part rest, Refers table t part rest
        · obtain ⟨part, rest, hrefers⟩ := hrefers
          have hlength := hrefers.length_le
          rw [expand_of_refers hrefers]
          exact .reference hrefers ((Part.stands_iff hm _ _).mpr rfl)
            (ih rest.length (by omega) rest rfl)
        · have hnone : ∀ part rest, ¬Refers table t part rest :=
            fun part rest h => hrefers ⟨part, rest, h⟩
          rw [expand_of_not_refers hnone]
          exact .dollar hnone (ih t.length (by omega) t rfl)
      · rw [parse_cons hc, expand_consChar]
        exact .char hc (ih t.length (by omega) t rfl)

/-- A template read from left to right for a match comes to the text that its parts expand to, and
to no other. -/
theorem expands_iff (hm : m.Sound) (t u : Text) :
    Expands table m t u ↔ (parse table t).expand m = u :=
  ⟨Expands.eq_expand hm, fun h => h ▸ expands_expand hm t⟩

/-- One group, named `n`, that captured `é` in `aéb`: two digits of which only the first counts, its
name, a name that is none, a `$` before a letter, a number with a 0 in front, no number at all, and
a name without an end. -/
theorem expands_iff_one_group :
    let table := GroupTable.ofOpenings [⟨some ['n'], 0⟩]
    let m := NamedMatch.ofMatch table ⟨['a', 'é', 'b'], ⟨1, 3⟩, [some ⟨1, 3⟩]⟩
    m.Sound ∧
      Expands table m ['$', '1', '2', '$', '<', 'n', '>', '$', '<', '$', '&', '>', '$', '\x60', '$',
        'é', '$', '0', '1', '$', '0', '0', '$', '<', 'n']
        ['é', '2', 'é', 'a', '$', 'é', 'é', '$', '0', '0', '$', '<', 'n'] := by
  intro table m
  have hm : m.Sound := by decide
  exact ⟨hm, (expands_iff hm _ _).mpr rfl⟩

end Template
end NamedCapture
