import Mathlib.Data.List.TakeDrop
import NamedCapture.Regex.Program
import NamedCapture.Regex.Reader

/-!
# Text that opens and closes nothing

What an engine reads beside groups, classes and comments is made of characters at which no reader of
patterns stops: numbers, names, the rest of an escape.  `TakesInert` says that a reader has taken
only such characters off the front of a text.
-/

namespace NamedCapture.Regex

/-- The characters that may open or close something. -/
def brackets : List Char := ['\\', '[', ']', '(', ')', '#']

def isInert (c : Char) : Bool := !brackets.contains c

/-- An inert character that makes no range in a class. -/
def isSolid (c : Char) : Bool := isInert c && c != '-'

/-- A reader has passed characters of a class. -/
def Takes (p : Char → Bool) (t rest : Text) : Prop := ∃ u, t = u ++ rest ∧ u.all p = true

abbrev TakesInert := Takes isInert

theorem isInert_of {p : Char → Bool} (hp : brackets.all (fun d => !p d) = true) {c : Char}
    (h : p c = true) : isInert c = true := by
  rw [isInert, Bool.not_eq_true', ← Bool.not_eq_true, List.contains_iff_mem]
  intro hmem
  have hnot := List.all_eq_true.mp hp c hmem
  rw [h] at hnot
  cases hnot

theorem isInert_of_isDigit {c : Char} (h : c.isDigit = true) : isInert c = true :=
  isInert_of (by decide) h

theorem isInert_of_isNameChar {c : Char} (h : isNameChar c = true) : isInert c = true :=
  isInert_of (by decide) h

theorem isInert_of_isSolid {c : Char} (h : isSolid c = true) : isInert c = true :=
  (Bool.and_eq_true_iff.mp h).1

theorem isSolid_of_isHexDigit {c : Char} (h : isHexDigit c = true) : isSolid c = true := by
  have hne : c ≠ '-' := by
    intro heq
    obtain rfl := heq
    cases h
  rw [isSolid, isInert_of (by decide) h]
  simpa using hne

theorem isSolid_of_toNat {c : Char} {n : Nat} (hn : brackets.all (·.toNat != n) = true)
    (hdash : n ≠ '-'.toNat) (h : c.toNat = n) : isSolid c = true := by
  have hne : c ≠ '-' := by
    intro heq
    obtain rfl := heq
    exact hdash h.symm
  rw [isSolid, isInert_of (p := (·.toNat == n)) hn (by simpa using h)]
  simpa using hne

theorem isInert_of_toNat {c : Char} {n : Nat} (hn : brackets.all (·.toNat != n) = true)
    (h : c.toNat = n) : isInert c = true :=
  isInert_of (p := (·.toNat == n)) hn (by simpa using h)

theorem all_imp {p q : Char → Bool} {t : Text} (hq : ∀ {c}, q c = true → p c = true)
    (h : t.all q = true) : t.all p = true :=
  List.all_eq_true.mpr fun c hc => hq (List.all_eq_true.mp h c hc)

theorem drop_length_takeWhile (p : Char → Bool) (t : Text) :
    t.drop (t.takeWhile p).length = t.dropWhile p := by
  have happend := List.takeWhile_append_dropWhile (p := p) (l := t)
  calc t.drop (t.takeWhile p).length
      = (t.takeWhile p ++ t.dropWhile p).drop (t.takeWhile p).length := by rw [happend]
    _ = t.dropWhile p := List.drop_left

theorem stop_of_drop {p : Char → Bool} {t rest : Text} {d : Char}
    (h : t.drop (t.takeWhile p).length = d :: rest) :
    t = t.takeWhile p ++ d :: rest ∧ p d = false := by
  rw [drop_length_takeWhile] at h
  have hstop := List.head?_dropWhile_not p t
  rw [h] at hstop
  refine ⟨?_, by simpa using hstop⟩
  rw [← h, List.takeWhile_append_dropWhile]

namespace Takes

variable {p q : Char → Bool} {t s rest : Text}

theorem refl (t : Text) : Takes p t t := ⟨[], rfl, rfl⟩

theorem trans (h : Takes p t s) (h' : Takes p s rest) : Takes p t rest := by
  obtain ⟨u, rfl, hu⟩ := h
  obtain ⟨v, rfl, hv⟩ := h'
  exact ⟨u ++ v, (List.append_assoc u v rest).symm, by rw [List.all_append, hu, hv]; rfl⟩

theorem cons {c : Char} (hc : p c = true) (h : Takes p t rest) : Takes p (c :: t) rest := by
  obtain ⟨u, rfl, hu⟩ := h
  exact ⟨c :: u, rfl, by rw [List.all_cons, hc, hu]; rfl⟩

theorem mono (hq : ∀ {c}, q c = true → p c = true) (h : Takes q t rest) : Takes p t rest := by
  obtain ⟨u, rfl, hu⟩ := h
  exact ⟨u, rfl, all_imp hq hu⟩

theorem drop {n : Nat} (h : (t.take n).all p = true) : Takes p t (t.drop n) :=
  ⟨t.take n, (List.take_append_drop n t).symm, h⟩

theorem dropTakeWhile (hq : ∀ {c}, q c = true → p c = true) (t : Text) :
    Takes p t (t.drop (t.takeWhile q).length) := by
  rw [drop_length_takeWhile]
  exact ⟨t.takeWhile q, List.takeWhile_append_dropWhile.symm, all_imp hq List.all_takeWhile⟩

end Takes

/-! ## Numbers and names -/

theorem readDecimal_spec {t rest : Text} {n : Nat} (h : readDecimal t = some (n, rest)) :
    ∃ c s, t = c :: s ∧ isInert c = true ∧ TakesInert s rest := by
  unfold readDecimal at h
  dsimp only at h
  split at h
  · rename_i hdigits
    cases h
    cases t with
    | nil => exact absurd rfl hdigits.1
    | cons c s =>
      by_cases hc : c.isDigit = true
      · refine ⟨c, s, rfl, isInert_of_isDigit hc, ?_⟩
        rw [List.takeWhile_cons_of_pos hc, List.length_cons, List.drop_succ_cons]
        exact Takes.dropTakeWhile isInert_of_isDigit s
      · rw [List.takeWhile_cons_of_neg hc] at hdigits
        exact absurd rfl hdigits.1
  · cases h

theorem takesInert_readDecimal {t rest : Text} {n : Nat} (h : readDecimal t = some (n, rest)) :
    TakesInert t rest := by
  obtain ⟨c, s, rfl, hc, hs⟩ := readDecimal_spec h
  exact hs.cons hc

def closeBounds (verbose : Bool) (lo : Nat) (hi : Option Nat) (t : Text) :
    Option (Nat × Option Nat × Text) := do
  let t ← skipBlanks verbose .none t
  match t with
  | c :: rest => if c.toNat = 0x7D then some (lo, hi, rest) else none
  | [] => none

def upperBound (verbose : Bool) (lo : Nat) (t : Text) : Option (Nat × Option Nat × Text) := do
  let t ← skipBlanks verbose .none t
  match t with
  | [] => none
  | c :: rest =>
    if c.toNat = 0x7D then closeBounds verbose lo (some lo) t
    else if c = ',' then do
      let t ← skipBlanks verbose .none rest
      match readDecimal t with
      | some (hi, t) => closeBounds verbose lo (if hi + 1 = numberLimit then none else some hi) t
      | none => closeBounds verbose lo none t
    else none

theorem readBounds_eq (verbose : Bool) (t : Text) :
    readBounds verbose t =
      (skipBlanks verbose .none t).bind fun t =>
        if t.head? = some ',' then upperBound verbose 0 t
        else (readDecimal t).bind fun (lo, t) => upperBound verbose lo t := by
  rfl

def splitSign (signed : Bool) (t : Text) : Text × Text :=
  match t with
  | '-' :: body => if signed then (['-'], body) else ([], t)
  | _ => ([], t)

theorem takesInert_splitSign (signed : Bool) (t : Text) : TakesInert t (splitSign signed t).2 := by
  unfold splitSign
  split
  · cases signed with
    | true => exact Takes.cons (by decide) (Takes.refl _)
    | false => exact Takes.refl _
  · exact Takes.refl _

def nameUpTo (closing : Char) (sign body : Text) : Option (Text × Text) :=
  match body.drop (body.takeWhile isNameChar).length with
  | c :: rest =>
    if body.takeWhile isNameChar ≠ [] ∧ c = closing then
      some (sign ++ body.takeWhile isNameChar, rest)
    else none
  | [] => none

theorem readName_append (opening t : Text) (closing : Char) (signed : Bool) :
    readName opening closing signed (opening ++ t) =
      nameUpTo closing (splitSign signed t).1 (splitSign signed t).2 := by
  have hstart : opening.isPrefixOf (opening ++ t) = true :=
    List.isPrefixOf_iff_prefix.mpr (List.prefix_append opening t)
  rw [readName, if_pos hstart, List.drop_left]
  rfl

theorem takesInert_readName {opening t name rest : Text} {closing : Char} {signed : Bool}
    (hopening : opening.all isInert = true)
    (h : readName opening closing signed t = some (name, rest)) :
    TakesInert t (closing :: rest) := by
  by_cases hstart : opening.isPrefixOf t = true
  · obtain ⟨t, rfl⟩ := List.isPrefixOf_iff_prefix.mp hstart
    rw [readName_append, nameUpTo] at h
    have hopened : TakesInert (opening ++ t) t := ⟨opening, rfl, hopening⟩
    have hname : TakesInert (splitSign signed t).2 _ :=
      Takes.dropTakeWhile isInert_of_isNameChar _
    split at h
    · rename_i hdrop
      split at h
      · rename_i hclosing
        cases h
        rw [hdrop, hclosing.2] at hname
        exact hopened.trans ((takesInert_splitSign signed t).trans hname)
      · cases h
    · cases h
  · rw [readName, if_neg hstart] at h
    cases h

/-- A name that is given as it should be is read as it is given. -/
theorem readName_of_isName {name : Text} (h : IsName name) (rest : Text) :
    readName [] '>' false (name ++ '>' :: rest) = some (name, rest) := by
  obtain ⟨hne, hchars⟩ := h
  have htake : (name ++ '>' :: rest).takeWhile isNameChar = name := by
    rw [List.takeWhile_append_of_pos hchars, List.takeWhile_cons_of_neg (by decide),
      List.append_nil]
  have hsign : splitSign false (name ++ '>' :: rest) = ([], name ++ '>' :: rest) := by
    unfold splitSign
    split <;> rfl
  have hread := readName_append [] (name ++ '>' :: rest) '>' false
  rw [List.nil_append, hsign, nameUpTo, htake, List.drop_left] at hread
  rw [hread]
  exact if_pos ⟨hne, rfl⟩

/-! ## Escapes -/

theorem mem_brackets_of_not_isInert {c : Char} (h : isInert c ≠ true) : c ∈ brackets := by
  rw [isInert, ne_eq, Bool.not_eq_true', Bool.not_eq_false] at h
  exact List.contains_iff_mem.mp h

theorem mem_looseName {t : Text} {c : Char} (hc : c ∈ t) (hbracket : c ∈ brackets) :
    c ∈ CharSet.looseName t := by
  have hself : brackets.all (fun d => decide ((d.toLower = d ∧ d ≠ 'i' ∧ d ≠ 's') ∧
      (d.toNat < 128 && d != ' ' && d != '_' && d != '-') = true)) = true := by decide
  obtain ⟨⟨hlower, hi, hs⟩, hkeeps⟩ := of_decide_eq_true (List.all_eq_true.mp hself c hbracket)
  have hkept : c ∈ (t.filter fun c => c.toNat < 128 && c != ' ' && c != '_' && c != '-').map
      Char.toLower :=
    List.mem_map.mpr ⟨c, List.mem_filter.mpr ⟨hc, hkeeps⟩, hlower⟩
  unfold CharSet.looseName
  dsimp only
  split
  · rename_i rest hstart
    split
    · exact hkept
    · rw [hstart] at hkept
      simpa [hi, hs] using hkept
  · exact hkept

theorem all_isInert_of_looseName {t : Text} (h : (CharSet.looseName t).all isInert = true) :
    t.all isInert = true := by
  rw [List.all_eq_true] at h ⊢
  intro c hc
  refine Classical.byContradiction fun hnot => ?_
  exact hnot (h c (mem_looseName hc (mem_brackets_of_not_isInert hnot)))

/-- The first bytes of brackets lie below those of small letters.  The bytes of a text are at hand
for the kernel, unlike its characters. -/
theorem isInert_of_bytes {n : String} (h : n.toByteArray.data.toList.all (97 ≤ ·) = true) :
    n.toList.all isInert = true := by
  rw [← String.utf8Encode_toList, List.utf8Encode, List.toList_data_toByteArray] at h
  refine List.all_eq_true.mpr fun c hc => Classical.byContradiction fun hnot => ?_
  have hlow : brackets.all (fun d => (String.utf8EncodeChar d).any (! 97 ≤ ·)) = true := by decide
  obtain ⟨b, hb, hlt⟩ := List.any_eq_true.mp
    (List.all_eq_true.mp hlow c (mem_brackets_of_not_isInert hnot))
  have hle := List.all_eq_true.mp h b (List.mem_flatMap.mpr ⟨c, hc, hb⟩)
  rw [hle] at hlt
  cases hlt

theorem isInert_of_category {n : String} {s : CharSet} (h : CharSet.category? n = some s) :
    n.toList.all isInert = true := by
  refine isInert_of_bytes ?_
  unfold CharSet.category? at h
  split at h <;> first | decide +kernel | cases h

theorem isInert_of_binaryProperty {n : String} {s : CharSet}
    (h : CharSet.binaryProperty? n = some s) : n.toList.all isInert = true := by
  refine isInert_of_bytes ?_
  unfold CharSet.binaryProperty? at h
  split at h <;> first | decide +kernel | cases h

theorem isInert_of_script {n : String} {s : CharSet} (h : CharSet.script? n = some s) :
    n.toList.all isInert = true := by
  have htable : CharSet.scripts.all (fun entry =>
      entry.1.all fun n => n.toByteArray.data.toList.all (97 ≤ ·)) = true := by decide +kernel
  obtain ⟨entry, hfind, -⟩ := Option.map_eq_some_iff.mp h
  have hentry := List.all_eq_true.mp htable entry (List.mem_of_find?_eq_some hfind)
  have hnames := List.find?_some hfind
  exact isInert_of_bytes (List.all_eq_true.mp hentry n (List.contains_iff_mem.mp hnames))

theorem isInert_of_lookup {lookup : String → Option CharSet}
    (hlookup : ∀ {n s}, lookup n = some s → n.toList.all isInert = true) {t : Text} {s : CharSet}
    (h : lookup (String.ofList (CharSet.looseName t)) = some s) : t.all isInert = true := by
  have hname := hlookup h
  rw [String.toList_ofList] at hname
  exact all_isInert_of_looseName hname

/-- A text that a separator cuts in two is inert when both parts are. -/
theorem isInert_of_span {t name value : Text} {sep d : Char} (hsep : isInert sep = true)
    (h : t.span (· != sep) = (name, d :: value)) (hname : name.all isInert = true)
    (hvalue : value.all isInert = true) : t.all isInert = true := by
  rw [List.span_eq_takeWhile_dropWhile, ← drop_length_takeWhile] at h
  obtain ⟨htake, hdrop⟩ := Prod.mk.inj h
  obtain ⟨hsplit, hstop⟩ := stop_of_drop hdrop
  have hd : d = sep := by simpa using hstop
  rw [hsplit, htake, hd, List.all_append, List.all_cons, hname, hsep, hvalue]
  rfl

theorem isInert_of_plain {t : Text} {s : CharSet}
    (h : ((CharSet.binaryProperty? (String.ofList (CharSet.looseName t))).or
      ((CharSet.category? (String.ofList (CharSet.looseName t))).or
        (CharSet.script? (String.ofList (CharSet.looseName t))))) = some s) :
    t.all isInert = true := by
  rcases Option.or_eq_some_iff.mp h with hbinary | ⟨-, h⟩
  · exact isInert_of_lookup isInert_of_binaryProperty hbinary
  · rcases Option.or_eq_some_iff.mp h with hcategory | ⟨-, hscript⟩
    · exact isInert_of_lookup isInert_of_category hcategory
    · exact isInert_of_lookup isInert_of_script hscript

theorem isInert_of_valued {name val : Text} {s : CharSet}
    (h : (match String.ofList (CharSet.looseName name) with
      | "generalcategory" | "gc" => CharSet.category? (String.ofList (CharSet.looseName val))
      | "script" | "sc" => CharSet.script? (String.ofList (CharSet.looseName val))
      | _ => none) = some s) : name.all isInert = true ∧ val.all isInert = true := by
  have hname : ∀ n : String, String.ofList (CharSet.looseName name) = n →
      n.toByteArray.data.toList.all (97 ≤ ·) = true → name.all isInert = true := by
    intro n heq hbytes
    obtain rfl := heq
    have hloose := isInert_of_bytes hbytes
    rw [String.toList_ofList] at hloose
    exact all_isInert_of_looseName hloose
  split at h
  · rename_i heq
    exact ⟨hname _ heq (by decide +kernel), isInert_of_lookup isInert_of_category h⟩
  · rename_i heq
    exact ⟨hname _ heq (by decide +kernel), isInert_of_lookup isInert_of_category h⟩
  · rename_i heq
    exact ⟨hname _ heq (by decide +kernel), isInert_of_lookup isInert_of_script h⟩
  · rename_i heq
    exact ⟨hname _ heq (by decide +kernel), isInert_of_lookup isInert_of_script h⟩
  · cases h

theorem isInert_of_property {t : Text} {s : CharSet} (h : CharSet.property? t = some s) :
    t.all isInert = true := by
  unfold CharSet.property? at h
  dsimp only at h
  split at h
  · rename_i name _ val hspan
    split at h
    · rename_i hlast
      obtain ⟨s', hs', -⟩ := Option.map_eq_some_iff.mp h
      obtain ⟨hname, hval⟩ := isInert_of_valued hs'
      obtain ⟨init, rfl⟩ := List.getLast?_eq_some_iff.mp hlast
      rw [List.dropLast_concat] at hname
      have hwhole : (init ++ ['!']).all isInert = true := by
        rw [List.all_append, hname]
        rfl
      exact isInert_of_span (by decide) hspan hwhole hval
    · obtain ⟨hname, hval⟩ := isInert_of_valued h
      exact isInert_of_span (by decide) hspan hname hval
  · split at h
    · rename_i hspan
      obtain ⟨hname, hval⟩ := isInert_of_valued h
      exact isInert_of_span (by decide) hspan hname hval
    · exact isInert_of_plain h

theorem takes_readCodePoint {width : Nat} {t rest : Text} {c : Char}
    (h : readCodePoint width t = some (c, rest)) : Takes isSolid t rest := by
  unfold readCodePoint at h
  dsimp only at h
  split at h
  · rename_i hdigits
    obtain ⟨d, -, heq⟩ := Option.map_eq_some_iff.mp h
    cases heq
    exact Takes.drop (all_imp isSolid_of_isHexDigit hdigits.2)
  · split at h
    · rename_i d t _
      split at h
      · rename_i hopen
        split at h
        · rename_i e rest hdrop
          split at h
          · rename_i hclose
            obtain ⟨d, -, heq⟩ := Option.map_eq_some_iff.mp h
            cases heq
            have hdigits : Takes isSolid t _ := Takes.dropTakeWhile isSolid_of_isHexDigit t
            rw [hdrop] at hdigits
            have hbrace := Takes.cons (isSolid_of_toNat (by decide) (by decide) hclose)
              (Takes.refl rest)
            exact Takes.cons (isSolid_of_toNat (by decide) (by decide) hopen.1)
              (hdigits.trans hbrace)
          · cases h
        · cases h
      · cases h
    · cases h

theorem takesInert_readPropertyName {t name rest : Text}
    (h : readPropertyName t = some (name, rest)) (hname : name.all isInert = true) :
    TakesInert t rest := by
  unfold readPropertyName at h
  split at h
  · cases h
  · rename_i c t
    split at h
    · rename_i hopen
      dsimp only at h
      split at h
      · rename_i d rest hdrop
        cases h
        obtain ⟨hsplit, hstop⟩ := stop_of_drop hdrop
        have hclose : d.toNat = 0x7D := by simpa using hstop
        have hbrace := Takes.cons (isInert_of_toNat (by decide) hclose)
          (Takes.refl rest)
        have hbody : TakesInert t (d :: rest) := ⟨_, hsplit, hname⟩
        exact Takes.cons (isInert_of_toNat (by decide) hopen) (hbody.trans hbrace)
      · cases h
    · cases h
      exact ⟨[c], rfl, hname⟩

/-- What an escape takes behind its first character is inert.  One that stands for a character has
no hyphen there either. -/
structure EscapeTakes (e : Escape) (t rest : Text) : Prop where
  inert : TakesInert t rest
  solid : (∃ d folds, e = .char d folds) → Takes isSolid t rest

theorem EscapeTakes.nothing (e : Escape) (t : Text) : EscapeTakes e t t :=
  ⟨Takes.refl t, fun _ => Takes.refl t⟩

theorem EscapeTakes.of_codePoint {width : Nat} {e : Escape} {t rest : Text}
    (h : (readCodePoint width t).map (fun read => (Escape.char read.1 true, read.2)) =
      some (e, rest)) : EscapeTakes e t rest := by
  obtain ⟨⟨d, rest'⟩, hread, heq⟩ := Option.map_eq_some_iff.mp h
  cases heq
  have hsolid := takes_readCodePoint hread
  exact ⟨hsolid.mono isInert_of_isSolid, fun _ => hsolid⟩

theorem EscapeTakes.of_property {fold negated : Bool} {e : Escape} {t rest : Text}
    (h : (readPropertyName t).bind (fun read => (CharSet.property? read.1).bind fun s =>
      some (Escape.set (foldAndNegate fold negated s), read.2)) = some (e, rest)) :
    EscapeTakes e t rest := by
  obtain ⟨⟨name, rest'⟩, hread, h⟩ := Option.bind_eq_some_iff.mp h
  obtain ⟨s, hs, heq⟩ := Option.bind_eq_some_iff.mp h
  cases heq
  refine ⟨takesInert_readPropertyName hread (isInert_of_property hs), ?_⟩
  intro hparts
  obtain ⟨d, folds, hd⟩ := hparts
  cases hd

theorem takes_readEscape {fold inClass : Bool} {c : Char} {t rest : Text} {e : Escape}
    (h : readEscape fold inClass (c :: t) = some (e, rest)) : EscapeTakes e t rest := by
  -- most letters are the whole escape
  have hhere : ∀ e' : Escape, some (e', t) = some (e, rest) → EscapeTakes e t rest := by
    intro e' heq
    cases heq
    exact .nothing _ _
  unfold readEscape at h
  dsimp only at h
  split at h
  case h_9 => exact .of_codePoint h
  case h_10 => exact .of_codePoint h
  case h_11 => exact .of_codePoint h
  case h_12 => exact .of_property h
  case h_13 => exact .of_property h
  case h_21 =>
    split at h
    · exact hhere _ h
    · split at h
      · cases h
      · split at h
        · cases h
        · exact hhere _ h
  all_goals exact hhere _ h

/-! ## What follows a backslash -/

namespace Reading

/-- A reader has gone on to an inert rest, and noted nothing but references. -/
structure Ahead (r next : Reading) (t : Text) : Prop where
  takes : TakesInert t next.rest
  modes : next.modes = r.modes
  groupCount : next.groupCount = r.groupCount
  names : next.names = r.names

theorem Ahead.of_rest {r next : Reading} {s t : Text} (h : Ahead { r with rest := s } next t) :
    Ahead r next t := ⟨h.takes, h.modes, h.groupCount, h.names⟩

theorem numberedRef_spec {limit group : Nat} {r next : Reading}
    (h : r.numberedRef limit = some (group, next)) :
    ∃ c t, r.rest = c :: t ∧ isInert c = true ∧ Ahead r next t := by
  obtain ⟨⟨n, rest⟩, hread, h⟩ := Option.bind_eq_some_iff.mp h
  obtain ⟨c, t, ht, hc, htakes⟩ := readDecimal_spec hread
  dsimp only at h
  split at h
  · cases h
    exact ⟨c, t, ht, hc, htakes, rfl, rfl, rfl⟩
  · cases h

theorem namedRef_spec {opening : Text} {closing : Char} {signed : Bool} {group : Nat}
    {r next : Reading} (hopening : opening.all isInert = true)
    (h : r.namedRef opening closing signed = some (group, next)) :
    Ahead r { next with rest := closing :: next.rest } r.rest := by
  obtain ⟨⟨name, rest⟩, hread, h⟩ := Option.bind_eq_some_iff.mp h
  obtain ⟨n, -, heq⟩ := Option.bind_eq_some_iff.mp h
  cases heq
  exact ⟨takesInert_readName hopening hread, rfl, rfl, rfl⟩

theorem ahead_namedRef {opening : Text} {closing : Char} {signed : Bool} {group : Nat}
    {r next : Reading} (hopening : opening.all isInert = true) (hclosing : isInert closing = true)
    (h : r.namedRef opening closing signed = some (group, next)) : Ahead r next r.rest := by
  obtain ⟨htakes, hmodes, hcount, hnames⟩ := namedRef_spec hopening h
  exact ⟨htakes.trans (Takes.cons hclosing (Takes.refl _)), hmodes, hcount, hnames⟩

/-- A backslash takes one character of any kind, and behind it only inert ones. -/
theorem readBackslash_spec {limit : Nat} {r next : Reading} {e : Expr}
    (h : r.readBackslash limit = some (e, next)) :
    ∃ c t, r.rest = c :: t ∧ Ahead r next t ∧ Program.groupsOf e = [] := by
  unfold readBackslash at h
  split at h
  · cases h
  · rename_i c t hrest
    refine ⟨c, t, hrest, ?_⟩
    dsimp only at h
    split at h
    case h_1 =>
      obtain ⟨⟨group, r'⟩, href, heq⟩ := Option.map_eq_some_iff.mp h
      cases heq
      refine ⟨?_, rfl⟩
      split at href
      · exact (ahead_namedRef (by decide) (by decide) href).of_rest
      · exact (ahead_namedRef (by decide) (by decide) href).of_rest
    case h_10 =>
      split at h
      · obtain ⟨⟨group, r'⟩, href, heq⟩ := Option.map_eq_some_iff.mp h
        cases heq
        obtain ⟨d, s, hs, -, hahead⟩ := numberedRef_spec href
        rw [hrest] at hs
        cases hs
        exact ⟨hahead, rfl⟩
      · obtain ⟨⟨escape, rest⟩, hread, heq⟩ := Option.map_eq_some_iff.mp h
        rw [hrest] at hread
        have htakes := (takes_readEscape hread).inert
        cases escape with
        | char d folds =>
          cases heq
          refine ⟨⟨htakes, rfl, rfl, rfl⟩, ?_⟩
          dsimp only [charExpr]
          split <;> rfl
        | set s =>
          cases heq
          exact ⟨⟨htakes, rfl, rfl, rfl⟩, rfl⟩
    all_goals
      first
      | cases h
        exact ⟨⟨Takes.refl _, rfl, rfl, rfl⟩, rfl⟩
      | split at h
        · cases h
        · cases h
          exact ⟨⟨Takes.refl _, rfl, rfl, rfl⟩, rfl⟩

end Reading

end NamedCapture.Regex
