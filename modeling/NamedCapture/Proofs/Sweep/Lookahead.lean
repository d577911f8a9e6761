import NamedCapture.Proofs.Annotated.Lookahead
import NamedCapture.Proofs.Sweep.Turn

/-!
# What a sweep finds ahead of it

Where a `[` or a `(` stands, a sweep finds by offsets and bytes what the lexeme there is:
`classBodyStart_eq`, and `openGroup_spec` for a group.  The flags of a group are counted and read
bytewise, which comes to the same because all of them are single bytes.
-/

namespace NamedCapture.Annotated.Sweep

/-! ## Flags -/

section Flags

theorem isFlagChar_iff {c : Char} :
    isFlagChar c = true ↔ (('A'.val ≤ c.val ∧ c.val ≤ 'Z'.val) ∨
      ('a'.val ≤ c.val ∧ c.val ≤ 'z'.val)) ∨ c = '-' := by
  show (decide ('A'.val ≤ c.val ∧ c.val ≤ 'Z'.val) ||
    (decide ('a'.val ≤ c.val) && decide (c.val ≤ 'z'.val)) || c == '-') = true ↔ _
  simp only [Bool.or_eq_true, Bool.and_eq_true, decide_eq_true_eq, beq_iff_eq]

theorem toNat_lt_of_isFlagChar {c : Char} (h : isFlagChar c = true) : c.toNat < 128 := by
  simp only [isFlagChar_iff, UInt32.le_iff_toNat_le] at h
  show c.val.toNat < 128
  rcases h with (⟨-, h⟩ | ⟨-, h⟩) | rfl
  · exact Nat.lt_of_le_of_lt h (by decide)
  · exact Nat.lt_of_le_of_lt h (by decide)
  · decide

theorem isFlagByte_leadByte (c : Char) : isFlagByte (Text.leadByte c) = isFlagChar c := by
  rw [Bool.eq_iff_iff, isFlagChar_iff]
  simp (disch := decide) only [isFlagByte, Bool.or_eq_true, Bool.and_eq_true, decide_eq_true_eq,
    beq_iff_eq, Text.toUInt8_le_leadByte_iff, Text.leadByte_le_toUInt8_iff, Text.leadByte_eq_iff]

/-- Read bytewise from the left, flags say what they say by their last `x`. -/
theorem foldl_switch {t : Text} (h : ∀ c ∈ t, isFlagChar c = true) (v : Option Bool)
    (negated : Bool) :
    ((Text.bytes t).foldl switch (v, negated)).1 = (verboseOf negated t).or v := by
  induction t generalizing v negated with
  | nil => rfl
  | cons c t ih =>
    have hascii := toNat_lt_of_isFlagChar (h c List.mem_cons_self)
    have hrest := ih fun d hd => h d (List.mem_cons_of_mem c hd)
    have hbyte : ∀ {d : Char}, d.toNat < 128 → (c.toUInt8 = d.toUInt8 ↔ c = d) := by
      intro d hd
      rw [← Text.leadByte_ascii hascii, Text.leadByte_eq_iff hd]
    rw [Text.bytes_cons, Text.encodeChar_ascii hascii, List.singleton_append, List.foldl_cons,
      switch, verboseOf]
    simp (disch := decide) only [hbyte]
    split_ifs
    · exact hrest v true
    · rw [hrest (some !negated) negated]
      cases verboseOf negated t <;> rfl
    · exact hrest v negated

end Flags

/-! ## Groups -/

def Opened.ofLexeme (pos : Nat) : Lexeme → Opened
  | .capturing => .capturing
  | .named name => .named (pos + 3 + Text.byteLength name) (pos + 3 + Text.byteLength name + 1)
  | .flags letters opens =>
    .flags (pos + 2 + Text.byteLength letters + 1) opens (verboseOf false letters)
  | _ => .grouping

theorem take_eq_ok {t u : Text} {i j : Nat} (h : t.Between i j u) : take t i j = .ok u := by
  rw [take, Text.cut_eq_ok_iff.mpr h]
  rfl

theorem take_front (s r : Text) : take (s ++ r) 0 (Text.byteLength s) = .ok s := by
  rw [take, Text.cut_front]
  rfl

theorem take_behind (s r : Text) :
    take (s ++ r) (Text.byteLength s) (Text.byteLength (s ++ r)) = .ok r := by
  rw [take, Text.cut_behind]
  rfl

theorem flagsOpened_eq (pos : Nat) (text : Text) :
    flagsOpened pos text = .ok (
      match (text.dropWhile isFlagChar).head? with
      | some ')' => .ofLexeme pos (.flags (text.takeWhile isFlagChar) false)
      | some ':' => .ofLexeme pos (.flags (text.takeWhile isFlagChar) true)
      | _ => .grouping) := by
  have hletters : ∀ c ∈ text.takeWhile isFlagChar, isFlagChar c = true :=
    List.all_eq_true.mp List.all_takeWhile
  have hsplit := List.takeWhile_append_dropWhile (p := isFlagChar) (l := text)
  unfold flagsOpened
  rw [Text.takeWhile_bytes isFlagByte_leadByte (fun _ => toNat_lt_of_isFlagChar),
    Text.length_bytes]
  generalize text.takeWhile isFlagChar = letters at *
  generalize text.dropWhile isFlagChar = rest at *
  subst hsplit
  dsimp only
  simp (disch := decide) only [Text.getElem?_bytes_eq_iff, take_front]
  have hverbose : ((Text.bytes letters).foldl switch (none, false)).1 = verboseOf false letters := by
    rw [foldl_switch hletters, Option.or_none]
  split_ifs with hclose hcolon
  · rw [hclose]
    show _ = Except.ok (Opened.flags _ _ _)
    rw [← hverbose]
    rfl
  · rw [hcolon]
    show _ = Except.ok (Opened.flags _ _ _)
    rw [← hverbose]
    rfl
  · split
    · contradiction
    · contradiction
    · rfl

theorem namedOpened_eq (pos : Nat) (text : Text) :
    namedOpened pos text =
      if text.takeWhile isNameChar ≠ [] ∧ (text.dropWhile isNameChar).head? = some '>' then
        .ok (.ofLexeme pos (.named (text.takeWhile isNameChar)))
      else .error (.unterminated ⟨pos⟩) := by
  have hsplit := List.takeWhile_append_dropWhile (p := isNameChar) (l := text)
  unfold namedOpened
  generalize text.takeWhile isNameChar = name at *
  generalize text.dropWhile isNameChar = rest at *
  subst hsplit
  have hempty : Text.byteLength name = 0 ↔ name = [] := by
    constructor
    · intro h
      have hlength := Text.length_le_byteLength name
      exact List.length_eq_zero_iff.mp (by omega)
    · rintro rfl
      rfl
  dsimp only
  rw [take_behind]
  show (if _ ∨ _ then _ else _) = _
  by_cases h : name ≠ [] ∧ rest.head? = some '>'
  · rw [if_pos h, if_neg (by simp [hempty, h])]
    rfl
  · rw [if_neg h, if_pos (by simpa [hempty, Decidable.or_iff_not_imp_left] using h)]
    rfl

theorem openedBy_eq (pos : Nat) (rest : Text) :
    openedBy pos rest =
      match groupOpening rest with
      | some l => .ok (.ofLexeme pos l)
      | none => .error (.unterminated ⟨pos⟩) := by
  have hhead : ∀ {c : Char} {t : Text}, (∀ tail, t = c :: tail → False) → t.head? ≠ some c := by
    intro c t h hc
    obtain ⟨tail, htail⟩ := List.head?_eq_some_iff.mp hc
    exact h tail htail
  unfold openedBy
  split
  · rfl
  · rfl
  · rfl
  · rename_i text hequal hbang
    rw [groupOpening_angle (hhead hequal) (hhead hbang), namedOpened_eq]
    dsimp only
    split <;> rfl
  · rename_i text hP _ _ hangle
    rw [groupOpening_letters (hhead hangle) (fun ⟨u, hu⟩ => hP u hu.symm), flagsOpened_eq]
    split <;> simp_all [Opened.ofLexeme]
  · rename_i hquestion
    rw [groupOpening_plain (hhead hquestion)]
    rfl

theorem opened_eq {front rest : Text} {pos : Nat} (hpos : pos = Text.byteLength front) :
    opened (front ++ '(' :: rest) pos =
      match groupOpening rest with
      | some l => .ok (.ofLexeme pos l)
      | none => .error (.unterminated ⟨pos⟩) := by
  have hbehind := take_behind (front ++ ['(']) rest
  rw [List.append_assoc, List.singleton_append, Text.byteLength_append] at hbehind
  rw [opened, hpos]
  show (take _ (_ + Text.byteLength ['(']) _ >>= _) = _
  rw [hbehind]
  exact openedBy_eq _ rest

theorem groupOpening_cases {rest : Text} {l : Lexeme} (h : groupOpening rest = some l) :
    l = .capturing ∨ l = .grouping ∨ (∃ name, l = .named name) ∨
      ∃ letters opens, l = .flags letters opens := by
  unfold groupOpening at h
  split at h
  · exact Or.inl (Option.some.inj h).symm
  · exact Or.inr (Or.inl (Option.some.inj h).symm)
  · exact Or.inr (Or.inl (Option.some.inj h).symm)
  · dsimp only at h
    split at h
    · exact Or.inr (Or.inr (Or.inl ⟨_, (Option.some.inj h).symm⟩))
    · cases h
  · dsimp only at h
    split at h
    · exact Or.inr (Or.inr (Or.inr ⟨_, _, (Option.some.inj h).symm⟩))
    · exact Or.inr (Or.inr (Or.inr ⟨_, _, (Option.some.inj h).symm⟩))
    · exact Or.inr (Or.inl (Option.some.inj h).symm)
  · exact Or.inl (Option.some.inj h).symm

/-- A sweep stands where the scan is in a context. -/
structure Stands (s : Sweep) (ctx : Context) : Prop where
  mode : s.mode = .ofPlace ctx.place
  verbose : s.verbose = ctx.verbose
  scopes : s.scopes = ctx.scopes

/-- What a sweep does with a lexeme: the cursor comes behind it, the group that it opens is
registered, and an annotation makes it copy what it has not yet copied, and the `(`. -/
structure Passes (pattern : Text) (s : Sweep) (l : Lexeme) (next : Sweep) : Prop where
  pos : next.pos = s.pos + Text.byteLength l.text
  table : next.table = s.table.registerAll (openings s.pos [l])
  copied : (l.numbered = l.text ∧ next.copied = s.copied ∧ next.output = s.output) ∨
    ∃ name kept, l = .named name ∧ pattern.Between s.copied s.pos kept ∧
      next.copied = next.pos ∧ next.output = s.output ++ (kept ++ l.numbered)

section Opening

variable {pattern front r kept : Text} {s : Sweep} {ctx : Context}

theorem openAs_spec {l : Lexeme} (hl : ∃ rest, groupOpening rest = some l)
    (hpattern : pattern = front ++ (l.text ++ r)) (hpos : s.pos = Text.byteLength front)
    (hkept : pattern.Between s.copied s.pos kept) (hctx : s.Stands ctx) :
    ∃ next, s.openAs pattern (.ofLexeme s.pos l) = .ok next ∧ Passes pattern s l next ∧
      next.Stands (ctx.after l) := by
  obtain ⟨hmode, hverbose, hscopes⟩ := hctx
  have henter : s.verbose :: s.scopes = ctx.verbose :: ctx.scopes := by rw [hverbose, hscopes]
  obtain ⟨rest, hrest⟩ := hl
  rcases groupOpening_cases hrest with rfl | rfl | ⟨name, rfl⟩ | ⟨letters, opens, rfl⟩
  · exact ⟨_, rfl, ⟨rfl, rfl, Or.inl ⟨rfl, rfl, rfl⟩⟩, hmode, hverbose, henter⟩
  · exact ⟨_, rfl, ⟨rfl, rfl, Or.inl ⟨rfl, rfl, rfl⟩⟩, hmode, hverbose, henter⟩
  · have hname : pattern.Between (s.pos + 3) (s.pos + 3 + Text.byteLength name) name := by
      refine ⟨front ++ ['(', '?', '<'], '>' :: r, ?_, ?_, ?_⟩
      · simp [hpattern, Lexeme.text]
      · rw [Text.byteLength_append, hpos]
        rfl
      · rw [Text.byteLength_append, Text.byteLength_append, hpos]
        rfl
    have hopen : s.openAs pattern (.ofLexeme s.pos (.named name)) =
        take pattern (s.pos + 3) (s.pos + 3 + Text.byteLength name) >>= fun n =>
          take pattern s.copied s.pos >>= fun kept => .ok { s.enter with
            output := s.output ++ (kept ++ ['('])
            copied := s.pos + 3 + Text.byteLength name + 1
            table := (s.table.register (some n) s.pos).2
            pos := s.pos + 3 + Text.byteLength name + 1 } := rfl
    rw [hopen, take_eq_ok hname, take_eq_ok hkept]
    refine ⟨_, rfl, ⟨?_, rfl, Or.inr ⟨name, kept, rfl, hkept, rfl, rfl⟩⟩, hmode, hverbose, henter⟩
    have hlength : Text.byteLength (Lexeme.named name).text = 3 + Text.byteLength name + 1 := by
      rw [Lexeme.text, Text.byteLength_append, Text.byteLength_append]
      rfl
    show s.pos + 3 + Text.byteLength name + 1 = _
    omega
  · have hlength : Text.byteLength (Lexeme.flags letters opens).text =
        2 + Text.byteLength letters + 1 := by
      rw [Lexeme.text, Text.byteLength_append, Text.byteLength_append]
      cases opens <;> rfl
    have hend : s.pos + 2 + Text.byteLength letters + 1 =
        s.pos + Text.byteLength (Lexeme.flags letters opens).text := by omega
    have hswitch : (verboseOf false letters).getD s.verbose =
        (verboseOf false letters).getD ctx.verbose := by rw [hverbose]
    cases opens with
    | false =>
      exact ⟨_, rfl, ⟨hend, rfl, Or.inl ⟨rfl, rfl, rfl⟩⟩, hmode, hswitch, hscopes⟩
    | true =>
      exact ⟨_, rfl, ⟨hend, rfl, Or.inl ⟨rfl, rfl, rfl⟩⟩, hmode, hswitch, henter⟩

theorem openGroup_spec {rest : Text} (hpattern : pattern = front ++ '(' :: rest)
    (hpos : s.pos = Text.byteLength front) (hkept : pattern.Between s.copied s.pos kept)
    (hctx : s.Stands ctx) :
    match groupOpening rest with
    | some l => ∃ next, s.openGroup pattern = .ok next ∧ Passes pattern s l next ∧
        next.Stands (ctx.after l)
    | none => s.openGroup pattern = .error (.unterminated ⟨s.pos⟩) := by
  have hopened := @opened_eq front rest s.pos hpos
  rw [← hpattern] at hopened
  cases hl : groupOpening rest with
  | none =>
    rw [hl] at hopened
    show opened pattern s.pos >>= _ = _
    rw [hopened]
    rfl
  | some l =>
    obtain ⟨r, hr⟩ := groupOpening_text hl
    rw [hl] at hopened
    rw [hr] at hpattern
    show ∃ next, opened pattern s.pos >>= _ = _ ∧ _
    rw [hopened]
    exact openAs_spec ⟨rest, hl⟩ hpattern hpos hkept hctx

end Opening

/-! ## Classes -/

theorem classBodyStart_eq (front rest : Text) :
    classBodyStart (front ++ '[' :: rest) (Text.byteLength front + 1) =
      Text.byteLength front + Text.byteLength (classOpening rest).text := by
  have hat : ∀ {s t : Text} {i : Nat} {c : Char}, Text.byteLength s = i → c.toNat < 128 →
      ((Text.bytes (front ++ (s ++ t)))[Text.byteLength front + i]? = some c.toUInt8 ↔
        t.head? = some c) := by
    rintro s t i c rfl hc
    rw [← Text.byteLength_append, ← List.append_assoc, Text.getElem?_bytes_eq_iff hc]
  have hfirst : ∀ {c : Char}, c.toNat < 128 →
      ((Text.bytes (front ++ '[' :: rest))[Text.byteLength front + 1]? = some c.toUInt8 ↔
        rest.head? = some c) := hat (s := ['[']) rfl
  unfold classBodyStart
  dsimp only
  by_cases hcaret : rest.head? = some '^'
  · obtain ⟨r, rfl⟩ := List.head?_eq_some_iff.mp hcaret
    have hsecond : (Text.bytes (front ++ '[' :: '^' :: r))[Text.byteLength front + 2]? =
        some ']'.toUInt8 ↔ r.head? = some ']' := hat (s := ['[', '^']) rfl (by decide)
    rw [if_pos ((hfirst (by decide)).mpr hcaret)]
    by_cases hbracket : r.head? = some ']'
    · obtain ⟨u, rfl⟩ := List.head?_eq_some_iff.mp hbracket
      exact if_pos (hsecond.mpr hbracket)
    · rw [classOpening_caret hbracket]
      exact if_neg fun h => hbracket (hsecond.mp h)
  · rw [if_neg fun h => hcaret ((hfirst (by decide)).mp h)]
    by_cases hbracket : rest.head? = some ']'
    · obtain ⟨u, rfl⟩ := List.head?_eq_some_iff.mp hbracket
      exact if_pos ((hfirst (by decide)).mpr hbracket)
    · rw [classOpening_members hcaret hbracket]
      exact if_neg fun h => hbracket ((hfirst (by decide)).mp h)

end NamedCapture.Annotated.Sweep
