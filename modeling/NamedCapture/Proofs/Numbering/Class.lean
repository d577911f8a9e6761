import NamedCapture.Proofs.Numbering.Reach

/-!
# Classes

An engine cuts a class into tokens first and then finds the brackets among them, while the scan
knows a bracket when it comes to it.  Both end a class at the same `]` when no range ends with a
`[`: the induction is on the tokens, and `Pending` says what the lexeme of a `[` has taken of the
text that an engine has still to read as the start of the class.
-/

namespace NamedCapture.Regex

/-! ## Tokens and their text -/

namespace ClassToken

/-- The text of a token, in front of a rest. -/
def Spans : ClassToken → Text → Text → Prop
  | raw c, t, rest => c ≠ '\\' ∧ t = c :: rest
  | char _, t, rest => ∃ c u, t = '\\' :: c :: u ∧ Takes isSolid u rest
  | set _, t, rest => ∃ c u, t = '\\' :: c :: u ∧ TakesInert u rest

def isQuiet (token : ClassToken) : Bool := !token.isRaw '[' && !token.isRaw ']'

theorem not_mem_of_isQuiet {c : Char} (h : (raw c).isQuiet = true) (hc : c ≠ '\\') :
    c ∉ ['\\', '[', ']'] := by
  simp only [isQuiet, isRaw, Bool.and_eq_true, Bool.not_eq_true', beq_eq_false_iff_ne,
    ne_eq] at h
  simp only [List.mem_cons, List.not_mem_nil, or_false, not_or]
  exact ⟨hc, fun heq => h.1 heq.symm, fun heq => h.2 heq.symm⟩

theorem Spans.isRaw_eq {token : ClassToken} {t rest : Text} (h : token.Spans t rest) :
    ∃ c u, t = c :: u ∧ ∀ d, d ≠ '\\' → token.isRaw d = (c == d) := by
  cases token with
  | raw c => exact ⟨c, rest, h.2, fun d _ => Bool.beq_comm⟩
  | char d =>
    obtain ⟨c, u, rfl, -⟩ := h
    exact ⟨_, _, rfl, fun d hd => (beq_eq_false_iff_ne.mpr hd.symm).symm⟩
  | set s =>
    obtain ⟨c, u, rfl, -⟩ := h
    exact ⟨_, _, rfl, fun d hd => (beq_eq_false_iff_ne.mpr hd.symm).symm⟩

theorem eq_raw {token : ClassToken} {c : Char} (h : token.isRaw c = true) : token = raw c := by
  cases token with
  | raw d => rw [show c = d from by simpa [isRaw] using h]
  | _ => cases h

end ClassToken

/-- The text of tokens, in front of a rest. -/
def SpansAll : List ClassToken → Text → Text → Prop
  | [], t, rest => t = rest
  | token :: tokens, t, rest => ∃ s, token.Spans t s ∧ SpansAll tokens s rest

theorem spansAll_append {tokens more : List ClassToken} {t rest : Text} :
    SpansAll (tokens ++ more) t rest ↔ ∃ s, SpansAll tokens t s ∧ SpansAll more s rest := by
  induction tokens generalizing t with
  | nil => simp [SpansAll]
  | cons token tokens ih =>
    simp only [List.cons_append, SpansAll, ih]
    constructor
    · intro hparts
      obtain ⟨s, htoken, u, htokens, hmore⟩ := hparts
      exact ⟨u, ⟨s, htoken, htokens⟩, hmore⟩
    · intro hparts
      obtain ⟨u, ⟨s, htoken, htokens⟩, hmore⟩ := hparts
      exact ⟨s, htoken, u, htokens, hmore⟩

theorem spansAll_of_readClassTokens {fold : Bool} {fuel depth : Nat} {t rest : Text}
    {tokens : List ClassToken} (h : readClassTokens fold fuel depth t = some (tokens, rest)) :
    SpansAll tokens t rest := by
  induction fuel generalizing depth t tokens with
  | zero => cases h
  | succ fuel ih =>
    cases t with
    | nil => cases h
    | cons c t =>
      rw [readClassTokens] at h
      split at h
      · rename_i hc
        subst hc
        obtain ⟨⟨e, s⟩, hread, h⟩ := Option.bind_eq_some_iff.mp h
        obtain ⟨⟨more, rest'⟩, hmore, h⟩ := Option.bind_eq_some_iff.mp h
        cases t with
        | nil => cases hread
        | cons d u =>
          obtain ⟨hinert, hsolid⟩ := takes_readEscape hread
          cases e with
          | char d' folds =>
            cases h
            exact ⟨s, ⟨d, u, rfl, hsolid ⟨d', folds, rfl⟩⟩, ih hmore⟩
          | set s' =>
            cases h
            exact ⟨s, ⟨d, u, rfl, hinert⟩, ih hmore⟩
      · rename_i hc
        split at h
        · cases h
          exact ⟨_, ⟨hc, rfl⟩, rfl⟩
        · obtain ⟨⟨more, rest'⟩, hmore, h⟩ := Option.bind_eq_some_iff.mp h
          cases h
          exact ⟨t, ⟨hc, rfl⟩, ih hmore⟩

/-- What an engine takes for the start of a class, and what is behind it. -/
def classStart (t : Text) : Text × Text :=
  match t with
  | '^' :: ']' :: rest => (['^', ']'], rest)
  | '^' :: rest => (['^'], rest)
  | ']' :: rest => ([']'], rest)
  | _ => ([], t)

theorem readClass_eq (fold : Bool) (t : Text) :
    readClass fold t =
      (readClassTokens fold (t.length + 1) 0 (classStart t).2).bind fun (tokens, rest) =>
        (classSet? fold ((classStart t).1.map ClassToken.raw ++ tokens)).bind fun s =>
          some (s, rest) := rfl

theorem readClassSet_skip {fold : Bool} {skip : Nat} {phase : ClassPhase}
    {outer : List ClassFrame} {top : ClassFrame} {tokens : List ClassToken} :
    readClassSet fold skip phase outer top tokens =
      readClassSet fold 0 phase outer top (tokens.drop skip) := by
  induction tokens generalizing skip with
  | nil => rw [List.drop_nil, readClassSet, readClassSet]
  | cons token tokens ih =>
    cases skip with
    | zero => rfl
    | succ n => rw [readClassSet, ih, List.drop_succ_cons]

theorem readClassSet_body {fold : Bool} {phase : ClassPhase} {outer : List ClassFrame}
    {top : ClassFrame} {token : ClassToken} {more : List ClassToken}
    (hcaret : ¬(phase = .caret ∧ token.isRaw '^' = true))
    (hdash : ¬(phase ≠ .body ∧ token.isRaw '-' = true))
    (hbracket : ¬(phase ≠ .body ∧ phase ≠ .hyphens false ∧ token.isRaw ']' = true)) :
    readClassSet fold 0 phase outer top (token :: more) =
      readClassSet fold 0 .body outer top (token :: more) := by
  have hcaret' : ¬(ClassPhase.body = .caret ∧ token.isRaw '^' = true) := by
    intro heq
    cases heq.1
  have hdash' : ¬(ClassPhase.body ≠ .body ∧ token.isRaw '-' = true) :=
    fun heq => heq.1 rfl
  have hbracket' : ¬(ClassPhase.body ≠ .body ∧ ClassPhase.body ≠ .hyphens false ∧
      token.isRaw ']' = true) := fun heq => heq.1 rfl
  unfold readClassSet
  dsimp only
  rw [if_neg hcaret, if_neg hdash, if_neg hbracket, if_neg hcaret', if_neg hdash',
    if_neg hbracket']

theorem isQuiet_of_classOp {token second : ClassToken} {op : ClassOp}
    (h : classOp? token second = some op) : token.isQuiet = true ∧ second.isQuiet = true := by
  unfold classOp? at h
  split at h
  · exact ⟨rfl, rfl⟩
  · exact ⟨rfl, rfl⟩
  · exact ⟨rfl, rfl⟩
  · cases h

/-- A range goes from a character, which is no hyphen, over a hyphen to one that is no `]`. -/
def SpellsRange (token : ClassToken) (front : List ClassToken) : Prop :=
  token.char?.isSome = true ∧ token.isRaw '-' = false ∧
    ∃ v, front = [.raw '-', v] ∧ v.isRaw ']' = false

theorem readClassSet_item {fold : Bool} {s : CharSet} {outer : List ClassFrame}
    {top : ClassFrame} {token : ClassToken} {more : List ClassToken}
    (hquiet : token.isQuiet = true)
    (h : readClassSet fold 0 .body outer top (token :: more) = some s) :
    ∃ front after top', more = front ++ after ∧
      readClassSet fold 0 .body outer top' after = some s ∧
      (front.all ClassToken.isQuiet = true ∨ SpellsRange token front) := by
  have hopen : token.isRaw '[' = false := by
    rw [ClassToken.isQuiet, Bool.and_eq_true, Bool.not_eq_true'] at hquiet
    exact hquiet.1
  have hclose : token.isRaw ']' = false := by
    rw [ClassToken.isQuiet, Bool.and_eq_true, Bool.not_eq_true', Bool.not_eq_true'] at hquiet
    exact hquiet.2
  unfold readClassSet at h
  simp only [hopen, hclose, Bool.false_eq_true, if_false, ne_eq, not_true_eq_false, false_and,
    and_false, reduceCtorEq] at h
  split at h
  · cases h
  · rename_i u more
    split at h
    · rename_i op hop
      rw [readClassSet_skip] at h
      have hsecond := (isQuiet_of_classOp hop).2
      exact ⟨[u], more, _, rfl, h, Or.inl (by rw [List.all_cons, hsecond]; rfl)⟩
    · rename_i hop
      split at h
      · rename_i v more
        split at h
        · rename_i hrange
          rw [Bool.and_eq_true, Bool.and_eq_true, Bool.not_eq_true'] at hrange
          obtain ⟨⟨hu, hv⟩, -⟩ := hrange
          obtain rfl := ClassToken.eq_raw hu
          split at h
          · rename_i first last hfirst hlast
            split at h
            · rw [readClassSet_skip] at h
              have hdash : token.isRaw '-' = false := by
                rw [← Bool.not_eq_true]
                intro hdash
                rw [ClassToken.eq_raw hdash] at hop
                cases hop
              have hchar : token.char?.isSome = true := by
                rw [hfirst]
                rfl
              exact ⟨[.raw '-', v], more, _, rfl, h, Or.inr ⟨hchar, hdash, v, rfl, hv⟩⟩
            · cases h
          · cases h
        · exact ⟨[], _, _, rfl, h, Or.inl rfl⟩
      · exact ⟨[], _, _, rfl, h, Or.inl rfl⟩

/-! ## Classes with a name -/

theorem isInert_of_asciiClass {n : String} {s : CharSet} (h : asciiClass? n = some s) :
    n.toList.all isInert = true := by
  refine isInert_of_bytes ?_
  unfold asciiClass? at h
  split at h <;> first | decide +kernel | cases h

theorem isQuiet_of_name {name : List ClassToken} {s : CharSet}
    (h : asciiClass? (String.ofList (name.filterMap ClassToken.char?)) = some s) :
    name.all ClassToken.isQuiet = true := by
  have hinert := isInert_of_asciiClass h
  rw [String.toList_ofList] at hinert
  refine List.all_eq_true.mpr fun token htoken => ?_
  cases token with
  | raw c =>
    have hc : isInert c = true :=
      List.all_eq_true.mp hinert c (List.mem_filterMap.mpr ⟨.raw c, htoken, rfl⟩)
    have hopen : c ≠ '[' := by
      intro heq
      obtain rfl := heq
      cases hc
    have hclose : c ≠ ']' := by
      intro heq
      obtain rfl := heq
      cases hc
    simpa [ClassToken.isQuiet, ClassToken.isRaw] using ⟨hopen.symm, hclose.symm⟩
  | _ => rfl

def classSign (rest : List ClassToken) : Bool × List ClassToken × Nat :=
  match rest with
  | .raw '^' :: rest => (true, rest, 3)
  | _ => (false, rest, 2)

theorem classSign_spec (rest : List ClassToken) :
    ∃ sign : List ClassToken, rest = sign ++ (classSign rest).2.1 ∧
      (classSign rest).2.2 = sign.length + 2 ∧ sign.all ClassToken.isQuiet = true := by
  unfold classSign
  split
  · exact ⟨[.raw '^'], rfl, rfl, rfl⟩
  · exact ⟨[], rfl, rfl, rfl⟩

def classNamed? (fold : Bool) (sign : Bool × List ClassToken × Nat) : Option (CharSet × Nat) :=
  match sign.2.1.drop (sign.2.1.takeWhile fun t => !t.isRaw ':').length with
  | .raw ':' :: .raw ']' :: _ =>
    (asciiClass? (String.ofList
      ((sign.2.1.takeWhile fun t => !t.isRaw ':').filterMap ClassToken.char?))).map fun s =>
        (foldAndNegate fold sign.1 s,
          sign.2.2 + (sign.2.1.takeWhile fun t => !t.isRaw ':').length + 2)
  | _ => none

theorem classNamed_spec {fold : Bool} {sign : Bool × List ClassToken × Nat} {s : CharSet}
    {length : Nat} (h : classNamed? fold sign = some (s, length)) :
    ∃ name more, sign.2.1 = name ++ .raw ':' :: .raw ']' :: more ∧
      name.all ClassToken.isQuiet = true ∧ length = sign.2.2 + name.length + 2 := by
  unfold classNamed? at h
  split at h
  · rename_i more hdrop
    obtain ⟨s', hs', heq⟩ := Option.map_eq_some_iff.mp h
    cases heq
    refine ⟨_, more, ?_, isQuiet_of_name hs', rfl⟩
    have hsplit := List.take_append_drop (sign.2.1.takeWhile fun t => !t.isRaw ':').length sign.2.1
    have htake : sign.2.1.take (sign.2.1.takeWhile fun t => !t.isRaw ':').length =
        sign.2.1.takeWhile fun t => !t.isRaw ':' :=
      (List.prefix_iff_eq_take.mp (List.takeWhile_prefix _)).symm
    rw [hdrop, htake] at hsplit
    exact hsplit.symm
  · cases h

/-- A class with a name has no bracket in it, and starts with a colon. -/
theorem namedClass_spec {fold : Bool} {tokens : List ClassToken} {s : CharSet} {length : Nat}
    (h : namedClass? fold tokens = some (s, length)) :
    ∃ inner more, tokens = .raw '[' :: .raw ':' :: (inner ++ .raw ']' :: more) ∧
      inner.all ClassToken.isQuiet = true ∧ length = inner.length + 3 := by
  unfold namedClass? at h
  split at h
  · rename_i rest
    obtain ⟨sign, hrest, hhead, hsign⟩ := classSign_spec rest
    have hnamed : classNamed? fold (classSign rest) = some (s, length) := h
    obtain ⟨name, more, hbody, hname, hlength⟩ := classNamed_spec hnamed
    refine ⟨sign ++ (name ++ [.raw ':']), more, ?_, ?_, ?_⟩
    · rw [hbody] at hrest
      rw [hrest]
      simp
    · rw [List.all_append, List.all_append, hsign, hname]
      rfl
    · rw [List.length_append, List.length_append, List.length_singleton]
      omega
  · cases h

end NamedCapture.Regex

namespace NamedCapture.Annotated

open Regex (ClassToken ClassFrame ClassPhase SpansAll readClassSet)

section

variable {annotated verbose : Bool} {byFlags scopes : List Bool} {n : Nat} {ls : List Lexeme}
  {t rest : Text}

/-! ## Lexemes in a class -/

def openingTail (negated bracket : Bool) : Text :=
  (if negated then ['^'] else []) ++ (if bracket then [']'] else [])

def Place.inner : Place → Place
  | .charClass outer => .charClass (outer + 1)
  | _ => .charClass 0

theorem Legible.of_classOpen {place : Place}
    (h : Legible annotated byFlags ⟨place, verbose, scopes⟩ ls) (hplace : place ≠ .comment)
    (ht : shownAll annotated ls = '[' :: t) :
    ∃ negated bracket ls', ls = .classOpen negated bracket :: ls' ∧
      t = openingTail negated bracket ++ shownAll annotated ls' ∧
      (Lexeme.classOpen negated bracket).faces (shownAll annotated ls') = true ∧
      Legible annotated byFlags ⟨place.inner, verbose, scopes⟩ ls' := by
  obtain ⟨l, ls', rfl, hfirst, htail⟩ := exists_first ht
  cases l with
  | plain d =>
    have hadmits := h.1
    rw [show d = '[' from hfirst] at hadmits
    cases place with
    | comment => exact absurd rfl hplace
    | charClass outer => cases hadmits
    | pattern => cases hadmits
  | classOpen negated bracket =>
    rw [Lexeme.shown_classOpen] at htail
    refine ⟨negated, bracket, ls', rfl, htail.symm, h.2.1, ?_⟩
    cases place with
    | comment => exact absurd rfl hplace
    | charClass outer => exact h.tail
    | pattern => exact h.tail
  | _ => cases hfirst

def outerPlace : Nat → Place
  | 0 => .pattern
  | n + 1 => .charClass n

theorem Legible.of_classClose
    (h : Legible annotated byFlags ⟨.charClass n, verbose, scopes⟩ ls)
    (ht : shownAll annotated ls = ']' :: t) :
    ∃ ls', ls = .classClose :: ls' ∧ shownAll annotated ls' = t ∧
      Legible annotated byFlags ⟨outerPlace n, verbose, scopes⟩ ls' := by
  obtain ⟨l, ls', rfl, hfirst, htail⟩ := exists_first ht
  cases l with
  | plain d =>
    have hadmits := h.1
    rw [show d = ']' from hfirst] at hadmits
    cases hadmits
  | classClose =>
    refine ⟨ls', rfl, by simpa using htail, ?_⟩
    cases n with
    | zero => exact h.tail
    | succ n => exact h.tail
  | _ => cases hfirst

/-! ## Tokens and lexemes -/

theorem leads_of_quiet {token : ClassToken} (hquiet : token.isQuiet = true)
    (hspans : token.Spans t rest) :
    Leads annotated byFlags ⟨.charClass n, verbose, scopes⟩ t rest := by
  intro ls ht h
  cases token with
  | raw c =>
    obtain ⟨hc, rfl⟩ := hspans
    have hmem := ClassToken.not_mem_of_isQuiet hquiet hc
    obtain ⟨ls', rfl, hrest, hlegible⟩ := h.of_member ht hmem
    exact (Reaches.refl hlegible hrest).cons rfl
  | char d =>
    obtain ⟨c, u, rfl, hu⟩ := hspans
    obtain ⟨ls', rfl, hrest, hlegible⟩ := h.of_escape nofun ht
    have hleads : Leads annotated byFlags ⟨.charClass n, verbose, scopes⟩ u rest :=
      leads_of_takesInert nofun (hu.mono Regex.isInert_of_isSolid)
    exact (hleads ls' hrest hlegible).cons rfl
  | set s =>
    obtain ⟨c, u, rfl, hu⟩ := hspans
    obtain ⟨ls', rfl, hrest, hlegible⟩ := h.of_escape nofun ht
    have hleads : Leads annotated byFlags ⟨.charClass n, verbose, scopes⟩ u rest :=
      leads_of_takesInert nofun hu
    exact (hleads ls' hrest hlegible).cons rfl

theorem leads_of_quiets {tokens : List ClassToken}
    (hquiet : tokens.all ClassToken.isQuiet = true) (hspans : SpansAll tokens t rest) :
    Leads annotated byFlags ⟨.charClass n, verbose, scopes⟩ t rest := by
  induction tokens generalizing t with
  | nil =>
    intro ls ht h
    exact Reaches.refl h (ht.trans hspans)
  | cons token tokens ih =>
    obtain ⟨s, htoken, htokens⟩ := hspans
    rw [List.all_cons, Bool.and_eq_true] at hquiet
    exact (leads_of_quiet hquiet.1 htoken).trans (ih hquiet.2 htokens)

/-- Where no lexeme would end a range with a class, no hyphen has a `[` behind it. -/
theorem Legible.ne_range (h : Legible annotated byFlags ⟨.charClass n, verbose, scopes⟩ ls)
    (hrange : endsRangeWithClass ls = false) (s : Text) :
    shownAll annotated ls ≠ '-' :: '[' :: s := by
  intro hs
  obtain ⟨ls', rfl, hs', hlegible⟩ := h.of_member hs (by decide)
  obtain ⟨negated, bracket, ls'', rfl, -⟩ := hlegible.of_classOpen nofun hs'
  cases hrange

theorem Legible.clear_of_plain {c : Char}
    (h : Legible annotated byFlags ⟨.charClass n, verbose, scopes⟩ (.plain c :: ls))
    (hc : c ≠ '-') : endsRangeWithClass ls = false := by
  have hclear : (c == '-' || !endsRangeWithClass ls) = true := h.2.2.1
  rw [beq_eq_false_iff_ne.mpr hc, Bool.false_or, Bool.not_eq_true'] at hclear
  exact hclear

theorem Legible.ne_range_of_solid {u : Text}
    (h : Legible annotated byFlags ⟨.charClass n, verbose, scopes⟩ ls)
    (hclear : endsRangeWithClass ls = false) (hu : u.all Regex.isSolid = true)
    (ht : shownAll annotated ls = u ++ rest) (s : Text) : rest ≠ '-' :: '[' :: s := by
  induction u generalizing ls with
  | nil =>
    rw [List.nil_append] at ht
    rw [← ht]
    exact h.ne_range hclear s
  | cons e u ih =>
    rw [List.all_cons, Bool.and_eq_true] at hu
    obtain ⟨ls', rfl, ht', hlegible⟩ := h.of_isInert nofun ht (Regex.isInert_of_isSolid hu.1)
    have hne : e ≠ '-' := by
      intro heq
      obtain rfl := heq
      cases hu.1
    exact ih hlegible (h.clear_of_plain hne) hu.2 ht'

/-- Behind a character that may start a range there is no hyphen with a `[` behind it. -/
theorem Legible.ne_range_of_char {token : ClassToken}
    (h : Legible annotated byFlags ⟨.charClass n, verbose, scopes⟩ ls)
    (hquiet : token.isQuiet = true) (hchar : token.char?.isSome = true)
    (hdash : token.isRaw '-' = false) (hspans : token.Spans (shownAll annotated ls) rest)
    (s : Text) : rest ≠ '-' :: '[' :: s := by
  cases token with
  | raw c =>
    obtain ⟨hc, ht⟩ := hspans
    have hmem := ClassToken.not_mem_of_isQuiet hquiet hc
    obtain ⟨ls', rfl, rfl, hlegible⟩ := h.of_member ht hmem
    have hne : c ≠ '-' := by
      intro heq
      obtain rfl := heq
      cases hdash
    exact hlegible.ne_range (h.clear_of_plain hne) s
  | char d =>
    obtain ⟨c, t, ht, u, rfl, hu⟩ := hspans
    obtain ⟨ls', rfl, hrest, hlegible⟩ := h.of_escape nofun ht
    have hclear : (!endsRangeWithClass ls') = true := h.2.2.1
    rw [Bool.not_eq_true'] at hclear
    exact hlegible.ne_range_of_solid hclear hu hrest s
  | set s' => cases hchar

/-! ## The end of a class -/

/-- What is still to be read of the text that belongs to a `[`, and what it says of the text behind
it. -/
def Pending : ClassPhase → Text → Text → Prop
  | .caret, head, t => ∃ negated bracket, head = openingTail negated bracket ∧
      (Lexeme.classOpen negated bracket).faces t = true
  | .hyphens true, head, t => head = [']'] ∨ head = [] ∧ t.head? ≠ some ']'
  | .hyphens false, head, _ | .body, head, _ => head = []

theorem pending_body (t : Text) : Pending .body [] t := rfl

theorem pending_hyphens (t : Text) : Pending (.hyphens false) [] t := rfl

theorem Pending.head_eq {phase : ClassPhase} {head : Text} {c : Char} {s : Text}
    (h : Pending phase head t) (hs : head ++ t = c :: s)
    (hcaret : ¬(phase = .caret ∧ c = '^'))
    (hbracket : ¬(phase ≠ .body ∧ phase ≠ .hyphens false ∧ c = ']')) : head = [] := by
  cases phase with
  | caret =>
    obtain ⟨negated, bracket, rfl, -⟩ := h
    cases negated with
    | true => exact absurd ⟨rfl, (List.cons.inj hs).1.symm⟩ hcaret
    | false =>
      cases bracket with
      | true => exact absurd ⟨nofun, nofun, (List.cons.inj hs).1.symm⟩ hbracket
      | false => rfl
  | hyphens none =>
    cases none with
    | true =>
      rcases h with rfl | ⟨rfl, -⟩
      · exact absurd ⟨nofun, nofun, (List.cons.inj hs).1.symm⟩ hbracket
      · rfl
    | false => exact h
  | body => exact h

theorem Pending.of_caret {head s : Text} (h : Pending .caret head t) (hs : head ++ t = '^' :: s) :
    ∃ head', s = head' ++ t ∧ Pending (.hyphens true) head' t := by
  obtain ⟨negated, bracket, rfl, hfaces⟩ := h
  cases negated with
  | true =>
    refine ⟨if bracket then [']'] else [], (List.cons.inj hs).2.symm, ?_⟩
    cases bracket with
    | true => exact Or.inl rfl
    | false => exact Or.inr ⟨rfl, by simpa [Lexeme.faces] using hfaces⟩
  | false =>
    cases bracket with
    | true => cases hs
    | false =>
      rw [show t = '^' :: s from hs] at hfaces
      cases hfaces

theorem Pending.of_bracket {phase : ClassPhase} {head s : Text} (h : Pending phase head t)
    (hs : head ++ t = ']' :: s) (hbody : phase ≠ .body) (hhyphens : phase ≠ .hyphens false) :
    s = t := by
  cases phase with
  | caret =>
    obtain ⟨negated, bracket, rfl, hfaces⟩ := h
    cases negated with
    | true => cases hs
    | false =>
      cases bracket with
      | true => exact (List.cons.inj hs).2.symm
      | false =>
        rw [show t = ']' :: s from hs] at hfaces
        cases hfaces
  | hyphens none =>
    cases none with
    | true =>
      rcases h with rfl | ⟨rfl, hne⟩
      · exact (List.cons.inj hs).2.symm
      · rw [List.nil_append] at hs
        rw [hs] at hne
        exact absurd rfl hne
    | false => exact absurd rfl hhyphens
  | body => exact absurd rfl hbody

/-- Tokens lead out of the class in which they are read, however far its start has been read. -/
def LeadsOut (annotated fold verbose : Bool) (byFlags scopes : List Bool) (s : CharSet)
    (rest : Text) (tokens : List ClassToken) : Prop :=
  ∀ ⦃phase : ClassPhase⦄ ⦃outer : List ClassFrame⦄ ⦃top : ClassFrame⦄ ⦃head : Text⦄
    ⦃ls : List Lexeme⦄, readClassSet fold 0 phase outer top tokens = some s →
    SpansAll tokens (head ++ shownAll annotated ls) rest →
    Pending phase head (shownAll annotated ls) →
    Legible annotated byFlags ⟨.charClass outer.length, verbose, scopes⟩ ls →
    Reaches annotated byFlags ⟨.pattern, verbose, scopes⟩ ls rest

section LeadsOut

variable {fold : Bool} {s : CharSet} {outer : List ClassFrame} {top : ClassFrame}
  {token : ClassToken} {more : List ClassToken}

theorem LeadsOut.of_quiets {front : List ClassToken} {phase : ClassPhase}
    (hmore : LeadsOut annotated fold verbose byFlags scopes s rest more)
    (hphase : ∀ t, Pending phase [] t) (hquiet : front.all ClassToken.isQuiet = true)
    (h : readClassSet fold 0 phase outer top more = some s)
    (hspans : SpansAll (front ++ more) (shownAll annotated ls) rest)
    (hlegible : Legible annotated byFlags ⟨.charClass outer.length, verbose, scopes⟩ ls) :
    Reaches annotated byFlags ⟨.pattern, verbose, scopes⟩ ls rest := by
  obtain ⟨u, hfront, hspans'⟩ := Regex.spansAll_append.mp hspans
  obtain ⟨ks, ls', rfl, hks, hu, hlegible'⟩ := leads_of_quiets hquiet hfront ls rfl hlegible
  rw [← hu] at hspans'
  exact (hmore h hspans' (hphase _) hlegible').append hks

/-- A class within the class starts with what belongs to its `[`. -/
theorem LeadsOut.of_nested (hmore : LeadsOut annotated fold verbose byFlags scopes s rest more)
    (h : readClassSet fold 0 .caret (top :: outer) {} more = some s)
    (ht : shownAll annotated ls = '[' :: t) (hspans : SpansAll more t rest)
    (hlegible : Legible annotated byFlags ⟨.charClass outer.length, verbose, scopes⟩ ls) :
    Reaches annotated byFlags ⟨.pattern, verbose, scopes⟩ ls rest := by
  obtain ⟨negated, bracket, ls', rfl, rfl, hfaces, hlegible'⟩ := hlegible.of_classOpen nofun ht
  exact (hmore h hspans ⟨negated, bracket, rfl, hfaces⟩ hlegible').cons rfl

/-- A class with a name within the class has nothing that belongs to its `[`, and ends with the
first `]`. -/
theorem LeadsOut.of_named {inner : List ClassToken}
    (hmore : LeadsOut annotated fold verbose byFlags scopes s rest more)
    (hinner : inner.all ClassToken.isQuiet = true)
    (h : readClassSet fold 0 .body outer top more = some s)
    (ht : shownAll annotated ls = '[' :: t)
    (hspans : SpansAll (.raw ':' :: (inner ++ .raw ']' :: more)) t rest)
    (hlegible : Legible annotated byFlags ⟨.charClass outer.length, verbose, scopes⟩ ls) :
    Reaches annotated byFlags ⟨.pattern, verbose, scopes⟩ ls rest := by
  obtain ⟨negated, bracket, ls', rfl, rfl, -, hlegible'⟩ := hlegible.of_classOpen nofun ht
  have hhead : openingTail negated bracket = [] := by
    obtain ⟨u, ⟨-, hcolon⟩, -⟩ := hspans
    cases negated with
    | true => cases hcolon
    | false =>
      cases bracket with
      | true => cases hcolon
      | false => rfl
  have hquiet : (ClassToken.raw ':' :: inner).all ClassToken.isQuiet = true := by
    rw [List.all_cons, hinner]
    rfl
  rw [hhead, List.nil_append, ← List.cons_append] at hspans
  obtain ⟨u, hfront, v, ⟨-, rfl⟩, hspans⟩ := Regex.spansAll_append.mp hspans
  obtain ⟨ks, ls'', rfl, hks, hu, hlegible''⟩ := leads_of_quiets hquiet hfront ls' rfl hlegible'
  obtain ⟨ls', rfl, rfl, hlegible⟩ := hlegible''.of_classClose hu
  refine Reaches.cons rfl (Reaches.append hks (Reaches.cons rfl ?_))
  exact hmore h hspans (pending_body _) hlegible

theorem LeadsOut.of_close (hmore : LeadsOut annotated fold verbose byFlags scopes s rest more)
    (h : (match outer with
      | [] => if more.isEmpty then some (top.close fold) else none
      | parent :: outer =>
        readClassSet fold 0 .body outer (parent.add (top.close fold)) more) = some s)
    (ht : shownAll annotated ls = ']' :: t) (hspans : SpansAll more t rest)
    (hlegible : Legible annotated byFlags ⟨.charClass outer.length, verbose, scopes⟩ ls) :
    Reaches annotated byFlags ⟨.pattern, verbose, scopes⟩ ls rest := by
  obtain ⟨ls', rfl, rfl, hlegible'⟩ := hlegible.of_classClose ht
  refine Reaches.cons rfl ?_
  cases outer with
  | nil =>
    cases more with
    | nil => exact Reaches.refl hlegible' hspans
    | cons token more => cases h
  | cons parent outer => exact hmore h hspans (pending_body _) hlegible'

theorem isQuiet_of_spellsRange {front : List ClassToken} (hquiet : token.isQuiet = true)
    (hrange : Regex.SpellsRange token front)
    (hspans : SpansAll (token :: (front ++ more)) (shownAll annotated ls) rest)
    (hlegible : Legible annotated byFlags ⟨.charClass n, verbose, scopes⟩ ls) :
    front.all ClassToken.isQuiet = true := by
  obtain ⟨hchar, hdash, v, rfl, hv⟩ := hrange
  obtain ⟨w, htoken, w', hspansu, w'', hspansv, -⟩ := hspans
  have hopen : v.isRaw '[' = false := by
    rw [← Bool.not_eq_true]
    intro hopen
    rw [ClassToken.eq_raw hopen] at hspansv
    refine hlegible.ne_range_of_char hquiet hchar hdash htoken w'' ?_
    rw [hspansu.2, hspansv.2]
  have hquietv : v.isQuiet = true := by
    rw [ClassToken.isQuiet, hopen, hv]
    rfl
  rw [List.all_cons, List.all_cons, hquietv]
  rfl

theorem LeadsOut.of_item
    (hshort : ∀ front after, more = front ++ after →
      LeadsOut annotated fold verbose byFlags scopes s rest after)
    (hquiet : token.isQuiet = true)
    (h : readClassSet fold 0 .body outer top (token :: more) = some s)
    (hspans : SpansAll (token :: more) (shownAll annotated ls) rest)
    (hlegible : Legible annotated byFlags ⟨.charClass outer.length, verbose, scopes⟩ ls) :
    Reaches annotated byFlags ⟨.pattern, verbose, scopes⟩ ls rest := by
  obtain ⟨front, after, top', rfl, hafter, hfront⟩ := Regex.readClassSet_item hquiet h
  have hall : (token :: front).all ClassToken.isQuiet = true := by
    rw [List.all_cons, hquiet, Bool.true_and]
    rcases hfront with hfront | hrange
    · exact hfront
    · exact isQuiet_of_spellsRange hquiet hrange hspans hlegible
  exact (hshort front after rfl).of_quiets pending_body hall hafter hspans hlegible

theorem LeadsOut.of_body
    (hshort : ∀ front after, more = front ++ after →
      LeadsOut annotated fold verbose byFlags scopes s rest after)
    (h : readClassSet fold 0 .body outer top (token :: more) = some s)
    (hspans : SpansAll (token :: more) (shownAll annotated ls) rest)
    (hlegible : Legible annotated byFlags ⟨.charClass outer.length, verbose, scopes⟩ ls) :
    Reaches annotated byFlags ⟨.pattern, verbose, scopes⟩ ls rest := by
  have hmore := hshort [] more rfl
  by_cases hopen : token.isRaw '[' = true
  · obtain rfl := ClassToken.eq_raw hopen
    obtain ⟨u, ⟨-, ht⟩, hspans⟩ := hspans
    unfold readClassSet at h
    simp only [hopen, if_true, ne_eq, not_true_eq_false, false_and, reduceCtorEq, if_false] at h
    split at h
    · rename_i s' length hnamed
      obtain ⟨inner, after, heq, hinner, rfl⟩ := Regex.namedClass_spec hnamed
      obtain ⟨-, rfl⟩ := List.cons.inj heq
      rw [Regex.readClassSet_skip] at h
      have hdrop : (ClassToken.raw ':' :: (inner ++ .raw ']' :: after)).drop
          (inner.length + 3 - 1) = after := by
        show (inner ++ ClassToken.raw ']' :: after).drop (inner.length + 1) = after
        rw [List.drop_append]
        simp
      rw [hdrop] at h
      have hafter := hshort (.raw ':' :: (inner ++ [.raw ']'])) after (by simp)
      exact hafter.of_named hinner h ht hspans hlegible
    · exact hmore.of_nested h ht hspans hlegible
  · by_cases hclose : token.isRaw ']' = true
    · obtain rfl := ClassToken.eq_raw hclose
      obtain ⟨u, ⟨-, ht⟩, hspans⟩ := hspans
      unfold readClassSet at h
      simp only [hopen, hclose, if_true, ne_eq, not_true_eq_false, false_and, reduceCtorEq,
        if_false] at h
      exact hmore.of_close h ht hspans hlegible
    · have hquiet : token.isQuiet = true := by
        rw [ClassToken.isQuiet, Bool.eq_false_iff.mpr hopen, Bool.eq_false_iff.mpr hclose]
        rfl
      exact LeadsOut.of_item hshort hquiet h hspans hlegible

end LeadsOut

/-- Whatever the tokens are, they lead out of the class. -/
theorem leadsOut {fold : Bool} {s : CharSet} (tokens : List ClassToken) :
    LeadsOut annotated fold verbose byFlags scopes s rest tokens := by
  -- a range and a named class take several tokens at once
  generalize hm : tokens.length = m
  induction m using Nat.strongRecOn generalizing tokens with
  | ind m ih =>
    intro phase outer top head ls h hspans hpending hlegible
    cases tokens with
    | nil => cases h
    | cons token more =>
      have hshort : ∀ front after : List ClassToken, more = front ++ after →
          LeadsOut annotated fold verbose byFlags scopes s rest after := by
        intro front after heq
        obtain rfl := heq
        refine ih after.length ?_ after rfl
        rw [← hm, List.length_cons, List.length_append]
        omega
      have hmore := hshort [] more rfl
      by_cases hcaret : phase = .caret ∧ token.isRaw '^' = true
      · obtain ⟨rfl, hraw⟩ := hcaret
        have htoken := ClassToken.eq_raw hraw
        subst htoken
        obtain ⟨u, ⟨-, ht⟩, hspans⟩ := hspans
        obtain ⟨head', rfl, hpending'⟩ := hpending.of_caret ht
        exact hmore h hspans hpending' hlegible
      · by_cases hbracket : phase ≠ .body ∧ phase ≠ .hyphens false ∧ token.isRaw ']' = true
        · obtain ⟨hbody, hhyphens, hraw⟩ := hbracket
          have htoken := ClassToken.eq_raw hraw
          subst htoken
          obtain ⟨u, ⟨-, ht⟩, hspans⟩ := hspans
          rw [hpending.of_bracket ht hbody hhyphens] at hspans
          unfold readClassSet at h
          dsimp only at h
          rw [if_neg hcaret, if_neg (fun hdash => Bool.false_ne_true hdash.2),
            if_pos ⟨hbody, hhyphens, rfl⟩] at h
          exact hmore h hspans (pending_body _) hlegible
        · have hhead : head = [] := by
            obtain ⟨u, htoken, -⟩ := hspans
            obtain ⟨c, v, ht, hfirst⟩ := htoken.isRaw_eq
            rw [hfirst '^' (by decide), beq_iff_eq] at hcaret
            rw [hfirst ']' (by decide), beq_iff_eq] at hbracket
            exact hpending.head_eq ht hcaret hbracket
          subst hhead
          by_cases hdash : phase ≠ .body ∧ token.isRaw '-' = true
          · obtain rfl := ClassToken.eq_raw hdash.2
            unfold readClassSet at h
            dsimp only at h
            rw [if_neg hcaret, if_pos hdash] at h
            have hquiet : [ClassToken.raw '-'].all ClassToken.isQuiet = true := rfl
            exact hmore.of_quiets pending_hyphens hquiet h hspans hlegible
          · rw [Regex.readClassSet_body hcaret hdash hbracket] at h
            exact LeadsOut.of_body hshort h hspans hlegible

/-- An engine takes the same text for the start of a class as the lexeme of its `[`. -/
theorem classStart_append {negated bracket : Bool}
    (h : (Lexeme.classOpen negated bracket).faces t = true) :
    Regex.classStart (openingTail negated bracket ++ t) = (openingTail negated bracket, t) := by
  cases bracket with
  | true => cases negated <;> rfl
  | false =>
    cases t with
    | nil => cases negated <;> rfl
    | cons c t =>
      have hbracket : c ≠ ']' := by
        intro heq
        obtain rfl := heq
        cases negated <;> cases h
      cases negated with
      | true => simp [Regex.classStart, openingTail, hbracket]
      | false =>
        have hcaret : c ≠ '^' := by
          intro heq
          obtain rfl := heq
          cases h
        simp [Regex.classStart, openingTail, hbracket, hcaret]

/-- Behind a `[` an engine goes on to the end of the class that the scan finds. -/
theorem reaches_of_readClass {fold : Bool} {s : CharSet}
    (h : Regex.readClass fold t = some (s, rest))
    (hlegible : Legible annotated byFlags ⟨.pattern, verbose, scopes⟩ ls)
    (ht : shownAll annotated ls = '[' :: t) :
    Reaches annotated byFlags ⟨.pattern, verbose, scopes⟩ ls rest := by
  obtain ⟨negated, bracket, ls', rfl, rfl, hfaces, hlegible'⟩ := hlegible.of_classOpen nofun ht
  rw [Regex.readClass_eq, classStart_append hfaces] at h
  obtain ⟨⟨tokens, rest'⟩, hread, h⟩ := Option.bind_eq_some_iff.mp h
  obtain ⟨s', hset, heq⟩ := Option.bind_eq_some_iff.mp h
  cases heq
  have hhead : SpansAll ((openingTail negated bracket).map ClassToken.raw)
      (openingTail negated bracket ++ shownAll annotated ls') (shownAll annotated ls') := by
    cases negated <;> cases bracket <;> simp [openingTail, SpansAll, ClassToken.Spans]
  have hspans := Regex.spansAll_append.mpr
    ⟨_, hhead, Regex.spansAll_of_readClassTokens hread⟩
  exact (leadsOut _ hset hspans ⟨negated, bracket, rfl, hfaces⟩ hlegible').cons rfl

end

end NamedCapture.Annotated
