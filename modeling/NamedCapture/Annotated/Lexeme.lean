import NamedCapture.Group
import NamedCapture.Identifier

/-!
Lexemes of an annotated pattern.  A pattern is cut into lexemes from left to right, and a lexeme
knows the text it was cut from, so a pattern is the concatenation of its lexemes' texts.  What a
character means depends on the place: in a character class only `[`, `]` and `\` count, and while
blanks are free a `#` starts a comment that the end of the line ends.
-/

namespace NamedCapture.Annotated

inductive Place where
  | pattern
  | charClass (outer : Nat)
  | comment
  deriving DecidableEq, Repr

/-- All that the text before a place says about the text after it. -/
structure Context where
  place : Place := .pattern
  verbose : Bool := false
  /-- For each open group, innermost first, what `verbose` was outside it. -/
  scopes : List Bool := []
  deriving DecidableEq, Repr

inductive Lexeme where
  | plain (c : Char)
  /-- A backslash and the character after it, which the end of the pattern may cut off. -/
  | escape (c : Option Char)
  /-- `[` with the `^` and the literal `]` that may follow at once. -/
  | classOpen (negated bracket : Bool)
  | classClose
  | capturing
  | named (name : Text)
  | grouping
  | flags (letters : Text) (opens : Bool)
  | close
  deriving DecidableEq, Repr

namespace Lexeme

def text : Lexeme → Text
  | plain c => [c]
  | escape none => ['\\']
  | escape (some c) => ['\\', c]
  | classOpen negated bracket =>
    '[' :: ((if negated then ['^'] else []) ++ (if bracket then [']'] else []))
  | classClose => [']']
  | capturing => ['(']
  | named name => ['(', '?', '<'] ++ name ++ ['>']
  | grouping => ['(']
  | flags letters opens => ['(', '?'] ++ letters ++ [if opens then ':' else ')']
  | close => [')']

def numbered : Lexeme → Text
  | named _ => ['(']
  | l => l.text

def group? : Lexeme → Option (Option Text)
  | capturing => some none
  | named name => some (some name)
  | _ => none

theorem text_ne_nil (l : Lexeme) : l.text ≠ [] := by
  cases l with
  | escape c => cases c <;> simp [text]
  | _ => simp [text]

end Lexeme

/-- Whether a run of flag letters sets or clears `x`, by its last `x`. -/
def verboseOf (negated : Bool) : Text → Option Bool
  | [] => none
  | c :: t =>
    if c = '-' then verboseOf true t
    else if c = 'x' then (verboseOf negated t).or (some !negated)
    else verboseOf negated t

def isFlagChar (c : Char) : Bool := c.isAlpha || c == '-'

def classOpening : Text → Lexeme
  | '^' :: ']' :: _ => .classOpen true true
  | '^' :: _ => .classOpen true false
  | ']' :: _ => .classOpen false true
  | _ => .classOpen false false

/-- What the `(` before a text opens; `none` when it starts an annotation that is not one. -/
def groupOpening : Text → Option Lexeme
  -- a named group in the engine's own spelling counts too, and is left as it is
  | '?' :: 'P' :: '<' :: _ => some .capturing
  | '?' :: '<' :: '=' :: _ => some .grouping
  | '?' :: '<' :: '!' :: _ => some .grouping
  | '?' :: '<' :: rest =>
    let name := rest.takeWhile isNameChar
    if name ≠ [] ∧ (rest.dropWhile isNameChar).head? = some '>' then some (.named name) else none
  | '?' :: rest =>
    let letters := rest.takeWhile isFlagChar
    match (rest.dropWhile isFlagChar).head? with
    | some ')' => some (.flags letters false)
    | some ':' => some (.flags letters true)
    | _ => some .grouping
  | _ => some .capturing

namespace Context

def enter (ctx : Context) : Context := { ctx with scopes := ctx.verbose :: ctx.scopes }

/-- The context after a `)`.  One that closes no group changes nothing. -/
def leave (ctx : Context) : Context :=
  match ctx.scopes with
  | [] => ctx
  | outer :: scopes => { ctx with verbose := outer, scopes }

def after (ctx : Context) : Lexeme → Context
  | .capturing | .named _ | .grouping => ctx.enter
  | .flags letters opens =>
    -- without a `:` they hold in the group around them, up to its end
    let inner := if opens then ctx.enter else ctx
    { inner with verbose := (verboseOf false letters).getD ctx.verbose }
  | _ => ctx

/-- The lexeme that starts with `c`, which `rest` follows, and the context after it.  `none` when
an annotation is not closed. -/
def read (ctx : Context) (c : Char) (rest : Text) : Option (Lexeme × Context) :=
  match ctx.place with
  | .comment => some (.plain c, if c = '\n' then { ctx with place := .pattern } else ctx)
  | .charClass outer =>
    if c = '\\' then some (.escape rest.head?, ctx)
    else if c = '[' then some (classOpening rest, { ctx with place := .charClass (outer + 1) })
    else if c = ']' then
      let place := match outer with
        | 0 => .pattern
        | n + 1 => .charClass n
      some (.classClose, { ctx with place })
    else some (.plain c, ctx)
  | .pattern =>
    if c = '\\' then some (.escape rest.head?, ctx)
    else if c = '[' then some (classOpening rest, { ctx with place := .charClass 0 })
    else if c = '#' ∧ ctx.verbose then some (.plain c, { ctx with place := .comment })
    else if c = '(' then (groupOpening rest).map fun l => (l, ctx.after l)
    else if c = ')' then some (.close, ctx.leave)
    else some (.plain c, ctx)

end Context

/-- The lexemes of a pattern, up to the offset of an annotation that is not closed. -/
structure Scan where
  lexemes : List Lexeme
  failure : Option Nat
  deriving DecidableEq, Repr

/-- Cut a text whose first `skip` characters belong to the lexeme before.  Counting them off one
by one makes the recursion follow the text. -/
def scanFrom (ctx : Context) (offset skip : Nat) : Text → Scan
  | [] => ⟨[], none⟩
  | c :: rest =>
    match skip with
    | n + 1 => scanFrom ctx offset n rest
    | 0 =>
      match ctx.read c rest with
      | none => ⟨[], some offset⟩
      | some (l, next) =>
        let tail := scanFrom next (offset + Text.byteLength l.text) (l.text.length - 1) rest
        ⟨l :: tail.lexemes, tail.failure⟩

def scan (pattern : Text) : Scan := scanFrom {} 0 0 pattern

def openings (offset : Nat) : List Lexeme → List GroupTable.Opening
  | [] => []
  | l :: ls =>
    let rest := openings (offset + Text.byteLength l.text) ls
    match l.group? with
    | some name => ⟨name, offset⟩ :: rest
    | none => rest

/-! ## A pattern is the concatenation of its lexemes' texts -/

theorem takeWhile_append_stop {p : Char → Bool} {t : Text} {c : Char}
    (h : (t.dropWhile p).head? = some c) : ∃ s, t = t.takeWhile p ++ c :: s := by
  obtain ⟨s, hs⟩ := List.head?_eq_some_iff.mp h
  exact ⟨s, by rw [← hs, List.takeWhile_append_dropWhile]⟩

theorem classOpening_text (rest : Text) : ∃ s, '[' :: rest = (classOpening rest).text ++ s := by
  unfold classOpening
  split <;> simp [Lexeme.text]

theorem named_text {rest : Text} (h : (rest.dropWhile isNameChar).head? = some '>') :
    ∃ s, '(' :: '?' :: '<' :: rest = (Lexeme.named (rest.takeWhile isNameChar)).text ++ s := by
  obtain ⟨s, hs⟩ := takeWhile_append_stop h
  refine ⟨s, ?_⟩
  have htext : (Lexeme.named (rest.takeWhile isNameChar)).text ++ s =
      '(' :: '?' :: '<' :: (rest.takeWhile isNameChar ++ '>' :: s) := by simp [Lexeme.text]
  rw [htext, ← hs]

theorem flags_text {rest : Text} (opens : Bool)
    (h : (rest.dropWhile isFlagChar).head? = some (if opens then ':' else ')')) :
    ∃ s, '(' :: '?' :: rest = (Lexeme.flags (rest.takeWhile isFlagChar) opens).text ++ s := by
  obtain ⟨s, hs⟩ := takeWhile_append_stop h
  refine ⟨s, ?_⟩
  have htext : (Lexeme.flags (rest.takeWhile isFlagChar) opens).text ++ s =
      '(' :: '?' :: (rest.takeWhile isFlagChar ++ (if opens then ':' else ')') :: s) := by
    simp [Lexeme.text]
  rw [htext, ← hs]

theorem groupOpening_text {rest : Text} {l : Lexeme} (h : groupOpening rest = some l) :
    ∃ s, '(' :: rest = l.text ++ s := by
  unfold groupOpening at h
  split at h
  · cases h
    exact ⟨_, rfl⟩
  · cases h
    exact ⟨_, rfl⟩
  · cases h
    exact ⟨_, rfl⟩
  · dsimp only at h
    split at h
    · rename_i hname
      cases h
      exact named_text hname.2
    · cases h
  · dsimp only at h
    split at h
    · rename_i hend
      cases h
      exact flags_text false hend
    · rename_i hend
      cases h
      exact flags_text true hend
    · cases h
      exact ⟨_, rfl⟩
  · cases h
    exact ⟨_, rfl⟩

theorem read_text {ctx next : Context} {c : Char} {rest : Text} {l : Lexeme}
    (h : ctx.read c rest = some (l, next)) : ∃ s, c :: rest = l.text ++ s := by
  have hescape : c = '\\' → ∃ s, c :: rest = (Lexeme.escape rest.head?).text ++ s := by
    intro hc
    subst hc
    cases rest with
    | nil => exact ⟨[], rfl⟩
    | cons d t => exact ⟨t, rfl⟩
  unfold Context.read at h
  split at h
  · cases h
    exact ⟨rest, rfl⟩
  · split at h
    · rename_i hc
      cases h
      exact hescape hc
    · split at h
      · rename_i hc
        cases h
        rw [hc]
        exact classOpening_text rest
      · split at h
        · rename_i hc
          cases h
          exact ⟨rest, by rw [hc]; rfl⟩
        · cases h
          exact ⟨rest, rfl⟩
  · split at h
    · rename_i hc
      cases h
      exact hescape hc
    · split at h
      · rename_i hc
        cases h
        rw [hc]
        exact classOpening_text rest
      · split at h
        · cases h
          exact ⟨rest, rfl⟩
        · split at h
          · rename_i hc
            obtain ⟨opening, hopening, heq⟩ := Option.map_eq_some_iff.mp h
            cases heq
            rw [hc]
            exact groupOpening_text hopening
          · split at h
            · rename_i hc
              cases h
              exact ⟨rest, by rw [hc]; rfl⟩
            · cases h
              exact ⟨rest, rfl⟩

theorem scanFrom_skip (ctx : Context) (offset skip : Nat) (t : Text) :
    scanFrom ctx offset skip t = scanFrom ctx offset 0 (t.drop skip) := by
  induction t generalizing skip with
  | nil => simp [scanFrom]
  | cons c t ih =>
    cases skip with
    | zero => rfl
    | succ n => simpa [scanFrom] using ih n

theorem scanFrom_of_read {ctx next : Context} {offset : Nat} {c : Char} {rest s : Text} {l : Lexeme}
    (hread : ctx.read c rest = some (l, next)) (hs : c :: rest = l.text ++ s) :
    scanFrom ctx offset 0 (c :: rest) =
      ⟨l :: (scanFrom next (offset + Text.byteLength l.text) 0 s).lexemes,
        (scanFrom next (offset + Text.byteLength l.text) 0 s).failure⟩ := by
  have hpos : 0 < l.text.length := List.length_pos_iff.mpr l.text_ne_nil
  have hdrop : rest.drop (l.text.length - 1) = s := by
    have h : (c :: rest).drop (l.text.length - 1 + 1) = s := by
      rw [Nat.sub_add_cancel hpos, hs, List.drop_left]
    rwa [List.drop_succ_cons] at h
  have hskip := scanFrom_skip next (offset + Text.byteLength l.text) (l.text.length - 1) rest
  rw [hdrop] at hskip
  rw [scanFrom, hread]
  dsimp only
  rw [hskip]

end NamedCapture.Annotated
