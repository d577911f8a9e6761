import NamedCapture.Identifier
import NamedCapture.Regex.Escape
import NamedCapture.Regex.Expr

/-!
Reading patterns.  `Pattern.read?` gives the expression that a pattern spells, the number of its
groups, what its names are bound to and which groups it refers back to, or nothing when the
pattern is no regular expression.
-/

namespace NamedCapture.Regex

structure Modes where
  ignoreCase : Bool := false
  multiline : Bool := false
  dotAll : Bool := false
  /-- Quantifiers are lazy by themselves, and greedy with `?`. -/
  swapGreed : Bool := false
  verbose : Bool := false
  deriving DecidableEq, Repr

structure Pattern where
  expr : Expr
  groupCount : Nat
  /-- The groups of the names that the pattern gives itself, later ones first. -/
  names : List (Text × Nat)
  refs : List Nat

structure Reading where
  rest : Text
  modes : Modes := {}
  groupCount : Nat := 0
  names : List (Text × Nat) := []
  refs : List Nat := []
  /-- A group was referred to by its number. -/
  numbered : Bool := false

inductive Blank where
  | none
  | line
  | group

def skipBlanks (verbose : Bool) : Blank → Text → Option Text
  | .group, [] => .none
  | _, [] => some []
  | .line, c :: t => skipBlanks verbose (if c = '\n' then .none else .line) t
  | .group, '\\' :: _ :: t => skipBlanks verbose .group t
  | .group, c :: t => skipBlanks verbose (if c = ')' then .none else .group) t
  | .none, '(' :: '?' :: '#' :: t => skipBlanks verbose .group t
  | .none, c :: t =>
    if verbose && c == '#' then skipBlanks verbose .line t
    else if verbose && (c == ' ' || c == '\n' || c == '\r' || c == '\t') then
      skipBlanks verbose .none t
    else some (c :: t)

def numberLimit : Nat := 0x10000000000000000

def signedLimit : Nat := 0x8000000000000000

def readDecimal (t : Text) : Option (Nat × Text) :=
  let digits := t.takeWhile Char.isDigit
  let n := digits.foldl (fun n c => 10 * n + (c.toNat - '0'.toNat)) 0
  if digits ≠ [] ∧ n < numberLimit then some (n, t.drop digits.length) else none

def readName (opening : Text) (closing : Char) (signed : Bool) (t : Text) :
    Option (Text × Text) :=
  if opening.isPrefixOf t then
    let t := t.drop opening.length
    let (sign, body) := match t with
      | '-' :: body => if signed then (['-'], body) else ([], t)
      | _ => ([], t)
    let name := body.takeWhile isNameChar
    match body.drop name.length with
    | c :: rest => if name ≠ [] ∧ c = closing then some (sign ++ name, rest) else none
    | [] => none
  else none

def readBounds (verbose : Bool) (t : Text) : Option (Nat × Option Nat × Text) := do
  let t ← skipBlanks verbose .none t
  let (lo, t) ← if t.head? = some ',' then some (0, t) else readDecimal t
  let t ← skipBlanks verbose .none t
  let (hi, t) ← match t with
    | [] => none
    | c :: rest =>
      if c.toNat = 0x7D then some (some lo, t)
      else if c = ',' then do
        let t ← skipBlanks verbose .none rest
        match readDecimal t with
        | some (hi, t) => some (if hi + 1 = numberLimit then none else some hi, t)
        | none => some (none, t)
      else none
  let t ← skipBlanks verbose .none t
  match t with
  | c :: rest => if c.toNat = 0x7D then some (lo, hi, rest) else none
  | [] => none

/-- The bounds that a quantifier stands for, and the text after it.  Nothing when there is none at
the front of the text; a brace that starts no repetition is one of its kind. -/
def readQuantifier (verbose : Bool) : Text → Option (Nat × Option Nat × Text)
  | '?' :: rest => some (0, some 1, rest)
  | '*' :: rest => some (0, none, rest)
  | '+' :: rest => some (1, none, rest)
  | c :: rest => if c.toNat = 0x7B then readBounds verbose rest else none
  | [] => none

namespace Reading

def skip (r : Reading) : Option Reading :=
  (skipBlanks r.modes.verbose .none r.rest).map fun rest => { r with rest }

def close (r : Reading) : Option Reading := do
  let r ← r.skip
  match r.rest with
  | ')' :: rest => some { r with rest }
  | _ => none

def openGroup (r : Reading) (name : Option Text) (rest : Text) : Reading :=
  let index := r.groupCount + 1
  { r with
    rest, groupCount := index
    names := match name with
      | some n => (n, index) :: r.names
      | none => r.names }

/-- Refer to a group by number.  `limit` keeps numbers down to what the pattern has room for. -/
def numberedRef (limit : Nat) (r : Reading) : Option (Nat × Reading) := do
  let (group, rest) ← readDecimal r.rest
  if group < limit then
    some (group, { r with rest, refs := group :: r.refs, numbered := true })
  else none

/-- The group of a name, or of a number, which counts back from here when it is negative. -/
def groupOf? (r : Reading) (name : Text) : Option Nat :=
  match r.names.lookup name with
  | some group => some group
  | none =>
    match name with
    | '-' :: digits => do
      let (n, rest) ← readDecimal digits
      if rest ≠ [] ∨ signedLimit < n then none
      else if n = 0 then some 0
      else if n ≤ r.groupCount + 1 then some (r.groupCount + 1 - n)
      else none
    | digits => do
      let (n, rest) ← readDecimal digits
      if rest = [] ∧ n < signedLimit then some n else none

def namedRef (opening : Text) (closing : Char) (signed : Bool) (r : Reading) :
    Option (Nat × Reading) := do
  let (name, rest) ← readName opening closing signed r.rest
  let group ← r.groupOf? name
  some (group, { r with rest, refs := group :: r.refs })

def charExpr (r : Reading) (c : Char) (folds : Bool) : Expr :=
  if folds && r.modes.ignoreCase then .set (.ofFolded c) else .ofChar c

def readBackslash (limit : Nat) (r : Reading) : Option (Expr × Reading) :=
  match r.rest with
  | [] => none
  | c :: rest =>
    let next := { r with rest }
    let notBraced (a : Anchor) : Option (Expr × Reading) :=
      if (rest.head?.map Char.toNat) = some 0x7B then none else some (.anchor a, next)
    match c with
    | 'k' =>
      let ref := match rest.head? with
        | some '\x27' => next.namedRef ['\x27'] '\x27' true
        | _ => next.namedRef ['<'] '>' true
      ref.map fun (group, r) => (.backref group, r)
    | 'A' => some (.anchor .textStart, next)
    | 'z' => some (.anchor .textEnd, next)
    | 'b' => notBraced .wordBoundary
    | 'B' => notBraced .notWordBoundary
    | '<' => some (.anchor .wordStart, next)
    | '>' => some (.anchor .wordEnd, next)
    | 'K' => some (.keepOut, next)
    | 'G' => some (.searchStart, next)
    | _ =>
      if c.isDigit then (numberedRef limit r).map fun (group, r) => (.backref group, r)
      else (readEscape r.modes.ignoreCase false r.rest).map fun (e, rest) =>
        match e with
        | .char d folds => (r.charExpr d folds, { r with rest })
        | .set s => (.set s, { r with rest })

inductive FlagEnd where
  | closed (r : Reading)
  | opened (r : Reading)

/-- Read flags up to the `)` or `:` that ends them.  `read` counts the characters up to here, and
`negated` says that a `-` came before. -/
def readFlags : Nat → Nat → Bool → Reading → Option FlagEnd
  | 0, _, _, _ => none
  | fuel + 1, read, negated, r => do
    let before := r.rest.length
    let r ← r.skip
    let read := read + (before - r.rest.length)
    match r.rest with
    | [] => none
    | c :: rest =>
      let next (modes : Modes) : Option FlagEnd :=
        readFlags fuel (read + 1) negated { r with rest, modes }
      match c with
      | 'i' => next { r.modes with ignoreCase := !negated }
      | 'm' => next { r.modes with multiline := !negated }
      | 's' => next { r.modes with dotAll := !negated }
      | 'U' => next { r.modes with swapGreed := !negated }
      | 'x' => next { r.modes with verbose := !negated }
      | 'u' => if negated then none else next r.modes
      | '-' => if negated then none else readFlags fuel (read + 1) true { r with rest }
      | ')' =>
        if read = 0 || (negated && read == 1) then none else some (.closed { r with rest })
      | ':' => if negated && read == 1 then none else some (.opened { r with rest })
      | _ => none

end Reading

def Expr.ofList : List Expr → Expr
  | [] => .empty
  | [e] => e
  | es => .concat es

def nestingLimit : Nat := 64

open Reading

mutual

def readExpr (limit : Nat) : Nat → Nat → Reading → Option (Expr × Reading)
  | 0, _, _ => none
  | fuel + 1, depth, r => do
    let (es, r) ← readBranch limit fuel depth r
    let r ← r.skip
    if r.rest.head? = some '|' then
      let (alternatives, r) ← readAlternatives limit fuel depth r
      some (.alt (Expr.ofList es :: alternatives), r)
    -- a pattern that names groups may not refer to any by number
    else if r.numbered && !r.names.isEmpty then none
    else some (Expr.ofList es, r)

def readAlternatives (limit : Nat) : Nat → Nat → Reading → Option (List Expr × Reading)
  | 0, _, _ => none
  | fuel + 1, depth, r =>
    match r.rest with
    | '|' :: rest => do
      let (es, r) ← readBranch limit fuel depth { r with rest }
      let r ← r.skip
      let (alternatives, r) ← readAlternatives limit fuel depth r
      some (Expr.ofList es :: alternatives, r)
    | _ => some ([], r)

def readBranch (limit : Nat) : Nat → Nat → Reading → Option (List Expr × Reading)
  | 0, _, _ => none
  | fuel + 1, depth, r =>
    if r.rest = [] then some ([], r)
    else do
      let (e, next) ← readPiece limit fuel depth r
      if next.rest.length = r.rest.length then some ([], r)
      else
        let (es, last) ← readBranch limit fuel depth next
        some (if e.isEmpty then es else e :: es, last)

def readPiece (limit : Nat) : Nat → Nat → Reading → Option (Expr × Reading)
  | 0, _, _ => none
  | fuel + 1, depth, r => do
    let (e, r) ← readAtom limit fuel depth r
    let r ← r.skip
    match readQuantifier r.modes.verbose r.rest with
    | none => some (e, r)
    | some (lo, hi, rest) =>
      if !e.isRepeatable then none
      else
        let r ← { r with rest }.skip
        let (greedy, r) := match r.rest with
          | '?' :: rest => (false, { r with rest })
          | _ => (true, r)
        let e := Expr.rep e lo hi (greedy != r.modes.swapGreed)
        match r.rest with
        | '+' :: rest => some (.atomic e, { r with rest })
        | _ => some (e, r)

/-- One atom; an empty one where a piece may not begin. -/
def readAtom (limit : Nat) : Nat → Nat → Reading → Option (Expr × Reading)
  | 0, _, _ => none
  | fuel + 1, depth, r => do
    let r ← r.skip
    match r.rest with
    | [] => some (.empty, r)
    | c :: rest =>
      let next := { r with rest }
      match c with
      | '.' =>
        some (.set (if r.modes.dotAll then .all else (CharSet.singleton '\n').compl), next)
      | '^' => some (.anchor (if r.modes.multiline then .lineStart else .textStart), next)
      | '$' => some (.anchor (if r.modes.multiline then .lineEnd else .textEnd), next)
      | '(' => readGroup limit fuel (depth + 1) next
      | '\\' => next.readBackslash limit
      | '+' | '*' | '?' | '|' | ')' => some (.empty, r)
      | '[' =>
        (readClass r.modes.ignoreCase rest).map fun (s, rest) => (.set s, { r with rest })
      | _ => some (r.charExpr c true, next)

def readGroup (limit : Nat) : Nat → Nat → Reading → Option (Expr × Reading)
  | 0, _, _ => none
  | fuel + 1, depth, r =>
    if nestingLimit ≤ depth then none
    else do
      let r ← r.skip
      let inner (r : Reading) (build : Expr → Expr) : Option (Expr × Reading) := do
        let (e, r) ← readExpr limit fuel depth r
        let r ← r.close
        some (build e, r)
      match r.rest with
      | '?' :: '=' :: rest => inner { r with rest } (.look false false)
      | '?' :: '!' :: rest => inner { r with rest } (.look false true)
      | '?' :: '<' :: '=' :: rest => inner { r with rest } (.look true false)
      | '?' :: '<' :: '!' :: rest => inner { r with rest } (.look true true)
      | '?' :: '<' :: rest =>
        let (name, rest) ← readName [] '>' false rest
        inner (r.openGroup (some name) rest) (.group (r.groupCount + 1))
      | '?' :: 'P' :: '<' :: rest =>
        let (name, rest) ← readName [] '>' false rest
        inner (r.openGroup (some name) rest) (.group (r.groupCount + 1))
      | '?' :: 'P' :: '=' :: rest =>
        let (group, r) ← { r with rest }.namedRef [] ')' false
        some (.backref group, r)
      | '?' :: '>' :: rest => inner { r with rest } .atomic
      | '?' :: '(' :: rest => readCondition limit fuel depth { r with rest }
      | '?' :: rest =>
        match ← Reading.readFlags (rest.length + 1) 0 false { r with rest } with
        | .closed r => some (.empty, r)
        | .opened inside =>
          let (e, inside) ← readExpr limit fuel depth inside
          match inside.rest with
          | ')' :: rest => some (e, { inside with rest, modes := r.modes })
          | _ => none
      | _ => inner (r.openGroup none r.rest) (.group (r.groupCount + 1))

def readCondition (limit : Nat) : Nat → Nat → Reading → Option (Expr × Reading)
  | 0, _, _ => none
  | fuel + 1, depth, r => do
    let (test, r) ← match r.rest with
      | [] => none
      | c :: _ =>
        if c.isDigit then (numberedRef limit r).map fun (group, r) => (.backref group, r)
        else if c = '\x27' then
          (r.namedRef ['\x27'] '\x27' true).map fun (group, r) => (.backref group, r)
        else if c = '<' then (r.namedRef ['<'] '>' true).map fun (group, r) => (.backref group, r)
        else readExpr limit fuel depth r
    -- a reference by itself asks whether its group is set
    let isGroup := match test with
      | .backref group => some group
      | _ => none
    let opened := r.groupCount
    let r ← r.close
    let (body, after) ← readExpr limit fuel depth r
    let test ← match isGroup with
      | some group => if group ≤ opened then some (Expr.isSet group) else none
      | none => some test
    if after.rest.length = r.rest.length then
      if isGroup.isNone then none
      else
        let r ← after.close
        some (test, r)
    else
      let (yes, no) := match body with
        | .alt [yes, no] => (yes, no)
        | .alt (yes :: no) => (yes, .alt no)
        | e => (e, .empty)
      let r ← after.close
      if yes.isEmpty && no.isEmpty then some (test, r) else some (.cond test yes no, r)

end

/-- Enough fuel for a pattern: each character takes a few calls. -/
def readingFuel (t : Text) : Nat := 8 * (t.length + 2)

def Pattern.read? (t : Text) : Option Pattern := do
  let (expr, r) ← readExpr (Text.byteLength t / 2) (readingFuel t) 0 { rest := t }
  if r.rest ≠ [] then none
  else if r.refs.all fun group => 1 ≤ group && group ≤ r.groupCount then
    some { expr, groupCount := r.groupCount, names := r.names, refs := r.refs }
  else none

end NamedCapture.Regex
