import NamedCapture.CharSet.Property
import NamedCapture.Regex.ClassSet

/-!
Escapes that stand for a character or for a set of characters, in a class or outside.  What else a
backslash may start is read where it means something.
-/

namespace NamedCapture.Regex

inductive Escape where
  | char (c : Char) (folds : Bool)
  | set (s : CharSet)

def hexDigit? (c : Char) : Option Nat :=
  if '0' ≤ c ∧ c ≤ '9' then some (c.toNat - '0'.toNat)
  else if 'a' ≤ c ∧ c ≤ 'f' then some (c.toNat - 'a'.toNat + 10)
  else if 'A' ≤ c ∧ c ≤ 'F' then some (c.toNat - 'A'.toNat + 10)
  else none

def isHexDigit (c : Char) : Bool := (hexDigit? c).isSome

def hexValue (digits : Text) : Nat :=
  digits.foldl (fun n c => 16 * n + (hexDigit? c).getD 0) 0

def charOf? (n : Nat) : Option Char := if n.isValidChar then some (Char.ofNat n) else none

/-- A code point in exactly `width` hexadecimal digits, or in one to eight between braces. -/
def readCodePoint (width : Nat) (t : Text) : Option (Char × Text) :=
  let digits := t.take width
  if digits.length = width ∧ digits.all isHexDigit then
    (charOf? (hexValue digits)).map (·, t.drop width)
  else
    match t with
    | c :: rest =>
      let digits := rest.takeWhile isHexDigit
      if c.toNat = 0x7B ∧ 1 ≤ digits.length ∧ digits.length ≤ 8 then
        match rest.drop digits.length with
        | d :: rest => if d.toNat = 0x7D then (charOf? (hexValue digits)).map (·, rest) else none
        | [] => none
      else none
    | [] => none

def readPropertyName : Text → Option (Text × Text)
  | [] => none
  | c :: rest =>
    if c.toNat = 0x7B then
      let name := rest.takeWhile (·.toNat ≠ 0x7D)
      match rest.drop name.length with
      | _ :: rest => some (name, rest)
      | [] => none
    else some ([c], rest)

def hexDigits : CharSet := ⟨[0x30, 0x3A, 0x41, 0x47, 0x61, 0x67]⟩

def readEscape (fold inClass : Bool) : Text → Option (Escape × Text)
  | [] => none
  | c :: rest =>
    match c with
    | 'd' => some (.set .decimalNumber, rest)
    | 'D' => some (.set CharSet.decimalNumber.compl, rest)
    | 's' => some (.set .whiteSpace, rest)
    | 'S' => some (.set CharSet.whiteSpace.compl, rest)
    | 'w' => some (.set .word, rest)
    | 'W' => some (.set CharSet.word.compl, rest)
    | 'h' => some (.set hexDigits, rest)
    | 'H' => some (.set hexDigits.compl, rest)
    | 'x' => (readCodePoint 2 rest).map fun (c, rest) => (.char c true, rest)
    | 'u' => (readCodePoint 4 rest).map fun (c, rest) => (.char c true, rest)
    | 'U' => (readCodePoint 8 rest).map fun (c, rest) => (.char c true, rest)
    | 'p' | 'P' => do
      let (name, rest) ← readPropertyName rest
      let s ← CharSet.property? name
      some (.set (foldAndNegate fold (c == 'P') s), rest)
    | 'a' => some (.char (Char.ofNat 0x07) false, rest)
    | 'e' => some (.char (Char.ofNat 0x1B) false, rest)
    | 'f' => some (.char (Char.ofNat 0x0C) false, rest)
    | 'n' => some (.char '\n' false, rest)
    | 'r' => some (.char '\r' false, rest)
    | 't' => some (.char '\t' false, rest)
    | 'v' => some (.char (Char.ofNat 0x0B) false, rest)
    | _ =>
      if inClass && c == 'b' then some (.char (Char.ofNat 0x08) false, rest)
      else if c.isDigit then none
      else if c.isAlpha && !(inClass && ['k', 'A', 'z', 'B', 'K', 'G'].contains c) then none
      else some (.char c false, rest)

/-- The tokens of a class up to the `]` that closes it, which is the last of them, and the text
after it.  `depth` counts the brackets that are open around the innermost. -/
def readClassTokens (fold : Bool) : Nat → Nat → Text → Option (List ClassToken × Text)
  | 0, _, _ => none
  | _ + 1, _, [] => none
  | fuel + 1, depth, c :: rest =>
    if c = '\\' then do
      let (e, rest) ← readEscape fold true rest
      let (tokens, rest) ← readClassTokens fold fuel depth rest
      match e with
      | .char d _ => some (.char d :: tokens, rest)
      | .set s => some (.set s :: tokens, rest)
    else if c = ']' ∧ depth = 0 then some ([.raw c], rest)
    else do
      let depth := if c = '[' then depth + 1 else if c = ']' then depth - 1 else depth
      let (tokens, rest) ← readClassTokens fold fuel depth rest
      some (.raw c :: tokens, rest)

/-- Read a class after its `[`.  A `]` at once, or after a `^`, does not close it. -/
def readClass (fold : Bool) (t : Text) : Option (CharSet × Text) := do
  let (head, rest) := match t with
    | '^' :: ']' :: rest => (['^', ']'], rest)
    | '^' :: rest => (['^'], rest)
    | ']' :: rest => ([']'], rest)
    | _ => ([], t)
  let (tokens, rest) ← readClassTokens fold (t.length + 1) 0 rest
  let s ← classSet? fold (head.map ClassToken.raw ++ tokens)
  some (s, rest)

end NamedCapture.Regex
