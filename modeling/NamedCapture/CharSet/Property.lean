import NamedCapture.CharSet.Letter
import NamedCapture.CharSet.Mark
import NamedCapture.CharSet.Number
import NamedCapture.CharSet.Punctuation
import NamedCapture.CharSet.Blank
import NamedCapture.CharSet.Script
import NamedCapture.CharSet.Word

/-!
Sets of characters by the name of a property.  Names are compared loosely: case, blanks,
underscores and hyphens do not count, nor does a leading `is`.
-/

namespace NamedCapture.CharSet

/-- A property's name without what does not count in it.  `isc` alone keeps its first letters,
because `c` is a category of its own. -/
def looseName (name : Text) : Text :=
  let kept := (name.filter fun c => c.toNat < 128 && c != ' ' && c != '_' && c != '-').map Char.toLower
  match kept with
  | 'i' :: 's' :: rest => if rest = ['c'] then kept else rest
  | _ => kept

def letter : CharSet :=
  ofList [uppercaseLetter, lowercaseLetter, titlecaseLetter, modifierLetter, otherLetter]

def casedLetter : CharSet := ofList [uppercaseLetter, lowercaseLetter, titlecaseLetter]

def mark : CharSet := ofList [nonspacingMark, spacingMark, enclosingMark]

def number : CharSet := ofList [decimalNumber, letterNumber, otherNumber]

def punctuation : CharSet :=
  ofList [connectorPunctuation, dashPunctuation, openPunctuation, closePunctuation,
    initialPunctuation, finalPunctuation, otherPunctuation]

def symbol : CharSet := ofList [mathSymbol, currencySymbol, modifierSymbol, otherSymbol]

def separator : CharSet := ofList [spaceSeparator, lineSeparator, paragraphSeparator]

def other : CharSet := ofList [control, format, surrogate, privateUse, unassigned]

def ascii : CharSet := ⟨[0, 128]⟩

def category? (name : String) : Option CharSet :=
  match name with
  | "l" | "letter" => some letter
  | "lc" | "casedletter" => some casedLetter
  | "lu" | "uppercaseletter" => some uppercaseLetter
  | "ll" | "lowercaseletter" => some lowercaseLetter
  | "lt" | "titlecaseletter" => some titlecaseLetter
  | "lm" | "modifierletter" => some modifierLetter
  | "lo" | "otherletter" => some otherLetter
  | "m" | "mark" | "combiningmark" => some mark
  | "mn" | "nonspacingmark" => some nonspacingMark
  | "mc" | "spacingmark" => some spacingMark
  | "me" | "enclosingmark" => some enclosingMark
  | "n" | "number" => some number
  | "nd" | "decimalnumber" | "digit" => some decimalNumber
  | "nl" | "letternumber" => some letterNumber
  | "no" | "othernumber" => some otherNumber
  | "p" | "punctuation" | "punct" => some punctuation
  | "pc" | "connectorpunctuation" => some connectorPunctuation
  | "pd" | "dashpunctuation" => some dashPunctuation
  | "ps" | "openpunctuation" => some openPunctuation
  | "pe" | "closepunctuation" => some closePunctuation
  | "pi" | "initialpunctuation" => some initialPunctuation
  | "pf" | "finalpunctuation" => some finalPunctuation
  | "po" | "otherpunctuation" => some otherPunctuation
  | "s" | "symbol" => some symbol
  | "sm" | "mathsymbol" => some mathSymbol
  | "sc" | "currencysymbol" => some currencySymbol
  | "sk" | "modifiersymbol" => some modifierSymbol
  | "so" | "othersymbol" => some otherSymbol
  | "z" | "separator" => some separator
  | "zs" | "spaceseparator" => some spaceSeparator
  | "zl" | "lineseparator" => some lineSeparator
  | "zp" | "paragraphseparator" => some paragraphSeparator
  | "c" | "other" => some other
  | "cc" | "control" | "cntrl" => some control
  | "cf" | "format" => some format
  | "cs" | "surrogate" => some surrogate
  | "co" | "privateuse" => some privateUse
  | "cn" | "unassigned" => some unassigned
  | "any" => some all
  | "assigned" => some unassigned.compl
  | "ascii" => some ascii
  | _ => none

def script? (name : String) : Option CharSet :=
  (scripts.find? fun (names, _) => names.contains name).map (·.2)

def binaryProperty? (name : String) : Option CharSet :=
  match name with
  | "alphabetic" | "alpha" => some alphabetic
  | "uppercase" | "upper" => some uppercase
  | "lowercase" | "lower" => some lowercase
  | "whitespace" | "wspace" | "space" => some whiteSpace
  | "asciihexdigit" | "ahex" => some ⟨[0x30, 0x3A, 0x41, 0x47, 0x61, 0x67]⟩
  | "hexdigit" | "hex" => some hexDigit
  | "joincontrol" | "joinc" => some joinControl
  | "dash" => some dash
  | "ideographic" | "ideo" => some ideographic
  | _ => none

def property? (text : Text) : Option CharSet :=
  let value (t : Text) : String := String.ofList (looseName t)
  let plain (t : Text) : Option CharSet :=
    (binaryProperty? (value t)).or ((category? (value t)).or (script? (value t)))
  let valued (name val : Text) : Option CharSet :=
    match value name with
    | "generalcategory" | "gc" => category? (value val)
    | "script" | "sc" => script? (value val)
    | _ => none
  match text.span (· != '=') with
  | (name, _ :: val) =>
    match name.getLast? with
    | some '!' => (valued name.dropLast val).map compl
    | _ => valued name val
  | _ =>
    match text.span (· != ':') with
    | (name, _ :: val) => valued name val
    | _ => plain text

end NamedCapture.CharSet
