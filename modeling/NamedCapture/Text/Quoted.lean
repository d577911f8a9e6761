import NamedCapture.CharSet.Blank

/-!
Quoted texts, as reports show them: in double quotes, with an escape for a quote, a backslash and
every character that would not show by itself.
-/

namespace NamedCapture.Text

/-- The digits of `n` in base 16, least number of digits, small letters. -/
def hexDigits (n : Nat) : Text := Nat.toDigits 16 n

def escapeChar (c : Char) : Text :=
  if c = '"' then ['\\', '"']
  else if c = '\\' then ['\\', '\\']
  else if c = '\n' then ['\\', 'n']
  else if c = '\r' then ['\\', 'r']
  else if c = '\t' then ['\\', 't']
  else if c = Char.ofNat 0 then ['\\', '0']
  else if CharSet.unprintable.contains c then
    ['\\', 'u', Char.ofNat 0x7B] ++ hexDigits c.toNat ++ [Char.ofNat 0x7D]
  else [c]

def quote (t : Text) : Text := '"' :: (t.flatMap escapeChar ++ ['"'])

end NamedCapture.Text
