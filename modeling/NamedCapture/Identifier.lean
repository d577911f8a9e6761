import NamedCapture.CharSet.Word

/-!
The characters of a group's name.
-/

namespace NamedCapture

/-- A letter or number of any script, or an underscore. -/
def isNameChar (c : Char) : Bool := c == '_' || CharSet.alphanumeric.contains c

def IsName (name : Text) : Prop := name ≠ [] ∧ ∀ c ∈ name, isNameChar c = true

instance (name : Text) : Decidable (IsName name) :=
  decidable_of_iff ((!name.isEmpty && name.all isNameChar) = true) (by simp [IsName])

theorem not_isNameChar_gt : isNameChar '>' = false := by decide

end NamedCapture
