/-!
# Taking turns

Something that goes on turn by turn has no turn to take, or one that fails, or one that leads to
where the next is taken.  If every turn leaves less of something, it comes to an end (`turns`).
-/

namespace NamedCapture

theorem exists_of_bind {ε α β : Type} {x : Except ε α} {f : α → Except ε β} {y : β}
    (h : x >>= f = .ok y) : ∃ a, x = .ok a ∧ f a = .ok y := by
  cases x with
  | error e => cases h
  | ok a => exact ⟨a, rfl, h⟩

/-- Turn after turn, as long as there is one and none fails. -/
def turns {ε σ : Type} (turn : σ → Option (Except ε σ)) (left : σ → Nat)
    (hleft : ∀ {s next}, turn s = some (.ok next) → left next < left s) (s : σ) : Except ε σ :=
  match _hturn : turn s with
  | none => .ok s
  | some (.error e) => .error e
  | some (.ok next) => turns turn left hleft next
termination_by left s
decreasing_by exact hleft _hturn

section Turns

variable {ε σ : Type} {turn : σ → Option (Except ε σ)} {left : σ → Nat} {s next : σ}
  {hleft : ∀ {s next}, turn s = some (.ok next) → left next < left s}

theorem turns_none (h : turn s = none) : turns turn left hleft s = .ok s := by
  rw [turns]
  split <;> simp_all

theorem turns_error {e : ε} (h : turn s = some (.error e)) : turns turn left hleft s = .error e := by
  rw [turns]
  split <;> simp_all

theorem turns_ok (h : turn s = some (.ok next)) :
    turns turn left hleft s = turns turn left hleft next := by
  rw [turns]
  split <;> simp_all

end Turns

end NamedCapture
