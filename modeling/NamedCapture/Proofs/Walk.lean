import NamedCapture.Matcher.Walk
import NamedCapture.Proofs.Loop

/-!
# What a walk gives

`Yields` says that a walk gives the items of a list one after another and then stops, for good
(`Yields.item?_eq`).  A walk is a loop of searches that resumes behind each match, so what it gives
are the named matches of a finished loop, and behind them the failure that ends it if there is one
(`gives_iff`).
-/

namespace NamedCapture

instance decidableEqExcept {ε α : Type} [DecidableEq ε] [DecidableEq α] :
    DecidableEq (Except ε α)
  | .ok a, .ok b => decidable_of_iff (a = b) ⟨congrArg _, Except.ok.inj⟩
  | .error a, .error b => decidable_of_iff (a = b) ⟨congrArg _, Except.error.inj⟩
  | .ok _, .error _ => isFalse nofun
  | .error _, .ok _ => isFalse nofun

theorem eq_ok_of_mem_toOption {ε α : Type} {x : Except ε α} {a : α} (h : a ∈ x.toOption) :
    x = .ok a := by
  cases x with
  | error e => cases h
  | ok b =>
    cases h
    rfl

namespace Walk

/-- The walk gives these items, in this order, and no more. -/
inductive Yields : Walk → List (Except Failure NamedMatch) → Prop
  | stop {w w' : Walk} (h : w.next = (none, w')) : Yields w []
  | item {w w' : Walk} {x : Except Failure NamedMatch} {xs : List (Except Failure NamedMatch)}
      (h : w.next = (some x, w')) (hrest : Yields w' xs) : Yields w (x :: xs)

/-- The walk gives these matches, then the failure if there is one, and no more. -/
def Gives (w : Walk) (ms : List NamedMatch) (failure : Option Failure) : Prop :=
  w.Yields (ms.map .ok ++ failure.toList.map .error)

theorem Yields.take_eq {w : Walk} {items : List (Except Failure NamedMatch)}
    (h : w.Yields items) {n : Nat} (hn : items.length ≤ n) : w.take n = items := by
  induction h generalizing n with
  | stop h =>
    cases n with
    | zero => rfl
    | succ n => rw [take, h]
  | @item w w' x xs h _ ih =>
    rw [List.length_cons] at hn
    obtain ⟨k, rfl⟩ : ∃ k, n = k + 1 := ⟨n - 1, by omega⟩
    rw [take, h]
    exact congrArg (List.cons x) (ih (by omega))

theorem items_inj {ms ms' : List NamedMatch} {failure failure' : Option Failure}
    (h : (ms.map .ok ++ failure.toList.map .error : List (Except Failure NamedMatch)) =
      ms'.map .ok ++ failure'.toList.map .error) :
    ms = ms' ∧ failure = failure' := by
  induction ms generalizing ms' with
  | nil =>
    cases ms' with
    | nil => cases failure <;> cases failure' <;> simp_all
    | cons x ms' => cases failure <;> simp at h
  | cons x ms ih =>
    cases ms' with
    | nil => cases failure' <;> simp at h
    | cons y ms' =>
      simp only [List.map_cons, List.cons_append, List.cons.injEq, Except.ok.injEq] at h
      obtain ⟨rfl, hfailure⟩ := ih h.2
      exact ⟨by rw [h.1], hfailure⟩

/-! ## Steps one after another -/

def after : Walk → Nat → Walk
  | w, 0 => w
  | w, n + 1 => w.next.2.after n

def item? (w : Walk) (n : Nat) : Option (Except Failure NamedMatch) := (w.after n).next.1

theorem matcher_next (w : Walk) : w.next.2.matcher = w.matcher := by
  unfold next
  split
  · rfl
  · split <;> rfl

theorem matcher_after (w : Walk) (n : Nat) : (w.after n).matcher = w.matcher := by
  induction n generalizing w with
  | zero => rfl
  | succ n ih => exact (ih w.next.2).trans w.matcher_next

theorem next_of_none {w w' : Walk} (h : w.next = (none, w')) : w'.next = (none, w') := by
  unfold next at h
  split at h
  · rename_i hover
    cases h
    rw [next, if_pos hover]
  · split at h
    · cases h
    · cases h
      exact next_finished rfl
    · cases h

theorem item?_of_none {w w' : Walk} (h : w.next = (none, w')) (n : Nat) : w.item? n = none := by
  induction n generalizing w w' with
  | zero => exact congrArg Prod.fst h
  | succ n ih =>
    show w.next.2.item? n = none
    rw [h]
    exact ih (next_of_none h)

theorem after_add (w : Walk) (n k : Nat) : w.after (n + k) = (w.after n).after k := by
  induction n generalizing w with
  | zero => rw [Nat.zero_add, after]
  | succ n ih =>
    rw [Nat.succ_add]
    exact ih w.next.2

theorem item?_add_of_none {w : Walk} {n : Nat} (h : w.item? n = none) (k : Nat) :
    w.item? (n + k) = none := by
  have hover : (w.after n).next = (none, (w.after n).next.2) := Prod.ext h rfl
  rw [item?, after_add]
  exact item?_of_none hover k

theorem Yields.item?_eq {w : Walk} {items : List (Except Failure NamedMatch)}
    (h : w.Yields items) (n : Nat) : w.item? n = items[n]? := by
  induction h generalizing n with
  | stop h => exact item?_of_none h n
  | item h _ ih =>
    cases n with
    | zero => exact congrArg Prod.fst h
    | succ n =>
      rw [List.getElem?_cons_succ, ← ih n, item?, after, h]
      rfl

open Matcher

variable {m : NamedMatcher} {subject : Text} {p : Nat}

theorem next_eq (hp : p ≤ Text.byteLength subject) :
    next ⟨m, subject, p, false⟩ =
      match m.matcher.searchFrom subject p with
      | .error e => (some (.error e), ⟨m, subject, p, true⟩)
      | .ok none => (none, ⟨m, subject, p, true⟩)
      | .ok (some f) =>
        (some (.ok (NamedMatch.ofMatch m.table f)), ⟨m, subject, f.resume, false⟩) := by
  have hgo : ¬(false || decide (Text.byteLength subject < p)) = true := by
    simp [Nat.not_lt.mpr hp]
  exact if_neg hgo

theorem next_behind (hp : Text.byteLength subject < p) :
    next ⟨m, subject, p, false⟩ = (none, ⟨m, subject, p, false⟩) := by
  simp [next, hp]

/-- A step gives the match that is found from its place and goes on behind it, or it gives none and
the walk is over. -/
theorem next_cases (m : NamedMatcher) (subject : Text) (p : Nat) :
    (∃ f, m.matcher.Finds subject p f ∧ next ⟨m, subject, p, false⟩ =
        (some (.ok (NamedMatch.ofMatch m.table f)), ⟨m, subject, f.resume, false⟩)) ∨
      ((∀ found, (next ⟨m, subject, p, false⟩).1 ≠ some (.ok found)) ∧
        (next ⟨m, subject, p, false⟩).2.next = (none, (next ⟨m, subject, p, false⟩).2)) := by
  by_cases hp : p ≤ Text.byteLength subject
  · rw [next_eq hp]
    cases hsearch : m.matcher.searchFrom subject p with
    | error e => exact Or.inr ⟨nofun, next_finished rfl⟩
    | ok answer =>
      cases answer with
      | none => exact Or.inr ⟨nofun, next_finished rfl⟩
      | some f => exact Or.inl ⟨f, ⟨hp, hsearch⟩, rfl⟩
  · have hbehind := next_behind (m := m) (Nat.not_le.mp hp)
    rw [hbehind]
    exact Or.inr ⟨nofun, hbehind⟩

theorem visits_of_item? {n : Nat} {found : NamedMatch}
    (h : item? ⟨m, subject, p, false⟩ n = some (.ok found)) :
    ∃ q f, Visits m.matcher subject Match.resume p q ∧ m.matcher.Finds subject q f ∧
      found = NamedMatch.ofMatch m.table f := by
  induction n generalizing p with
  | zero =>
    have hitem : (next ⟨m, subject, p, false⟩).1 = some (.ok found) := h
    rcases next_cases m subject p with ⟨f, hf, hnext⟩ | ⟨hnone, -⟩
    · rw [hnext] at hitem
      cases hitem
      exact ⟨p, f, .start, hf, rfl⟩
    · exact absurd hitem (hnone found)
  | succ n ih =>
    have hitem : (next ⟨m, subject, p, false⟩).2.item? n = some (.ok found) := h
    rcases next_cases m subject p with ⟨f, hf, hnext⟩ | ⟨-, hover⟩
    · rw [hnext] at hitem
      obtain ⟨q, g, hvisits, hg, hfound⟩ := ih hitem
      exact ⟨q, g, hvisits.head hf, hg, hfound⟩
    · rw [item?_of_none hover] at hitem
      cases hitem

theorem gives_of_loop {fs : List Match} {ending : Option Failure}
    (h : Loop m.matcher subject Match.resume p fs ending) :
    Gives ⟨m, subject, p, false⟩ (fs.map (NamedMatch.ofMatch m.table)) ending := by
  induction h with
  | behind hp => exact .stop (next_behind hp)
  | absent hp hsearch => exact .stop (by rw [next_eq hp, hsearch])
  | failed hp hsearch =>
    exact .item (by rw [next_eq hp, hsearch]) (.stop (next_finished rfl))
  | found hf _ ih => exact .item (by rw [next_eq hf.1, hf.2]) ih

theorem loop_of_yields {w : Walk} {xs : List (Except Failure NamedMatch)} (h : w.Yields xs)
    (hopen : w.finished = false) :
    ∃ fs ending, Loop w.matcher.matcher w.subject Match.resume w.position fs ending := by
  induction h with
  | @stop w w' h =>
    obtain ⟨m, subject, p, finished⟩ := w
    subst hopen
    by_cases hp : p ≤ Text.byteLength subject
    · rw [next_eq hp] at h
      cases hsearch : m.matcher.searchFrom subject p with
      | error e =>
        rw [hsearch] at h
        cases h
      | ok found =>
        cases found with
        | none => exact ⟨[], none, .absent hp hsearch⟩
        | some f =>
          rw [hsearch] at h
          cases h
    · exact ⟨[], none, .behind (Nat.not_le.mp hp)⟩
  | @item w w' x xs h _ ih =>
    obtain ⟨m, subject, p, finished⟩ := w
    subst hopen
    by_cases hp : p ≤ Text.byteLength subject
    · rw [next_eq hp] at h
      cases hsearch : m.matcher.searchFrom subject p with
      | error e => exact ⟨[], some e, .failed hp hsearch⟩
      | ok found =>
        cases found with
        | none => exact ⟨[], none, .absent hp hsearch⟩
        | some f =>
          rw [hsearch] at h
          cases h
          obtain ⟨fs, ending, hrest⟩ := ih rfl
          exact ⟨f :: fs, ending, .found ⟨hp, hsearch⟩ hrest⟩
    · rw [next_behind (Nat.not_le.mp hp)] at h
      cases h

/-- A walk that gives fewer items than it is asked for has given all. -/
theorem yields_take {w : Walk} {n : Nat} (h : (w.take n).length < n) :
    w.Yields (w.take n) := by
  induction n generalizing w with
  | zero => exact absurd h (Nat.not_lt_zero _)
  | succ n ih =>
    rw [take] at h ⊢
    rcases hnext : w.next with ⟨_ | x, w'⟩
    · exact .stop hnext
    · rw [hnext] at h
      exact .item hnext (ih (Nat.lt_of_succ_lt_succ h))

theorem Yields.unique {w : Walk} {xs ys : List (Except Failure NamedMatch)} (h : w.Yields xs)
    (h' : w.Yields ys) : xs = ys := by
  have hxs := h.take_eq (Nat.le_max_left xs.length ys.length)
  have hys := h'.take_eq (Nat.le_max_right xs.length ys.length)
  exact hxs.symm.trans hys

/-- A walk gives the matches of a finished loop, and the failure that ends it. -/
theorem gives_iff {ms : List NamedMatch} {failure : Option Failure} :
    (m.walk subject).Gives ms failure ↔
      ∃ fs, Loop m.matcher subject Match.resume 0 fs failure ∧
        ms = fs.map (NamedMatch.ofMatch m.table) := by
  constructor
  · intro h
    obtain ⟨fs, ending, hloop⟩ := loop_of_yields h rfl
    obtain ⟨hms, rfl⟩ := items_inj (h.unique (gives_of_loop hloop))
    exact ⟨fs, hloop, hms⟩
  · intro hparts
    obtain ⟨fs, hloop, rfl⟩ := hparts
    exact gives_of_loop hloop

end Walk
end NamedCapture
