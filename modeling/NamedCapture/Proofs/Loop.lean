import NamedCapture.Matcher
import NamedCapture.Proofs.Boundary

/-!
# Loops of searches

A walk over all matches and the loop of a global replacement both search a subject again and again,
and differ only in where they go on after a match.  `Loop` is a finished run of such a loop, with
the place to go on at as a parameter.  Where an engine ends its matches at boundaries behind the
start of the search, no turn goes back, so a loop can fail to end only by standing still:
`exists_loop_iff`.
-/

namespace NamedCapture

def Outcome.span? : Outcome → Option Span
  | .found whole _ => some whole
  | _ => none

namespace Engine

variable {e : Engine} {t : Text}

/-- What is found in the text from a boundary ends at a boundary. -/
def StopsAtBoundary (e : Engine) (t : Text) : Prop :=
  ∀ i, Text.isBoundary t i = true → ∀ whole ∈ (e.search t i).span?,
    Text.isBoundary t whole.stop = true

/-- What is found in the text from a boundary ends at a boundary not before it, and begins at some
boundary. -/
def Bounded (e : Engine) (t : Text) : Prop :=
  ∀ i, Text.isBoundary t i = true → ∀ whole ∈ (e.search t i).span?,
    i ≤ whole.stop ∧ Text.isBoundary t whole.start = true ∧ Text.isBoundary t whole.stop = true

/-- What is found in the text from a boundary begins at a boundary not before it, and ends at one
not before its beginning. -/
def Forward (e : Engine) (t : Text) : Prop :=
  ∀ i, Text.isBoundary t i = true → ∀ whole ∈ (e.search t i).span?,
    i ≤ whole.start ∧ whole.start ≤ whole.stop ∧
      Text.isBoundary t whole.start = true ∧ Text.isBoundary t whole.stop = true

theorem forall_boundary_iff {P : Nat → Prop} :
    (∀ i, Text.isBoundary t i = true → P i) ↔
      ∀ i < Text.byteLength t + 1, Text.isBoundary t i = true → P i := by
  constructor
  · intro h i _
    exact h i
  · intro h i hi
    have hle := Text.le_byteLength_of_isBoundary hi
    exact h i (by omega) hi

instance : Decidable (e.StopsAtBoundary t) := decidable_of_iff' _ forall_boundary_iff

instance : Decidable (e.Bounded t) := decidable_of_iff' _ forall_boundary_iff

instance : Decidable (e.Forward t) := decidable_of_iff' _ forall_boundary_iff

theorem Bounded.stopsAtBoundary (h : e.Bounded t) : e.StopsAtBoundary t :=
  fun i hi whole hwhole => (h i hi whole hwhole).2.2

theorem Forward.bounded (h : e.Forward t) : e.Bounded t := by
  intro i hi whole hwhole
  obtain ⟨hstart, hstop, hstarts, hstops⟩ := h i hi whole hwhole
  exact ⟨Nat.le_trans hstart hstop, hstarts, hstops⟩

end Engine

namespace Matcher

variable {m : Matcher} {subject : Text} {next : Match → Nat} {p q : Nat} {f : Match}

/-- A search that answers with a match has found it in the subject, and a sticky one at the place
where it began. -/
theorem searchFrom_eq_found (h : m.searchFrom subject p = .ok (some f)) :
    f.subject = subject ∧ m.engine.search subject p = .found f.whole f.groups ∧
      (m.flags.sticky = true → f.whole.start = p) := by
  unfold searchFrom at h
  split at h
  · cases h
  · cases h
  · rename_i whole groups hfound
    split at h
    · cases h
    · rename_i hsticky
      cases h
      refine ⟨rfl, hfound, fun hy => ?_⟩
      simpa [hy] using hsticky

theorem searchFrom_eq_error_iff {e : Failure} :
    m.searchFrom subject p = .error e ↔ m.engine.search subject p = .gaveUp ∧ e = .gaveUp := by
  unfold searchFrom
  split
  · rename_i hsearch
    simp [hsearch, eq_comm]
  · rename_i hsearch
    simp [hsearch]
  · rename_i hsearch
    split <;> simp [hsearch]

theorem bounded_of_searchFrom (hengine : m.engine.Bounded subject)
    (hp : Text.isBoundary subject p = true)
    (h : m.searchFrom subject p = .ok (some f)) :
    p ≤ f.whole.stop ∧ Text.isBoundary f.subject f.whole.stop = true := by
  obtain ⟨hsubject, hfound, -⟩ := searchFrom_eq_found h
  obtain ⟨hle, -, hstop⟩ := hengine p hp f.whole (by rw [hfound]; rfl)
  exact ⟨hle, hsubject ▸ hstop⟩

/-- The search from `p`, which is in the subject, finds `f`. -/
def Finds (m : Matcher) (subject : Text) (p : Nat) (f : Match) : Prop :=
  p ≤ Text.byteLength subject ∧ m.searchFrom subject p = .ok (some f)

/-- A run that has ended, from `p` on: the matches it finds, and the failure that ends it, if it
is one. -/
inductive Loop (m : Matcher) (subject : Text) (next : Match → Nat) :
    Nat → List Match → Option Failure → Prop
  | behind {p : Nat} (hp : Text.byteLength subject < p) : Loop m subject next p [] none
  | absent {p : Nat} (hp : p ≤ Text.byteLength subject) (h : m.searchFrom subject p = .ok none) :
    Loop m subject next p [] none
  | failed {p : Nat} {e : Failure} (hp : p ≤ Text.byteLength subject)
      (h : m.searchFrom subject p = .error e) : Loop m subject next p [] (some e)
  | found {p : Nat} {f : Match} {fs : List Match} {ending : Option Failure}
      (h : m.Finds subject p f) (hrest : Loop m subject next (next f) fs ending) :
    Loop m subject next p (f :: fs) ending

/-- The places that a loop which starts at `p` searches from, or would if they are in the
subject. -/
inductive Visits (m : Matcher) (subject : Text) (next : Match → Nat) (p : Nat) : Nat → Prop
  | start : Visits m subject next p p
  | step {q : Nat} {f : Match} (hq : Visits m subject next p q) (h : m.Finds subject q f) :
    Visits m subject next p (next f)

/-- Where a loop that starts at `p` and finds these matches makes its last search. -/
def lastPlace (next : Match → Nat) : Nat → List Match → Nat
  | p, [] => p
  | _, f :: fs => lastPlace next (next f) fs

theorem lastPlace_eq (next : Match → Nat) (p : Nat) (fs : List Match) :
    lastPlace next p fs = (fs.getLast?.map next).getD p := by
  induction fs generalizing p with
  | nil => rfl
  | cons f fs ih =>
    rw [lastPlace, ih, List.getLast?_cons]
    cases fs.getLast? <;> rfl

theorem Finds.unique {g : Match} (hf : m.Finds subject p f) (hg : m.Finds subject p g) :
    f = g := by
  have h := hf.2.symm.trans hg.2
  cases h
  rfl

theorem Visits.head (hf : m.Finds subject p f) (h : Visits m subject next (next f) q) :
    Visits m subject next p q := by
  induction h with
  | start => exact .step .start hf
  | step _ hfound ih => exact .step ih hfound

namespace Loop

variable {fs gs : List Match} {ending ending' : Option Failure}

theorem tail (h : Loop m subject next p fs ending) (hf : m.Finds subject p f) :
    ∃ gs, fs = f :: gs ∧ Loop m subject next (next f) gs ending := by
  cases h with
  | behind hp => exact absurd hf.1 (Nat.not_le.mpr hp)
  | absent _ h =>
    have hclash := h.symm.trans hf.2
    cases hclash
  | failed _ h =>
    have hclash := h.symm.trans hf.2
    cases hclash
  | found hg hrest =>
    cases hf.unique hg
    exact ⟨_, rfl, hrest⟩

theorem unique (h : Loop m subject next p fs ending) (h' : Loop m subject next p gs ending') :
    fs = gs ∧ ending = ending' := by
  induction h generalizing gs with
  | behind hp =>
    cases h' with
    | behind => exact ⟨rfl, rfl⟩
    | absent hp' => omega
    | failed hp' => omega
    | found hg =>
      have hle := hg.1
      omega
  | absent hp hnone =>
    cases h' with
    | behind hp' => omega
    | absent => exact ⟨rfl, rfl⟩
    | failed _ herror =>
      have hclash := hnone.symm.trans herror
      cases hclash
    | found hg =>
      have hclash := hnone.symm.trans hg.2
      cases hclash
  | failed hp herror =>
    cases h' with
    | behind hp' => omega
    | absent _ hnone =>
      have hclash := herror.symm.trans hnone
      cases hclash
    | failed _ herror' =>
      have hsame := herror.symm.trans herror'
      cases hsame
      exact ⟨rfl, rfl⟩
    | found hg =>
      have hclash := herror.symm.trans hg.2
      cases hclash
  | found hf _ ih =>
    obtain ⟨gs, rfl, hrest⟩ := h'.tail hf
    obtain ⟨rfl, rfl⟩ := ih hrest
    exact ⟨rfl, rfl⟩

theorem of_visits (h : Loop m subject next p fs ending) (hq : Visits m subject next p q) :
    ∃ gs, Loop m subject next q gs ending ∧ lastPlace next p fs = lastPlace next q gs := by
  induction hq with
  | start => exact ⟨fs, h, rfl⟩
  | step _ hf ih =>
    obtain ⟨gs, hgs, hlast⟩ := ih
    obtain ⟨hs, rfl, hrest⟩ := hgs.tail hf
    exact ⟨hs, hrest, hlast⟩

theorem of_visits_failed (h : Loop m subject next p fs ending) (hq : Visits m subject next p q)
    (hin : q ≤ Text.byteLength subject) {e : Failure}
    (hsearch : m.searchFrom subject q = .error e) :
    ending = some e ∧ lastPlace next p fs = q := by
  obtain ⟨gs, hgs, hlast⟩ := h.of_visits hq
  obtain ⟨rfl, hending⟩ := hgs.unique (.failed hin hsearch)
  exact ⟨hending, hlast⟩

theorem next_ne (h : Loop m subject next p fs ending) (hf : m.Finds subject p f) :
    next f ≠ p := by
  intro hback
  obtain ⟨gs, rfl, hrest⟩ := h.tail hf
  rw [hback] at hrest
  -- the run from `p` would be what is left of it behind its first match
  exact List.cons_ne_self f gs (h.unique hrest).1

end Loop

/-- Going on at `next` after a match never means going back. -/
def GoesOn (next : Match → Nat) : Prop :=
  ∀ f : Match, Text.isBoundary f.subject f.whole.stop = true →
    f.whole.stop ≤ next f ∧ Text.IsPosition f.subject (next f)

theorem isPosition_next (hstops : m.engine.StopsAtBoundary subject) (hnext : GoesOn next)
    (hp : Text.IsPosition subject p) (hf : m.Finds subject p f) :
    Text.IsPosition subject (next f) := by
  obtain ⟨hsubject, hfound, -⟩ := searchFrom_eq_found hf.2
  have hstop := hstops p (hp.isBoundary hf.1) f.whole (by rw [hfound]; rfl)
  rw [← hsubject] at hstop ⊢
  exact (hnext f hstop).2

theorem position_of_finds (hengine : m.engine.Bounded subject) (hnext : GoesOn next)
    (hp : Text.IsPosition subject p) (hf : m.Finds subject p f) :
    p ≤ next f ∧ Text.IsPosition subject (next f) := by
  obtain ⟨hle, hstop⟩ := bounded_of_searchFrom hengine (hp.isBoundary hf.1) hf.2
  exact ⟨Nat.le_trans hle (hnext f hstop).1,
    isPosition_next hengine.stopsAtBoundary hnext hp hf⟩

theorem position_of_visits (hstops : m.engine.StopsAtBoundary subject) (hnext : GoesOn next)
    (hp : Text.IsPosition subject p) (h : Visits m subject next p q) :
    Text.IsPosition subject q := by
  induction h with
  | start => exact hp
  | step _ hf ih => exact isPosition_next hstops hnext ih hf

theorem Loop.length_le {fs : List Match} {ending : Option Failure}
    (hengine : m.engine.Bounded subject)
    (hnext : GoesOn next) (h : Loop m subject next p fs ending)
    (hp : Text.IsPosition subject p) :
    fs.length + ending.toList.length ≤ Text.stepsLeft subject p := by
  induction h with
  | behind => exact Nat.zero_le _
  | absent => exact Nat.zero_le _
  | failed hend =>
    rw [Text.stepsLeft, if_pos hend]
    exact Nat.le_add_left 1 _
  | @found p f fs ending hf hrest ih =>
    obtain ⟨hle, hposition⟩ := position_of_finds hengine hnext hp hf
    have hne : next f ≠ p := Loop.next_ne (.found hf hrest) hf
    have hlt := Text.stepsLeft_lt hp hf.1 hposition (by omega)
    have hih := ih hposition
    rw [List.length_cons]
    omega

/-- A loop ends unless it comes to a place where it finds a match and stays. -/
theorem exists_loop_iff (hengine : m.engine.Bounded subject) (hnext : GoesOn next)
    (hp : Text.IsPosition subject p) :
    (∃ fs ending, Loop m subject next p fs ending) ↔
      ∀ q f, Visits m subject next p q → m.Finds subject q f → next f ≠ q := by
  constructor
  · intro hparts q f hq hf
    obtain ⟨fs, ending, h⟩ := hparts
    obtain ⟨gs, hgs, -⟩ := h.of_visits hq
    exact hgs.next_ne hf
  · intro hmoves
    -- a turn that moves leaves fewer boundaries, as it may not go back
    generalize hn : Text.stepsLeft subject p = n
    induction n using Nat.strongRecOn generalizing p with
    | ind n ih =>
      by_cases hend : p ≤ Text.byteLength subject
      · cases hsearch : m.searchFrom subject p with
        | error e => exact ⟨[], some e, .failed hend hsearch⟩
        | ok found =>
          cases found with
          | none => exact ⟨[], none, .absent hend hsearch⟩
          | some f =>
            have hf : m.Finds subject p f := ⟨hend, hsearch⟩
            obtain ⟨hle, hposition⟩ := position_of_finds hengine hnext hp hf
            have hne := hmoves p f .start hf
            have hlt := Text.stepsLeft_lt hp hend hposition (by omega)
            obtain ⟨fs, ending, hrest⟩ := ih _ (hn ▸ hlt) hposition
              (fun q g hq => hmoves q g (hq.head hf)) rfl
            exact ⟨f :: fs, ending, .found hf hrest⟩
      · exact ⟨[], none, .behind (Nat.not_le.mp hend)⟩

end Matcher
end NamedCapture
