import NamedCapture.Annotated

/-!
# Reading a prefix of a pattern

`Run` cuts lexemes off the front of a text.  Each is read with the whole of the text before it, so
what a lexeme looks ahead to is always there, and runs can be put one after another
(`Run.append`).  `scanFrom_of_run` carries a run over to the scan, and `Spells` is what a fragment
of a pattern does when it is read wherever it stands.
-/

namespace NamedCapture.Annotated

open GroupTable (Opening)

theorem Lexeme.exists_tail {l : Lexeme} {c : Char} {rest s : Text} (h : c :: rest = l.text ++ s) :
    ∃ tail, l.text = c :: tail ∧ rest = tail ++ s := by
  rcases List.cons_eq_append_iff.mp h with ⟨hnil, -⟩ | ⟨tail, hcons, hrest⟩
  · exact absurd hnil l.text_ne_nil
  · exact ⟨tail, hcons, hrest⟩

inductive Run : Context → Text → List Lexeme → Context → Text → Prop
  | done (ctx : Context) (t : Text) : Run ctx t [] ctx t
  | step {ctx next last : Context} {c : Char} {rest s t : Text} {l : Lexeme} {ls : List Lexeme}
      (hread : ctx.read c rest = some (l, next)) (hs : c :: rest = l.text ++ s)
      (hrun : Run next s ls last t) : Run ctx (c :: rest) (l :: ls) last t

namespace Run

theorem append {ctx mid last : Context} {t s r : Text} {ls ks : List Lexeme}
    (h : Run ctx t ls mid s) (h' : Run mid s ks last r) : Run ctx t (ls ++ ks) last r := by
  induction h with
  | done => exact h'
  | step hread hs _ ih => exact .step hread hs (ih h')

theorem text_append {ctx last : Context} {t s : Text} {ls : List Lexeme}
    (h : Run ctx t ls last s) : t = ls.flatMap Lexeme.text ++ s := by
  induction h with
  | done => rfl
  | step _ hs _ ih => rw [List.flatMap_cons, List.append_assoc, ← ih, hs]

theorem exists_mid {ctx last : Context} {t s : Text} {ls ks : List Lexeme}
    (h : Run ctx t (ls ++ ks) last s) : ∃ mid r, Run ctx t ls mid r ∧ Run mid r ks last s := by
  induction ls generalizing ctx t with
  | nil => exact ⟨ctx, t, .done ctx t, h⟩
  | cons l ls ih =>
    cases h with
    | step hread hs hrun =>
      obtain ⟨mid, r, hfront, hbehind⟩ := ih hrun
      exact ⟨mid, r, .step hread hs hfront, hbehind⟩

theorem single {ctx next : Context} {c : Char} {tail rest : Text} {l : Lexeme}
    (hread : ctx.read c (tail ++ rest) = some (l, next)) (hl : l.text = c :: tail) :
    Run ctx (c :: tail ++ rest) [l] next rest :=
  .step hread (by rw [hl]; rfl) (.done next rest)

end Run

theorem scanFrom_of_run {ctx last : Context} {t s : Text} {ls : List Lexeme}
    (h : Run ctx t ls last s) (offset : Nat) :
    scanFrom ctx offset 0 t =
      let tail := scanFrom last (offset + Text.byteLength (ls.flatMap Lexeme.text)) 0 s
      ⟨ls ++ tail.lexemes, tail.failure⟩ := by
  induction h generalizing offset with
  | done => rfl
  | @step _ _ _ _ _ _ _ l ls hread hs _ ih =>
    rw [scanFrom_of_read hread hs, ih, List.flatMap_cons, Text.byteLength_append, Nat.add_assoc]
    rfl

theorem scan_of_run {last : Context} {pattern : Text} {ls : List Lexeme}
    (h : Run {} pattern ls last []) : scan pattern = ⟨ls, none⟩ := by
  rw [scan, scanFrom_of_run h 0]
  simp [scanFrom]

/-- The scan is a run up to where it stops, which is the end of the text or a character that starts
no lexeme. -/
theorem exists_run (ctx : Context) (offset : Nat) (t : Text) :
    ∃ last s, Run ctx t (scanFrom ctx offset 0 t).lexemes last s ∧
      ((s = [] ∧ (scanFrom ctx offset 0 t).failure = none) ∨
        ∃ c rest, s = c :: rest ∧ last.read c rest = none ∧
          (scanFrom ctx offset 0 t).failure = some
            (offset + Text.byteLength ((scanFrom ctx offset 0 t).lexemes.flatMap Lexeme.text))) := by
  generalize hn : t.length = n
  induction n using Nat.strongRecOn generalizing ctx offset t with
  | ind n ih =>
    cases t with
    | nil => exact ⟨ctx, [], .done ctx [], Or.inl ⟨rfl, rfl⟩⟩
    | cons c rest =>
      cases hread : ctx.read c rest with
      | none =>
        have hstops : scanFrom ctx offset 0 (c :: rest) = ⟨[], some offset⟩ := by
          simp [scanFrom, hread]
        rw [hstops]
        exact ⟨ctx, c :: rest, .done ctx _, Or.inr ⟨c, rest, rfl, hread, rfl⟩⟩
      | some found =>
        obtain ⟨l, next⟩ := found
        obtain ⟨s, hs⟩ := read_text hread
        have hshort : s.length < n := by
          have hpos : 0 < l.text.length := List.length_pos_iff.mpr l.text_ne_nil
          have hlength := congrArg List.length hs
          rw [List.length_append] at hlength
          omega
        obtain ⟨last, r, hrun, hstop⟩ :=
          ih s.length hshort next (offset + Text.byteLength l.text) s rfl
        rw [scanFrom_of_read hread hs]
        refine ⟨last, r, .step hread hs hrun, hstop.imp_right ?_⟩
        intro hparts
        obtain ⟨d, rest', hr, hd, hfailure⟩ := hparts
        refine ⟨d, rest', hr, hd, ?_⟩
        rw [hfailure, List.flatMap_cons, Text.byteLength_append, Nat.add_assoc]

theorem run_of_scanFrom {ctx : Context} {offset : Nat} {t : Text}
    (h : (scanFrom ctx offset 0 t).failure = none) :
    ∃ last, Run ctx t (scanFrom ctx offset 0 t).lexemes last [] := by
  obtain ⟨last, s, hrun, ⟨rfl, -⟩ | ⟨c, rest, -, -, hfailure⟩⟩ := exists_run ctx offset t
  · exact ⟨last, hrun⟩
  · rw [hfailure] at h
    cases h

theorem run_of_scan {pattern : Text} (h : (scan pattern).failure = none) :
    ∃ last, Run {} pattern (scan pattern).lexemes last [] := run_of_scanFrom h

/-- Nothing of a pattern is lost and nothing added when it is cut into lexemes. -/
theorem text_scan {pattern : Text} (h : (scan pattern).failure = none) :
    (scan pattern).lexemes.flatMap Lexeme.text = pattern := by
  obtain ⟨last, hrun⟩ := run_of_scan h
  have htext := hrun.text_append
  rw [List.append_nil] at htext
  exact htext.symm

theorem strip_eq_ok {pattern : Text} {s : Stripped} (h : strip pattern = .ok s) :
    (scan pattern).failure = none ∧ s = ⟨(scan pattern).numbered, (scan pattern).table⟩ := by
  unfold strip at h
  dsimp only at h
  split at h
  · cases h
  · rename_i hfailure
    cases h
    exact ⟨hfailure, rfl⟩

theorem strip_of_run {last : Context} {pattern : Text} {ls : List Lexeme}
    (h : Run {} pattern ls last []) :
    strip pattern = .ok ⟨ls.flatMap Lexeme.numbered, .ofOpenings (openings 0 ls)⟩ := by
  rw [strip, scan_of_run h]
  rfl

theorem openings_append (offset : Nat) (ls ks : List Lexeme) :
    openings offset (ls ++ ks) =
      openings offset ls ++ openings (offset + Text.byteLength (ls.flatMap Lexeme.text)) ks := by
  induction ls generalizing offset with
  | nil => rfl
  | cons l ls ih =>
    have hrest := ih (offset + Text.byteLength l.text)
    rw [Nat.add_assoc, ← Text.byteLength_append, ← List.flatMap_cons] at hrest
    simp only [List.cons_append, openings]
    cases l.group? with
    | none => exact hrest
    | some name => exact congrArg (List.cons _) hrest

/-! ## Fragments -/

/-- Read in the context `ctx`, and followed by what `ahead` allows, the text gives `numbered`
without its annotations and opens `groups`, which depend on the offset it stands at. -/
def Spells (ahead : Text → Prop) (ctx : Context) (text numbered : Text)
    (groups : Nat → List Opening) (next : Context) : Prop :=
  ∃ ls, (∀ rest, ahead rest → Run ctx (text ++ rest) ls next rest) ∧
    ls.flatMap Lexeme.text = text ∧ ls.flatMap Lexeme.numbered = numbered ∧
    ∀ offset, openings offset ls = groups offset

def Anything : Text → Prop := fun _ => True

namespace Spells

variable {A B : Text → Prop} {ctx mid last : Context} {t t' n n' : Text}
  {g g' : Nat → List Opening}

theorem nil (ctx : Context) : Spells Anything ctx [] [] (fun _ => []) ctx :=
  ⟨[], fun rest _ => .done ctx rest, rfl, rfl, fun _ => rfl⟩

theorem append (h : Spells A ctx t n g mid) (h' : Spells B mid t' n' g' last)
    (hahead : ∀ rest, B rest → A (t' ++ rest)) :
    Spells B ctx (t ++ t') (n ++ n') (fun o => g o ++ g' (o + Text.byteLength t)) last := by
  obtain ⟨ls, hrun, htext, hnumbered, hgroups⟩ := h
  obtain ⟨ks, hrun', htext', hnumbered', hgroups'⟩ := h'
  refine ⟨ls ++ ks, fun rest hrest => ?_, ?_, ?_, fun offset => ?_⟩
  · rw [List.append_assoc]
    exact (hrun _ (hahead rest hrest)).append (hrun' rest hrest)
  · rw [List.flatMap_append, htext, htext']
  · rw [List.flatMap_append, hnumbered, hnumbered']
  · rw [openings_append, hgroups, htext, hgroups']

theorem weaken (h : Spells Anything ctx t n g last) : Spells A ctx t n g last := by
  obtain ⟨ls, hrun, hrest⟩ := h
  exact ⟨ls, fun rest _ => hrun rest trivial, hrest⟩

theorem single {c : Char} {tail : Text} {l : Lexeme} (hl : l.text = c :: tail)
    (hread : ∀ rest, A rest → ctx.read c (tail ++ rest) = some (l, last)) :
    Spells A ctx (c :: tail) l.numbered
      (fun o => match l.group? with | some name => [⟨name, o⟩] | none => []) last := by
  refine ⟨[l], fun rest hrest => Run.single (hread rest hrest) hl, ?_, ?_, fun offset => ?_⟩
  · rw [List.flatMap_singleton, hl]
  · rw [List.flatMap_singleton]
  · rw [openings]
    cases l.group? <;> rfl

end Spells
end NamedCapture.Annotated
