import NamedCapture.Match
import NamedCapture.Proofs.Annotated.Cut

/-!
# Names are inert

The scan sees of a name only that it is one.  With other names in the place of those that a pattern
gives, each lexeme is read as before, because the texts behind it are still alike up to the next
parenthesis, and the context behind an annotation does not depend on its name (`run_renameFrom`).
So the pattern is stripped to the same text and has the same groups under their new names, each
moved by as many bytes as the names before it have grown (`strip_rename`).
-/

namespace NamedCapture

/-- The text from `last` on, with another text in the place of each span. -/
def Text.replaceAll (t : Text) (last : Nat) : List (Span × Text) → Text
  | [] => Text.dropBytes last t
  | (s, u) :: rest => Text.slice t last s.start ++ u ++ t.replaceAll s.stop rest

theorem Text.replaceAll_append (before front name behind u : Text) (rest : List (Span × Text)) :
    Text.replaceAll (before ++ (front ++ (name ++ behind))) (byteLength before)
        ((⟨byteLength (before ++ front), byteLength (before ++ front ++ name)⟩, u) :: rest) =
      front ++ (u ++ Text.replaceAll (before ++ front ++ name ++ behind)
        (byteLength (before ++ front ++ name)) rest) := by
  rw [replaceAll, byteLength_append before, slice_append, List.append_assoc]
  simp only [List.append_assoc]

namespace Group

/-- The name of a group when the names of all groups are replaced, each by that for its index. -/
def newName? (new : Nat → Text) (g : Group) : Option Text := g.name.map fun _ => new g.index

/-- The place of a group's name, which is behind the `(?<`, and what is to stand there. -/
def renaming? (new : Nat → Text) (g : Group) : Option (Span × Text) :=
  g.name.map fun name =>
    (⟨g.offset + 3, g.offset + 3 + Text.byteLength name⟩, new g.index)

def nameBytes (name? : Group → Option Text) (gs : List Group) : Nat :=
  (gs.map fun g => Text.byteLength ((name? g).getD [])).sum

theorem nameBytes_cons (name? : Group → Option Text) (g : Group) (gs : List Group) :
    nameBytes name? (g :: gs) = Text.byteLength ((name? g).getD []) + nameBytes name? gs := rfl

end Group

/-- The pattern of a table with new names for its groups. -/
def GroupTable.rename (t : GroupTable) (new : Nat → Text) (pattern : Text) : Text :=
  pattern.replaceAll 0 (t.groups.filterMap (Group.renaming? new))

namespace Annotated

open GroupTable (Opening numberFrom)

def Lexeme.rename (name : Text) : Lexeme → Lexeme
  | named _ => named name
  | l => l

/-- Lexemes with new names.  The first group that they open has the index `first`. -/
def renameFrom (new : Nat → Text) (first : Nat) : List Lexeme → List Lexeme
  | [] => []
  | l :: ls =>
    l.rename (new first) :: renameFrom new (if l.group?.isSome then first + 1 else first) ls

section Rename

variable {new : Nat → Text} {first : Nat} {l : Lexeme}

theorem Lexeme.numbered_rename (name : Text) (l : Lexeme) :
    (l.rename name).numbered = l.numbered := by
  cases l <;> rfl

theorem Lexeme.group?_rename (name : Text) {name? : Option Text} (h : l.group? = some name?) :
    (l.rename name).group? = some (name?.map fun _ => name) := by
  cases l with
  | capturing =>
    cases h
    rfl
  | named n =>
    cases h
    rfl
  | _ => cases h

theorem Lexeme.byteLength_rename (name : Text) {name? : Option Text} (h : l.group? = some name?) :
    Text.byteLength (l.rename name).text + Text.byteLength (name?.getD []) =
      Text.byteLength l.text + Text.byteLength ((name?.map fun _ => name).getD []) := by
  cases l with
  | capturing =>
    cases h
    rfl
  | named n =>
    cases h
    simp only [rename, text, Option.map_some, Option.getD_some, Text.byteLength_append]
    omega
  | _ => cases h

theorem renameFrom_cons_none (h : l.group? = none) (ls : List Lexeme) :
    renameFrom new first (l :: ls) = l :: renameFrom new first ls := by
  have hsame : l.rename (new first) = l := by
    cases l with
    | named name => cases h
    | _ => rfl
  rw [renameFrom, hsame, h]
  rfl

theorem renameFrom_cons_some {name? : Option Text} (h : l.group? = some name?)
    (ls : List Lexeme) :
    renameFrom new first (l :: ls) = l.rename (new first) :: renameFrom new (first + 1) ls := by
  rw [renameFrom, h]
  rfl

theorem flatMap_numbered_renameFrom (ls : List Lexeme) :
    (renameFrom new first ls).flatMap Lexeme.numbered = ls.flatMap Lexeme.numbered := by
  induction ls generalizing first with
  | nil => rfl
  | cons l ls ih => rw [renameFrom, List.flatMap_cons, List.flatMap_cons, l.numbered_rename, ih]

/-! ## The scan of the renamed pattern -/

theorem alike_renameFrom (ls : List Lexeme) :
    Alike (ls.flatMap Lexeme.text) ((renameFrom new first ls).flatMap Lexeme.text) := by
  induction ls generalizing first with
  | nil => exact .nil
  | cons l ls ih =>
    rw [renameFrom, List.flatMap_cons, List.flatMap_cons]
    cases l with
    | named name => exact .paren (Or.inl rfl) _ _
    | _ => exact ih.append_left _

theorem run_renameFrom {ctx last : Context} {t s : Text} {ls : List Lexeme} {offset : Nat}
    (h : Run ctx t ls last s) (hs : s = [])
    (hnew : ∀ g ∈ numberFrom first (openings offset ls), g.isNamed = true → IsName (new g.index)) :
    Run ctx ((renameFrom new first ls).flatMap Lexeme.text) (renameFrom new first ls) last [] := by
  induction h generalizing first offset with
  | done ctx t => exact .done ctx []
  | @step ctx next last c rest s t l ls hread htext hrun ih =>
    have hahead : ∀ i, Alike s ((renameFrom new i ls).flatMap Lexeme.text) := by
      intro i
      have hrest := hrun.text_append
      rw [hs, List.append_nil] at hrest
      exact hrest ▸ alike_renameFrom ls
    cases hl : l.group? with
    | none =>
      rw [openings_cons_none hl] at hnew
      rw [renameFrom_cons_none hl, List.flatMap_cons]
      exact .cons_alike hread htext (hahead _) (ih hs hnew)
    | some name? =>
      rw [openings_cons_some hl] at hnew
      obtain ⟨hfirst, hlater⟩ := List.forall_mem_cons.mp hnew
      have hlast := ih hs hlater
      rw [renameFrom_cons_some hl, List.flatMap_cons]
      cases l with
      | capturing => exact .cons_alike hread htext (hahead _) hlast
      | named name =>
        cases hl
        obtain ⟨hplace, rfl, -⟩ := read_named_spec hread htext
        have hnamed := Run.cons_named hplace (hfirst rfl) hlast
        rwa [List.append_cons] at hnamed
      | _ => cases hl

theorem map_renameFrom (new : Nat → Text) (first offset offset' : Nat) (ls : List Lexeme) :
    (numberFrom first (openings offset' (renameFrom new first ls))).map
        (fun g => (g.index, g.name)) =
      (numberFrom first (openings offset ls)).map fun g => (g.index, g.newName? new) := by
  induction ls generalizing offset offset' first with
  | nil => rfl
  | cons l ls ih =>
    cases hl : l.group? with
    | none =>
      rw [renameFrom_cons_none hl, openings_cons_none hl, openings_cons_none hl]
      exact ih _ _ _
    | some name? =>
      rw [renameFrom_cons_some hl, openings_cons_some (Lexeme.group?_rename _ hl),
        openings_cons_some hl]
      exact congrArg (List.cons _) (ih _ _ _)

theorem indicesOf_renameFrom (new : Nat → Text) (ls : List Lexeme) (name : Text) :
    (GroupTable.ofOpenings (openings 0 (renameFrom new 1 ls))).indicesOf name =
      {i | ∃ g ∈ numberFrom 1 (openings 0 ls), g.newName? new = some name ∧ g.index = i} := by
  ext i
  have hmem := congrArg ((i, some name) ∈ ·) (map_renameFrom new 1 0 0 ls)
  show (∃ g ∈ (GroupTable.ofOpenings _).groups, g.name = some name ∧ g.index = i) ↔
    ∃ g ∈ numberFrom 1 (openings 0 ls), g.newName? new = some name ∧ g.index = i
  rw [GroupTable.groups_ofOpenings]
  simpa [and_comm] using hmem

theorem getElem?_renameFrom (offset' : Nat) {offset k : Nat} {ls : List Lexeme} {g : Group}
    (h : (numberFrom first (openings offset ls))[k]? = some g) :
    ∃ place, (numberFrom first (openings offset' (renameFrom new first ls)))[k]? =
        some ⟨g.index, g.newName? new, place⟩ ∧
      place + offset +
          Group.nameBytes Group.name ((numberFrom first (openings offset ls)).take k) =
        g.offset + offset' +
          Group.nameBytes (Group.newName? new)
            ((numberFrom first (openings offset ls)).take k) := by
  induction ls generalizing offset offset' first k with
  | nil => cases h
  | cons l ls ih =>
    cases hl : l.group? with
    | none =>
      rw [openings_cons_none hl] at h ⊢
      rw [renameFrom_cons_none hl, openings_cons_none hl]
      obtain ⟨place, hplace, hmoved⟩ := ih (offset' + Text.byteLength l.text) h
      exact ⟨place, hplace, by omega⟩
    | some name? =>
      rw [openings_cons_some hl] at h ⊢
      rw [renameFrom_cons_some hl, openings_cons_some (Lexeme.group?_rename _ hl)]
      cases k with
      | zero =>
        cases h
        exact ⟨offset', rfl, by rw [Nat.add_comm offset']; rfl⟩
      | succ k =>
        obtain ⟨place, hplace, hmoved⟩ :=
          ih (offset' + Text.byteLength (l.rename (new first)).text) h
        have hgrown := Lexeme.byteLength_rename (new first) hl
        refine ⟨place, hplace, ?_⟩
        rw [numberFrom, List.take_succ_cons, Group.nameBytes_cons, Group.nameBytes_cons]
        show place + offset + (Text.byteLength (name?.getD []) + _) =
          g.offset + offset' + (Text.byteLength ((name?.map fun _ => new first).getD []) + _)
        omega

/-! ## The text of the renamed pattern -/

/-- The names of what is still to come are replaced, behind a text in which all are replaced up to
`between`. -/
theorem replaceAll_lexemes (first : Nat) (before between : Text) (ls : List Lexeme) :
    Text.replaceAll (before ++ (between ++ ls.flatMap Lexeme.text)) (Text.byteLength before)
        ((numberFrom first (openings (Text.byteLength (before ++ between)) ls)).filterMap
          (Group.renaming? new)) =
      between ++ (renameFrom new first ls).flatMap Lexeme.text := by
  induction ls generalizing before between first with
  | nil =>
    show Text.dropBytes (Text.byteLength before) (before ++ (between ++ [])) = between ++ []
    exact Text.dropBytes_append _ _
  | cons l ls ih =>
    have hplace : ∀ u, Text.byteLength (before ++ between) + Text.byteLength u =
        Text.byteLength (before ++ (between ++ u)) := by
      intro u
      rw [← Text.byteLength_append, List.append_assoc]
    -- a lexeme without a name goes to the text that stays
    have hskip : ∀ i, Text.replaceAll (before ++ (between ++ (l :: ls).flatMap Lexeme.text))
        (Text.byteLength before)
        ((numberFrom i (openings (Text.byteLength (before ++ between) + Text.byteLength l.text)
          ls)).filterMap (Group.renaming? new)) =
          between ++ (l.text ++ (renameFrom new i ls).flatMap Lexeme.text) := by
      intro i
      have hrest := ih i before (between ++ l.text)
      rw [hplace, List.flatMap_cons]
      simpa only [List.append_assoc] using hrest
    cases hl : l.group? with
    | none =>
      rw [openings_cons_none hl, renameFrom_cons_none hl]
      exact hskip first
    | some name? =>
      rw [openings_cons_some hl, renameFrom_cons_some hl, numberFrom]
      cases l with
      | capturing =>
        cases hl
        rw [List.filterMap_cons_none rfl]
        exact hskip (first + 1)
      | named name =>
        cases hl
        generalize hfront : between ++ ['(', '?', '<'] = front
        have hspan : Group.renaming? new ⟨first, some name, Text.byteLength (before ++ between)⟩ =
            some (⟨Text.byteLength (before ++ front), Text.byteLength (before ++ front ++ name)⟩,
              new first) := by
          rw [Text.byteLength_append (before ++ front), ← hfront, ← hplace]
          rfl
        have hend : Text.byteLength (before ++ between) +
              Text.byteLength (Lexeme.named name).text =
            Text.byteLength (before ++ front ++ name ++ ['>']) := by
          rw [hplace, ← hfront]
          simp [Lexeme.text]
        have htext : between ++ (Lexeme.named name :: ls).flatMap Lexeme.text =
            front ++ (name ++ (['>'] ++ ls.flatMap Lexeme.text)) := by
          rw [← hfront]
          simp [Lexeme.text]
        rw [List.filterMap_cons_some hspan, hend, htext, Text.replaceAll_append,
          ih (first + 1) (before ++ front ++ name) ['>'], ← hfront]
        simp [Lexeme.text, Lexeme.rename]
      | _ => cases hl

/-- With other names in the place of those that it gives, a pattern is stripped to the same text and
has the same groups, each with its new name and moved by what the names before it have grown.  A
new name is bound to the last of the groups that are given it. -/
theorem strip_rename {pattern : Text} {s : Stripped} (h : strip pattern = .ok s)
    (new : Nat → Text)
    (hnew : ∀ g ∈ s.groups.groups, g.isNamed = true → IsName (new g.index)) :
    ∃ t, strip (s.groups.rename new pattern) = .ok t ∧ t.pattern = s.pattern ∧
      t.groups.count = s.groups.count ∧
      (∀ k g, s.groups.groups[k]? = some g →
        ∃ place, t.groups.groups[k]? = some ⟨g.index, g.newName? new, place⟩ ∧
          place + Group.nameBytes Group.name (s.groups.groups.take k) =
            g.offset + Group.nameBytes (Group.newName? new) (s.groups.groups.take k)) ∧
      ∀ name i, t.groups.indexOf? name = some i ↔
        IsGreatest {i | ∃ g ∈ s.groups.groups, g.newName? new = some name ∧ g.index = i} i := by
  obtain ⟨hfailure, rfl⟩ := strip_eq_ok h
  obtain ⟨last, hrun⟩ := run_of_scan hfailure
  have htext := text_scan hfailure
  rw [GroupTable.rename, GroupTable.count, Scan.table, GroupTable.groups_ofOpenings] at *
  rw [Scan.numbered]
  generalize (scan pattern).lexemes = ls at *
  have hrenamed : pattern.replaceAll 0
      ((numberFrom 1 (openings 0 ls)).filterMap (Group.renaming? new)) =
        (renameFrom new 1 ls).flatMap Lexeme.text := by
    rw [← htext]
    exact replaceAll_lexemes 1 [] [] ls
  rw [hrenamed]
  refine ⟨_, strip_of_run (run_renameFrom hrun rfl hnew), flatMap_numbered_renameFrom ls, ?_,
    fun k g hg => ?_, fun name i => ?_⟩
  · rw [GroupTable.count, GroupTable.groups_ofOpenings]
    simpa using congrArg List.length (map_renameFrom new 1 0 0 ls)
  · rw [GroupTable.groups_ofOpenings]
    exact getElem?_renameFrom 0 hg
  · rw [(GroupTable.coherent_ofOpenings _).indexOf?_iff, indicesOf_renameFrom]

/-- The names of `(?x)#(\n[(](?<n>(?<é>((?<n>`, which is not closed: two that differ become one, and
one that is given twice becomes two. -/
theorem strip_rename_merged :
    let pattern := ['(', '?', 'x', ')', '#', '(', '\n', '[', '(', ']',
      '(', '?', '<', 'n', '>', '(', '?', '<', 'é', '>', '(', '(', '?', '<', 'n', '>']
    let s : Stripped := ⟨['(', '?', 'x', ')', '#', '(', '\n', '[', '(', ']', '(', '(', '(', '('],
      ⟨[⟨1, some ['n'], 10⟩, ⟨2, some ['é'], 15⟩, ⟨3, none, 21⟩, ⟨4, some ['n'], 22⟩],
        [(['n'], 4), (['é'], 2)]⟩⟩
    let new := fun i => if i = 4 then ['é', '1'] else ['b']
    strip pattern = .ok s ∧
      (∀ g ∈ s.groups.groups, g.isNamed = true → IsName (new g.index)) ∧
      s.groups.rename new pattern = ['(', '?', 'x', ')', '#', '(', '\n', '[', '(', ']',
        '(', '?', '<', 'b', '>', '(', '?', '<', 'b', '>', '(', '(', '?', '<', 'é', '1', '>'] ∧
      ∃ t, strip (s.groups.rename new pattern) = .ok t ∧ t.pattern = s.pattern ∧
        t.groups.count = 4 ∧ t.groups.groups[3]? = some ⟨4, some ['é', '1'], 21⟩ ∧
        t.groups.indexOf? ['b'] = some 2 := by
  intro pattern s new
  have h : strip pattern = .ok s := rfl
  have hnew : ∀ g ∈ s.groups.groups, g.isNamed = true → IsName (new g.index) := by decide
  have hgreatest : ∀ g ∈ s.groups.groups, g.newName? new = some ['b'] → g.index ≤ 2 := by decide
  obtain ⟨t, ht, hpattern, hcount, hgroups, hnames⟩ := strip_rename h new hnew
  obtain ⟨place, hplace, hmoved⟩ := hgroups 3 ⟨4, some ['n'], 22⟩ rfl
  obtain rfl : place = 21 := Nat.add_right_cancel (m := 3) hmoved
  refine ⟨h, hnew, rfl, t, ht, hpattern, hcount, hplace, (hnames _ _).mpr ⟨?_, ?_⟩⟩
  · exact ⟨⟨2, some ['é'], 15⟩, by decide, rfl, rfl⟩
  · rintro i ⟨g, hg, hname, rfl⟩
    exact hgreatest g hg hname

end Rename
end Annotated
end NamedCapture
