import Mathlib.Data.List.Dedup
import NamedCapture.Proofs.ByteOrder
import NamedCapture.Proofs.Group

/-!
# What a table answers for the calls that built it

Groups are registered one at a time, and every view of the table can be read off the calls alone:
the list of groups, the look-ups by index and by name, the number of names, and the names in the
order of their bytes (`Reflects`).  No view forgets a call or knows of one that was not made
(`reflects_registerEach`).
-/

namespace NamedCapture

theorem Bindings.mem_iff_indexOf? {bs : Bindings} {name : Text} :
    name ∈ bs.map (·.1) ↔ (bs.indexOf? name).isSome = true := by
  induction bs with
  | nil => simp [indexOf?]
  | cons b rest ih =>
    obtain ⟨n, i⟩ := b
    by_cases hn : n = name
    · simp [indexOf?, hn]
    · simp [indexOf?, hn, Ne.symm hn, ← ih]

namespace GroupTable

theorem Cursor.take_eq (n : Nat) (bs : Bindings) :
    Cursor.take n ⟨bs⟩ = (bs.take n, ⟨bs.drop n⟩) := by
  induction n generalizing bs with
  | zero => rfl
  | succ n ih =>
    cases bs with
    | nil => rfl
    | cons b rest => simp [take, next, ih]

/-- Register groups one after the other.  Gives what each call returns, and the table after the
last. -/
def registerEach (t : GroupTable) : List Opening → List Nat × GroupTable
  | [] => ([], t)
  | o :: os =>
    let (index, next) := t.register o.name o.offset
    let (indices, last) := next.registerEach os
    (index :: indices, last)

theorem registerEach_eq (t : GroupTable) (os : List Opening) :
    t.registerEach os = (List.range' (t.count + 1) os.length, t.registerAll os) := by
  induction os generalizing t with
  | nil => rfl
  | cons o os ih =>
    have hrest := ih (t.register o.name o.offset).2
    rw [count_register] at hrest
    show (_ :: ((t.register o.name o.offset).2.registerEach os).1,
      ((t.register o.name o.offset).2.registerEach os).2) = _
    rw [hrest]
    rfl

/-- The numbers of the calls that gave a name. -/
def callsOf (os : List Opening) (name : Text) : Set Nat :=
  {i | ∃ k o, os[k]? = some o ∧ o.name = some name ∧ k + 1 = i}

theorem indicesOf_ofOpenings (os : List Opening) (name : Text) :
    (ofOpenings os).indicesOf name = callsOf os name := by
  ext i
  show (∃ g ∈ (ofOpenings os).groups, g.name = some name ∧ g.index = i) ↔
    ∃ k o, os[k]? = some o ∧ o.name = some name ∧ k + 1 = i
  rw [groups_ofOpenings]
  constructor
  · intro hparts
    obtain ⟨g, hg, hname, rfl⟩ := hparts
    obtain ⟨k, hk⟩ := List.getElem?_of_mem hg
    rw [getElem?_numberFrom] at hk
    obtain ⟨o, ho, rfl⟩ := Option.map_eq_some_iff.mp hk
    exact ⟨k, o, ho, hname, Nat.add_comm k 1⟩
  · intro hparts
    obtain ⟨k, o, ho, hname, rfl⟩ := hparts
    have hk : (numberFrom 1 os)[k]? = some ⟨1 + k, o.name, o.offset⟩ := by
      rw [getElem?_numberFrom, ho]
      rfl
    exact ⟨_, List.mem_of_getElem? hk, hname, Nat.add_comm 1 k⟩

theorem isSome_indexOf?_ofOpenings {os : List Opening} {name : Text} :
    ((ofOpenings os).indexOf? name).isSome = true ↔ ∃ o ∈ os, o.name = some name := by
  constructor
  · intro hsome
    obtain ⟨i, hi⟩ := Option.isSome_iff_exists.mp hsome
    obtain ⟨k, o, ho, hname, -⟩ :=
      indicesOf_ofOpenings os name ▸ ((coherent_ofOpenings os).indexOf?_iff.mp hi).1
    exact ⟨o, List.mem_of_getElem? ho, hname⟩
  · intro hparts
    obtain ⟨o, ho, hname⟩ := hparts
    obtain ⟨before, behind, rfl⟩ := List.append_of_mem ho
    rw [ofOpenings_append]
    show ((((ofOpenings before).register o.name o.offset).2.registerAll behind).indexOf?
      name).isSome = true
    rw [indexOf?_registerAll, indexOf?_register, if_pos hname]
    simp

/-- What a table answers to every question, by the calls that built it. -/
structure Reflects (t : GroupTable) (os : List Opening) : Prop where
  getElem?_groups : ∀ k, t.groups[k]? = os[k]?.map fun o => Group.mk (k + 1) o.name o.offset
  count_eq : t.count = os.length
  get?_zero : t.get? 0 = none
  get?_eq : ∀ j o, 1 ≤ j → os[j - 1]? = some o → t.get? j = some ⟨j, o.name, o.offset⟩
  get?_behind : ∀ j, t.count < j → t.get? j = none
  indexOf?_iff : ∀ name i, t.indexOf? name = some i ↔ IsGreatest (callsOf os name) i
  indexOf?_eq_none_iff : ∀ name, t.indexOf? name = none ↔ ∀ o ∈ os, o.name ≠ some name
  contains_iff : ∀ name, t.contains name = true ↔ ∃ i, t.indexOf? name = some i
  nameCount_eq : t.nameCount = (os.filterMap Opening.name).dedup.length
  hasNames_eq_false_iff : t.hasNames = false ↔ ∀ o ∈ os, o.name = none
  mem_names_iff : ∀ name, name ∈ t.names ↔ ∃ o ∈ os, o.name = some name
  ascending_names : t.names.Pairwise fun a b => Text.bytes a < Text.bytes b
  take_cursor : ∀ n, ((t.cursor.take n).1.map fun b => (b.1, some b.2)) =
    (t.names.take n).map fun name => (name, t.indexOf? name)
  remaining_take : ∀ n, (t.cursor.take n).2.remaining = t.nameCount - n

section Views

variable (os : List Opening)

theorem getElem?_ofOpenings (k : Nat) :
    (ofOpenings os).groups[k]? = os[k]?.map fun o => ⟨k + 1, o.name, o.offset⟩ := by
  rw [groups_ofOpenings, getElem?_numberFrom, Nat.add_comm 1 k]

theorem mem_names_ofOpenings {name : Text} :
    name ∈ (ofOpenings os).names ↔ ∃ o ∈ os, o.name = some name :=
  Bindings.mem_iff_indexOf?.trans isSome_indexOf?_ofOpenings

theorem nameCount_ofOpenings :
    (ofOpenings os).nameCount = (os.filterMap Opening.name).dedup.length := by
  have hnodup : (ofOpenings os).names.Nodup := (ascending_bindings os).nodup
  have hperm : (ofOpenings os).names.Perm (os.filterMap Opening.name).dedup := by
    rw [List.perm_ext_iff_of_nodup hnodup (List.nodup_dedup _)]
    intro name
    rw [mem_names_ofOpenings, List.mem_dedup, List.mem_filterMap]
  rw [← hperm.length_eq, names, List.length_map]
  rfl

theorem hasNames_ofOpenings : (ofOpenings os).hasNames = false ↔ ∀ o ∈ os, o.name = none := by
  have hnames : (ofOpenings os).hasNames = false ↔ (ofOpenings os).names = [] := by
    rw [hasNames, names, List.map_eq_nil_iff, Bool.not_eq_false', List.isEmpty_iff]
  rw [hnames, List.eq_nil_iff_forall_not_mem]
  constructor
  · intro hnone o ho
    cases hname : o.name with
    | none => rfl
    | some name => exact absurd ((mem_names_ofOpenings os).mpr ⟨o, ho, hname⟩) (hnone name)
  · intro hunnamed name hname
    obtain ⟨o, ho, hsome⟩ := (mem_names_ofOpenings os).mp hname
    rw [hunnamed o ho] at hsome
    cases hsome

theorem take_cursor_ofOpenings (n : Nat) :
    (((ofOpenings os).cursor.take n).1.map fun b => (b.1, some b.2)) =
      ((ofOpenings os).names.take n).map fun name => (name, (ofOpenings os).indexOf? name) := by
  rw [cursor, Cursor.take_eq, names, ← List.map_take, List.map_map]
  refine List.map_congr_left fun b hb => ?_
  have hbound := (ascending_bindings os).indexOf?_of_mem (List.mem_of_mem_take hb)
  exact congrArg (Prod.mk b.1) hbound.symm

end Views

/-- Whatever calls are made on an empty table, the i-th returns i, and afterwards every view of the
table says what the calls did. -/
theorem reflects_registerEach (os : List Opening) :
    (empty.registerEach os).1 = List.range' 1 os.length ∧
      (empty.registerEach os).2.Reflects os := by
  rw [registerEach_eq]
  refine ⟨rfl, ?_⟩
  show (ofOpenings os).Reflects os
  have hcount := count_ofOpenings os
  exact {
    getElem?_groups := getElem?_ofOpenings os
    count_eq := hcount
    get?_zero := rfl
    get?_eq := by
      intro j o hj ho
      obtain ⟨k, rfl⟩ : ∃ k, j = k + 1 := ⟨j - 1, by omega⟩
      show (ofOpenings os).groups[k]? = _
      rw [getElem?_ofOpenings, ← Nat.add_sub_cancel k 1, ho]
      rfl
    get?_behind := by
      intro j hj
      obtain ⟨k, rfl⟩ : ∃ k, j = k + 1 := ⟨j - 1, by omega⟩
      exact List.getElem?_eq_none (Nat.le_of_lt_succ hj)
    indexOf?_iff := by
      intro name i
      rw [(coherent_ofOpenings os).indexOf?_iff, indicesOf_ofOpenings]
    indexOf?_eq_none_iff := by
      intro name
      rw [← Option.not_isSome_iff_eq_none, isSome_indexOf?_ofOpenings]
      exact not_exists.trans (forall_congr' fun o => not_and)
    contains_iff := fun name => Option.isSome_iff_exists
    nameCount_eq := nameCount_ofOpenings os
    hasNames_eq_false_iff := hasNames_ofOpenings os
    mem_names_iff := fun name => mem_names_ofOpenings os
    ascending_names := (ascending_bindings os).imp Text.bytes_lt_iff.mpr
    take_cursor := take_cursor_ofOpenings os
    remaining_take := by
      intro n
      rw [cursor, Cursor.take_eq]
      exact List.length_drop }

end GroupTable
end NamedCapture
