import Mathlib.Order.Bounds.Defs
import NamedCapture.Group

/-!
# The two views of a group table

A table keeps every group in a list and the index of each name in its bindings.  `Coherent` says
that neither view knows anything the other does not: the groups are numbered in order, and a name
is bound to the greatest index among the groups that bear it.  Registering a group keeps a table
coherent, so every table that is built from openings is.  It also keeps the names in ascending order
(`ascending_bindings`).
-/

namespace NamedCapture

/-! ## Bindings in ascending order -/

namespace Bindings

variable {name other : Text} {index : Nat} {bs : Bindings}

/-- The names are in ascending order, and so each is there once. -/
def Ascending (bs : Bindings) : Prop := (bs.map (·.1)).Pairwise (· < ·)

theorem Ascending.nodup (h : Ascending bs) : (bs.map (·.1)).Nodup := by
  refine List.Pairwise.imp ?_ h
  rintro name _ hlt rfl
  exact List.lt_irrefl name hlt

theorem mem_bind (h : other ∈ (bind name index bs).map (·.1)) :
    other = name ∨ other ∈ bs.map (·.1) := by
  induction bs with
  | nil => exact Or.inl (List.mem_singleton.mp h)
  | cons b rest ih =>
    obtain ⟨n, i⟩ := b
    rw [bind] at h
    split at h
    · rename_i hname
      subst hname
      exact Or.inr h
    · split at h
      · exact List.mem_cons.mp h
      · rcases List.mem_cons.mp h with rfl | hrest
        · exact Or.inr List.mem_cons_self
        · exact (ih hrest).imp_right (List.mem_cons_of_mem n)

theorem Ascending.bind (h : Ascending bs) (name : Text) (index : Nat) :
    Ascending (bs.bind name index) := by
  induction bs with
  | nil => exact List.pairwise_singleton _ _
  | cons b rest ih =>
    obtain ⟨n, i⟩ := b
    obtain ⟨hhead, hrest⟩ := List.pairwise_cons.mp h
    rw [Bindings.bind]
    split
    · rename_i hname
      subst hname
      exact h
    · rename_i hname
      split
      · rename_i hlt
        refine List.pairwise_cons.mpr ⟨fun other hother => ?_, h⟩
        rcases List.mem_cons.mp hother with rfl | hmem
        · exact hlt
        · exact List.lt_trans hlt (hhead other hmem)
      · rename_i hle
        have hlt : n < name :=
          (List.le_iff_lt_or_eq.mp (List.not_lt.mp hle)).resolve_right (Ne.symm hname)
        refine List.pairwise_cons.mpr ⟨fun other hother => ?_, ih hrest⟩
        rcases mem_bind hother with rfl | hmem
        · exact hlt
        · exact hhead other hmem

theorem Ascending.indexOf?_of_mem (h : Ascending bs) (hmem : (name, index) ∈ bs) :
    bs.indexOf? name = some index := by
  induction bs with
  | nil => cases hmem
  | cons b rest ih =>
    obtain ⟨n, i⟩ := b
    obtain ⟨hhead, hrest⟩ := List.pairwise_cons.mp h
    rcases List.mem_cons.mp hmem with heq | hmem
    · cases heq
      exact if_pos rfl
    · have hlt : n < name := hhead name (List.mem_map_of_mem hmem)
      have hne : n ≠ name := fun heq => List.lt_irrefl n (heq ▸ hlt)
      exact (if_neg hne).trans (ih hrest hmem)

end Bindings

namespace GroupTable

/-- The indices of the groups that bear a name. -/
def indicesOf (t : GroupTable) (name : Text) : Set Nat :=
  {i | ∃ g ∈ t.groups, g.name = some name ∧ g.index = i}

structure Coherent (t : GroupTable) : Prop where
  index_eq : ∀ {i g}, t.groups[i]? = some g → g.index = i + 1
  indexOf?_iff : ∀ {name i}, t.indexOf? name = some i ↔ IsGreatest (t.indicesOf name) i

theorem groups_register (t : GroupTable) (name : Option Text) (offset : Nat) :
    (t.register name offset).2.groups = t.groups ++ [⟨t.count + 1, name, offset⟩] := rfl

theorem indexOf?_register (t : GroupTable) (name : Option Text) (offset : Nat) (other : Text) :
    (t.register name offset).2.indexOf? other =
      if name = some other then some (t.count + 1) else t.indexOf? other := by
  cases name with
  | none => rfl
  | some n =>
    show (t.bindings.bind n (t.count + 1)).indexOf? other = _
    rw [Bindings.indexOf?_bind]
    by_cases hn : n = other <;> simp [hn, indexOf?]

theorem Coherent.index_le {t : GroupTable} (h : t.Coherent) {g : Group} (hg : g ∈ t.groups) :
    g.index ≤ t.count := by
  obtain ⟨i, hi⟩ := List.getElem?_of_mem hg
  have hlt : i < t.groups.length := (List.getElem?_eq_some_iff.mp hi).1
  have hindex := h.index_eq hi
  show g.index ≤ t.groups.length
  omega

theorem coherent_empty : empty.Coherent := by
  refine ⟨fun h => ?_, fun {name i} => ⟨fun h => ?_, fun h => ?_⟩⟩
  · cases h
  · cases h
  · obtain ⟨⟨g, hg, -⟩, -⟩ := h
    cases hg

theorem mem_indicesOf_register (t : GroupTable) (name : Option Text) (offset : Nat) (other : Text)
    (j : Nat) : j ∈ (t.register name offset).2.indicesOf other ↔
      j ∈ t.indicesOf other ∨ (name = some other ∧ t.count + 1 = j) := by
  show (∃ g ∈ (t.register name offset).2.groups, g.name = some other ∧ g.index = j) ↔ _
  rw [groups_register]
  simp only [List.mem_append, List.mem_singleton, or_and_right, exists_or, exists_eq_left]
  rfl

/-- The new group has the greatest index, so it takes its name over and leaves every other name
where it was. -/
theorem Coherent.register {t : GroupTable} (h : t.Coherent) (name : Option Text) (offset : Nat) :
    (t.register name offset).2.Coherent := by
  constructor
  · intro i g hg
    rw [groups_register] at hg
    by_cases hi : i < t.groups.length
    · rw [List.getElem?_append_left hi] at hg
      exact h.index_eq hg
    · rw [List.getElem?_append_right (by omega)] at hg
      have hlast : i - t.groups.length = 0 := by
        have hlt := (List.getElem?_eq_some_iff.mp hg).1
        rw [List.length_singleton] at hlt
        omega
      rw [hlast] at hg
      cases hg
      show t.groups.length + 1 = i + 1
      omega
  · intro other i
    have hmem := t.mem_indicesOf_register name offset other
    rw [indexOf?_register]
    by_cases hname : name = some other
    · rw [if_pos hname]
      have hnew : IsGreatest ((t.register name offset).2.indicesOf other) (t.count + 1) := by
        refine ⟨(hmem _).mpr (Or.inr ⟨hname, rfl⟩), fun j hj => ?_⟩
        rcases (hmem j).mp hj with ⟨g, hg, -, hindex⟩ | ⟨-, hindex⟩
        · have hle := h.index_le hg
          omega
        · omega
      constructor
      · intro hi
        cases hi
        exact hnew
      · intro hi
        have hle := hnew.2 hi.1
        have hge := hi.2 hnew.1
        exact congrArg some (Nat.le_antisymm hge hle)
    · have hsame : (t.register name offset).2.indicesOf other = t.indicesOf other := by
        ext j
        rw [hmem j]
        simp [hname]
      rw [if_neg hname, hsame]
      exact h.indexOf?_iff

theorem Coherent.registerAll {t : GroupTable} (h : t.Coherent) (openings : List Opening) :
    (t.registerAll openings).Coherent := by
  induction openings generalizing t with
  | nil => exact h
  | cons o os ih => exact ih (h.register o.name o.offset)

theorem coherent_ofOpenings (openings : List Opening) : (ofOpenings openings).Coherent :=
  coherent_empty.registerAll openings

/-- The groups of a sequence of openings, the first of which has index `first`. -/
def numberFrom (first : Nat) : List Opening → List Group
  | [] => []
  | o :: os => ⟨first, o.name, o.offset⟩ :: numberFrom (first + 1) os

theorem getElem?_numberFrom (first k : Nat) (os : List Opening) :
    (numberFrom first os)[k]? = os[k]?.map fun o => ⟨first + k, o.name, o.offset⟩ := by
  induction os generalizing first k with
  | nil => rfl
  | cons o os ih =>
    cases k with
    | zero => rfl
    | succ k =>
      show (numberFrom (first + 1) os)[k]? = _
      rw [ih, Nat.add_assoc, Nat.add_comm 1 k]
      rfl

theorem take_numberFrom (first k : Nat) (os : List Opening) :
    (numberFrom first os).take k = numberFrom first (os.take k) := by
  induction os generalizing first k with
  | nil => rw [numberFrom, List.take_nil, List.take_nil, numberFrom]
  | cons o os ih =>
    cases k with
    | zero => rfl
    | succ k => exact congrArg (List.cons _) (ih (first + 1) k)

theorem groups_registerAll (t : GroupTable) (openings : List Opening) :
    (t.registerAll openings).groups = t.groups ++ numberFrom (t.count + 1) openings := by
  induction openings generalizing t with
  | nil => exact (List.append_nil _).symm
  | cons o os ih =>
    show ((t.register o.name o.offset).2.registerAll os).groups = _
    rw [ih, count_register, groups_register, List.append_assoc]
    rfl

theorem groups_ofOpenings (openings : List Opening) :
    (ofOpenings openings).groups = numberFrom 1 openings :=
  groups_registerAll empty openings

theorem count_ofOpenings (openings : List Opening) :
    (ofOpenings openings).count = openings.length := by
  rw [ofOpenings, count_registerAll]
  exact Nat.zero_add _

theorem bindings_registerAll {t : GroupTable} {openings : List Opening}
    (h : ∀ o ∈ openings, o.name = none) : (t.registerAll openings).bindings = t.bindings := by
  induction openings generalizing t with
  | nil => rfl
  | cons o os ih =>
    obtain ⟨name, offset⟩ := o
    obtain rfl : name = none := h _ List.mem_cons_self
    exact ih fun o ho => h o (List.mem_cons_of_mem _ ho)

/-! ## Tables of openings one behind the other -/

theorem ofOpenings_append (os os' : List Opening) :
    ofOpenings (os ++ os') = (ofOpenings os).registerAll os' := List.foldl_append

theorem ofOpenings_cons (o : Opening) (os : List Opening) :
    ofOpenings (o :: os) = (empty.register o.name o.offset).2.registerAll os := rfl

theorem indexOf?_registerAll (t : GroupTable) (os : List Opening) (name : Text) :
    (t.registerAll os).indexOf? name =
      (((ofOpenings os).indexOf? name).map (t.count + ·)).or (t.indexOf? name) := by
  induction os generalizing t with
  | nil => rfl
  | cons o os ih =>
    have hfirst := ih (t.register o.name o.offset).2
    have halone := ih (empty.register o.name o.offset).2
    rw [ofOpenings_cons, halone]
    show ((t.register o.name o.offset).2.registerAll os).indexOf? name = _
    rw [hfirst, count_register, count_register, indexOf?_register, indexOf?_register]
    cases (ofOpenings os).indexOf? name with
    | some i =>
      show some (t.count + 1 + i) = some (t.count + (0 + 1 + i))
      rw [Nat.zero_add, Nat.add_assoc]
    | none =>
      by_cases hname : o.name = some name
      · rw [if_pos hname, if_pos hname]
        rfl
      · rw [if_neg hname, if_neg hname]
        rfl

theorem numberFrom_append (first : Nat) (os os' : List Opening) :
    numberFrom first (os ++ os') = numberFrom first os ++ numberFrom (first + os.length) os' := by
  induction os generalizing first with
  | nil => rfl
  | cons o os ih =>
    rw [List.cons_append, numberFrom, ih, List.length_cons, Nat.add_comm os.length 1,
      ← Nat.add_assoc]
    rfl

theorem indexOf?_registerAll_of_forall_ne {t : GroupTable} {os : List Opening} {name : Text}
    (h : ∀ o ∈ os, o.name ≠ some name) : (t.registerAll os).indexOf? name = t.indexOf? name := by
  induction os generalizing t with
  | nil => rfl
  | cons o os ih =>
    have hrest := ih (t := (t.register o.name o.offset).2)
      fun other hother => h other (List.mem_cons_of_mem o hother)
    exact hrest.trans ((indexOf?_register ..).trans (if_neg (h o List.mem_cons_self)))

theorem ascending_bindings (os : List Opening) : (ofOpenings os).bindings.Ascending := by
  have hrun : ∀ t : GroupTable, t.bindings.Ascending → (t.registerAll os).bindings.Ascending := by
    induction os with
    | nil => exact fun t ht => ht
    | cons o os ih =>
      intro t ht
      refine ih (t.register o.name o.offset).2 ?_
      cases hname : o.name with
      | none => exact ht
      | some name => exact ht.bind name _
  exact hrun empty .nil

theorem Coherent.pos_and_le {t : GroupTable} (h : t.Coherent) {name : Text} {i : Nat}
    (hi : t.indexOf? name = some i) : 1 ≤ i ∧ i ≤ t.count := by
  obtain ⟨g, hg, -, rfl⟩ := (h.indexOf?_iff.mp hi).1
  obtain ⟨k, hk⟩ := List.getElem?_of_mem hg
  have hindex := h.index_eq hk
  exact ⟨by omega, h.index_le hg⟩

theorem hasNames_of_indexOf? {t : GroupTable} {name : Text} {i : Nat}
    (h : t.indexOf? name = some i) : t.hasNames = true := by
  obtain ⟨groups, bindings⟩ := t
  cases bindings with
  | nil => cases h
  | cons b rest => rfl

theorem names_ofOpenings {openings : List Opening} (h : ∀ o ∈ openings, o.name = none) :
    (ofOpenings openings).names = [] := by
  rw [names, ofOpenings, bindings_registerAll h]
  rfl

end GroupTable
end NamedCapture
