import EntityRelationship.Relational.Relation
import EntityRelationship.Relational.Specialization
import Mathlib.Algebra.Ring.Nat
import Mathlib.Data.List.Forall2
import Mathlib.Data.List.Nodup
import Mathlib.Data.List.Perm.Subperm

/-!
# Free names are free

A name that is chosen against some taken names is not among them. If the wanted name is taken, then
there are as many alternatives to it as there are taken names, and all of these are different; so
one of them is free. Whichever is chosen, it contains the wanted name.

A table to which columns are added one after the other, each under a name that is free in the table
as it then is, keeps its columns apart. Nothing but the name of a column is changed for this.

Trying the wanted name and then one number after the other, with no limit set, comes to the name that
is chosen. It takes at most one try more than there are columns.
-/

namespace EntityRelationship

variable {name : String} {m n : Nat} {taken : List String}

/-! ## Numbered names -/

/-- Different numbers give different names. -/
theorem numbered_injective (name : String) : Function.Injective (numbered name) := by
  intro m n h
  rw [numbered, numbered, String.append_assoc, String.append_assoc, String.append_right_inj] at h
  exact Text.repr_inj ((String.append_right_inj "_").1 h)

/-- A number changes the name. -/
theorem numbered_ne (name : String) (n : Nat) : numbered name n ≠ name := by
  intro h
  have hlength := congrArg String.length h
  simp only [numbered, String.length_append] at hlength
  have hone : "_".length = 1 := rfl
  omega

/-- The wanted name and its alternatives are all different. -/
theorem nodup_alternatives (name : String) (count : Nat) :
    (name :: alternatives name count).Nodup := by
  rw [List.nodup_cons]
  constructor
  · intro hmem
    obtain ⟨n, -, hn⟩ := List.mem_map.1 hmem
    exact numbered_ne name n hn
  · have hnumbers : (List.range' 2 count).Nodup := List.nodup_range'
    exact hnumbers.map (numbered_injective name)

/-- A fresh name is not taken. -/
theorem freshName_not_mem (taken : List String) (name : String) : freshName taken name ∉ taken := by
  rw [freshName]
  split
  · next htaken =>
    cases hfind : (alternatives name taken.length).find? (· ∉ taken) with
    | some other =>
      have hfree := List.find?_some hfind
      simpa using hfree
    | none =>
      -- otherwise there would be more different taken names than there are taken names
      exfalso
      have hsubset : name :: alternatives name taken.length ⊆ taken := by
        intro other hother
        rcases List.mem_cons.1 hother with rfl | hother
        · exact htaken
        · have htried := List.find?_eq_none.1 hfind other hother
          simpa using htried
      have hnodup := nodup_alternatives name taken.length
      have hlength := (List.subperm_of_subset hnodup hsubset).length_le
      simp only [List.length_cons, alternatives, List.length_map, List.length_range'] at hlength
      omega
  · next hfree => exact hfree

/-- If the wanted name is taken, the fresh one has the least number with which it is free. This number
is less than two above how many names are taken. -/
theorem exists_freshName_eq_numbered (h : name ∈ taken) :
    ∃ i < taken.length, freshName taken name = numbered name (2 + i) ∧
      ∀ j < i, numbered name (2 + j) ∈ taken := by
  have hfresh := freshName_not_mem taken name
  rw [freshName, if_pos h] at hfresh ⊢
  cases hfind : (alternatives name taken.length).find? (· ∉ taken) with
  | none =>
    rw [hfind] at hfresh
    exact absurd h hfresh
  | some other =>
    obtain ⟨-, i, hi, hother, hbefore⟩ := List.find?_eq_some_iff_getElem.1 hfind
    have hlength : (alternatives name taken.length).length = taken.length := by
      simp [alternatives]
    refine ⟨i, hlength ▸ hi, ?_, fun j hj => ?_⟩
    · rw [Option.getD_some, ← hother]
      simp [alternatives]
    · simpa [alternatives] using hbefore j hj

/-- A fresh name contains the wanted one. -/
theorem infix_freshName (taken : List String) (name : String) :
    name.toList <:+: (freshName taken name).toList := by
  rcases freshName_mem taken name with heq | hmem
  · simp [heq]
  · obtain ⟨i, -, hi⟩ := List.mem_map.1 hmem
    rw [← hi, numbered, String.append_assoc, String.toList_append]
    exact (List.prefix_append _ _).isInfix

/-! ## Names in tables -/

/-- The second column is the first one, under its own name or under one that contains it. -/
structure Column.Renames (c c' : Column) : Prop where
  eq_with : c' = { c with name := c'.name }
  name : c.name.toList <:+: c'.name.toList

/-- A name that several tables share is taken in none of them. -/
theorem sharedName_not_mem {tables : List Table} {t : Table} (ht : t ∈ tables) (name : String) :
    sharedName tables name ∉ t.columnNames := by
  intro hmem
  exact freshName_not_mem _ name (List.mem_flatMap.2 ⟨t, ht, hmem⟩)

namespace Table

theorem freshName_not_mem (t : Table) (name : String) : t.freshName name ∉ t.columnNames :=
  EntityRelationship.freshName_not_mem t.columnNames name

theorem freeName_not_mem (t : Table) (owner name : String) :
    t.freeName owner name ∉ t.columnNames := by
  rw [freeName]
  split
  · exact t.freshName_not_mem _
  · next hfree => exact hfree

theorem columnNames_extend (t : Table) (cs : List Column) (ks : List Constraint) :
    (t.extend cs ks).columnNames = t.columnNames ++ Column.names cs := by
  simp [columnNames]

theorem infix_freeName (t : Table) (owner name : String) :
    name.toList <:+: (t.freeName owner name).toList := by
  rw [freeName]
  split
  · refine List.IsInfix.trans ?_ (infix_freshName _ _)
    rw [String.toList_append]
    exact (List.suffix_append _ _).isInfix
  · exact List.infix_rfl

/-- Columns are added in their order, and nothing but their names is changed. -/
theorem exists_columns_pushAll (t : Table) (owner : String) (cs : List Column) :
    ∃ pushed, (t.pushAll owner cs).columns = t.columns ++ pushed ∧
      List.Forall₂ Column.Renames cs pushed := by
  induction cs generalizing t with
  | nil => exact ⟨[], (List.append_nil _).symm, .nil⟩
  | cons c cs ih =>
    obtain ⟨pushed, hcolumns, hpushed⟩ := ih (t.push owner c)
    refine ⟨{ c with name := t.freeName owner c.name } :: pushed, ?_,
      .cons ⟨rfl, t.infix_freeName owner c.name⟩ hpushed⟩
    rw [pushAll_cons, hcolumns, push, columns_extend, List.append_assoc, List.singleton_append]

/-- Adding columns under free names keeps the columns apart, and mends nothing. -/
theorem nodup_columnNames_pushAll {t : Table} (owner : String) (cs : List Column) :
    (t.pushAll owner cs).columnNames.Nodup ↔ t.columnNames.Nodup := by
  induction cs generalizing t with
  | nil => rfl
  | cons c cs ih =>
    rw [pushAll_cons, ih, push, columnNames_extend, List.nodup_append]
    constructor
    · exact fun h => h.1
    · intro h
      refine ⟨h, List.nodup_singleton _, ?_⟩
      intro name hname other hother hsame
      rw [hsame, List.mem_singleton.1 hother] at hname
      exact t.freeName_not_mem owner c.name hname

end Table

/-! ## The search for a free name -/

/-- A name is taken in none of some tables. -/
def FreeIn (tables : List Table) (name : String) : Prop :=
  ∀ t ∈ tables, name ∉ t.columnNames

/-- Trying the numbered names one after the other, from a number on, ends at the first one that is
free, after some tries. There is no limit to the numbers. -/
inductive FindsFrom (free : String → Prop) (name : String) : Nat → Nat → String → Prop
  | here {n : Nat} (h : free (numbered name n)) : FindsFrom free name n 1 (numbered name n)
  | further {n tries : Nat} {found : String} (h : ¬ free (numbered name n))
      (hrest : FindsFrom free name (n + 1) tries found) : FindsFrom free name n (tries + 1) found

/-- The wanted name is tried first and, if it is taken, the numbered names from two on. The search
ends after some tries. -/
inductive Finds (free : String → Prop) (name : String) : Nat → String → Prop
  | wanted (h : free name) : Finds free name 1 name
  | numbered {tries : Nat} {found : String} (h : ¬ free name)
      (hrest : FindsFrom free name 2 tries found) : Finds free name (tries + 1) found

/-- The search ends at the first free number that it comes to. -/
theorem findsFrom_of_least {free : String → Prop} {i : Nat}
    (hfree : free (numbered name (n + i))) (hbefore : ∀ j < i, ¬ free (numbered name (n + j))) :
    FindsFrom free name n (i + 1) (numbered name (n + i)) := by
  induction i generalizing n with
  | zero => exact .here hfree
  | succ i ih =>
    have hmove (j : Nat) : n + (j + 1) = n + 1 + j := by omega
    have hfirst : ¬ free (numbered name n) := hbefore 0 (Nat.succ_pos i)
    rw [hmove] at hfree ⊢
    exact .further hfirst (ih hfree fun j hj => hmove j ▸ hbefore (j + 1) (Nat.succ_lt_succ hj))

theorem freeIn_iff {tables : List Table} :
    FreeIn tables name ↔ name ∉ tables.flatMap (·.columnNames) := by
  simp [FreeIn]

/-- The columns of several tables are counted table by table. -/
theorem length_flatMap_columnNames (tables : List Table) :
    (tables.flatMap (·.columnNames)).length = (tables.map (·.columns.length)).sum := by
  rw [List.length_flatMap]
  simp [Table.columnNames, Column.names]

namespace Table

theorem freshName_eq_sharedName (t : Table) (name : String) :
    t.freshName name = sharedName [t] name := by
  rw [sharedName, List.flatMap_singleton]
  rfl

/-- A column is added behind the others, under its own name or, if that is taken, under a free name
that begins with its owner's. -/
theorem exists_push_eq (t : Table) (owner : String) (c : Column) :
    ∃ added : Column, t.push owner c = { t with columns := t.columns ++ [added] } ∧
      added = { c with name := added.name } ∧
      (FreeIn [t] c.name → added.name = c.name) ∧
      (¬ FreeIn [t] c.name → added.name = sharedName [t] (owner ++ "_" ++ c.name)) := by
  have hnames : FreeIn [t] c.name ↔ c.name ∉ t.columnNames := List.forall_mem_singleton
  rw [hnames, ← t.freshName_eq_sharedName]
  refine ⟨{ c with name := t.freeName owner c.name }, ?_, rfl, fun h => if_neg h,
    fun h => if_pos (not_not.1 h)⟩
  rw [push, extend, List.append_nil]

end Table

/-- The search for a name that is free in several tables ends at the name that is chosen. The wanted
name is chosen if it is free, and otherwise the numbered name with the least number from two on that
is free; a name that is taken never is. There is at most one try more than the tables have columns. A
name in one table is chosen in the same way. So a column is added to a table without a change of
anything but its own name, and a table keeps its columns apart. -/
theorem finds_sharedName (tables : List Table) (name : String) :
    (∃ tries ≤ (tables.map (·.columns.length)).sum + 1,
      Finds (FreeIn tables) name tries (sharedName tables name)) ∧
    FreeIn tables (sharedName tables name) ∧
    (FreeIn tables name → sharedName tables name = name) ∧
    (¬ FreeIn tables name → ∃ n ≥ 2, sharedName tables name = numbered name n ∧
      ∀ m ≥ 2, m < n → ¬ FreeIn tables (numbered name m)) ∧
    (∀ t : Table, t.freshName name = sharedName [t] name) ∧
    ∀ (t : Table) (owner : String) (c : Column),
      (∃ added : Column, t.push owner c = { t with columns := t.columns ++ [added] } ∧
        added = { c with name := added.name } ∧
        (FreeIn [t] c.name → added.name = c.name) ∧
        (¬ FreeIn [t] c.name → added.name = sharedName [t] (owner ++ "_" ++ c.name))) ∧
      ((t.push owner c).columnNames.Nodup ↔ t.columnNames.Nodup) := by
  have hfree : FreeIn tables (sharedName tables name) :=
    fun t ht => sharedName_not_mem ht name
  have hpush : ∀ (t : Table) (owner : String) (c : Column),
      (t.push owner c).columnNames.Nodup ↔ t.columnNames.Nodup :=
    fun t owner c => Table.nodup_columnNames_pushAll owner [c]
  rw [← length_flatMap_columnNames]
  by_cases hwanted : FreeIn tables name
  · have hname : sharedName tables name = name := freshName_of_not_mem (freeIn_iff.1 hwanted)
    refine ⟨⟨1, by omega, ?_⟩, hfree, fun _ => hname, fun h => absurd hwanted h,
      fun t => t.freshName_eq_sharedName name, fun t owner c =>
      ⟨t.exists_push_eq owner c, hpush t owner c⟩⟩
    rw [hname]
    exact .wanted hwanted
  · have htaken : name ∈ tables.flatMap (·.columnNames) := not_not.1 (mt freeIn_iff.2 hwanted)
    obtain ⟨i, hi, hname, hleast⟩ := exists_freshName_eq_numbered htaken
    have hfound : sharedName tables name = numbered name (2 + i) := hname
    have hbefore : ∀ j < i, ¬ FreeIn tables (numbered name (2 + j)) := by
      intro j hj h
      exact freeIn_iff.1 h (hleast j hj)
    refine ⟨⟨i + 1 + 1, by omega, ?_⟩, hfree, fun h => absurd h hwanted,
      fun _ => ⟨2 + i, by omega, hfound, fun m hm hlt => ?_⟩,
      fun t => t.freshName_eq_sharedName name, fun t owner c =>
      ⟨t.exists_push_eq owner c, hpush t owner c⟩⟩
    · rw [hfound] at hfree ⊢
      exact .numbered hwanted (findsFrom_of_least hfree hbefore)
    · have hrest := hbefore (m - 2) (by omega)
      rwa [Nat.add_sub_cancel' hm] at hrest

/-- The name stands beside its first alternatives, one of which is numbered itself. -/
example :
    sharedName [⟨"t", [{ name := "id", type := "" }, { name := "id_2_2", type := "" }], []⟩,
        ⟨"u", [{ name := "id_2", type := "" }], []⟩] "id" = "id_3" := by
  decide

/-- The name of a referring column is free in the holder's table. -/
theorem RelationKey.columnName_not_mem (k : RelationKey) (holder : Table) (r : Reference) :
    k.columnName holder r ∉ holder.columnNames := by
  unfold columnName
  split
  · exact holder.freshName_not_mem _
  · exact holder.freeName_not_mem _ _

end EntityRelationship
