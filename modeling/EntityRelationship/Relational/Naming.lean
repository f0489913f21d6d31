import EntityRelationship.Relational.Schema

/-!
# Names that are free

A column that would repeat a name gets another one: the wanted name with the least number from
two on that makes it free. Of as many numbered names as there are names taken, and the wanted name
itself, one is free, so the search is over a finite list.
-/

namespace EntityRelationship

/-! ## Numbered names -/

/-- A name with a number behind it. -/
def numbered (name : String) (n : Nat) : String :=
  name ++ "_" ++ toString n

/-- The names to try when a name is taken, given how many names are taken. -/
def alternatives (name : String) (count : Nat) : List String :=
  (List.range' 2 count).map (numbered name)

/-- The wanted name if it is not taken, and otherwise the first of its alternatives that is not. -/
def freshName (taken : List String) (name : String) : String :=
  if name ∈ taken then
    ((alternatives name taken.length).find? (· ∉ taken)).getD name
  else name

theorem freshName_of_not_mem {taken : List String} {name : String} (h : name ∉ taken) :
    freshName taken name = name := by
  rw [freshName, if_neg h]

/-- A fresh name is the wanted one or one of its alternatives. -/
theorem freshName_mem (taken : List String) (name : String) :
    freshName taken name = name ∨ freshName taken name ∈ alternatives name taken.length := by
  rw [freshName]
  split
  · cases h : (alternatives name taken.length).find? (· ∉ taken) with
    | none => exact .inl rfl
    | some other => exact .inr (List.mem_of_find?_eq_some h)
  · exact .inl rfl

/-! ## Names in tables -/

/-- A name that is free in several tables. -/
def sharedName (tables : List Table) (name : String) : String :=
  freshName (tables.flatMap (·.columnNames)) name

namespace Table

/-- A name that is free in a table. -/
def freshName (t : Table) (name : String) : String :=
  EntityRelationship.freshName t.columnNames name

/-- The wanted name if it is free in a table, and otherwise a free one that begins with the name
of the column's owner. -/
def freeName (t : Table) (owner name : String) : String :=
  if name ∈ t.columnNames then t.freshName (owner ++ "_" ++ name) else name

/-- The table with a column of some owner added under a free name. -/
def push (t : Table) (owner : String) (c : Column) : Table :=
  t.extend [{ c with name := t.freeName owner c.name }] []

/-- The table with several columns of some owner added one after the other. -/
def pushAll (t : Table) (owner : String) (cs : List Column) : Table :=
  cs.foldl (·.push owner) t

@[simp] theorem name_push (t : Table) (owner : String) (c : Column) :
    (t.push owner c).name = t.name := rfl

@[simp] theorem constraints_push (t : Table) (owner : String) (c : Column) :
    (t.push owner c).constraints = t.constraints := by
  simp [push]

@[simp] theorem pushAll_nil (t : Table) (owner : String) : t.pushAll owner [] = t := rfl

@[simp] theorem pushAll_cons (t : Table) (owner : String) (c : Column) (cs : List Column) :
    t.pushAll owner (c :: cs) = (t.push owner c).pushAll owner cs := rfl

@[simp] theorem name_pushAll (t : Table) (owner : String) (cs : List Column) :
    (t.pushAll owner cs).name = t.name := by
  induction cs generalizing t with
  | nil => rfl
  | cons c cs ih => rw [pushAll_cons, ih, name_push]

@[simp] theorem constraints_pushAll (t : Table) (owner : String) (cs : List Column) :
    (t.pushAll owner cs).constraints = t.constraints := by
  induction cs generalizing t with
  | nil => rfl
  | cons c cs ih => rw [pushAll_cons, ih, constraints_push]

end Table

end EntityRelationship
