import EntityRelationship.Diagram.Attribute

/-!
# Relational schemas

A schema is a list of tables, and a table has a name, columns and constraints, all in the order
in which they are written. A key of one column may be declared on the column itself.
-/

namespace EntityRelationship

/-! ## Columns and constraints -/

/-- What a key is for. -/
inductive KeyKind where
  /-- The key by which rows are identified. -/
  | primary
  /-- Any other set of columns that no two rows share. -/
  | unique
  deriving DecidableEq

/-- A column of a table. -/
structure Column where
  name : String
  type : String
  nullable : Bool := false
  defaultValue : Option String := none
  /-- The expression that computes the column. -/
  expression : Option String := none
  /-- The key that consists of this column and is declared with it. -/
  key : Option KeyKind := none
  /-- The condition that each value must meet. -/
  check : Option String := none
  deriving DecidableEq

/-- The column of a typed name, which has a value in every row. -/
def Column.ofTypedName (t : TypedName) : Column :=
  { name := t.name, type := t.type }

@[simp] theorem Column.name_ofTypedName (t : TypedName) : (ofTypedName t).name = t.name := rfl

@[simp] theorem Column.type_ofTypedName (t : TypedName) : (ofTypedName t).type = t.type := rfl

/-- The names of a list of columns. -/
def Column.names (cs : List Column) : List String :=
  cs.map (·.name)

@[simp] theorem Column.names_append (cs ds : List Column) : names (cs ++ ds) = names cs ++ names ds :=
  List.map_append

/-- Columns that hold the key of a row of some table. -/
structure ForeignKey where
  columns : List String
  /-- The name of the table referred to. -/
  table : String
  /-- The columns referred to, in the order of `columns`. -/
  references : List String
  /-- Whether a row goes when the row it refers to goes. -/
  cascade : Bool
  deriving DecidableEq

/-- A constraint on the rows of a table. -/
inductive Constraint where
  | key (kind : KeyKind) (columns : List String)
  | foreignKey (key : ForeignKey)
  | check (condition : String)
  deriving DecidableEq

/-! ## Tables -/

/-- A table. -/
structure Table where
  name : String
  columns : List Column
  constraints : List Constraint
  deriving DecidableEq

namespace Table

/-- The table of a name that has nothing in it. -/
def blank (name : String) : Table := ⟨name, [], []⟩

/-- The names of a table's columns. -/
def columnNames (t : Table) : List String :=
  Column.names t.columns

/-- The first column of a name. -/
def column? (t : Table) (name : String) : Option Column :=
  t.columns.find? (·.name == name)

/-- Whether some column has a name. -/
def hasColumn (t : Table) (name : String) : Bool :=
  (t.column? name).isSome

theorem hasColumn_iff {t : Table} {name : String} :
    t.hasColumn name = true ↔ name ∈ t.columnNames := by
  simp [hasColumn, column?, columnNames, Column.names]

/-- The table with columns and constraints added after its own. -/
def extend (t : Table) (columns : List Column) (constraints : List Constraint) : Table :=
  ⟨t.name, t.columns ++ columns, t.constraints ++ constraints⟩

@[simp] theorem name_extend (t : Table) (cs : List Column) (ks : List Constraint) :
    (t.extend cs ks).name = t.name := rfl

@[simp] theorem columns_extend (t : Table) (cs : List Column) (ks : List Constraint) :
    (t.extend cs ks).columns = t.columns ++ cs := rfl

@[simp] theorem constraints_extend (t : Table) (cs : List Column) (ks : List Constraint) :
    (t.extend cs ks).constraints = t.constraints ++ ks := rfl

/-- The table with the columns of a key added. A key of one column is declared with the column,
and any other with the table. -/
def addKey (t : Table) (kind : KeyKind) : List Column → Table
  | [c] => t.extend [{ c with key := some kind }] []
  | cs => t.extend cs [.key kind (Column.names cs)]

@[simp] theorem name_addKey (t : Table) (kind : KeyKind) (cs : List Column) :
    (t.addKey kind cs).name = t.name := by
  rcases cs with _ | ⟨c, _ | ⟨c', cs⟩⟩ <;> rfl

/-- Adding a key adds its columns, whichever way the key is declared. -/
@[simp] theorem columnNames_addKey (t : Table) (kind : KeyKind) (cs : List Column) :
    (t.addKey kind cs).columnNames = t.columnNames ++ Column.names cs := by
  rcases cs with _ | ⟨c, _ | ⟨c', cs⟩⟩ <;> simp [addKey, columnNames, Column.names]

end Table

/-! ## Schemas -/

/-- A schema. -/
structure Schema where
  tables : List Table
  deriving DecidableEq

/-- The first table of a name. -/
def Schema.table? (s : Schema) (name : String) : Option Table :=
  s.tables.find? (·.name == name)

end EntityRelationship
