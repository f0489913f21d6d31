import EntityRelationship.Relational.Schema

/-!
# Schemas as statements

A schema is written as one `CREATE TABLE` statement per table, with a blank line between two
statements. Inside a statement each column and each constraint has a line of its own. Constraints
are written class by class, whatever their order in the table: primary keys, other keys, foreign
keys, checks.
-/

namespace EntityRelationship

/-! ## Columns -/

/-- Whether a column needs a value, and which one it has if none is given. A computed column says
neither. -/
def Column.valueClauses (c : Column) : List String :=
  match c.expression with
  | some expression => [s!"GENERATED ALWAYS AS ({expression}) STORED"]
  | none =>
    (if c.nullable then "NULL" else "NOT NULL")
      :: (c.defaultValue.map fun value => s!"DEFAULT {value}").toList

/-- The words for a key. -/
def KeyKind.text : KeyKind → String
  | primary => "PRIMARY KEY"
  | unique => "UNIQUE"

/-- The line of a column. -/
def Column.ddl (c : Column) : String :=
  " ".intercalate <|
    [c.name, c.type] ++ c.valueClauses ++ (c.key.map (·.text)).toList
      ++ (c.check.map fun condition => s!"CHECK ({condition})").toList

/-! ## Constraints -/

/-- A list of names in parentheses. -/
def nameList (names : List String) : String :=
  "(" ++ ", ".intercalate names ++ ")"

/-- The clause of a foreign key. -/
def ForeignKey.ddl (k : ForeignKey) : String :=
  "FOREIGN KEY " ++ nameList k.columns ++ " REFERENCES " ++ k.table ++ " " ++ nameList k.references
    ++ (if k.cascade then " ON DELETE CASCADE" else "")

/-- The line of a constraint. -/
def Constraint.ddl : Constraint → String
  | key kind columns => kind.text ++ " " ++ nameList columns
  | foreignKey k => k.ddl
  | check condition => s!"CHECK ({condition})"

/-- The class of a constraint, as its place among the classes. -/
def Constraint.rank : Constraint → Fin 4
  | key .primary _ => 0
  | key .unique _ => 1
  | foreignKey _ => 2
  | check _ => 3

/-- Constraints class by class. Those of one class keep their order. -/
def Constraint.byRank (ks : List Constraint) : List Constraint :=
  (List.finRange 4).flatMap fun r => ks.filter (·.rank == r)

/-- Ordering neither adds nor drops a constraint. -/
theorem Constraint.mem_byRank {k : Constraint} {ks : List Constraint} : k ∈ byRank ks ↔ k ∈ ks := by
  simp [byRank]

/-! ## Statements -/

/-- The lines between the first and the last line of a table's statement. -/
def Table.lines (t : Table) : List String :=
  t.columns.map (·.ddl) ++ (Constraint.byRank t.constraints).map (·.ddl)

/-- The statement that creates a table. -/
def Table.ddl (t : Table) : String :=
  "CREATE TABLE " ++ t.name ++ " (\n" ++ ",\n".intercalate (t.lines.map ("    " ++ ·)) ++ "\n);"

namespace Schema

/-- The comment in front of the statements. -/
def header (s : Schema) : String :=
  s!"-- Generated by ersql\n-- {s.tables.length} tables\n\n"

/-- The statements of all tables. -/
def statements (s : Schema) : String :=
  "\n\n".intercalate (s.tables.map (·.ddl)) ++ (if s.tables = [] then "" else "\n")

/-- The text of a schema, with or without the header. -/
def ddl (s : Schema) (header : Bool) : String :=
  (if header then s.header else "") ++ s.statements

end Schema

end EntityRelationship
