import EntityRelationship.Relational.Schema

/-!
# Drafts of a schema

While a schema is built, its tables stand in the order in which they were made, and beside them it
is noted for each entity at which place its table stands. A draft grows in two ways: a table is
added at the end, or the table of an entity is changed in the place that is noted for it.
-/

namespace EntityRelationship

/-- A table and the node for which it was built. The node is a mark on the table, by which no table
is looked up. -/
structure NodeTable where
  node : Node
  table : Table
  deriving DecidableEq

/-- The tables built so far. -/
structure Draft where
  tables : List NodeTable
  /-- The entities with the places of their tables, the one that was noted last in front. -/
  byEntity : List (String × Nat)
  deriving DecidableEq

namespace Draft

/-- The draft without tables. -/
def empty : Draft := ⟨[], []⟩

/-- The schema of the tables built so far. -/
def schema (s : Draft) : Schema :=
  ⟨s.tables.map (·.table)⟩

/-- The draft with the table of a node added. -/
def add (s : Draft) (n : Node) (t : Table) : Draft :=
  { s with tables := s.tables ++ [⟨n, t⟩] }

/-- The draft with the table of an entity added and its place noted. -/
def addEntity (s : Draft) (n : Node) (t : Table) : Draft :=
  { s.add n t with byEntity := (n.id, s.tables.length) :: s.byEntity }

/-- The place that is noted for an entity, which is the one that was noted last. -/
def place? (s : Draft) (entity : String) : Option Nat :=
  s.byEntity.lookup entity

/-- The table of an entity, in the place that is noted for it. -/
def table? (s : Draft) (entity : String) : Option Table := do
  let t ← s.tables[← s.place? entity]?
  return t.table

/-- The table of an entity, or the fault that it has none. -/
def tableOf (s : Draft) (entity : String) : Except SynthesisFault Table :=
  match s.table? entity with
  | some t => .ok t
  | none => .error (.unknownNode entity)

/-- The draft with the table of an entity changed in its place. -/
def update (s : Draft) (entity : String) (change : Table → Table) : Except SynthesisFault Draft :=
  match s.place? entity with
  | some i => .ok { s with tables := s.tables.modify i fun t => { t with table := change t.table } }
  | none => .error (.unknownNode entity)

end Draft

end EntityRelationship
