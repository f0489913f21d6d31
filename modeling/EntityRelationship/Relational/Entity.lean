import EntityRelationship.Diagram.Identity
import EntityRelationship.Relational.Naming

/-!
# Tables of entities

The table of an entity begins with its identity, which is the primary key; then come the
alternative keys, which together are one further key, and the other attributes.

The attributes of a relation become columns by the same rule as those of an entity. A multi-valued
attribute has a table of its own, with one row for each value of each owner.
-/

namespace EntityRelationship

/-! ## Attributes -/

/-- The columns of an attribute. A plain attribute has one for each leaf, and a derived one is
computed by its expression. Keys and multi-valued attributes have their place elsewhere. -/
def Diagram.columnsOf (d : Diagram) (nullable : Bool) (a : Neighbor) :
    Except SynthesisFault (List Column) :=
  match a.node.kind with
  | .attr .plain => do
    let leaves ← d.leafColumns a.node
    return leaves.map fun t =>
      { Column.ofTypedName t with nullable := nullable || a.edge.kind == .optional }
  | .attr .derived =>
    match a.node.expression? with
    | none => .error (.missingEquation a.node.id)
    | some expression => do
      let t ← a.node.typedName
      return [{ Column.ofTypedName t with expression := some expression }]
  | _ => .ok []

/-- The columns of the plain and derived attributes of an entity or relation. The plain ones may
be declared nullable as a whole. -/
def Diagram.attributeColumns (d : Diagram) (owner : String) (nullable : Bool) :
    Except SynthesisFault (List Column) := do
  let groups ← (d.attributes owner).mapM (d.columnsOf nullable)
  return groups.flatten

/-! ## Identities -/

/-- The foreign key by which some references lead to the table of a node. The shared columns have
the same names in both tables. -/
def ForeignKey.ofReferences (refs : List Reference) (shared : List String) (target : Node)
    (cascade : Bool) : ForeignKey where
  columns := refs.map (·.column.name) ++ shared
  table := target.safeName
  references := refs.map (·.references) ++ shared
  cascade := cascade

/-- The part of an entity's table that identifies a row. -/
def Diagram.identityTable (d : Diagram) (entity : Node) : Except SynthesisFault Table := do
  let table := Table.blank entity.safeName
  match ← d.identitySource entity with
  | .ownKey key =>
    let columns ← d.leafColumns key
    return table.addKey .primary (columns.map .ofTypedName)
  | .dependent _ owner partialKey =>
    let refs ← d.foreignKeyColumns owner.id
    let own ← partialKey.elim (.ok []) d.leafColumns
    let key := (refs.map (·.column) ++ own.map (·.qualify entity.safeName)).map Column.ofTypedName
    return table.extend key
      [.key .primary (Column.names key), .foreignKey (.ofReferences refs [] owner true)]
  | .subclass _ _ =>
    let columns ← d.identityColumns entity.id
    let key := columns.map Column.ofTypedName
    return table.extend key [.key .primary (Column.names key)]

/-- The columns of an entity's alternative keys. -/
def Diagram.alternativeKey (d : Diagram) (entity : String) :
    Except SynthesisFault (List Column) :=
  ((d.attributes entity).filter (·.node.kind == .attr .alternativeKey)).mapM fun a => do
    let t ← a.node.typedName
    return { Column.ofTypedName t with nullable := a.edge.kind == .optional }

/-! ## Tables -/

/-- The table of an entity. -/
def Diagram.entityTable (d : Diagram) (entity : Node) : Except SynthesisFault Table := do
  let table ← d.identityTable entity
  let alternative ← d.alternativeKey entity.id
  let table := if alternative = [] then table else table.addKey .unique alternative
  let columns ← d.attributeColumns entity.id false
  return table.pushAll entity.safeName columns

/-! ## Tables of multi-valued attributes -/

/-- The first owner of an attribute, which must be an entity. -/
def Diagram.entityOwner (d : Diagram) (a : Node) : Except SynthesisFault Node :=
  match d.rootOwners a.id with
  | [] => .error (.unknownNode a.id)
  | id :: _ =>
    match d.node? id with
    | none => .error (.unknownNode id)
    | some owner => if owner.kind.isEntity then .ok owner else .error (.notAnEntity owner.id)

/-- The table of a multi-valued attribute: its primary key is the owner's identity together with
the value. -/
def Diagram.multiValuedTable (d : Diagram) (a : Node) : Except SynthesisFault Table := do
  let owner ← d.entityOwner a
  let refs ← d.foreignKeyColumns owner.id
  let value ← a.typedName
  let table := (Table.blank (owner.safeName ++ "_" ++ a.attributeName)).extend
    (refs.map fun r => .ofTypedName r.column) []
  let name := table.freshName value.name
  return table.extend [.ofTypedName { value with name }]
    [.key .primary (refs.map (·.column.name) ++ [name]),
      .foreignKey (.ofReferences refs [] owner true)]

end EntityRelationship
