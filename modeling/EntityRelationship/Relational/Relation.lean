import EntityRelationship.Relational.Draft
import EntityRelationship.Relational.Entity

/-!
# Relations in tables

A relation between many and many has a table of its own. Any other relation is a foreign key in
the table of one of its entities, the holder, that leads to the table of the other, the target;
the relation's attributes go with it.
-/

namespace EntityRelationship

/-! ## Foreign keys of relations -/

/-- Whether of the two ends of a relation the first one holds the foreign key. One to many, it is
held where the upper bound is missing. One to one, it is held at the end that must take part if
the other need not, and otherwise at the end with the smaller id. -/
def Cardinality.firstHolds (c : Cardinality) (a b : Neighbor) : Bool :=
  if c = .oneToMany then isMany a.edge.cardinalityLabel
  else
    match a.edge.isMandatory, b.edge.isMandatory with
    | true, false => true
    | false, true => false
    | _, _ => a.node.id ≤ b.node.id

/-- A relation as a foreign key. -/
structure RelationKey where
  relation : Node
  cardinality : Cardinality
  holder : Neighbor
  target : Node
  deriving DecidableEq

namespace RelationKey

/-- Whether the relation joins an entity to itself. -/
def isReflexive (k : RelationKey) : Bool :=
  k.holder.node.id == k.target.id

/-- Whether the key may be missing: in a reflexive relation, and where the holder need not take
part. -/
def isNullable (k : RelationKey) : Bool :=
  k.isReflexive || !k.holder.edge.isMandatory

/-- The name of a referring column in the holder's table. -/
def columnName (k : RelationKey) (holder : Table) (r : Reference) : String :=
  if k.isReflexive then holder.freshName (k.relation.safeName ++ "_" ++ r.references)
  else holder.freeName k.relation.safeName r.column.name

/-- The references under the names they have in the holder's table. -/
def rename (k : RelationKey) (holder : Table) (refs : List Reference) : List Reference :=
  refs.map fun r => { r with column := { r.column with name := k.columnName holder r } }

/-- The holder's table with the referring columns, the foreign key and the attributes of the
relation added. A one-to-one relation makes the referring columns a key. -/
def extend (k : RelationKey) (refs : List Reference) (attributes : List Column)
    (holder : Table) : Table :=
  let refs := k.rename holder refs
  let columns := refs.map fun r => { Column.ofTypedName r.column with nullable := k.isNullable }
  let table :=
    if k.cardinality = .oneToOne then holder.addKey .unique columns else holder.extend columns []
  (table.extend [] [.foreignKey (.ofReferences refs [] k.target false)]).pushAll
    k.relation.safeName attributes

end RelationKey

namespace Diagram

/-- A relation as a foreign key between its first two ends. -/
def relationKey (d : Diagram) (relation : Node) : Except SynthesisFault RelationKey :=
  let cardinality := d.cardinality relation.id
  match d.entityEnds relation.id with
  | a :: b :: _ =>
    if cardinality.firstHolds a b then .ok ⟨relation, cardinality, a, b.node⟩
    else .ok ⟨relation, cardinality, b, a.node⟩
  | _ => .error (.tooFewEntities relation.id)

/-- The draft with a relation added to the table of its holder. -/
def addRelationKey (d : Diagram) (s : Draft) (relation : Node) : Except SynthesisFault Draft := do
  let key ← d.relationKey relation
  let refs ← d.foreignKeyColumns key.target.id
  let attributes ← d.attributeColumns relation.id key.isNullable
  s.update key.holder.node.id (key.extend refs attributes)

/-! ## Tables of relations -/

/-- The table of a relation with an end added: columns that refer to the entity, under names that
are free. -/
def addEnd (d : Diagram) (t : Table) (e : Neighbor) : Except SynthesisFault Table := do
  let refs ← d.foreignKeyColumns e.node.id
  let refs := refs.map fun r => { r with column := { r.column with name := t.freshName r.column.name } }
  return t.extend (refs.map fun r => .ofTypedName r.column)
    [.foreignKey (.ofReferences refs [] e.node true)]

/-- The table of a relation between many and many. Its primary key is the relation's own key if
there is one, and otherwise consists of all referring columns. -/
def junctionTable (d : Diagram) (relation : Node) : Except SynthesisFault Table := do
  let ends ← (d.entityEnds relation.id).foldlM d.addEnd (.blank relation.safeName)
  let table ←
    match d.primaryKey? relation.id with
    | some key => do
      let columns ← d.leafColumns key
      pure (ends.addKey .primary (columns.map .ofTypedName))
    | none => pure (ends.extend [] [.key .primary ends.columnNames])
  let attributes ← d.attributeColumns relation.id false
  return table.pushAll relation.safeName attributes

/-- The draft with a relation added in the way that its class asks for. A relation without
weighted edges is left out. -/
def addRelation (d : Diagram) (s : Draft) (relation : Node) : Except SynthesisFault Draft :=
  match d.cardinality relation.id with
  | .unrelated => .ok s
  | .oneToOne | .oneToMany => d.addRelationKey s relation
  | .manyToMany => do
    let table ← d.junctionTable relation
    return s.add relation table

end Diagram

end EntityRelationship
