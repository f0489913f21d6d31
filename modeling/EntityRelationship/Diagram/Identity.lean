import EntityRelationship.Diagram.Attribute
import EntityRelationship.Diagram.Cardinality
import EntityRelationship.Diagram.Dependency

/-!
# Identities

An entity is identified by its own key, by its owner and a partial key, or as a member of its
parent. Following owners and parents up from an entity gives its lineage, which ends at an entity
with a key of its own. The identity columns are read off the lineage from the top down.
-/

namespace EntityRelationship

/-- Where the identity of an entity comes from. -/
inductive IdentitySource where
  /-- A key attribute of its own. -/
  | ownKey (key : Node)
  /-- The owner at the other end of a dependency, with a partial key unless the two correspond
  one to one. -/
  | dependent (relation owner : Node) (partialKey : Option Node)
  /-- The parent of a specialization. -/
  | subclass (specialization parent : Node)
  deriving DecidableEq

/-- The entity on whose identity another one is built. -/
def IdentitySource.base? : IdentitySource → Option Node
  | ownKey _ => none
  | dependent _ owner _ => some owner
  | subclass _ parent => some parent

/-- A column that refers to a column of another table. -/
structure Reference where
  /-- The column of the table that refers. -/
  column : TypedName
  /-- The name of the column referred to. -/
  references : String
  deriving DecidableEq

/-- An entity with everything its identity is built on. -/
inductive Lineage where
  /-- An entity with its own key. -/
  | root (entity key : Node)
  /-- A weak entity above whose partial key stands its owner. -/
  | weak (entity : Node) (partialKey : Option Node) (owner : Lineage)
  /-- An entity that is a member of its parent. -/
  | subclass (entity : Node) (parent : Lineage)

/-- A column of an entity's identity as another table names it: with the entity's name in front
if the entity has its own key, and unchanged otherwise. -/
def Lineage.abroad : Lineage → TypedName → TypedName
  | .root entity _, c => c.qualify entity.safeName
  | .weak .., c => c
  | .subclass .., c => c

namespace Diagram

/-! ## The source of an identity -/

/-- The key that completes the identity of a weak entity: the relation's key if the dependency is
identifying, and otherwise the entity's own. -/
def partialKey? (d : Diagram) (relation : Node) (entity : String) : Option Node :=
  d.primaryKey? (if relation.kind = .dependency .identifying then relation.id else entity)

/-- The source of an entity's identity. -/
def identitySource (d : Diagram) (entity : Node) : Except SynthesisFault IdentitySource :=
  match entity.kind with
  | .entity =>
    match d.specializationAbove? entity.id with
    | some specialization =>
      match d.parent? specialization.id with
      | some parent => .ok (.subclass specialization parent)
      | none => .error (.missingParent specialization.id)
    | none =>
      match d.primaryKey? entity.id with
      | some key => .ok (.ownKey key)
      | none => .error (.missingPrimaryKey entity.id)
  | .weakEntity =>
    match d.dependency? entity.id with
    | none => .error (.missingDependency entity.id)
    | some relation => do
      let owner ← d.otherEntity relation.id entity.id
      if d.cardinality relation.id = .oneToOne then .ok (.dependent relation owner none)
      else
        match d.partialKey? relation entity.id with
        | some key => .ok (.dependent relation owner (some key))
        | none => .error (.missingPrimaryKey entity.id)
  | _ => .error (.notAnEntity entity.id)

/-! ## Lineages -/

/-- The number of nodes that are not among the visited ids. -/
def unvisited (d : Diagram) (visited : List String) : Nat :=
  d.nodes.countP (·.id ∉ visited)

theorem unvisited_cons_lt {d : Diagram} {visited : List String} {id : String} {n : Node}
    (hn : d.node? id = some n) (h : id ∉ visited) :
    d.unvisited (id :: visited) < d.unvisited visited := by
  obtain ⟨hmem, rfl⟩ := mem_of_node? hn
  obtain ⟨nodes, edges⟩ := d
  simp only [unvisited] at hmem ⊢
  clear hn
  induction nodes with
  | nil => simp at hmem
  | cons m ms ih =>
    have hle : ms.countP (·.id ∉ n.id :: visited) ≤ ms.countP (·.id ∉ visited) :=
      List.countP_mono_left fun x _ hx => by simp_all
    rw [List.countP_cons, List.countP_cons]
    rcases List.mem_cons.1 hmem with rfl | hmem
    · rw [if_neg (by simp), if_pos (by simpa using h)]
      omega
    · have hlt := ih hmem
      by_cases hv : m.id ∈ visited
      · rw [if_neg (by simp [hv]), if_neg (by simp [hv])]
        omega
      · split
        · rw [if_pos (by simpa using hv)]
          omega
        · rw [if_pos (by simpa using hv)]
          omega

/-- The lineage of an entity below the visited ones. It is an error if an entity repeats, or if
the source of an identity is missing. -/
def lineageFrom (d : Diagram) (visited : List String) (id : String) :
    Except SynthesisFault Lineage :=
  match _hn : d.node? id with
  | none => .error (.unknownNode id)
  | some entity =>
    if _hv : id ∈ visited then .error (.identityCycle id)
    else do
      match ← d.identitySource entity with
      | .ownKey key => return .root entity key
      | .dependent _ owner partialKey =>
        return .weak entity partialKey (← d.lineageFrom (id :: visited) owner.id)
      | .subclass _ parent =>
        return .subclass entity (← d.lineageFrom (id :: visited) parent.id)
termination_by d.unvisited visited
decreasing_by all_goals exact unvisited_cons_lt ‹_› ‹_›

/-- The lineage of an entity. -/
def lineage (d : Diagram) (id : String) : Except SynthesisFault Lineage :=
  d.lineageFrom [] id

/-! ## Identity columns -/

/-- The identity columns of an entity as its own table names them, the oldest ancestor's first.
A weak entity adds its partial key, with its own name in front. -/
def identityOf (d : Diagram) : Lineage → Except SynthesisFault (List TypedName)
  | .root _ key => d.leafColumns key
  | .weak entity partialKey owner => do
    let inherited ← d.identityOf owner
    let own ← partialKey.elim (.ok []) d.leafColumns
    return inherited.map owner.abroad ++ own.map (·.qualify entity.safeName)
  | .subclass _ parent => do
    let inherited ← d.identityOf parent
    return inherited.map parent.abroad

/-- The identity columns of an entity. -/
def identityColumns (d : Diagram) (entity : String) : Except SynthesisFault (List TypedName) := do
  d.identityOf (← d.lineage entity)

/-- The columns with which another table refers to an entity. -/
def foreignKeyColumns (d : Diagram) (entity : String) : Except SynthesisFault (List Reference) := do
  let lineage ← d.lineage entity
  let columns ← d.identityOf lineage
  return columns.map fun c => ⟨lineage.abroad c, c.name⟩

end Diagram

end EntityRelationship
