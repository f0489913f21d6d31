import EntityRelationship.Relational.Draft
import EntityRelationship.Relational.Entity

/-!
# Specializations in tables

A specialization ties the table of each child to the table of the parent by the parent's identity
and one shared column that tells to which children a row belongs. If the specialization is
exclusive, all children share one column, the discriminator, which holds the name of a child. If
it is overlapped, each child has a flag of its own.

The column has the same name in both tables. The parent declares its identity together with the
column as a key, to which the child's foreign key leads, and the child fixes the column's value.
-/

namespace EntityRelationship

/-- A text as a literal of the schema language: in quotes, with the quotes inside it doubled. -/
def literal (s : String) : String :=
  "'" ++ Text.replaceChar '\'' "''" s ++ "'"

/-- A specialization with what its columns are made from. -/
structure SpecializationTie where
  specialization : Node
  kind : SpecializationKind
  parent : Node
  children : List Node
  /-- The references by which a child leads to the parent. -/
  references : List Reference
  deriving DecidableEq

/-- What is added to the table of an entity. -/
structure Addition where
  /-- The id of the entity. -/
  entity : String
  columns : List Column
  constraints : List Constraint
  deriving DecidableEq

namespace SpecializationTie

/-- The key of the parent's table that consists of its identity and a shared column. -/
def parentKey (s : SpecializationTie) (shared : String) : Constraint :=
  .key .unique (s.references.map (·.references) ++ [shared])

/-- The foreign key of a child's table that includes a shared column. -/
def childKey (s : SpecializationTie) (shared : String) : Constraint :=
  .foreignKey (.ofReferences s.references [shared] s.parent true)

/-! ## Exclusive specializations -/

/-- The wanted name of the discriminator: the specialization's, or one made from the parent's. -/
def discriminatorName (s : SpecializationTie) : String :=
  if s.specialization.safeName = "" then s.parent.safeName ++ "_type"
  else s.specialization.safeName

/-- The type of the discriminator, which has room for the longest name of a child. -/
def discriminatorType (s : SpecializationTie) : String :=
  let width := (s.children.map fun c => c.safeName.length).foldl max 1
  s!"VARCHAR({width})"

/-- The names of the children as literals. -/
def values (s : SpecializationTie) : List String :=
  s.children.map fun c => literal c.safeName

/-- What an exclusive specialization adds to the tables of its parent and its children. -/
def exclusiveAdditions (s : SpecializationTie) (discriminator : String) : List Addition :=
  let values := ", ".intercalate s.values
  let parent : Addition :=
    { entity := s.parent.id
      columns :=
        [{ name := discriminator, type := s.discriminatorType, nullable := !s.kind.total }]
      constraints :=
        [.check s!"{discriminator} IN ({values})", s.parentKey discriminator] }
  let child (c : Node) : Addition :=
    let value := literal c.safeName
    { entity := c.id
      columns :=
        [{ name := discriminator, type := s.discriminatorType, defaultValue := some value,
           check := some s!"{discriminator} = {value}" }]
      constraints := [s.childKey discriminator] }
  parent :: s.children.map child

/-! ## Overlapped specializations -/

/-- The wanted name of a child's flag. -/
def flagName (child : Node) : String :=
  "is_" ++ child.safeName

/-- What an overlapped specialization adds to the tables of its parent and its children, given the
flags of the children. In a total specialization some flag must be set. -/
def overlappedAdditions (s : SpecializationTie) (flags : List String) : List Addition :=
  let cover := if s.kind.total && flags != [] then [.check (" OR ".intercalate flags)] else []
  let parent : Addition :=
    { entity := s.parent.id
      columns := flags.map fun f => { name := f, type := "BOOLEAN", defaultValue := some "FALSE" }
      constraints := flags.map s.parentKey ++ cover }
  let child (c : Node) (f : String) : Addition :=
    { entity := c.id
      columns :=
        [{ name := f, type := "BOOLEAN", defaultValue := some "TRUE", check := some f }]
      constraints := [s.childKey f] }
  parent :: List.zipWith child s.children flags

end SpecializationTie

/-! ## Adding a specialization -/

/-- The draft with columns and constraints added to the table of an entity. -/
def Draft.append (s : Draft) (a : Addition) : Except SynthesisFault Draft :=
  s.update a.entity (·.extend a.columns a.constraints)

/-- A name that is free in the tables of some entities. -/
def Draft.sharedName (s : Draft) (entities : List String) (name : String) :
    Except SynthesisFault String := do
  let tables ← entities.mapM s.tableOf
  return EntityRelationship.sharedName tables name

namespace Diagram

/-- A specialization with its parent and children. -/
def specializationTie (d : Diagram) (specialization : Node) (kind : SpecializationKind) :
    Except SynthesisFault SpecializationTie :=
  match d.parent? specialization.id with
  | none => .error (.missingParent specialization.id)
  | some parent => do
    let refs ← d.foreignKeyColumns parent.id
    return ⟨specialization, kind, parent, d.children specialization.id, refs⟩

/-- The draft with a specialization added. The shared names are chosen before any column is
added. -/
def addSpecialization (d : Diagram) (s : Draft) (specialization : Node)
    (kind : SpecializationKind) : Except SynthesisFault Draft := do
  let tie ← d.specializationTie specialization kind
  let additions ←
    if kind.exclusive then do
      let discriminator ←
        s.sharedName (tie.parent.id :: tie.children.map (·.id)) tie.discriminatorName
      pure (tie.exclusiveAdditions discriminator)
    else do
      let flags ← tie.children.mapM fun c =>
        s.sharedName [tie.parent.id, c.id] (SpecializationTie.flagName c)
      pure (tie.overlappedAdditions flags)
  additions.foldlM Draft.append s

end Diagram

end EntityRelationship
