import EntityRelationship.Diagram.Fault
import EntityRelationship.Diagram.Neighbor

/-!
# Dependencies and specializations

A dependency relation joins a weak entity to the entity that owns it. Which end is the dependent
one shows in the direction of the edges, and where that does not tell, in the kinds of the ends.

A specialization has a parent entity, from which an edge leads into it, and children, to which
edges lead from it. Constraint edges play no part in this.
-/

namespace EntityRelationship

/-! ## Dependencies -/

/-- The two ends of a dependency relation. -/
structure DependencyEnds where
  owner : Node
  dependent : Node
  deriving DecidableEq

namespace Diagram

/-- The ends of a dependency relation. It has exactly two, and they differ. If exactly one of
their edges leaves the relation and leads to a weak entity, that entity is the dependent;
otherwise the dependent is the only weak entity of the two. -/
def dependencyEnds? (d : Diagram) (relation : String) : Option DependencyEnds :=
  match d.entityEnds relation with
  | [a, b] =>
    let aWeak := a.node.kind == .weakEntity
    let bWeak := b.node.kind == .weakEntity
    let aOut := a.edge.source == relation
    let bOut := b.edge.source == relation
    if a.node.id = b.node.id then none
    else if aOut && !bOut && aWeak then some ⟨b.node, a.node⟩
    else if bOut && !aOut && bWeak then some ⟨a.node, b.node⟩
    else if aWeak && !bWeak then some ⟨b.node, a.node⟩
    else if bWeak && !aWeak then some ⟨a.node, b.node⟩
    else none
  | _ => none

/-- The dependency relations of which an entity is the dependent end, each once. -/
def dependencies (d : Diagram) (entity : String) : List Node :=
  ((d.relations entity).filter (·.kind.isDependency)).filter fun r =>
    (d.dependencyEnds? r.id).any (·.dependent.id == entity)

/-- The first dependency of an entity. -/
def dependency? (d : Diagram) (entity : String) : Option Node :=
  (d.dependencies entity).head?

/-- The entity at the other end of a relation: the first end that is not the known entity, or
the known entity itself if there is no other. The relation has two ends at least. -/
def otherEntity (d : Diagram) (relation known : String) : Except SynthesisFault Node :=
  let ends := (d.entityEnds relation).map (·.node)
  if ends.length < 2 then .error (.tooFewEntities relation)
  else
    match (ends.find? (·.id != known)).or (ends.find? (·.id == known)) with
    | some n => .ok n
    | none => .error (.tooFewEntities relation)

/-! ## Specializations -/

/-- The entities with an edge into a specialization, once per edge. -/
def parents (d : Diagram) (specialization : String) : List Node :=
  (((d.edgesTouching specialization).filter fun e =>
      e.target == specialization && !e.kind.isConstraint).filterMap
    fun e => d.node? e.source).filter (·.kind.isEntity)

/-- The first parent of a specialization. -/
def parent? (d : Diagram) (specialization : String) : Option Node :=
  (d.parents specialization).head?

/-- The entities at which a specialization points, each once. -/
def children (d : Diagram) (specialization : String) : List Node :=
  firstOfEach ((((d.edgesTouching specialization).filter fun e =>
      e.source == specialization && e.target != specialization && !e.kind.isConstraint).filterMap
    fun e => d.node? e.target).filter (·.kind.isEntity))

/-- The specializations of which an entity is a child, each once. -/
def specializationsAbove (d : Diagram) (entity : String) : List Node :=
  firstOfEach ((((d.edgesTouching entity).filter fun e =>
      e.target == entity && !e.kind.isConstraint).filterMap
    fun e => d.node? e.source).filter (·.kind.isSpecialization))

/-- The first specialization of which an entity is a child. -/
def specializationAbove? (d : Diagram) (entity : String) : Option Node :=
  (d.specializationsAbove entity).head?

end Diagram

end EntityRelationship
