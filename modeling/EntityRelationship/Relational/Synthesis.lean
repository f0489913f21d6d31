import EntityRelationship.Relational.Entity
import EntityRelationship.Relational.Relation
import EntityRelationship.Relational.Specialization

/-!
# From diagrams to schemas

The nodes of a diagram are taken kind by kind: entities, weak entities, relations, multi-valued
attributes and specializations, and the nodes of one kind in their order in the diagram. Each adds
a table to the draft or extends tables that are there. The first fault ends the synthesis.
-/

namespace EntityRelationship

/-- The kinds of nodes that matter for the schema, in groups that are taken one after the other. -/
def NodeKind.passes : List (NodeKind → Bool) :=
  [(· == .entity), (· == .weakEntity), (· == .relation), (· == .attr .multiValued),
    (·.isSpecialization)]

namespace Diagram

/-- The nodes in the order in which they are taken. -/
def buildOrder (d : Diagram) : List Node :=
  NodeKind.passes.flatMap fun pass => d.nodes.filter (pass ·.kind)

theorem mem_nodes_of_mem_buildOrder {d : Diagram} {n : Node} (h : n ∈ d.buildOrder) :
    n ∈ d.nodes := by
  obtain ⟨pass, -, hn⟩ := List.mem_flatMap.1 h
  exact (List.mem_filter.1 hn).1

/-- The draft after a node is taken. -/
def build (d : Diagram) (s : Draft) (n : Node) : Except SynthesisFault Draft :=
  match n.kind with
  | .entity | .weakEntity => do
    let table ← d.entityTable n
    return s.addEntity n table
  | .relation => d.addRelation s n
  | .attr .multiValued => do
    let table ← d.multiValuedTable n
    return s.add n table
  | .specialization kind => d.addSpecialization s n kind
  | _ => .ok s

/-- The schema of a diagram. -/
def synthesize (d : Diagram) : Except SynthesisFault Schema := do
  let draft ← d.buildOrder.foldlM d.build .empty
  return draft.schema

end Diagram

end EntityRelationship
