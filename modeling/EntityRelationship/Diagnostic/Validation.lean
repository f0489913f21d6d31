import EntityRelationship.Diagnostic.Rule.Attribute
import EntityRelationship.Diagnostic.Rule.Entity
import EntityRelationship.Diagnostic.Rule.Relation
import EntityRelationship.Diagnostic.Rule.Specialization

/-!
# Validation

Validating a diagram runs the rule of its kind on every node, in order, and then compares the
names of the tables. Entities, many-to-many relations and multi-valued attributes have tables of
their own. Their names must not be empty, and no two may agree up to case.
-/

namespace EntityRelationship

/-! ## Names of tables -/

/-- The name of the table of a node, if the node has a table. The table of a multi-valued
attribute is named after its first owner and the attribute. -/
def Diagram.tableName? (d : Diagram) (n : Node) : Option String :=
  match n.kind with
  | .entity | .weakEntity => some n.safeName
  | .relation => if d.cardinality n.id = .manyToMany then some n.safeName else none
  | .attr .multiValued => do
    let owner ← d.node? (← (d.rootOwners n.id).head?)
    return owner.safeName ++ "_" ++ n.attributeName
  | _ => none

namespace NameClash

/-- The diagnostics of the names of some nodes, given the names in lower case that are taken
already and the nodes that have taken them. -/
def among (d : Diagram) (taken : List (String × Node)) : List Node → List Diagnostic
  | [] => []
  | n :: ns =>
    match d.tableName? n with
    | none => among d taken ns
    | some name =>
      if name = "" then
        n.error .malformedLabel s!"{n.kind.phrase} `{n.id}` needs a name to become a table"
          :: among d taken ns
      else
        match taken.find? (·.1 == Text.lower name) with
        | some (_, first) =>
          n.error .nameClash
              s!"{n.title} produces table `{name}`, already produced by {first.title}"
            :: among d taken ns
        | none => among d ((Text.lower name, n) :: taken) ns

end NameClash

/-- The diagnostics of the names of all tables. -/
def Diagram.nameClashes (d : Diagram) : List Diagnostic :=
  NameClash.among d [] d.nodes

/-! ## Rules and names -/

/-- The rule for nodes of a kind. -/
def NodeKind.rule : NodeKind → Rule
  | .entity => Rule.entity
  | .weakEntity => Rule.weakEntity
  | .relation => Rule.relation
  | .dependency _ => Rule.dependency
  | .specialization _ => Rule.specialization
  | .attr role => Rule.attr role

namespace Diagram

/-- What the rule of its kind finds about a node. -/
def validateNode (d : Diagram) (n : Node) : Option Diagnostic :=
  n.kind.rule d n

/-- All diagnostics of a diagram. -/
def validate (d : Diagram) : List Diagnostic :=
  d.nodes.filterMap d.validateNode ++ d.nameClashes

/-- No diagnostic of a diagram is an error. -/
def Accepted (d : Diagram) : Prop :=
  ∀ x ∈ d.validate, x.isError = false

/-- An accepted diagram breaks no rule at any node. -/
theorem Accepted.validateNode_ne_error {d : Diagram} (h : d.Accepted) {n : Node}
    (hn : n ∈ d.nodes) {x : Diagnostic} (hx : d.validateNode n = some x) : x.isError = false := by
  refine h x ?_
  rw [validate, List.mem_append]
  exact .inl (List.mem_filterMap.2 ⟨n, hn, hx⟩)

end Diagram

end EntityRelationship
