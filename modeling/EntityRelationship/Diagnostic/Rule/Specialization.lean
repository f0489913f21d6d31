import EntityRelationship.Diagnostic.Rule.Basic
import EntityRelationship.Diagram.Dependency

/-!
# Rules for specializations

A specialization is joined to entities by plain links: one comes from its parent, and the others
lead to its children, which are strong. Its constraints should agree with its form.
-/

namespace EntityRelationship

/-- Whether a constraint fits the form of a specialization. Excluding and disjoint children are
exclusive, overlapping ones are not, and an inclusion is total. -/
def ConstraintKind.fits (s : SpecializationKind) : ConstraintKind → Bool
  | exclusion | disjointness => s.exclusive
  | overlap => !s.exclusive
  | inclusion => s.total

namespace Rule

/-- A specialization has plain links and constraints only. -/
def specializationEdges : Rule := fun d n =>
  ((d.edgesTouching n.id).find? fun e => e.kind != .transition && !e.kind.isConstraint).map
    fun e => n.error .wrongEdge
      s!"{n.title} only accepts transition edges, found {e.kind.name} edge `{e.id}`"

/-- The neighbors to which plain links lead. -/
def linked (d : Diagram) (n : Node) : List Node :=
  ((d.neighbors n.id).filter (·.edge.kind == .transition)).map (·.node)

/-- The plain links of a specialization join it to at least two entities. -/
def specializationLinks : Rule := fun d n =>
  match (linked d n).find? (!·.kind.isEntity) with
  | some other => some <| n.error .wrongNeighbor s!"{n.title} cannot be linked to {other.title}"
  | none =>
    onlyIf (decide ((linked d n).length < 2)) <|
      n.error .tooFewEntities s!"{n.title} needs a parent and at least one child"

/-- A specialization has one parent. -/
def oneParent : Rule := fun d n =>
  match (d.parents n.id).length with
  | 0 => some <| n.error .missingParent s!"{n.title} has no parent entity"
  | 1 => none
  | count => some <| n.error .multipleParents s!"{n.title} has {count} parent entities"

/-- No child of a specialization is weak. -/
def strongChildren : Rule := fun d n =>
  ((d.children n.id).find? (·.kind == .weakEntity)).map fun weak =>
    n.error .weakSubclass s!"{weak.title} cannot be a subclass of {n.title}"

/-- The constraints of a specialization fit its form. -/
def constraintsFit : Rule := fun d n =>
  match n.kind with
  | .specialization s =>
    let misfit (e : Edge) : Bool :=
      match e.kind with
      | .constraint c => !c.fits s
      | _ => false
    ((d.edgesTouching n.id).find? misfit).map fun e =>
      n.warning .constraintMismatch s!"{e.kind.name} edge `{e.id}` contradicts {n.title}"
  | _ => none

/-- The rule for specializations. -/
def specialization : Rule := fun d n =>
  (notIsolated d n).or <|
    (specializationEdges d n).or <|
      (specializationLinks d n).or <|
        (oneParent d n).or <|
          (strongChildren d n).or (constraintsFit d n)

end Rule

end EntityRelationship
