import EntityRelationship.Diagnostic.Rule.Basic
import EntityRelationship.Diagram.Attribute

/-!
# Rules for attributes

The role of an attribute limits to what it may be attached, by which edges, and whether it may
have members. Whatever its role, an attribute belongs to exactly one entity or relation, and an
attribute without members has a label with a name and a type.
-/

namespace EntityRelationship

namespace AttributeKind

/-- The kinds of nodes to which an attribute may be attached. -/
def mayTouch : AttributeKind → NodeKind → Bool
  | _, .entity | _, .weakEntity => true
  | .plain, .relation | .plain, .attr .plain | .plain, .attr .key => true
  | .key, .relation | .key, .dependency _ | .key, .attr .plain => true
  | .alternativeKey, .attr .plain => true
  | .multiValued, .attr .plain => true
  | .derived, .relation => true
  | _, _ => false

/-- The kinds of edges that an attribute may have. -/
def mayUse : AttributeKind → EdgeKind → Bool
  | _, .transition => true
  | .multiValued, _ => false
  | _, .optional => true
  | _, _ => false

/-- Whether an attribute may have members. -/
def mayBeComposite : AttributeKind → Bool
  | plain | key => true
  | alternativeKey | multiValued | derived => false

end AttributeKind

namespace Rule

/-- What is wrong with a neighbor of an attribute in a given role. -/
def attributeNeighbor (role : AttributeKind) (n : Node) (x : Neighbor) : Option Diagnostic :=
  onlyIf (!role.mayTouch x.node.kind) <|
    n.error .wrongNeighbor s!"{n.title} cannot be attached to {x.node.title}"

/-- What is wrong with an edge to a neighbor of an attribute in a given role. -/
def attributeEdge (role : AttributeKind) (n : Node) (x : Neighbor) : Option Diagnostic :=
  onlyIf (!role.mayUse x.edge.kind) <|
    n.error .wrongEdge s!"{n.title} cannot use a {x.edge.kind.name} edge (`{x.edge.id}`)"

/-- An attribute has members only if its role allows them. -/
def attributeMembers (role : AttributeKind) : Rule := fun d n =>
  onlyIf (!role.mayBeComposite && !(d.members n.id).isEmpty) <|
    n.error .compositeNotAllowed s!"{n.title} cannot have member attributes"

/-- An attribute belongs to exactly one entity or relation. -/
def oneOwner : Rule := fun d n =>
  match d.rootOwners n.id with
  | [] => some <| n.error .detached s!"{n.title} does not belong to any entity or relation"
  | [_] => none
  | owners =>
    let list := ", ".intercalate owners
    some <| n.error .ambiguousOwner s!"{n.title} is shared by {list}"

/-- The rule for the place of an attribute in a given role. -/
def attributePlace (role : AttributeKind) : Rule := fun d n =>
  (notIsolated d n).or <|
    ((d.neighbors n.id).findSome? (attributeNeighbor role n)).or <|
      ((d.neighbors n.id).findSome? (attributeEdge role n)).or <|
        (attributeMembers role d n).or (oneOwner d n)

/-- An attribute without members has a label with a name and a type. -/
def leafLabel : Rule := fun d n =>
  if !(d.members n.id).isEmpty then none
  else
    match n.typedName with
    | .ok _ => none
    | .error fault => some <| n.error .malformedLabel fault.message

/-- What is wrong with one neighbor of a key. -/
def keyNeighbor (n : Node) (x : Neighbor) : Option Diagnostic :=
  if x.edge.kind = .optional ∧ x.node.kind.isRoot then
    some <| n.error .wrongEdge s!"{n.title} cannot be optional on {x.node.title}"
  else
    onlyIf (x.edge.target == n.id && x.node.kind.isAttribute) <|
      n.error .nestedKey s!"{n.title} cannot be nested under {x.node.title}"

/-- The first edge that leaves a derived attribute is one too many. -/
def derivedIsLeaf : Rule := fun d n =>
  ((d.edgesTouching n.id).find? (·.source == n.id)).map fun e =>
    n.error .notLeaf s!"{n.title} must be a leaf but has outgoing edge `{e.id}`"

/-- A derived attribute has an expression. -/
def hasExpression : Rule := fun _ n =>
  onlyIf n.expression?.isNone <|
    n.error .missingEquation s!"{n.title} has no equation"

/-- The rule for attributes in a given role. -/
def attr (role : AttributeKind) : Rule := fun d n =>
  (attributePlace role d n).or <|
    match role with
    | .plain | .alternativeKey | .multiValued => leafLabel d n
    | .key => ((d.neighbors n.id).findSome? (keyNeighbor n)).or (leafLabel d n)
    | .derived => (derivedIsLeaf d n).or ((hasExpression d n).or (leafLabel d n))

end Rule

end EntityRelationship
