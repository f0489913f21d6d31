import EntityRelationship.Diagnostic.Rule.Basic
import EntityRelationship.Diagram.Cardinality
import EntityRelationship.Diagram.Dependency

/-!
# Rules for relations

A relation joins at least two entity ends by weighted edges with readable cardinalities. It joins
more than two only if it is many to many. A dependency joins an owner and a weak entity, and
carries exactly one key if it is identifying and none otherwise.
-/

namespace EntityRelationship.Rule

/-- What is wrong with one neighbor of a relation. -/
def relationLink (n : Node) (x : Neighbor) : Option Diagnostic :=
  if x.node.kind.isRelation then
    some <| n.error .relationToRelation s!"{n.title} is linked to {x.node.title}"
  else
    onlyIf x.node.kind.isSpecialization <|
      n.error .wrongNeighbor s!"{n.title} cannot be linked to {x.node.title}"

/-- The ends of a relation are weighted, and there are two at least. -/
def relationEnds : Rule := fun d n =>
  let ends := d.entityEnds n.id
  let weighted := ends.countP (·.edge.kind == .weighted)
  if weighted ≠ ends.length then
    some <| n.error .unweightedEntityLink
      s!"{n.title} has {ends.length} entity link(s) but only {weighted} are weighted"
  else
    onlyIf (decide (ends.length < 2)) <|
      n.error .tooFewEntities s!"{n.title} must connect at least two entity ends"

/-- What is wrong with the cardinality of one edge of a relation. -/
def edgeCardinality (n : Node) (e : Edge) : Option Diagnostic :=
  onlyIf (e.kind == .weighted && e.participation?.isNone) <|
    n.error .invalidCardinality
      s!"edge `{e.id}` of {n.title} has cardinality `{e.cardinalityLabel}`; expected `(min..max)`"

/-- The rule for relations of every form. -/
def anyRelation : Rule := fun d n =>
  (notIsolated d n).or <|
    ((d.neighbors n.id).findSome? (relationLink n)).or <|
      (relationEnds d n).or ((d.edgesTouching n.id).findSome? (edgeCardinality n))

/-- A relation that is not many to many has two ends, and its key does not count. -/
def relationForm : Rule := fun d n =>
  let cardinality := d.cardinality n.id
  let ends := (d.entityEnds n.id).length
  if cardinality = .manyToMany then none
  else if ends ≠ 2 then
    some <| n.error .nonBinaryRelation
      s!"{n.title} is {cardinality.text} but has {ends} ends; only N:M relations may be n-ary"
  else
    onlyIf (!(d.keys n.id).isEmpty) <|
      n.warning .keyIgnored
        s!"{n.title} is {cardinality.text}; a relation key only applies to N:M junction tables"

/-- The rule for plain relations. -/
def relation : Rule := fun d n =>
  (anyRelation d n).or (relationForm d n)

/-- The keys of a dependency fit its form. -/
def dependencyKey : Rule := fun d n =>
  let keys := d.keys n.id
  if n.kind = .dependency .identifying then
    onlyIf (keys.length != 1 || keys.countP (·.edge.kind == .transition) != 1) <|
      n.error .identifyingKey
        s!"{n.title} needs exactly one key attribute linked by a transition edge, found {keys.length}"
  else
    onlyIf (!keys.isEmpty) <|
      n.error .forbiddenKey s!"{n.title} may not declare a key attribute"

/-- The rule for dependencies. -/
def dependency : Rule := fun d n =>
  (anyRelation d n).or <|
    if (d.dependencyEnds? n.id).isNone then
      some <| n.error .dependencyEnds
        s!"{n.title} needs exactly one owner and one weak entity as ends"
    else dependencyKey d n

end EntityRelationship.Rule
