import EntityRelationship.Diagnostic.Rule.Basic
import EntityRelationship.Diagram.Cardinality
import EntityRelationship.Diagram.Dependency

/-!
# Rules for entities

Entities are joined to each other through relations, by weighted edges. A strong entity is
identified by its own key or as a child of one specialization; a weak entity by its one
dependency, to which its keys have to fit.
-/

namespace EntityRelationship.Rule

/-- What is wrong with one neighbor of an entity. -/
def entityLink (n : Node) (x : Neighbor) : Option Diagnostic :=
  if x.node.kind.isEntity then
    some <| n.error .entityToEntity
      s!"{n.title} is linked directly to {x.node.title}; use a relation in between"
  else
    onlyIf (x.node.kind.isRelation && x.edge.kind != .weighted) <|
      n.error .missingWeightedEdge
        s!"{n.title} reaches {x.node.title} through a {x.edge.kind.name} edge; a weighted edge is required"

/-- No entity is a neighbor of an entity, and weighted edges lead to its relations. -/
def entityLinks : Rule := fun d n =>
  (d.neighbors n.id).findSome? (entityLink n)

/-- A strong entity is a child of one specialization and has no key, or of none and has a key. -/
def strongIdentity : Rule := fun d n =>
  let keys := d.keys n.id
  match d.specializationsAbove n.id with
  | first :: second :: _ =>
    some <| n.error .multipleSpecializations
      s!"{n.title} is a child of both {first.title} and {second.title}; a subclass inherits from one specialization"
  | [specialization] =>
    onlyIf (!keys.isEmpty) <|
      n.warning .keyIgnored
        s!"{n.title} inherits its identity from {specialization.title}; its own key is ignored"
  | [] =>
    match keys.length with
    | 0 => some <| n.error .missingKey s!"{n.title} has no key attribute"
    | 1 => none
    | count =>
      some <| n.warning .multipleKeys
        s!"{n.title} has {count} key attributes; only the first is used"

/-- The rule for strong entities. -/
def entity : Rule := fun d n =>
  (notIsolated d n).or ((entityLinks d n).or (strongIdentity d n))

/-- An existence dependency needs a key of the weak entity, and an identifying one forbids it. -/
def dependentKey (dependency : Node) : Rule := fun d n =>
  let keys := d.keys n.id
  match dependency.kind with
  | .dependency .existence =>
    onlyIf keys.isEmpty <|
      n.error .missingKey s!"{n.title} is existence-dependent and needs a partial key"
  | .dependency .identifying =>
    onlyIf (!keys.isEmpty) <|
      n.error .forbiddenKey
        s!"{n.title} is identified through {dependency.title}; it may not declare a key"
  | _ => none

/-- A weak entity with a given dependency has keys that fit and uses only one of them, and it is
worth knowing if it corresponds to its owner one to one. -/
def weakIdentity (dependency : Node) : Rule := fun d n =>
  let count := (d.keys n.id).length
  (dependentKey dependency d n).or <|
    if 1 < count then
      some <| n.warning .multipleKeys
        s!"{n.title} has {count} key attributes; only the first is used"
    else
      onlyIf (d.cardinality dependency.id == .oneToOne) <|
        n.info .sharedIdentity
          s!"{n.title} is 1:1 with its owner and reuses the owner's identity"

/-- A weak entity has exactly one dependency. -/
def oneDependency : Rule := fun d n =>
  match d.dependencies n.id with
  | [] => some <| n.error .missingDependency s!"{n.title} has no dependency relation"
  | [dependency] => weakIdentity dependency d n
  | dependencies =>
    some <| n.error .multipleDependencies
      s!"{n.title} depends on {dependencies.length} owners; exactly one is allowed"

/-- The rule for weak entities. -/
def weakEntity : Rule := fun d n =>
  (notIsolated d n).or ((entityLinks d n).or (oneDependency d n))

end EntityRelationship.Rule
