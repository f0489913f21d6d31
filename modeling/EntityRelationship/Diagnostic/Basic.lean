/-!
# Diagnostics

A diagnostic says what is wrong with a node, how severe that is and which problem it is an
instance of. Errors keep a diagram from being compiled; warnings do so only on demand.
-/

namespace EntityRelationship

/-! ## Severities -/

/-- How severe a problem is. -/
inductive Severity where
  | error
  | warning
  | info
  deriving DecidableEq

namespace Severity

/-- Every severity, the gravest first. -/
def all : List Severity := [error, warning, info]

theorem mem_all (s : Severity) : s ∈ all := by
  cases s <;> decide

/-- The word for a severity. -/
def name : Severity → String
  | error => "error"
  | warning => "warning"
  | info => "info"

/-- The severity of a given word. -/
def ofName? (s : String) : Option Severity :=
  all.find? (·.name == s)

/-- The elements of a list with the graver ones first. Elements of one severity keep their
order. -/
def sortOn {α : Type} (severity : α → Severity) (xs : List α) : List α :=
  all.flatMap fun s => xs.filter (severity · == s)

/-- Sorting neither adds nor drops an element. -/
theorem mem_sortOn {α : Type} {severity : α → Severity} {x : α} {xs : List α} :
    x ∈ sortOn severity xs ↔ x ∈ xs := by
  simp only [sortOn, List.mem_flatMap, List.mem_filter, beq_iff_eq]
  constructor
  · rintro ⟨s, -, h, -⟩
    exact h
  · intro h
    exact ⟨severity x, mem_all _, h, rfl⟩

end Severity

/-! ## Problems -/

/-- What can be wrong with a node. -/
inductive Problem where
  /-- The node has no edges. -/
  | isolated
  /-- An attribute belongs to nothing. -/
  | detached
  /-- Two entities are joined without a relation in between. -/
  | entityToEntity
  /-- An entity is joined to a relation by an edge that is not weighted. -/
  | missingWeightedEdge
  | missingKey
  | multipleKeys
  /-- A key stands where the dependency allows none. -/
  | forbiddenKey
  | missingDependency
  | multipleDependencies
  | relationToRelation
  /-- Some ends of a relation are not weighted. -/
  | unweightedEntityLink
  | tooFewEntities
  | nonBinaryRelation
  /-- A dependency has no clear owner and dependent. -/
  | dependencyEnds
  /-- An identifying dependency does not have exactly one key. -/
  | identifyingKey
  | invalidCardinality
  | wrongNeighbor
  | wrongEdge
  /-- An attribute belongs to several entities or relations. -/
  | ambiguousOwner
  | compositeNotAllowed
  | nestedKey
  /-- A derived attribute has edges that leave it. -/
  | notLeaf
  | malformedLabel
  | missingEquation
  | missingParent
  | multipleParents
  /-- An entity is a child of several specializations. -/
  | multipleSpecializations
  | weakSubclass
  /-- A key is declared where an inherited identity counts. -/
  | keyIgnored
  /-- A constraint contradicts the form of its specialization. -/
  | constraintMismatch
  /-- A weak entity has the identity of its owner. -/
  | sharedIdentity
  /-- Two nodes have tables of the same name. -/
  | nameClash
  deriving DecidableEq

namespace Problem

/-- Every problem. -/
def all : List Problem :=
  [isolated, detached, entityToEntity, missingWeightedEdge, missingKey, multipleKeys, forbiddenKey,
    missingDependency, multipleDependencies, relationToRelation, unweightedEntityLink,
    tooFewEntities, nonBinaryRelation, dependencyEnds, identifyingKey, invalidCardinality,
    wrongNeighbor, wrongEdge, ambiguousOwner, compositeNotAllowed, nestedKey, notLeaf,
    malformedLabel, missingEquation, missingParent, multipleParents, multipleSpecializations,
    weakSubclass, keyIgnored, constraintMismatch, sharedIdentity, nameClash]

/-- The short label of a problem. -/
def label : Problem → String
  | isolated => "isolated"
  | detached => "detached"
  | entityToEntity => "entity-to-entity"
  | missingWeightedEdge => "missing-weighted-edge"
  | missingKey => "missing-key"
  | multipleKeys => "multiple-keys"
  | forbiddenKey => "forbidden-key"
  | missingDependency => "missing-dependency"
  | multipleDependencies => "multiple-dependencies"
  | relationToRelation => "relation-to-relation"
  | unweightedEntityLink => "unweighted-entity-link"
  | tooFewEntities => "too-few-entities"
  | nonBinaryRelation => "non-binary-relation"
  | dependencyEnds => "dependency-ends"
  | identifyingKey => "identifying-key"
  | invalidCardinality => "invalid-cardinality"
  | wrongNeighbor => "wrong-neighbor"
  | wrongEdge => "wrong-edge"
  | ambiguousOwner => "ambiguous-owner"
  | compositeNotAllowed => "composite-not-allowed"
  | nestedKey => "nested-key"
  | notLeaf => "not-leaf"
  | malformedLabel => "malformed-label"
  | missingEquation => "missing-equation"
  | missingParent => "missing-parent"
  | multipleParents => "multiple-parents"
  | multipleSpecializations => "multiple-specializations"
  | weakSubclass => "weak-subclass"
  | keyIgnored => "key-ignored"
  | constraintMismatch => "constraint-mismatch"
  | sharedIdentity => "shared-identity"
  | nameClash => "name-clash"

/-- The problem with a given label. -/
def ofLabel? (s : String) : Option Problem :=
  all.find? (·.label == s)

end Problem

/-! ## Diagnostics -/

/-- A finding about a node. -/
structure Diagnostic where
  severity : Severity
  problem : Problem
  /-- The id of the node. -/
  element : String
  description : String
  deriving DecidableEq

namespace Diagnostic

/-- Whether a diagnostic is an error. -/
def isError (d : Diagnostic) : Bool :=
  d.severity == .error

/-- Whether a diagnostic keeps a diagram from being compiled. Errors always do, and warnings if
they are denied. -/
def blocks (denyWarnings : Bool) (d : Diagnostic) : Bool :=
  d.isError || (denyWarnings && d.severity == .warning)

/-- A diagnostic on one line. -/
def text (d : Diagnostic) : String :=
  s!"{d.severity.name}[{d.problem.label}] {d.element}: {d.description}"

end Diagnostic

end EntityRelationship
