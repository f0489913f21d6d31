/-!
# Kinds of nodes and edges

A node is an entity, a relation, a specialization or an attribute, and most of these come in
several forms; an edge is a plain link, a weighted one, an optional one or a constraint between
the parts of a specialization. Each kind has up to three spellings: its name in a snapshot, its
keyword in a script and the phrase that messages use.
-/

namespace EntityRelationship

/-! ## Nodes -/

/-- How a weak entity depends on its owner. -/
inductive DependencyKind where
  /-- The weak entity has a partial key of its own. -/
  | existence
  /-- The relation carries the key that completes the owner's identity. -/
  | identifying
  deriving DecidableEq

/-- The two choices that make up a specialization. -/
structure SpecializationKind where
  /-- Whether every member of the parent belongs to some child. -/
  total : Bool
  /-- Whether a member of the parent belongs to one child at most. -/
  exclusive : Bool
  deriving DecidableEq

/-- The role of an attribute. -/
inductive AttributeKind where
  | plain
  | key
  | alternativeKey
  | multiValued
  | derived
  deriving DecidableEq

/-- The kind of a node. -/
inductive NodeKind where
  | entity
  | weakEntity
  | relation
  | dependency (kind : DependencyKind)
  | specialization (kind : SpecializationKind)
  | attr (kind : AttributeKind)
  deriving DecidableEq

namespace NodeKind

/-- Strong and weak entities. -/
def isEntity : NodeKind → Bool
  | entity | weakEntity => true
  | _ => false

/-- Plain relations and dependencies. -/
def isRelation : NodeKind → Bool
  | relation | dependency _ => true
  | _ => false

/-- Relations that tie a weak entity to its owner. -/
def isDependency : NodeKind → Bool
  | dependency _ => true
  | _ => false

/-- Specializations of every form. -/
def isSpecialization : NodeKind → Bool
  | specialization _ => true
  | _ => false

/-- Attributes in every role. -/
def isAttribute : NodeKind → Bool
  | attr _ => true
  | _ => false

/-- The nodes that attributes belong to: entities and relations. -/
def isRoot (k : NodeKind) : Bool :=
  k.isEntity || k.isRelation

/-- The form of a specialization, or `none` for another kind. -/
def specialization? : NodeKind → Option SpecializationKind
  | specialization s => some s
  | _ => none

/-- Whether a specialization is exclusive, or `none` for another kind. -/
def isExclusive (k : NodeKind) : Option Bool :=
  k.specialization?.map (·.exclusive)

/-- Whether a specialization is total, or `none` for another kind. -/
def isTotal (k : NodeKind) : Option Bool :=
  k.specialization?.map (·.total)

/-- Every kind, in the order in which messages list them. -/
def all : List NodeKind :=
  [entity, weakEntity, relation, dependency .existence, dependency .identifying,
    specialization ⟨false, true⟩, specialization ⟨false, false⟩,
    specialization ⟨true, true⟩, specialization ⟨true, false⟩,
    attr .plain, attr .key, attr .alternativeKey, attr .multiValued,
    attr .derived]

theorem mem_all (k : NodeKind) : k ∈ all := by
  cases k with
  | entity | weakEntity | relation => decide
  | dependency d => cases d <;> decide
  | specialization s => rcases s with ⟨_ | _, _ | _⟩ <;> decide
  | attr a => cases a <;> decide

/-- The name of a kind in a snapshot. -/
def name : NodeKind → String
  | entity => "entity"
  | weakEntity => "weak-entity"
  | relation => "relation"
  | dependency .existence => "existence-dependent-relation"
  | dependency .identifying => "identifying-dependent-relation"
  | specialization ⟨false, true⟩ => "partial-exclusive-specialization"
  | specialization ⟨false, false⟩ => "partial-overlapped-specialization"
  | specialization ⟨true, true⟩ => "total-exclusive-specialization"
  | specialization ⟨true, false⟩ => "total-overlapped-specialization"
  | attr .plain => "attribute"
  | attr .key => "key-attribute"
  | attr .alternativeKey => "alternative-key-attribute"
  | attr .multiValued => "multi-valued-attribute"
  | attr .derived => "derived-attribute"

/-- The word that opens a node line of a script. -/
def keyword : NodeKind → String
  | entity => "entity"
  | weakEntity => "weak-entity"
  | relation => "relation"
  | dependency .existence => "existence-relation"
  | dependency .identifying => "identifying-relation"
  | specialization ⟨false, true⟩ => "partial-exclusive"
  | specialization ⟨false, false⟩ => "partial-overlapped"
  | specialization ⟨true, true⟩ => "total-exclusive"
  | specialization ⟨true, false⟩ => "total-overlapped"
  | attr .plain => "attribute"
  | attr .key => "key"
  | attr .alternativeKey => "alt-key"
  | attr .multiValued => "multi-valued"
  | attr .derived => "derived"

/-- The phrase that messages use for a kind. -/
def phrase : NodeKind → String
  | entity => "entity"
  | weakEntity => "weak entity"
  | relation => "relation"
  | dependency .existence => "existence-dependent relation"
  | dependency .identifying => "identifying-dependent relation"
  | specialization ⟨false, true⟩ => "partial exclusive specialization"
  | specialization ⟨false, false⟩ => "partial overlapped specialization"
  | specialization ⟨true, true⟩ => "total exclusive specialization"
  | specialization ⟨true, false⟩ => "total overlapped specialization"
  | attr .plain => "attribute"
  | attr .key => "key attribute"
  | attr .alternativeKey => "alternative key attribute"
  | attr .multiValued => "multi-valued attribute"
  | attr .derived => "derived attribute"

/-- The kind of a given name. -/
def ofName? (s : String) : Option NodeKind :=
  all.find? (·.name == s)

/-- The kind of a given keyword. -/
def ofKeyword? (s : String) : Option NodeKind :=
  all.find? (·.keyword == s)

@[simp] theorem ofName?_name (k : NodeKind) : ofName? k.name = some k := by
  have h : ∀ k ∈ all, ofName? k.name = some k := by decide
  exact h k (mem_all k)

@[simp] theorem ofKeyword?_keyword (k : NodeKind) : ofKeyword? k.keyword = some k := by
  have h : ∀ k ∈ all, ofKeyword? k.keyword = some k := by decide
  exact h k (mem_all k)

end NodeKind

/-! ## Edges -/

/-- A constraint between the parts of a specialization. Tables do not depend on constraints. -/
inductive ConstraintKind where
  | exclusion
  | inclusion
  | disjointness
  | overlap
  deriving DecidableEq

/-- The kind of an edge. -/
inductive EdgeKind where
  /-- The plain link. -/
  | transition
  /-- The link between an entity and a relation, which carries a cardinality. -/
  | weighted
  /-- The link to an attribute that may be absent. -/
  | optional
  | constraint (kind : ConstraintKind)
  deriving DecidableEq

namespace EdgeKind

/-- Constraint edges of every form. -/
def isConstraint : EdgeKind → Bool
  | constraint _ => true
  | _ => false

/-- Every kind, in the order in which messages list them. -/
def all : List EdgeKind :=
  [transition, weighted, optional, constraint .exclusion, constraint .inclusion,
    constraint .disjointness, constraint .overlap]

theorem mem_all (k : EdgeKind) : k ∈ all := by
  cases k with
  | transition | weighted | optional => decide
  | constraint c => cases c <;> decide

/-- The name of a kind, in a snapshot and in messages. -/
def name : EdgeKind → String
  | transition => "transition"
  | weighted => "weighted"
  | optional => "optional"
  | constraint .exclusion => "exclusion"
  | constraint .inclusion => "inclusion"
  | constraint .disjointness => "disjointness"
  | constraint .overlap => "overlap"

/-- The kind of a given name. -/
def ofName? (s : String) : Option EdgeKind :=
  all.find? (·.name == s)

@[simp] theorem ofName?_name (k : EdgeKind) : ofName? k.name = some k := by
  have h : ∀ k ∈ all, ofName? k.name = some k := by decide
  exact h k (mem_all k)

end EdgeKind

end EntityRelationship
