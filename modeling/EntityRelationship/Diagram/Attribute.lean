import EntityRelationship.Diagram.Fault
import EntityRelationship.Diagram.Neighbor
import EntityRelationship.Text.Case
import EntityRelationship.Text.Search

/-!
# Attributes

The label of a simple attribute gives a name and a type. A composite attribute has members, and
stands for the simple attributes that are reached from it through members. An attribute belongs
to the entities and relations that are reached from it through attributes.
-/

namespace EntityRelationship

/-! ## Typed labels -/

/-- A name with a type, as a simple attribute's label gives them. -/
structure TypedName where
  name : String
  type : String
  deriving DecidableEq

namespace TypedName

/-- The label that gives a name and a type. -/
def text (t : TypedName) : String :=
  t.name ++ ":" ++ t.type

/-- The name with its owner's name in front. -/
def qualify (owner : String) (t : TypedName) : TypedName :=
  { t with name := owner ++ "_" ++ t.name }

@[simp] theorem type_qualify (owner : String) (t : TypedName) : (t.qualify owner).type = t.type :=
  rfl

end TypedName

namespace Node

/-- The name and type in the label of an attribute. They stand before and after the first colon;
the name loses its blanks, and the type is trimmed and put in upper case. Neither may be empty. -/
def typedName (n : Node) : Except SynthesisFault TypedName :=
  let malformed := .error (.malformedLabel n.id n.label)
  match Text.cut ":" n.label with
  | none => malformed
  | some (before, after) =>
    let name := Text.strip before
    let type := Text.upper (Text.trim after)
    if name = "" ∨ type = "" then malformed else .ok ⟨name, type⟩

/-- The name in the label of an attribute, which need not give a type. -/
def attributeName (n : Node) : String :=
  match Text.cut ":" n.label with
  | some (before, _) => Text.strip before
  | none => n.safeName

/-- The expression of a derived attribute, or `none` if it is missing or blank. -/
def expression? (n : Node) : Option String :=
  (n.equation.map Text.trim).filter (· != "")

/-- A typed label and the attribute's name agree on the name. -/
theorem attributeName_of_typedName {n : Node} {t : TypedName} (h : n.typedName = .ok t) :
    n.attributeName = t.name := by
  simp only [typedName] at h
  rw [attributeName]
  split at h
  · cases h
  · next hc =>
    rw [hc]
    split at h
    · cases h
    · cases h
      rfl

end Node

namespace Diagram

/-! ## Members -/

/-- The member to which an edge leads from a composite attribute: the target of an edge that
leaves the attribute, if that target is an attribute. -/
def memberAlong? (d : Diagram) (id : String) (e : Edge) : Option Neighbor :=
  if e.source = id ∧ e.target ≠ id then
    ((d.node? e.target).filter (·.kind.isAttribute)).map fun n => ⟨n, e⟩
  else none

/-- The members of a composite attribute, in edge order. -/
def members (d : Diagram) (id : String) : List Neighbor :=
  (d.edgesTouching id).filterMap (d.memberAlong? id)

/-- The ids of an attribute and of everything reached from it through members, in depth-first
order. -/
def memberWalk (d : Diagram) (id : String) : List String :=
  d.walk (fun id e => (d.memberAlong? id e).map (·.node.id)) id

/-- The attributes without members that are reached from an attribute, itself included, in
depth-first order. -/
def leaves (d : Diagram) (a : Node) : List Node :=
  ((d.memberWalk a.id).filter fun id => (d.members id).isEmpty).filterMap d.node?

/-- The names and types of an attribute's leaves. -/
def leafColumns (d : Diagram) (a : Node) : Except SynthesisFault (List TypedName) :=
  (d.leaves a).mapM (·.typedName)

/-! ## Owners -/

/-- The attribute that is seen from an id along an edge. -/
def attributeAlong? (d : Diagram) (id : String) (e : Edge) : Option String :=
  ((d.neighborAlong? id e).filter (·.node.kind.isAttribute)).map (·.node.id)

/-- A sorted list with an id put in its place, unless it is there already. -/
def insertId (id : String) : List String → List String
  | [] => [id]
  | x :: xs => if id < x then id :: x :: xs else if id = x then x :: xs else x :: insertId id xs

theorem mem_insertId {id y : String} {xs : List String} :
    y ∈ insertId id xs ↔ y = id ∨ y ∈ xs := by
  induction xs with
  | nil => simp [insertId]
  | cons x xs ih =>
    rw [insertId]
    split
    · simp
    · split
      · simp_all
      · simp only [List.mem_cons, ih]
        constructor
        · rintro (h | h | h) <;> simp [h]
        · rintro (h | h | h) <;> simp [h]

/-- The ids of a list in increasing order without repeats. -/
def sortedIds (ids : List String) : List String :=
  ids.foldr insertId []

theorem mem_sortedIds {y : String} {ids : List String} : y ∈ sortedIds ids ↔ y ∈ ids := by
  induction ids with
  | nil => simp [sortedIds]
  | cons x xs ih =>
    rw [sortedIds, List.foldr_cons, mem_insertId, List.mem_cons]
    exact or_congr Iff.rfl ih

/-- The ids of the entities and relations among the neighbors. -/
def rootNeighbors (d : Diagram) (id : String) : List String :=
  ((d.neighbors id).filter (·.node.kind.isRoot)).map (·.node.id)

/-- The ids of the entities and relations that are reached from an attribute through attributes
alone, in either direction of each edge, in increasing order. -/
def rootOwners (d : Diagram) (id : String) : List String :=
  sortedIds ((d.walk d.attributeAlong? id).flatMap d.rootNeighbors)

end Diagram

end EntityRelationship
