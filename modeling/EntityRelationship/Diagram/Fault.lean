import EntityRelationship.Diagram.Basic

/-!
# Faults of a diagram

What can keep a diagram from being turned into tables. Each fault names the element at which it
shows.
-/

namespace EntityRelationship

/-- Why a diagram has no tables. -/
inductive SynthesisFault where
  /-- An end of an edge is no node. -/
  | danglingEdge (edge node : String)
  | unknownNode (id : String)
  | notAnEntity (id : String)
  | missingPrimaryKey (entity : String)
  /-- An attribute's label does not give a name and a type. -/
  | malformedLabel (node label : String)
  | missingParent (specialization : String)
  | missingDependency (entity : String)
  /-- An entity's identity is built on itself. -/
  | identityCycle (entity : String)
  | missingEquation (node : String)
  | tooFewEntities (relation : String)
  deriving DecidableEq

/-- The text of a fault. -/
def SynthesisFault.message : SynthesisFault → String
  | danglingEdge edge node => s!"edge `{edge}` references missing node `{node}`"
  | unknownNode id => s!"unknown node `{id}`"
  | notAnEntity id => s!"node `{id}` is not an entity"
  | missingPrimaryKey entity => s!"entity `{entity}` has no primary key"
  | malformedLabel node label =>
    s!"label `{label}` of `{node}` does not follow the `name:TYPE` convention"
  | missingParent specialization => s!"specialization `{specialization}` has no parent entity"
  | missingDependency entity => s!"weak entity `{entity}` has no dependency relation"
  | identityCycle entity => s!"identity of `{entity}` depends on itself (cycle detected)"
  | missingEquation node => s!"derived attribute `{node}` has no equation"
  | tooFewEntities relation => s!"relation `{relation}` connects fewer than two entities"

/-- Checks that every end of every edge is a node; the first that is not is the fault. -/
def Diagram.checkReferences (d : Diagram) : Except SynthesisFault Unit :=
  match d.danglingEnds with
  | [] => .ok ()
  | (edge, node) :: _ => .error (.danglingEdge edge node)

theorem Diagram.checkReferences_eq_ok_iff {d : Diagram} :
    d.checkReferences = .ok () ↔ d.Closed := by
  rw [← danglingEnds_eq_nil_iff, checkReferences]
  split <;> simp_all

end EntityRelationship
