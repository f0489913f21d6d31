import EntityRelationship.Diagnostic.Basic
import EntityRelationship.Diagram.Neighbor

/-!
# Rules

A rule looks at one node of a diagram and gives the first thing that is wrong with it, if
anything is. It looks for errors first, then for warnings, then for what is worth knowing.
-/

namespace EntityRelationship

/-- A rule for the nodes of a diagram. -/
abbrev Rule := Diagram → Node → Option Diagnostic

namespace Node

/-- A node as descriptions name it: by kind and label. -/
def title (n : Node) : String :=
  s!"{n.kind.phrase} `{n.label}`"

/-- An error of a node. -/
def error (n : Node) (problem : Problem) (description : String) : Diagnostic :=
  ⟨.error, problem, n.id, description⟩

/-- A warning about a node. -/
def warning (n : Node) (problem : Problem) (description : String) : Diagnostic :=
  ⟨.warning, problem, n.id, description⟩

/-- A piece of information about a node. -/
def info (n : Node) (problem : Problem) (description : String) : Diagnostic :=
  ⟨.info, problem, n.id, description⟩

end Node

namespace Rule

/-- A diagnostic that is given under a condition. -/
def onlyIf (condition : Bool) (finding : Diagnostic) : Option Diagnostic :=
  if condition then some finding else none

theorem onlyIf_eq_none_iff {condition : Bool} {finding : Diagnostic} :
    onlyIf condition finding = none ↔ condition = false := by
  cases condition <;> simp [onlyIf]

/-- The rule for nodes of every kind: a node has edges. -/
def notIsolated : Rule := fun d n =>
  onlyIf (d.edgesTouching n.id).isEmpty <|
    n.error .isolated s!"{n.title} has no edges"

end Rule

end EntityRelationship
