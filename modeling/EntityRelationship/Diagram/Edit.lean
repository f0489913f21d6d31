import EntityRelationship.Diagram.Basic

/-!
# Editing a diagram

The four edits of a diagram: inserting a node, inserting an edge, removing an element and
renaming one. An edit gives the changed diagram or says why it is refused. An id may be used once
among the nodes and once among the edges; where an id is both a node's and an edge's, removing
and renaming mean the node.
-/

namespace EntityRelationship

/-- Why an edit is refused. -/
inductive EditFault where
  | duplicateId (id : String)
  | unknownElement (id : String)
  deriving DecidableEq

/-- The text of a refusal. -/
def EditFault.message : EditFault → String
  | .duplicateId id => s!"duplicate element id `{id}`"
  | .unknownElement id => s!"unknown element id `{id}`"

/-- One edit of a diagram. -/
inductive Edit where
  | insertNode (node : Node)
  | insertEdge (edge : Edge)
  | remove (id : String)
  | rename (id label : String)
  deriving DecidableEq

namespace Diagram

/-! ## Single edits -/

/-- Adds a node at the end. -/
def insertNode (d : Diagram) (n : Node) : Except EditFault Diagram :=
  if d.hasNode n.id then .error (.duplicateId n.id)
  else .ok { d with nodes := d.nodes ++ [n] }

/-- Adds an edge at the end. Its ends need not be nodes. -/
def insertEdge (d : Diagram) (e : Edge) : Except EditFault Diagram :=
  if (d.edge? e.id).isSome then .error (.duplicateId e.id)
  else .ok { d with edges := d.edges ++ [e] }

/-- Removes a node and the edges that touch it, or else an edge. -/
def remove (d : Diagram) (id : String) : Except EditFault Diagram :=
  if d.hasNode id then
    .ok ⟨d.nodes.filter (·.id != id), d.edges.filter (!·.touches id)⟩
  else if (d.edge? id).isSome then
    .ok { d with edges := d.edges.filter (·.id != id) }
  else .error (.unknownElement id)

/-- Gives a node, or else an edge, a new label. -/
def rename (d : Diagram) (id label : String) : Except EditFault Diagram :=
  if d.hasNode id then
    .ok { d with nodes := d.nodes.map fun n => if n.id = id then { n with label } else n }
  else if (d.edge? id).isSome then
    .ok { d with edges := d.edges.map fun e => if e.id = id then { e with label } else e }
  else .error (.unknownElement id)

/-! ## Sequences of edits -/

/-- Carries out an edit. -/
def edit (d : Diagram) : Edit → Except EditFault Diagram
  | .insertNode n => d.insertNode n
  | .insertEdge e => d.insertEdge e
  | .remove id => d.remove id
  | .rename id label => d.rename id label

/-- Carries out an edit, or leaves the diagram as it is if the edit is refused. -/
def tryEdit (d : Diagram) (e : Edit) : Diagram :=
  match d.edit e with
  | .ok d' => d'
  | .error _ => d

/-- The diagram after a session of edits, of which the refused ones change nothing. -/
def afterSession (d : Diagram) (edits : List Edit) : Diagram :=
  edits.foldl tryEdit d

/-- The diagram of a list of nodes and a list of edges: the nodes are inserted first, and the
first repeated id refuses it. -/
def ofElements (nodes : List Node) (edges : List Edge) : Except EditFault Diagram := do
  let d ← nodes.foldlM insertNode empty
  edges.foldlM insertEdge d

end Diagram

end EntityRelationship
