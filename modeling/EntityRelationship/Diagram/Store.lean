import EntityRelationship.Diagram.Edit
import Std.Data.HashMap

/-!
# Stores

A store is a diagram that is kept while it is edited. Beside its lists it has indices: where each
node and each edge stands under its id, and where the edges stand that touch an id. A lookup goes
to the index and takes the element from its position in the list.

An edit changes a store in place, or refuses to. An insertion adds to the indices. A removal shifts
the elements behind the removed ones, and so the indices are made anew.
-/

namespace EntityRelationship

/-! ## Indices -/

/-- The positions of elements under their ids. -/
abbrev IdIndex := Std.HashMap String Nat

/-- The index of a list of ids. -/
def IdIndex.ofIds (ids : List String) : IdIndex :=
  ids.zipIdx.foldl (fun index p => index.insert p.1 p.2) ∅

/-- The positions of the edges that touch an id, in order. -/
abbrev Adjacency := Std.HashMap String (List Nat)

namespace Adjacency

/-- Notes a further position under an id. -/
def note (adjacency : Adjacency) (id : String) (i : Nat) : Adjacency :=
  adjacency.insert id (adjacency.getD id [] ++ [i])

/-- Notes the position of an edge under both of its ends, and that of a loop once. -/
def noteEdge (adjacency : Adjacency) (e : Edge) (i : Nat) : Adjacency :=
  let adjacency := adjacency.note e.source i
  if e.target = e.source then adjacency else adjacency.note e.target i

/-- The positions of a list of edges. -/
def ofEdges (edges : List Edge) : Adjacency :=
  edges.zipIdx.foldl (fun adjacency p => adjacency.noteEdge p.1 p.2) ∅

end Adjacency

/-- A diagram with the indices through which it is searched. -/
structure Store extends Diagram where
  nodeIndex : IdIndex
  edgeIndex : IdIndex
  adjacency : Adjacency

namespace Store

/-! ## Lookups -/

/-- The store without elements. -/
def empty : Store := ⟨.empty, ∅, ∅, ∅⟩

/-- The node with an id. -/
def node? (s : Store) (id : String) : Option Node := do
  s.nodes[← s.nodeIndex[id]?]?

/-- The edge with an id. -/
def edge? (s : Store) (id : String) : Option Edge := do
  s.edges[← s.edgeIndex[id]?]?

/-- The edges with an id as an end. -/
def edgesTouching (s : Store) (id : String) : List Edge :=
  (s.adjacency.getD id []).filterMap (s.edges[·]?)

/-! ## Edits -/

/-- A change of a store in place, which may be refused. -/
abbrev Change := EStateM EditFault Store Unit

/-- Adds a node at the end. -/
def insertNode (n : Node) : Change := do
  let s ← get
  if s.nodeIndex.contains n.id then throw (.duplicateId n.id)
  set { s with
    nodeIndex := s.nodeIndex.insert n.id s.nodes.length
    nodes := s.nodes ++ [n] }

theorem run_insertNode (s : Store) (n : Node) :
    (insertNode n).run s =
      if s.nodeIndex.contains n.id then .error (.duplicateId n.id) s
      else .ok () { s with
        nodeIndex := s.nodeIndex.insert n.id s.nodes.length
        nodes := s.nodes ++ [n] } := by
  rw [insertNode, EStateM.run_bind, EStateM.run_get]
  simp only
  split <;> rfl

/-- Adds an edge at the end. Its ends need not be nodes. -/
def insertEdge (e : Edge) : Change := do
  let s ← get
  if s.edgeIndex.contains e.id then throw (.duplicateId e.id)
  set { s with
    edgeIndex := s.edgeIndex.insert e.id s.edges.length
    adjacency := s.adjacency.noteEdge e s.edges.length
    edges := s.edges ++ [e] }

theorem run_insertEdge (s : Store) (e : Edge) :
    (insertEdge e).run s =
      if s.edgeIndex.contains e.id then .error (.duplicateId e.id) s
      else .ok () { s with
        edgeIndex := s.edgeIndex.insert e.id s.edges.length
        adjacency := s.adjacency.noteEdge e s.edges.length
        edges := s.edges ++ [e] } := by
  rw [insertEdge, EStateM.run_bind, EStateM.run_get]
  simp only
  split <;> rfl

/-- The store with its indices made anew. -/
def reindex (s : Store) : Store :=
  { s with
    nodeIndex := .ofIds (s.nodes.map (·.id))
    edgeIndex := .ofIds (s.edges.map (·.id))
    adjacency := .ofEdges s.edges }

/-- Removes a node and the edges that touch it, or else an edge. -/
def remove (id : String) : Change := do
  let s ← get
  if s.nodeIndex.contains id then
    set { s with
      nodes := s.nodes.filter (·.id != id)
      edges := s.edges.filter fun e => e.source != id && e.target != id }
  else if s.edgeIndex.contains id then
    set { s with edges := s.edges.filter (·.id != id) }
  else throw (.unknownElement id)
  modify reindex

theorem run_remove (s : Store) (id : String) :
    (remove id).run s =
      if s.nodeIndex.contains id then
        .ok () (reindex { s with
          nodes := s.nodes.filter (·.id != id)
          edges := s.edges.filter fun e => e.source != id && e.target != id })
      else if s.edgeIndex.contains id then
        .ok () (reindex { s with edges := s.edges.filter (·.id != id) })
      else .error (.unknownElement id) s := by
  rw [remove, EStateM.run_bind, EStateM.run_get]
  simp only
  split
  · rfl
  · split <;> rfl

/-- Gives a node, or else an edge, a new label. -/
def rename (id label : String) : Change := do
  let s ← get
  match s.nodeIndex[id]? with
  | some i => set { s with nodes := s.nodes.modify i fun n => { n with label } }
  | none =>
    match s.edgeIndex[id]? with
    | some i => set { s with edges := s.edges.modify i fun e => { e with label } }
    | none => throw (.unknownElement id)

theorem run_rename (s : Store) (id label : String) :
    (rename id label).run s =
      match s.nodeIndex[id]?, s.edgeIndex[id]? with
      | some i, _ => .ok () { s with nodes := s.nodes.modify i fun n => { n with label } }
      | none, some i => .ok () { s with edges := s.edges.modify i fun e => { e with label } }
      | none, none => .error (.unknownElement id) s := by
  rw [rename, EStateM.run_bind, EStateM.run_get]
  simp only
  cases s.nodeIndex[id]? with
  | some i => rfl
  | none => cases s.edgeIndex[id]? <;> rfl

/-- Carries out an edit. -/
def edit : Edit → Change
  | .insertNode n => insertNode n
  | .insertEdge e => insertEdge e
  | .remove id => remove id
  | .rename id label => rename id label

/-- The store that an edit leaves behind, whether it is carried out or refused. -/
def afterEdit (s : Store) (a : Edit) : Store :=
  match (edit a).run s with
  | .ok _ s' => s'
  | .error _ s' => s'

/-- The store after a session of edits, some of which may be refused. -/
def afterSession (s : Store) (edits : List Edit) : Store :=
  edits.foldl afterEdit s

/-- The store of a diagram, into which the nodes are inserted one by one and then the edges. -/
def ofDiagram (d : Diagram) : Store :=
  empty.afterSession (d.nodes.map .insertNode ++ d.edges.map .insertEdge)

/-- Inserts the nodes of a list and then the edges of a list, up to the first that is refused. -/
def insertElements (nodes : List Node) (edges : List Edge) : Change := do
  nodes.forM insertNode
  edges.forM insertEdge

/-- The store of a list of nodes and a list of edges, or the fault of the first insertion that is
refused. -/
def ofElements (nodes : List Node) (edges : List Edge) : Except EditFault Store :=
  match (insertElements nodes edges).run empty with
  | .ok _ s => .ok s
  | .error fault _ => .error fault

end Store

end EntityRelationship
