import EntityRelationship.Diagram.Kind
import EntityRelationship.Text.Blank

/-!
# Diagrams

A diagram is a list of nodes and a list of edges, each in the order of insertion. Edges name
their ends by the ids of nodes, and an edge may name an id that no node has. Node ids and edge
ids are two namespaces: a node and an edge may share an id.

The lookups here find elements by id. They are unambiguous on a diagram whose ids are distinct,
and every edit keeps them so.
-/

namespace EntityRelationship

/-! ## Elements -/

/-- A node: an entity, relation, specialization or attribute. -/
structure Node where
  id : String
  kind : NodeKind
  /-- The text shown in the drawing; for an attribute, its name and type. -/
  label : String
  /-- The expression that computes a derived attribute. -/
  equation : Option String
  deriving DecidableEq

/-- The name of a node as part of a table or column name: its label without blanks. -/
def Node.safeName (n : Node) : String :=
  Text.strip n.label

/-- An edge from one id to another. -/
structure Edge where
  id : String
  kind : EdgeKind
  source : String
  target : String
  /-- The cardinality text of a weighted edge. -/
  label : Option String
  deriving DecidableEq

namespace Edge

/-- Whether an id is an end of the edge. -/
def touches (e : Edge) (id : String) : Bool :=
  e.source == id || e.target == id

/-- The end opposite to an id, or `none` if the id is no end. A loop is its own opposite. -/
def otherEnd? (e : Edge) (id : String) : Option String :=
  if e.source = id then some e.target
  else if e.target = id then some e.source
  else none

theorem isSome_otherEnd? (e : Edge) (id : String) : (e.otherEnd? id).isSome = e.touches id := by
  by_cases hs : e.source = id <;> by_cases ht : e.target = id <;> simp [otherEnd?, touches, hs, ht]

end Edge

/-! ## Diagrams -/

/-- An entity-relationship diagram. -/
structure Diagram where
  nodes : List Node
  edges : List Edge
  deriving DecidableEq

namespace Diagram

/-- The diagram without elements. -/
def empty : Diagram := ⟨[], []⟩

/-- No two nodes share an id, and no two edges do. -/
def DistinctIds (d : Diagram) : Prop :=
  (d.nodes.map (·.id)).Nodup ∧ (d.edges.map (·.id)).Nodup

/-- The node with an id. -/
def node? (d : Diagram) (id : String) : Option Node :=
  d.nodes.find? (·.id == id)

/-- The edge with an id. -/
def edge? (d : Diagram) (id : String) : Option Edge :=
  d.edges.find? (·.id == id)

/-- Whether some node has an id. -/
def hasNode (d : Diagram) (id : String) : Bool :=
  (d.node? id).isSome

/-- The edges with an id as an end, each once, in order. -/
def edgesTouching (d : Diagram) (id : String) : List Edge :=
  d.edges.filter (·.touches id)

theorem mem_of_node? {d : Diagram} {id : String} {n : Node} (h : d.node? id = some n) :
    n ∈ d.nodes ∧ n.id = id :=
  ⟨List.mem_of_find?_eq_some h, by simpa using List.find?_some h⟩

theorem mem_of_edge? {d : Diagram} {id : String} {e : Edge} (h : d.edge? id = some e) :
    e ∈ d.edges ∧ e.id = id :=
  ⟨List.mem_of_find?_eq_some h, by simpa using List.find?_some h⟩

/-- Every id of the node list is found. -/
theorem hasNode_iff {d : Diagram} {id : String} :
    d.hasNode id = true ↔ ∃ n ∈ d.nodes, n.id = id := by
  simp [hasNode, node?]

/-- The ends of edges that are no node, each with the id of its edge, in order; of one edge the
source comes first. -/
def danglingEnds (d : Diagram) : List (String × String) :=
  d.edges.flatMap fun e =>
    ([e.source, e.target].filter fun id => !d.hasNode id).map fun id => (e.id, id)

/-- Every end of every edge is a node. -/
def Closed (d : Diagram) : Prop :=
  ∀ e ∈ d.edges, d.hasNode e.source = true ∧ d.hasNode e.target = true

theorem danglingEnds_eq_nil_iff {d : Diagram} : d.danglingEnds = [] ↔ d.Closed := by
  simp [danglingEnds, Closed, List.flatMap_eq_nil_iff]

end Diagram

end EntityRelationship
