import EntityRelationship.Diagram.Basic

/-!
# Neighbors

The neighbors of a node are the nodes at the opposite ends of its edges, in edge order and each
with the edge that leads to it. A neighbor appears once per edge, an end that is no node does not
appear, and a loop makes a node its own neighbor.

A walk visits what can be reached from a node by following edges. It goes depth first, takes the
edges of a node in order and visits no id twice.
-/

namespace EntityRelationship

/-- A node seen along an edge. -/
structure Neighbor where
  node : Node
  edge : Edge
  deriving DecidableEq

namespace Diagram

/-! ## Neighbors of a node -/

/-- What is seen from an id along one of its edges. -/
def neighborAlong? (d : Diagram) (id : String) (e : Edge) : Option Neighbor := do
  let other ← e.otherEnd? id
  let node ← d.node? other
  return ⟨node, e⟩

/-- The neighbors of an id, whether or not it is a node itself. -/
def neighbors (d : Diagram) (id : String) : List Neighbor :=
  (d.edgesTouching id).filterMap (d.neighborAlong? id)

/-- The neighbors that are attributes. -/
def attributes (d : Diagram) (id : String) : List Neighbor :=
  (d.neighbors id).filter (·.node.kind.isAttribute)

/-- The neighbors that are entities. For a relation these are its ends, and a reflexive relation
lists its entity once per edge. -/
def entityEnds (d : Diagram) (id : String) : List Neighbor :=
  (d.neighbors id).filter (·.node.kind.isEntity)

/-- The neighbors that are key attributes. -/
def keys (d : Diagram) (id : String) : List Neighbor :=
  (d.attributes id).filter (·.node.kind == .attr .key)

/-- The first key attribute. -/
def primaryKey? (d : Diagram) (id : String) : Option Node :=
  (d.keys id).head?.map (·.node)

/-! ## Nodes without repeats -/

/-- The first node of each id, in order. -/
def firstOfEach : List Node → List Node
  | [] => []
  | n :: ns => n :: (firstOfEach ns).filter (·.id != n.id)

theorem mem_of_mem_firstOfEach {n : Node} {ns : List Node} (h : n ∈ firstOfEach ns) : n ∈ ns := by
  induction ns with
  | nil => simp [firstOfEach] at h
  | cons m ms ih =>
    rw [firstOfEach, List.mem_cons, List.mem_filter] at h
    rcases h with rfl | ⟨h, -⟩
    · exact List.mem_cons_self
    · exact List.mem_cons_of_mem _ (ih h)

theorem nodup_ids_firstOfEach (ns : List Node) : ((firstOfEach ns).map (·.id)).Nodup := by
  induction ns with
  | nil => simp [firstOfEach]
  | cons n ns ih =>
    rw [firstOfEach, List.map_cons, List.nodup_cons]
    refine ⟨?_, ?_⟩
    · intro h
      obtain ⟨m, hm, hid⟩ := List.mem_map.1 h
      simp [List.mem_filter, hid] at hm
    · exact List.Nodup.sublist (List.Sublist.map _ List.filter_sublist) ih

/-- The relations among the neighbors, each once. -/
def relations (d : Diagram) (id : String) : List Node :=
  firstOfEach (((d.neighbors id).map (·.node)).filter (·.kind.isRelation))

/-! ## Walks -/

/-- The number of edge ends that are not among the visited ids. -/
def openEnds (d : Diagram) (visited : List String) : Nat :=
  d.edges.countP (·.source ∉ visited) + d.edges.countP (·.target ∉ visited)

/-- Visiting an id closes an end of each of its edges. -/
theorem openEnds_cons_add_le (d : Diagram) {visited : List String} {id : String}
    (h : id ∉ visited) :
    d.openEnds (id :: visited) + (d.edgesTouching id).length ≤ d.openEnds visited := by
  obtain ⟨nodes, edges⟩ := d
  simp only [openEnds, edgesTouching]
  induction edges with
  | nil => simp
  | cons e es ih =>
    simp only [List.countP_cons, List.filter_cons, List.mem_cons] at ih ⊢
    by_cases hs : e.source = id <;> by_cases ht : e.target = id <;>
      by_cases hsv : e.source ∈ visited <;> by_cases htv : e.target ∈ visited <;>
      simp_all [Edge.touches] <;> omega

/-- The ids visited by a walk that goes on from the ids of a work list and does not enter a
visited id again. From an id it goes on to what `follow` gives for the edges of that id. -/
def walkFrom (d : Diagram) (follow : String → Edge → Option String) (visited : List String) :
    List String → List String
  | [] => []
  | id :: work =>
    if id ∈ visited then d.walkFrom follow visited work
    else
      id :: d.walkFrom follow (id :: visited)
        ((d.edgesTouching id).filterMap (follow id) ++ work)
termination_by work => work.length + d.openEnds visited
decreasing_by
  · simp
  · next h =>
    have hopen := d.openEnds_cons_add_le h
    have hnext := List.length_filterMap_le (follow id) (d.edgesTouching id)
    simp only [List.length_append, List.length_cons]
    omega

/-- The ids visited by a walk from an id, in the order of the first visit. -/
def walk (d : Diagram) (follow : String → Edge → Option String) (id : String) : List String :=
  d.walkFrom follow [] [id]

end Diagram

end EntityRelationship
