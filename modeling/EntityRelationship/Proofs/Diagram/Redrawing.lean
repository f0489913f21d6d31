import EntityRelationship.Diagram.Cardinality
import EntityRelationship.Proofs.Diagram.Lookup
import Mathlib.Data.List.Permutation

/-!
# Redrawing a diagram

A diagram is redrawn by listing its nodes and edges in another order. Lookups by id give the same
element then, and every list that is read off the diagram has the same members, each as often as
before. What is computed from such a list without regard to its order is the same: the class of a
relation, the owners of an attribute, and the ends of a dependency, which has only two.
-/

namespace EntityRelationship

/-- The class of a relation does not depend on the order of its labels. -/
theorem Cardinality.ofLabels_eq_of_perm {ls ls' : List String} (h : ls.Perm ls') :
    ofLabels ls = ofLabels ls' := by
  have hnil : ls = [] ↔ ls' = [] := by
    rw [← List.length_eq_zero_iff, h.length_eq, List.length_eq_zero_iff]
  simp only [ofLabels, hnil, h.countP_eq isMany]

namespace Diagram

variable {d d' : Diagram} {n : Node}

/-- The second diagram has the nodes and edges of the first, which have distinct ids, in any
order. -/
structure Redraws (d d' : Diagram) : Prop where
  distinct : d.DistinctIds
  nodes_perm : d.nodes.Perm d'.nodes
  edges_perm : d.edges.Perm d'.edges

namespace Redraws

theorem symm (h : d.Redraws d') : d'.Redraws d where
  distinct := ⟨(h.nodes_perm.map _).nodup_iff.1 h.distinct.1,
    (h.edges_perm.map _).nodup_iff.1 h.distinct.2⟩
  nodes_perm := h.nodes_perm.symm
  edges_perm := h.edges_perm.symm

/-! ## Nodes and their neighbors -/

theorem node?_eq (h : d.Redraws d') (id : String) : d.node? id = d'.node? id := by
  refine Option.ext fun n => ?_
  rw [node?_eq_some_iff h.distinct, node?_eq_some_iff h.symm.distinct, h.nodes_perm.mem_iff]

theorem closed_iff (h : d.Redraws d') : d.Closed ↔ d'.Closed := by
  simp only [Closed, hasNode, h.node?_eq, h.edges_perm.mem_iff]

theorem edgesTouching_perm (h : d.Redraws d') (id : String) :
    (d.edgesTouching id).Perm (d'.edgesTouching id) :=
  h.edges_perm.filter _

theorem neighborAlong?_eq (h : d.Redraws d') (id : String) :
    d.neighborAlong? id = d'.neighborAlong? id := by
  funext e
  simp only [neighborAlong?, h.node?_eq]

theorem neighbors_perm (h : d.Redraws d') (id : String) :
    (d.neighbors id).Perm (d'.neighbors id) := by
  rw [neighbors, neighbors, h.neighborAlong?_eq]
  exact (h.edgesTouching_perm id).filterMap _

theorem attributes_perm (h : d.Redraws d') (id : String) :
    (d.attributes id).Perm (d'.attributes id) :=
  (h.neighbors_perm id).filter _

theorem entityEnds_perm (h : d.Redraws d') (id : String) :
    (d.entityEnds id).Perm (d'.entityEnds id) :=
  (h.neighbors_perm id).filter _

theorem keys_perm (h : d.Redraws d') (id : String) : (d.keys id).Perm (d'.keys id) :=
  (h.attributes_perm id).filter _

/-- Removing repeats removes the same nodes. -/
theorem firstOfEach_perm (h : d.Redraws d') {ns ns' : List Node} (hns : ∀ n ∈ ns, n ∈ d.nodes)
    (hperm : ns.Perm ns') : (firstOfEach ns).Perm (firstOfEach ns') := by
  have hns' : ∀ n ∈ ns', n ∈ d.nodes := fun n hn => hns n (hperm.mem_iff.2 hn)
  refine (List.perm_ext_iff_of_nodup (nodup_ids_firstOfEach ns).of_map
    (nodup_ids_firstOfEach ns').of_map).2 fun n => ?_
  rw [mem_firstOfEach_iff h.distinct hns, mem_firstOfEach_iff h.distinct hns', hperm.mem_iff]

theorem relations_perm (h : d.Redraws d') (id : String) :
    (d.relations id).Perm (d'.relations id) := by
  refine h.firstOfEach_perm ?_ (((h.neighbors_perm id).map _).filter _)
  intro n hn
  obtain ⟨x, hx, rfl⟩ := List.mem_map.1 (List.mem_of_mem_filter hn)
  exact mem_nodes_of_mem_neighbors hx

theorem cardinality_eq (h : d.Redraws d') (id : String) : d.cardinality id = d'.cardinality id :=
  Cardinality.ofLabels_eq_of_perm (((h.edgesTouching_perm id).filter _).map _)

/-! ## Attributes -/

theorem members_perm (h : d.Redraws d') (id : String) : (d.members id).Perm (d'.members id) := by
  have halong : d.memberAlong? id = d'.memberAlong? id := by
    funext e
    simp only [memberAlong?, h.node?_eq]
  rw [members, members, halong]
  exact (h.edgesTouching_perm id).filterMap _

/-- A walk that follows the same edges visits the same ids. -/
theorem mem_walk_iff (h : d.Redraws d') {follow : String → Edge → Option String}
    {id v : String} : v ∈ d.walk follow id ↔ v ∈ d'.walk follow id := by
  have hstep : d.Follows follow = d'.Follows follow := by
    funext v w
    simp only [Follows, (h.edgesTouching_perm v).mem_iff]
  rw [Diagram.mem_walk_iff, Diagram.mem_walk_iff, hstep]

/-- The owners of an attribute are listed by their ids, in whatever order they are reached. -/
theorem rootOwners_eq (h : d.Redraws d') (id : String) : d.rootOwners id = d'.rootOwners id := by
  have halong : d.attributeAlong? = d'.attributeAlong? := by
    funext v
    unfold attributeAlong?
    rw [h.neighborAlong?_eq]
  have hroots (v : String) : (d.rootNeighbors v).Perm (d'.rootNeighbors v) :=
    ((h.neighbors_perm v).filter _).map _
  refine sortedIds_eq_of_mem_iff fun owner => ?_
  simp only [List.mem_flatMap, halong, h.mem_walk_iff, (hroots _).mem_iff]

/-! ## Dependencies -/

/-- The ends of a dependency that joins two entities. -/
def pairEnds (relation : String) (a b : Neighbor) : Option DependencyEnds :=
  let aWeak := a.node.kind == .weakEntity
  let bWeak := b.node.kind == .weakEntity
  let aOut := a.edge.source == relation
  let bOut := b.edge.source == relation
  if a.node.id = b.node.id then none
  else if aOut && !bOut && aWeak then some ⟨b.node, a.node⟩
  else if bOut && !aOut && bWeak then some ⟨a.node, b.node⟩
  else if aWeak && !bWeak then some ⟨b.node, a.node⟩
  else if bWeak && !aWeak then some ⟨a.node, b.node⟩
  else none

/-- It makes no difference which of the two entities comes first. -/
theorem pairEnds_comm (relation : String) (a b : Neighbor) :
    pairEnds relation a b = pairEnds relation b a := by
  unfold pairEnds
  extract_lets aWeak bWeak aOut bOut
  by_cases hid : a.node.id = b.node.id
  · rw [if_pos hid, if_pos hid.symm]
  · rw [if_neg hid, if_neg (Ne.symm hid)]
    cases aWeak <;> cases bWeak <;> cases aOut <;> cases bOut <;> rfl

/-- The ends of a dependency are found from the ends of a relation if these are two. -/
theorem dependencyEnds?_of_pair {relation : String} {a b : Neighbor}
    (hends : d.entityEnds relation = [a, b]) :
    d.dependencyEnds? relation = pairEnds relation a b := by
  rw [dependencyEnds?, hends]
  rfl

theorem dependencyEnds?_of_length_ne {relation : String}
    (hends : (d.entityEnds relation).length ≠ 2) : d.dependencyEnds? relation = none := by
  unfold dependencyEnds?
  split
  · next a b hpair => simp [hpair] at hends
  · rfl

theorem dependencyEnds?_eq (h : d.Redraws d') (relation : String) :
    d.dependencyEnds? relation = d'.dependencyEnds? relation := by
  have hperm := h.entityEnds_perm relation
  by_cases hlength : (d.entityEnds relation).length = 2
  · obtain ⟨a, b, hends⟩ := List.length_eq_two.1 hlength
    rw [hends, List.pair_perm] at hperm
    rcases hperm with hends' | hends'
    · rw [dependencyEnds?_of_pair hends, dependencyEnds?_of_pair hends']
    · rw [dependencyEnds?_of_pair hends, dependencyEnds?_of_pair hends', pairEnds_comm]
  · rw [dependencyEnds?_of_length_ne hlength,
      dependencyEnds?_of_length_ne (hperm.length_eq ▸ hlength)]

theorem dependencies_perm (h : d.Redraws d') (id : String) :
    (d.dependencies id).Perm (d'.dependencies id) := by
  simp only [dependencies, h.dependencyEnds?_eq]
  exact ((h.relations_perm id).filter _).filter _

/-! ## Specializations -/

theorem parents_perm (h : d.Redraws d') (id : String) : (d.parents id).Perm (d'.parents id) := by
  simp only [parents, h.node?_eq]
  exact (((h.edgesTouching_perm id).filter _).filterMap _).filter _

/-- Nodes that are looked up, a kind of them picked, and repeats removed. -/
theorem firstOfEach_lookup_perm (h : d.Redraws d') {es es' : List Edge} (hperm : es.Perm es')
    (end' : Edge → String) (p : Node → Bool) :
    (firstOfEach ((es.filterMap fun e => d.node? (end' e)).filter p)).Perm
      (firstOfEach ((es'.filterMap fun e => d'.node? (end' e)).filter p)) := by
  simp only [← h.node?_eq]
  refine h.firstOfEach_perm ?_ ((hperm.filterMap _).filter p)
  intro n hn
  obtain ⟨e, -, hfound⟩ := List.mem_filterMap.1 (List.mem_of_mem_filter hn)
  exact (mem_of_node? hfound).1

theorem children_perm (h : d.Redraws d') (id : String) : (d.children id).Perm (d'.children id) :=
  h.firstOfEach_lookup_perm ((h.edgesTouching_perm id).filter _) _ _

theorem specializationsAbove_perm (h : d.Redraws d') (id : String) :
    (d.specializationsAbove id).Perm (d'.specializationsAbove id) :=
  h.firstOfEach_lookup_perm ((h.edgesTouching_perm id).filter _) _ _

end Redraws

/-- A diagram drawn from the end to the beginning. -/
def turned (d : Diagram) : Diagram := ⟨d.nodes.reverse, d.edges.reverse⟩

theorem redraws_turned (hd : d.DistinctIds) : d.Redraws d.turned where
  distinct := hd
  nodes_perm := (List.reverse_perm d.nodes).symm
  edges_perm := (List.reverse_perm d.edges).symm

end Diagram

end EntityRelationship
