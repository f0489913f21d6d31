import EntityRelationship.Proofs.Diagnostic.Classification
import EntityRelationship.Proofs.Diagram.Trimming
import EntityRelationship.Proofs.Relational.Answers
import EntityRelationship.Proofs.Relational.Redrawing

/-!
# The ends of a relation in another order

The edges by which entities take part in a relation may be listed in another order, with all other
edges in the order in which they were. Without these edges the two diagrams are the same, and all
that the synthesis asks, apart from the ends of the relation and its class, is told by the diagram
without them. The class is told by the edges in any order.
-/

namespace EntityRelationship

/-- Whether an edge is one by which something takes part in a relation. -/
def Edge.takesPartIn (e : Edge) (relation : String) : Bool :=
  e.touches relation && e.kind == .weighted

namespace Diagram

variable {d d' : Diagram} {m n r : Node} {x : Neighbor} {e : Edge} {id : String}

/-! ## A relation without its ends -/

/-- The diagram without the edges by which entities take part in a relation. -/
def withoutEnds (d : Diagram) (relation : String) : Diagram :=
  { d with edges := d.edges.filter (!·.takesPartIn relation) }

theorem trims_withoutEnds (d : Diagram) (relation : String) : d.Trims (d.withoutEnds relation) :=
  d.trims_filter_edges _

/-- The edges of a node that is neither the relation nor an entity stay. -/
theorem Accepted.mem_edges_withoutEnds (h : d.Accepted) (hd : d.DistinctIds) (hr : r ∈ d.nodes)
    (hkind : r.kind = .relation) (hm : m ∈ d.nodes) (hentity : m.kind.isEntity = false)
    (hne : m ≠ r) (he : e ∈ d.edgesTouching m.id) : e ∈ (d.withoutEnds r.id).edges := by
  obtain ⟨hmem, htouches⟩ := List.mem_filter.1 he
  refine List.mem_filter.2 ⟨hmem, ?_⟩
  rw [Bool.not_eq_true', ← Bool.not_eq_true]
  intro hpart
  obtain ⟨hrelation, hweighted⟩ := (Bool.and_eq_true _ _).mp hpart
  rw [Edge.touches, Bool.or_eq_true, beq_iff_eq, beq_iff_eq] at htouches
  have hid : m.id ≠ r.id := fun hid => hne (eq_of_id_eq hd hm hr hid)
  have hsees : ⟨m, e⟩ ∈ d.neighbors r.id :=
    mem_neighbors_of_end (List.mem_filter.2 ⟨hmem, hrelation⟩) htouches (node?_of_mem hd hm) hid
  rw [(h.isEntity_iff_weighted hd hr (by rw [hkind]; rfl) hsees).2 (beq_iff_eq.1 hweighted)]
    at hentity
  cases hentity

/-- The dependencies among the neighbors, each once. -/
theorem filter_relations (d : Diagram) (id : String) :
    (d.relations id).filter (·.kind.isDependency) =
      firstOfEach (((d.neighbors id).filter (·.node.kind.isDependency)).map (·.node)) := by
  rw [relations, filter_firstOfEach]
  · rw [List.filter_filter, List.filter_map]
    have hsame : ((fun m : Node => m.kind.isDependency && m.kind.isRelation) ∘ Neighbor.node) =
        fun x => x.node.kind.isDependency := by
      funext x
      cases hdependency : x.node.kind.isDependency with
      | false => simp [hdependency]
      | true => simp [hdependency, isRelation_of_isDependency hdependency]
    rw [← hsame]
  · intro m hm n hn hid
    obtain ⟨x, hx, rfl⟩ := List.mem_map.1 (List.mem_of_mem_filter hm)
    obtain ⟨y, hy, rfl⟩ := List.mem_map.1 (List.mem_of_mem_filter hn)
    have hfound := node?_of_mem_neighbors hx
    rw [hid, node?_of_mem_neighbors hy] at hfound
    exact (Option.some.inj hfound).symm

section

variable (h : d.Accepted) (hd : d.DistinctIds) (hr : r ∈ d.nodes) (hkind : r.kind = .relation)

include h hd hr hkind

/-- The edge to a neighbor that is neither the relation nor an entity stays. -/
theorem Accepted.edge_mem_withoutEnds (hx : x ∈ d.neighbors id)
    (hentity : x.node.kind.isEntity = false) (hne : x.node.kind ≠ .relation) :
    x.edge ∈ (d.withoutEnds r.id).edges := by
  obtain ⟨hmem, hother, hfound⟩ := mem_neighbors_iff.1 hx
  refine h.mem_edges_withoutEnds hd hr hkind (mem_of_node? hfound).1 hentity ?_
    (List.mem_filter.2 ⟨hmem, ?_⟩)
  · rintro rfl
    exact hne hkind
  · rw [← Edge.isSome_otherEnd?, otherEnd?_symm hother]
    rfl

theorem Accepted.attributes_withoutEnds (id : String) :
    (d.withoutEnds r.id).attributes id = d.attributes id := by
  refine (d.trims_withoutEnds r.id).filter_neighbors fun x hx hattribute => ?_
  obtain ⟨role, hrole⟩ := exists_role hattribute
  exact h.edge_mem_withoutEnds hd hr hkind hx (by rw [hrole]; rfl) (by simp [hrole])

theorem Accepted.primaryKey?_withoutEnds (id : String) :
    (d.withoutEnds r.id).primaryKey? id = d.primaryKey? id := by
  rw [primaryKey?, keys, h.attributes_withoutEnds hd hr hkind]
  rfl

theorem Accepted.leaves_withoutEnds (n : Node) : (d.withoutEnds r.id).leaves n = d.leaves n := by
  refine (d.trims_withoutEnds r.id).leaves_eq (P := fun _ => True) (fun _ _ => rfl) ?_ trivial
  intro v _ x hx
  obtain ⟨hnear, hattribute⟩ := of_mem_members hx
  obtain ⟨role, hrole⟩ := exists_role hattribute
  exact ⟨h.edge_mem_withoutEnds hd hr hkind hnear (by rw [hrole]; rfl) (by simp [hrole]), trivial⟩

/-- The dependencies around a node are the same. -/
theorem Accepted.dependencies_withoutEnds (id : String) :
    ((d.withoutEnds r.id).relations id).filter (·.kind.isDependency) =
      (d.relations id).filter (·.kind.isDependency) := by
  have hnear : ((d.withoutEnds r.id).neighbors id).filter (·.node.kind.isDependency) =
      (d.neighbors id).filter (·.node.kind.isDependency) := by
    refine (d.trims_withoutEnds r.id).filter_neighbors fun x hx hdependency => ?_
    refine h.edge_mem_withoutEnds hd hr hkind hx ?_ ?_ <;>
      cases hk : x.node.kind <;> simp_all [NodeKind.isDependency, NodeKind.isEntity]
  rw [filter_relations, filter_relations, hnear]

/-- Any other relation has the same ends. -/
theorem Accepted.entityEnds_withoutEnds (hn : n ∈ d.nodes) (hrelation : n.kind.isRelation = true)
    (hne : n ≠ r) : (d.withoutEnds r.id).entityEnds n.id = d.entityEnds n.id := by
  refine (d.trims_withoutEnds r.id).entityEnds_eq fun x hx => ?_
  refine h.mem_edges_withoutEnds hd hr hkind hn ?_ hne
    (edge_mem_edgesTouching (mem_entityEnds_iff.1 hx).1)
  cases hk : n.kind <;> simp_all [NodeKind.isRelation, NodeKind.isEntity]

/-- The edges of a specialization stay. -/
theorem Accepted.edge_of_specialization_mem_withoutEnds (hn : n ∈ d.nodes)
    (hspecial : n.kind.isSpecialization = true) (he : e ∈ d.edgesTouching n.id) :
    e ∈ (d.withoutEnds r.id).edges := by
  refine h.mem_edges_withoutEnds hd hr hkind hn (isEntity_of_isSpecialization hspecial) ?_ he
  rintro rfl
  simp [hkind, NodeKind.isSpecialization] at hspecial

theorem Accepted.parents_withoutEnds (hn : n ∈ d.nodes) (hspecial : n.kind.isSpecialization = true) :
    (d.withoutEnds r.id).parents n.id = d.parents n.id :=
  (d.trims_withoutEnds r.id).parents_eq fun _ he _ _ _ _ =>
    h.edge_of_specialization_mem_withoutEnds hd hr hkind hn hspecial he

theorem Accepted.children_withoutEnds (hn : n ∈ d.nodes)
    (hspecial : n.kind.isSpecialization = true) :
    (d.withoutEnds r.id).children n.id = d.children n.id :=
  (d.trims_withoutEnds r.id).children_eq fun _ he _ _ _ _ =>
    h.edge_of_specialization_mem_withoutEnds hd hr hkind hn hspecial he

theorem Accepted.specializationsAbove_withoutEnds (id : String) :
    (d.withoutEnds r.id).specializationsAbove id = d.specializationsAbove id := by
  refine (d.trims_withoutEnds r.id).specializationsAbove_eq fun e he _ m hm hspecial => ?_
  obtain ⟨hmem, hid⟩ := mem_of_node? hm
  refine h.edge_of_specialization_mem_withoutEnds hd hr hkind hmem hspecial
    (List.mem_filter.2 ⟨List.mem_of_mem_filter he, ?_⟩)
  simp [Edge.touches, hid]

end

/-! ## Listing the ends in another order -/

/-- The second diagram lists the edges by which entities take part in a relation in another order, and
all other edges in the same. -/
structure Relists (relation : String) (d d' : Diagram) : Prop where
  nodes_eq : d'.nodes = d.nodes
  edges_perm : d.edges.Perm d'.edges
  rest_eq : d'.edges.filter (!·.takesPartIn relation) = d.edges.filter (!·.takesPartIn relation)

/-- Two ends of a relation may change places. -/
theorem relists_swap {relation : String} {nodes : List Node} {es es' es'' : List Edge}
    {e e' : Edge} (he : e.takesPartIn relation = true) (he' : e'.takesPartIn relation = true) :
    Relists relation ⟨nodes, es ++ e :: es' ++ e' :: es''⟩ ⟨nodes, es ++ e' :: es' ++ e :: es''⟩ where
  nodes_eq := rfl
  edges_perm := by
    simp only [List.append_assoc, List.cons_append]
    refine List.Perm.append_left es ?_
    exact (List.perm_middle.cons e).trans
      ((List.Perm.swap e' e _).trans (List.perm_middle.symm.cons e'))
  rest_eq := by
    simp [List.filter_append, he, he']

namespace Relists

theorem redraws (h : d.Relists id d') (hd : d.DistinctIds) : d.Redraws d' where
  distinct := hd
  nodes_perm := by rw [h.nodes_eq]
  edges_perm := h.edges_perm

theorem withoutEnds_eq (h : d.Relists id d') : d'.withoutEnds id = d.withoutEnds id := by
  rw [withoutEnds, withoutEnds, h.nodes_eq, h.rest_eq]

/-- What accepted diagrams tell without the ends of the relation does not depend on their order. -/
theorem eq_of_withoutEnds (h : d.Relists id d') (haccepted : d.Accepted) (hd : d.DistinctIds)
    {α : Type} {q : Diagram → α}
    (hquery : ∀ c : Diagram, c.Accepted → c.DistinctIds → c.nodes = d.nodes →
      q (c.withoutEnds id) = q c) : q d' = q d := by
  have hredraws := h.redraws hd
  rw [← hquery d haccepted hd rfl, ← h.withoutEnds_eq]
  exact (hquery d' (hredraws.accepted haccepted) hredraws.symm.distinct h.nodes_eq).symm

section

variable (h : d.Relists r.id d') (haccepted : d.Accepted) (hd : d.DistinctIds) (hr : r ∈ d.nodes)
  (hkind : r.kind = .relation)

include h haccepted hd hr hkind

theorem entityEnds_eq (hn : n ∈ d.nodes) (hrelation : n.kind.isRelation = true) (hne : n ≠ r) :
    d'.entityEnds n.id = d.entityEnds n.id :=
  h.eq_of_withoutEnds haccepted hd (q := (·.entityEnds n.id)) fun _ hc hids hnodes =>
    hc.entityEnds_withoutEnds hids (hnodes ▸ hr) hkind (hnodes ▸ hn) hrelation hne

/-- Apart from the ends of the relation the two diagrams answer alike. -/
theorem sameButEnds : d.SameButEnds d' where
  buildOrder_eq := by rw [buildOrder, buildOrder, h.nodes_eq]
  node?_eq := fun n _ _ => ((h.redraws hd).node?_eq n.id).symm
  attributes_eq := fun n _ _ => congrArg _ <|
    h.eq_of_withoutEnds haccepted hd (q := (·.attributes n.id)) fun _ hc hids hnodes =>
      hc.attributes_withoutEnds hids (hnodes ▸ hr) hkind n.id
  primaryKey?_eq := fun n _ _ =>
    h.eq_of_withoutEnds haccepted hd (q := (·.primaryKey? n.id)) fun _ hc hids hnodes =>
      hc.primaryKey?_withoutEnds hids (hnodes ▸ hr) hkind n.id
  leaves_eq := fun _ _ _ x _ =>
    h.eq_of_withoutEnds haccepted hd (q := (·.leaves x.node)) fun _ hc hids hnodes =>
      hc.leaves_withoutEnds hids (hnodes ▸ hr) hkind x.node
  relations_eq := fun n _ _ =>
    h.eq_of_withoutEnds haccepted hd
      (q := fun c => (c.relations n.id).filter (·.kind.isDependency))
      fun _ hc hids hnodes => hc.dependencies_withoutEnds hids (hnodes ▸ hr) hkind n.id
  dependencyEnds_eq := by
    intro n hn hdependency
    refine h.entityEnds_eq haccepted hd hr hkind hn (isRelation_of_isDependency hdependency) ?_
    rintro rfl
    rw [hkind] at hdependency
    cases hdependency
  cardinality_eq := fun n _ _ => ((h.redraws hd).cardinality_eq n.id).symm
  parents_eq := fun n hn hspecial =>
    h.eq_of_withoutEnds haccepted hd (q := (·.parents n.id)) fun _ hc hids hnodes =>
      hc.parents_withoutEnds hids (hnodes ▸ hr) hkind (hnodes ▸ hn) hspecial
  children_eq := fun n hn hspecial =>
    h.eq_of_withoutEnds haccepted hd (q := (·.children n.id)) fun _ hc hids hnodes =>
      hc.children_withoutEnds hids (hnodes ▸ hr) hkind (hnodes ▸ hn) hspecial
  specializationsAbove_eq := fun n _ _ =>
    h.eq_of_withoutEnds haccepted hd (q := (·.specializationsAbove n.id))
      fun _ hc hids hnodes => hc.specializationsAbove_withoutEnds hids (hnodes ▸ hr) hkind n.id
  entityOwner_eq := fun n _ _ => by
    simp only [entityOwner, (h.redraws hd).rootOwners_eq, (h.redraws hd).node?_eq]

end

end Relists

end Diagram

end EntityRelationship
