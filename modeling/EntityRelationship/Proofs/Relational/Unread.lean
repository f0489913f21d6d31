import EntityRelationship.Proofs.Diagnostic.EdgeForm
import EntityRelationship.Proofs.Diagnostic.Resolution
import EntityRelationship.Proofs.Diagram.Members
import EntityRelationship.Proofs.Diagram.Trimming
import EntityRelationship.Proofs.Relational.Answers

/-!
# What the synthesis does not read

Parts of a diagram have no influence on its schema. They can be left out, and the schema is the same
or the synthesis fails with the same fault. The constraints between the parts of a specialization
are of this sort in every accepted diagram. So are attributes without members that cannot be reached
through members from an attribute that the synthesis reads.

In both cases the edges that are left out lead to nothing that the synthesis asks for. This is said
once, of a trimmed diagram.
-/

namespace EntityRelationship.Diagram

open Outcome

variable {d d' : Diagram} {a m n : Node} {e : Edge} {x : Neighbor}

/-! ## Trimming what is not read -/

/-- A multi-valued attribute is read from every node next to it. -/
theorem reads_multiValued (hn : d.node? n.id = some n) (hkind : n.kind = .attr .multiValued)
    (hx : x ∈ d.neighbors n.id) : d.Reads x.node ⟨n, x.edge⟩ := by
  refine ⟨mem_attributes_iff.2 ⟨neighbor_symm hn hx, ?_⟩, fun hkey => ?_⟩
  · rw [hkind]
    rfl
  · simp [hkind] at hkey

/-- The second diagram is the first one without nodes and edges that the synthesis does not read.
Constraints may go, but no other edge that joins nodes which are no attributes, and no weighted edge
of a relation; and the attributes that are read, with their leaves, stay where they are. -/
structure Spares (d d' : Diagram) : Prop extends Trims d d' where
  buildOrder_eq : d'.buildOrder = d.buildOrder
  node?_eq : ∀ n ∈ d.nodes, n.kind.isEntity = true → d'.node? n.id = d.node? n.id
  links : ∀ n ∈ d.nodes, n.kind.isAttribute = false → ∀ x ∈ d.neighbors n.id,
    x.node.kind.isAttribute = false → x.edge.kind.isConstraint = false → x.edge ∈ d'.edges
  weighted : ∀ n ∈ d.nodes, n.kind.isRelation = true → ∀ e ∈ d.edgesTouching n.id,
    e.kind = .weighted → e ∈ d'.edges
  attributes : ∀ n ∈ d.nodes, n.kind.isRoot = true → ∀ x, d.Reads n x →
    x.edge ∈ d'.edges ∧ d'.leaves x.node = d.leaves x.node

namespace Spares

/-- The edges between entities and relations stay. -/
theorem edge_of_relation (h : d.Spares d') (haccepted : d.Accepted) (hd : d.DistinctIds)
    (hn : n ∈ d.nodes) (hkind : n.kind.isRelation = true) (hx : ⟨m, e⟩ ∈ d.neighbors n.id)
    (hentity : m.kind.isEntity = true) : e ∈ d'.edges := by
  have hback := neighbor_symm (node?_of_mem hd hn) hx
  have hweighted := (haccepted.of_mem_neighbors_entity (mem_nodes_of_mem_neighbors hx) hentity
    hback).2 hkind
  exact h.weighted n hn hkind _ (edge_mem_edgesTouching hx) hweighted

theorem entityEnds_eq (h : d.Spares d') (haccepted : d.Accepted) (hd : d.DistinctIds)
    (hn : n ∈ d.nodes) (hkind : n.kind.isRelation = true) :
    d'.entityEnds n.id = d.entityEnds n.id := by
  refine h.toTrims.entityEnds_eq fun x hx => ?_
  obtain ⟨hnear, hentity⟩ := mem_entityEnds_iff.1 hx
  exact h.edge_of_relation haccepted hd hn hkind hnear hentity

/-- A multi-valued attribute has the same owner: all of its neighbors are entities, and it is read
from each of them. -/
theorem entityOwner_eq (h : d.Spares d') (haccepted : d.Accepted) (hd : d.DistinctIds)
    (hn : n ∈ d.nodes) (hkind : n.kind = .attr .multiValued) :
    d'.entityOwner n = d.entityOwner n := by
  have hfound := node?_of_mem hd hn
  have hentity {x : Neighbor} (hx : x ∈ d.neighbors n.id) : x.node.kind.isEntity = true :=
    haccepted.isEntity_of_multiValued hfound hkind hx
  have halone : d.attributes n.id = [] := by
    rw [Diagram.attributes, List.filter_eq_nil_iff]
    intro x hx
    simp [isAttribute_of_isEntity (hentity hx)]
  have howners : d'.rootOwners n.id = d.rootOwners n.id := by
    refine h.toTrims.rootOwners_eq halone fun x hx => ?_
    exact (h.attributes x.node (mem_nodes_of_mem_neighbors hx) (isRoot_of_isEntity (hentity hx)) _
      (reads_multiValued hfound hkind hx)).1
  unfold entityOwner
  rw [howners]
  cases hroots : d.rootOwners n.id with
  | nil => rfl
  | cons id ids =>
    have howner : id ∈ d.rootOwners n.id := by simp [hroots]
    obtain ⟨x, hx, howns, rfl⟩ := haccepted.exists_entity_of_multiValued hfound hkind howner
    dsimp only
    rw [h.node?_eq x.node (mem_nodes_of_mem_neighbors hx) howns]

/-- The diagram that is left answers whatever the synthesis asks. -/
theorem sameAnswers (h : d.Spares d') (haccepted : d.Accepted) (hd : d.DistinctIds) :
    d.SameAnswers d' where
  buildOrder_eq := h.buildOrder_eq
  node?_eq := h.node?_eq
  attributes_eq := by
    intro n hn hkind
    refine h.toTrims.filter_attributes fun x hx hp => ?_
    rw [bne_iff_ne] at hp
    exact (h.attributes n hn hkind x ⟨hx, fun hkey => absurd hkey hp⟩).1
  primaryKey?_eq := by
    intro n hn hkind
    refine h.toTrims.primaryKey?_eq fun x hx hprimary => ?_
    exact (h.attributes n hn hkind x ⟨List.mem_of_mem_filter hx, fun _ => hprimary⟩).1
  leaves_eq := fun n hn hkind x hx => (h.attributes n hn hkind x hx).2
  relations_eq := by
    intro n hn hkind
    refine congrArg _ (h.toTrims.relations_eq fun x hx hrelation => ?_)
    have hback := neighbor_symm (node?_of_mem hd hn) hx
    exact h.edge_of_relation haccepted hd (mem_nodes_of_mem_neighbors hx) hrelation hback hkind
  dependencyEnds_eq := fun _ hn hkind =>
    h.entityEnds_eq haccepted hd hn (isRelation_of_isDependency hkind)
  relationEnds_eq := fun _ hn hkind => h.entityEnds_eq haccepted hd hn (by rw [hkind]; rfl)
  cardinality_eq := fun n hn hkind => h.toTrims.cardinality_eq (h.weighted n hn hkind)
  parents_eq := by
    intro n hn hkind
    refine h.toTrims.parents_eq fun e he hlink m hm hentity => ?_
    have hne := id_ne_of_kind hd (mem_of_node? hm).1 hn hentity (isEntity_of_isSpecialization hkind)
    exact h.links n hn (isAttribute_of_isSpecialization hkind) _
      (mem_neighbors_of_end he (.inl rfl) hm hne) (isAttribute_of_isEntity hentity) hlink
  children_eq := by
    intro n hn hkind
    refine h.toTrims.children_eq fun e he hlink m hm hentity => ?_
    have hne := id_ne_of_kind hd (mem_of_node? hm).1 hn hentity (isEntity_of_isSpecialization hkind)
    exact h.links n hn (isAttribute_of_isSpecialization hkind) _
      (mem_neighbors_of_end he (.inr rfl) hm hne) (isAttribute_of_isEntity hentity) hlink
  specializationsAbove_eq := by
    intro n hn hkind
    refine h.toTrims.specializationsAbove_eq fun e he hlink m hm hspecial => ?_
    have hne := (id_ne_of_kind hd hn (mem_of_node? hm).1 hkind
      (isEntity_of_isSpecialization hspecial)).symm
    exact h.links n hn (isAttribute_of_isEntity hkind) _
      (mem_neighbors_of_end he (.inl rfl) hm hne) (isAttribute_of_isSpecialization hspecial) hlink
  entityOwner_eq := fun _ hn hkind => h.entityOwner_eq haccepted hd hn hkind

/-- What is not read makes no difference. -/
theorem synthesize_eq (h : d.Spares d') (haccepted : d.Accepted) (hd : d.DistinctIds) :
    d'.synthesize = d.synthesize :=
  (h.sameAnswers haccepted hd).synthesize_eq hd

end Spares

/-! ## Constraints -/

/-- The diagram without one of its edges. -/
def withoutEdge (d : Diagram) (e : Edge) : Diagram :=
  { d with edges := d.edges.filter (· != e) }

/-- An edge is removed under its id, unless the id is also a node's. -/
theorem remove_eq_withoutEdge (hd : d.DistinctIds) (he : e ∈ d.edges)
    (hnode : d.hasNode e.id = false) : d.remove e.id = .ok (d.withoutEdge e) := by
  have hfound : (d.edge? e.id).isSome = true := by rw [edge?_of_mem hd he]; rfl
  have hsame : d.edges.filter (·.id != e.id) = d.edges.filter (· != e) := by
    refine List.filter_congr fun f hf => ?_
    rw [Bool.eq_iff_iff, bne_iff_ne, bne_iff_ne, not_iff_not]
    exact ⟨List.inj_on_of_nodup_map hd.2 hf he, congrArg Edge.id⟩
  rw [remove, hnode, if_neg Bool.false_ne_true, if_pos hfound, hsame, withoutEdge]

/-- An edge of an attribute is a plain link or an optional one, whatever the role. -/
theorem Accepted.edge_of_attribute (h : d.Accepted) (hn : d.node? n.id = some n)
    (hx : ⟨m, e⟩ ∈ d.neighbors n.id) (hkind : m.kind.isAttribute = true) :
    e.kind = .transition ∨ e.kind = .optional := by
  obtain ⟨role, hk⟩ := exists_role hkind
  have huse := h.mayUse (mem_nodes_of_mem_neighbors hx) hk (neighbor_symm hn hx)
  cases he : e.kind <;> cases role <;> simp_all [AttributeKind.mayUse]

theorem Accepted.isConstraint_of_attribute (h : d.Accepted) (hn : d.node? n.id = some n)
    (hx : ⟨m, e⟩ ∈ d.neighbors n.id) (hkind : m.kind.isAttribute = true) :
    e.kind.isConstraint = false := by
  rcases h.edge_of_attribute hn hx hkind with he | he <;> rw [he] <;> rfl

/-- The edge to a member is no constraint. -/
theorem Accepted.isConstraint_of_member (h : d.Accepted) (hn : d.node? n.id = some n)
    (hx : x ∈ d.members n.id) : x.edge.kind.isConstraint = false := by
  obtain ⟨hnear, hkind⟩ := of_mem_members hx
  exact h.isConstraint_of_attribute hn hnear hkind

/-- Constraints are not read, and any of them may be left out. -/
theorem Accepted.spares_of_constraints (h : d.Accepted) (hd : d.DistinctIds) {keep : Edge → Bool}
    (hkeep : ∀ e ∈ d.edges, e.kind.isConstraint = false → keep e = true) :
    d.Spares { d with edges := d.edges.filter keep } := by
  have hstays {id : String} {x : Neighbor} (hx : x ∈ d.neighbors id)
      (hlink : x.edge.kind.isConstraint = false) : x.edge ∈ d.edges.filter keep := by
    obtain ⟨hmem, -⟩ := mem_neighbors_iff.1 hx
    exact List.mem_filter.2 ⟨hmem, hkeep _ hmem hlink⟩
  refine { trims_filter_edges d keep with
    buildOrder_eq := rfl
    node?_eq := fun _ _ _ => rfl
    links := fun _ _ _ _ hx _ hlink => hstays hx hlink
    weighted := fun n _ _ e he hweighted => ?weighted
    attributes := fun n hn _ x hx => ⟨?edge, ?leaves⟩ }
  case weighted =>
    have hmem := List.mem_of_mem_filter he
    exact List.mem_filter.2 ⟨hmem, hkeep e hmem (by rw [hweighted]; rfl)⟩
  case edge =>
    obtain ⟨hnear, hkind⟩ := mem_attributes_iff.1 hx.1
    exact hstays hnear (h.isConstraint_of_attribute (node?_of_mem hd hn) hnear hkind)
  case leaves =>
    -- the walk through members stays among the nodes of the diagram
    refine (trims_filter_edges d keep).leaves_eq (P := fun v => d.hasNode v = true)
      (fun _ _ => rfl) (fun v hv y hy => ?_) ?_
    · obtain ⟨m, hm, rfl⟩ := hasNode_iff.1 hv
      obtain ⟨hnear, -⟩ := of_mem_members hy
      exact ⟨hstays hnear (h.isConstraint_of_member (node?_of_mem hd hm) hy),
        hasNode_iff.2 ⟨y.node, mem_nodes_of_mem_neighbors hnear, rfl⟩⟩
    · exact hasNode_iff.2 ⟨x.node, mem_nodes_of_mem_neighbors (mem_attributes_iff.1 hx.1).1, rfl⟩

/-- Constraints between the parts of a specialization are for the reader of the drawing: in an
accepted diagram each can be left out, and the synthesis gives the same schema or the same fault. No
edge needs to end at nodes for this. -/
theorem Accepted.synthesize_withoutEdge (h : d.Accepted) (hd : d.DistinctIds)
    (he : e.kind.isConstraint = true) : (d.withoutEdge e).synthesize = d.synthesize := by
  refine (h.spares_of_constraints hd fun f _ hlink => ?_).synthesize_eq h hd
  rw [bne_iff_ne]
  rintro rfl
  rw [he] at hlink
  cases hlink

/-- Without the constraint between the two specializations of its patients, the clinic has the same
tables. -/
theorem synthesize_clinic_withoutEdge :
    clinic.Accepted ∧ clinic.DistinctIds ∧
      ∃ e ∈ clinic.edges, e.kind.isConstraint = true ∧
        clinic.withoutEdge e ≠ clinic ∧ (clinic.withoutEdge e).synthesize = clinic.synthesize := by
  have hdistinct : clinic.DistinctIds := by decide +kernel
  refine ⟨accepted_clinic, hdistinct, ⟨"e8", .constraint .disjointness, "care", "age", none⟩,
    by decide +kernel, rfl, by decide +kernel, ?_⟩
  exact accepted_clinic.synthesize_withoutEdge hdistinct rfl

/-! ## Attributes without a column -/

/-- An attribute is among the leaves of what is read of some entity or relation. -/
def IsRead (d : Diagram) (a : Node) : Prop :=
  ∃ n ∈ d.nodes, n.kind.isRoot = true ∧ ∃ x, d.Reads n x ∧ a ∈ d.leaves x.node

instance (d : Diagram) (a : Node) : Decidable (d.IsRead a) :=
  decidable_of_iff
    (∃ n ∈ d.nodes, n.kind.isRoot = true ∧ ∃ x ∈ d.attributes n.id,
      (x.node.kind = .attr .key → d.primaryKey? n.id = some x.node) ∧ a ∈ d.leaves x.node)
    (by simp only [IsRead, Reads, and_assoc])

/-- A multi-valued attribute is read, since it belongs to an entity around it. -/
theorem Accepted.isRead_of_multiValued (h : d.Accepted) (hd : d.DistinctIds) (ha : a ∈ d.nodes)
    (hkind : a.kind = .attr .multiValued) : d.IsRead a := by
  have hfound := node?_of_mem hd ha
  obtain ⟨id, hid⟩ := h.rootOwners_eq ha hkind
  have howner : id ∈ d.rootOwners a.id := by simp [hid]
  obtain ⟨x, hx, hentity, -⟩ := h.exists_entity_of_multiValued hfound hkind howner
  have hleaf := mem_leaves_of_reached hfound (h.members_eq_nil ha hkind rfl) .refl
  exact ⟨x.node, mem_nodes_of_mem_neighbors hx, isRoot_of_isEntity hentity, _,
    reads_multiValued hfound hkind hx, hleaf⟩

/-- Of the attributes only the multi-valued ones are taken. -/
theorem passes_of_isAttribute {k : NodeKind} (hkind : k.isAttribute = true)
    (hmulti : k ≠ .attr .multiValued) : ∀ pass ∈ NodeKind.passes, pass k = false := by
  obtain ⟨role, rfl⟩ := exists_role hkind
  cases role with
  | multiValued => exact absurd rfl hmulti
  | plain | key | alternativeKey | derived => decide

/-- Without a node that belongs to no pass, the nodes are taken in the same order. -/
theorem buildOrder_of_remove (hd : d.DistinctIds) (ha : a ∈ d.nodes)
    (h : d.remove a.id = .ok d') (hpass : ∀ pass ∈ NodeKind.passes, pass a.kind = false) :
    d'.buildOrder = d.buildOrder := by
  rw [remove, if_pos (hasNode_iff.2 ⟨a, ha, rfl⟩)] at h
  cases h
  refine List.flatMap_congr fun pass hmem => ?_
  rw [List.filter_filter]
  refine List.filter_congr fun n hn => ?_
  by_cases hid : n.id = a.id
  · rw [eq_of_id_eq hd hn ha hid, hpass pass hmem, Bool.false_and]
  · simp [hid]

/-- Removing a node leaves the leaves of an attribute if it is not reached from this. -/
theorem leaves_of_remove (hm : d.hasNode m.id = true) (h : d.remove m.id = .ok d')
    (hreach : ¬ d.ReachesMember a.id m.id) : d'.leaves a = d.leaves a := by
  have hne {id : String} (hid : ¬ d.ReachesMember id m.id) : id ≠ m.id := by
    rintro rfl
    exact hid .refl
  refine (trims_of_remove hm h).leaves_eq (P := fun id => ¬ d.ReachesMember id m.id)
    (fun id hid => node?_of_remove hm h (hne hid)) (fun id hid x hx => ?_) hreach
  have hnext : ¬ d.ReachesMember x.node.id m.id := fun hwalk =>
    hid (.head (follows_member hx) hwalk)
  exact ⟨edge_mem_of_remove hm h (of_mem_members hx).1 (hne hid) (hne hnext), hnext⟩

/-- An attribute without members that is not read may be removed. -/
theorem Accepted.spares_of_remove (h : d.Accepted) (hd : d.DistinctIds) (ha : a ∈ d.nodes)
    (hkind : a.kind.isAttribute = true) (hmembers : d.members a.id = []) (hunread : ¬ d.IsRead a)
    (hremove : d.remove a.id = .ok d') : d.Spares d' := by
  have hfound := node?_of_mem hd ha
  have hhas : d.hasNode a.id = true := hasNode_iff.2 ⟨a, ha, rfl⟩
  have hother {n : Node} (hn : n ∈ d.nodes) (hnk : n.kind.isAttribute = false) : n.id ≠ a.id :=
    (id_ne_of_kind hd ha hn hkind hnk).symm
  -- the walk from an attribute that is read does not come to the removed one
  have hreach {n : Node} (hn : n ∈ d.nodes) (hroot : n.kind.isRoot = true) {x : Neighbor}
      (hx : d.Reads n x) : ¬ d.ReachesMember x.node.id a.id := by
    intro hwalk
    exact hunread ⟨n, hn, hroot, x, hx, mem_leaves_of_reached hfound hmembers hwalk⟩
  have hnear {n : Node} {e : Edge} (hn : n ∈ d.nodes) (hx : ⟨a, e⟩ ∈ d.neighbors n.id) :
      e.kind ≠ .weighted := by
    rcases h.edge_of_attribute (node?_of_mem hd hn) hx hkind with he | he <;> simp [he]
  refine { trims_of_remove hhas hremove with
    buildOrder_eq := buildOrder_of_remove hd ha hremove (passes_of_isAttribute hkind ?order)
    node?_eq := fun n hn hentity => ?nodes
    links := fun n hn hnk x hx hxk _ => ?links
    weighted := fun n hn hrelation e he hweighted => ?weighted
    attributes := fun n hn hroot x hx =>
      ⟨?edge, leaves_of_remove hhas hremove (hreach hn hroot hx)⟩ }
  case order => exact fun hmulti => hunread (h.isRead_of_multiValued hd ha hmulti)
  case nodes =>
    exact node?_of_remove hhas hremove (hother hn (isAttribute_of_isEntity hentity))
  case links =>
    exact edge_mem_of_remove hhas hremove hx (hother hn hnk)
      (hother (mem_nodes_of_mem_neighbors hx) hxk)
  case weighted =>
    have hne := (hother hn (isAttribute_of_isRoot (isRoot_of_isRelation hrelation))).symm
    refine (mem_edges_of_remove hhas hremove).2 ⟨List.mem_of_mem_filter he, ?_, ?_⟩
    · intro hid
      exact hnear hn (mem_neighbors_of_end he (.inl hid) hfound hne) hweighted
    · intro hid
      exact hnear hn (mem_neighbors_of_end he (.inr hid) hfound hne) hweighted
  case edge =>
    refine edge_mem_of_remove hhas hremove (mem_attributes_iff.1 hx.1).1
      (hother hn (isAttribute_of_isRoot hroot)) fun hid => ?_
    exact hreach hn hroot hx (hid ▸ .refl)

/-- An attribute without members that is not read has no influence on the schema. -/
theorem Accepted.synthesize_remove (h : d.Accepted) (hd : d.DistinctIds) (ha : a ∈ d.nodes)
    (hkind : a.kind.isAttribute = true) (hmembers : d.members a.id = []) (hunread : ¬ d.IsRead a) :
    ∃ d', d.remove a.id = .ok d' ∧ d'.synthesize = d.synthesize := by
  have hhas : d.hasNode a.id = true := hasNode_iff.2 ⟨a, ha, rfl⟩
  obtain ⟨d', hremove⟩ : ∃ d', d.remove a.id = .ok d' := ⟨_, if_pos hhas⟩
  exact ⟨d', hremove,
    (h.spares_of_remove hd ha hkind hmembers hunread hremove).synthesize_eq h hd⟩

end EntityRelationship.Diagram
