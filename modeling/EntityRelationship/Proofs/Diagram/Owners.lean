import EntityRelationship.Proofs.Diagram.Lookup

/-!
# Owners of attributes

An attribute belongs to the entities and relations to which trails lead from it. A trail goes along
edges, each taken in either direction, and every node on its way is an attribute; it may go round in
rings and over loops. The search for the owners visits each attribute that it meets once, and it
finds the ends of all trails and nothing else.

A trail can be turned round, and so attributes that an edge joins have the same owners.
-/

namespace EntityRelationship.Diagram

open Relation

variable {d : Diagram} {id id' owner : String} {m n : Node} {xs : List Node}

/-! ## Trails -/

/-- Some edge has the two ids as its ends, whichever of them is the source. -/
def Joined (d : Diagram) (id id' : String) : Prop :=
  ∃ e ∈ d.edges, e.source = id ∧ e.target = id' ∨ e.source = id' ∧ e.target = id

theorem Joined.symm (h : d.Joined id id') : d.Joined id' id := by
  obtain ⟨e, he, hends⟩ := h
  exact ⟨e, he, hends.symm⟩

/-- Edges lead from an id to another one. The nodes between the two, in this order, are attributes
of the diagram. -/
inductive AttributeTrail (d : Diagram) : String → List Node → String → Prop
  | edge {id id' : String} (h : d.Joined id id') : AttributeTrail d id [] id'
  | cons {id id' : String} {x : Node} {xs : List Node} (h : d.Joined id x.id) (hx : x ∈ d.nodes)
    (hkind : x.kind.isAttribute = true) (hrest : AttributeTrail d x.id xs id') :
    AttributeTrail d id (x :: xs) id'

/-! ## Steps of the search -/

/-- A node is seen from an id exactly if an edge joins the two. -/
theorem exists_neighbor_iff (hd : d.DistinctIds) (hn : n ∈ d.nodes) :
    (∃ x ∈ d.neighbors id, x.node = n) ↔ d.Joined id n.id := by
  constructor
  · rintro ⟨x, hx, rfl⟩
    obtain ⟨he, hother, -⟩ := mem_neighbors_iff.1 hx
    exact ⟨x.edge, he, otherEnd?_eq_some_iff.1 hother⟩
  · rintro ⟨e, he, hends⟩
    exact ⟨⟨n, e⟩, mem_neighbors_iff.2 ⟨he, otherEnd?_eq_some_iff.2 hends, node?_of_mem hd hn⟩, rfl⟩

/-- The search goes on from an id to the attributes that edges join to it. -/
theorem follows_attribute_iff (hd : d.DistinctIds) :
    d.Follows d.attributeAlong? id id' ↔
      ∃ n ∈ d.nodes, n.kind.isAttribute = true ∧ n.id = id' ∧ d.Joined id n.id := by
  constructor
  · rintro ⟨e, he, hfollow⟩
    obtain ⟨x, hx, rfl⟩ := Option.map_eq_some_iff.1 hfollow
    obtain ⟨hx, hkind⟩ := Option.filter_eq_some_iff.1 hx
    have hnear : x ∈ d.neighbors id := List.mem_filterMap.2 ⟨e, he, hx⟩
    have hmem := mem_nodes_of_mem_neighbors hnear
    exact ⟨x.node, hmem, hkind, rfl, (exists_neighbor_iff hd hmem).1 ⟨x, hnear, rfl⟩⟩
  · rintro ⟨n, hn, hkind, rfl, hjoined⟩
    obtain ⟨x, hx, rfl⟩ := (exists_neighbor_iff hd hn).2 hjoined
    obtain ⟨e, he, halong⟩ := List.mem_filterMap.1 hx
    exact ⟨e, he, Option.map_eq_some_iff.2 ⟨x, Option.filter_eq_some_iff.2 ⟨halong, hkind⟩, rfl⟩⟩

/-- At each id the search collects the entities and relations that edges join to it. -/
theorem mem_rootNeighbors_iff (hd : d.DistinctIds) :
    owner ∈ d.rootNeighbors id ↔
      ∃ n ∈ d.nodes, n.kind.isRoot = true ∧ n.id = owner ∧ d.Joined id n.id := by
  constructor
  · intro h
    obtain ⟨x, hx, rfl⟩ := List.mem_map.1 h
    obtain ⟨hnear, hkind⟩ := List.mem_filter.1 hx
    have hmem := mem_nodes_of_mem_neighbors hnear
    exact ⟨x.node, hmem, hkind, rfl, (exists_neighbor_iff hd hmem).1 ⟨x, hnear, rfl⟩⟩
  · rintro ⟨n, hn, hkind, rfl, hjoined⟩
    obtain ⟨x, hx, rfl⟩ := (exists_neighbor_iff hd hn).2 hjoined
    exact List.mem_map_of_mem (List.mem_filter.2 ⟨hx, hkind⟩)

/-! ## The whole search -/

/-- A trail leads to an id exactly if the search comes to an id that an edge joins to it. -/
theorem exists_trail_iff (hd : d.DistinctIds) :
    (∃ xs, d.AttributeTrail id xs owner) ↔
      ∃ v, ReflTransGen (d.Follows d.attributeAlong?) id v ∧ d.Joined v owner := by
  constructor
  · rintro ⟨xs, h⟩
    induction h with
    | edge hjoined => exact ⟨_, .refl, hjoined⟩
    | cons hjoined hx hkind _ ih =>
      obtain ⟨v, hreach, hlast⟩ := ih
      exact ⟨v, .head ((follows_attribute_iff hd).2 ⟨_, hx, hkind, rfl, hjoined⟩) hreach, hlast⟩
  · rintro ⟨v, hreach, hlast⟩
    induction hreach using ReflTransGen.head_induction_on with
    | refl => exact ⟨[], .edge hlast⟩
    | head hstep _ ih =>
      obtain ⟨x, hx, hkind, rfl, hjoined⟩ := (follows_attribute_iff hd).1 hstep
      obtain ⟨xs, htrail⟩ := ih
      exact ⟨x :: xs, .cons hjoined hx hkind htrail⟩

/-- The owners are the entities and relations to which trails lead. -/
theorem mem_rootOwners_iff (hd : d.DistinctIds) :
    owner ∈ d.rootOwners id ↔
      (∃ n ∈ d.nodes, n.id = owner ∧ n.kind.isRoot = true) ∧
        ∃ xs, d.AttributeTrail id xs owner := by
  rw [exists_trail_iff hd, rootOwners, mem_sortedIds, List.mem_flatMap]
  constructor
  · rintro ⟨v, hv, howner⟩
    obtain ⟨n, hn, hkind, rfl, hjoined⟩ := (mem_rootNeighbors_iff hd).1 howner
    exact ⟨⟨n, hn, rfl, hkind⟩, v, mem_walk_iff.1 hv, hjoined⟩
  · rintro ⟨⟨n, hn, rfl, hkind⟩, v, hreach, hjoined⟩
    exact ⟨v, mem_walk_iff.2 hreach, (mem_rootNeighbors_iff hd).2 ⟨n, hn, hkind, rfl, hjoined⟩⟩

/-- What owns an attribute owns the attributes joined to it. -/
theorem mem_rootOwners_of_joined (hd : d.DistinctIds) (hn : n ∈ d.nodes)
    (hkind : n.kind.isAttribute = true) (hjoined : d.Joined id n.id)
    (h : owner ∈ d.rootOwners n.id) : owner ∈ d.rootOwners id := by
  obtain ⟨hroot, xs, htrail⟩ := (mem_rootOwners_iff hd).1 h
  exact (mem_rootOwners_iff hd).2 ⟨hroot, n :: xs, .cons hjoined hn hkind htrail⟩

/-- The search for owners lists, in increasing order and each once, the ids of exactly those
entities and relations to which a trail leads from the id through attributes alone. Attributes that
an edge joins have the same owners. -/
theorem rootOwners_exact (hd : d.DistinctIds) (id : String) :
    (d.rootOwners id).Pairwise (· < ·) ∧
    (∀ owner, owner ∈ d.rootOwners id ↔
      (∃ n ∈ d.nodes, n.id = owner ∧ n.kind.isRoot = true) ∧ ∃ xs, d.AttributeTrail id xs owner) ∧
    ∀ m ∈ d.nodes, ∀ n ∈ d.nodes, m.kind.isAttribute = true → n.kind.isAttribute = true →
      d.Joined m.id n.id → d.rootOwners m.id = d.rootOwners n.id := by
  refine ⟨pairwise_sortedIds _, fun owner => mem_rootOwners_iff hd, ?_⟩
  intro m hm n hn hmkind hnkind hjoined
  refine (pairwise_sortedIds _).eq_of_mem_iff (pairwise_sortedIds _) fun owner => ⟨?_, ?_⟩
  · exact mem_rootOwners_of_joined hd hm hmkind hjoined.symm
  · exact mem_rootOwners_of_joined hd hn hnkind hjoined

/-- A ring of three attributes between a person and a relation. One of them has a loop, and an edge
of another one leads nowhere. -/
def roundabout : Diagram where
  nodes := [
    ⟨"r", .relation, "meets", none⟩,
    ⟨"a", .attr .plain, "place", none⟩,
    ⟨"b", .attr .plain, "town:TEXT", none⟩,
    ⟨"c", .attr .plain, "street:TEXT", none⟩,
    ⟨"p", .entity, "Person", none⟩]
  edges := [
    ⟨"e1", .transition, "a", "b", none⟩,
    ⟨"e2", .transition, "b", "c", none⟩,
    ⟨"e3", .transition, "c", "a", none⟩,
    ⟨"e4", .transition, "a", "a", none⟩,
    ⟨"e5", .optional, "b", "gone", none⟩,
    ⟨"e6", .transition, "p", "a", none⟩,
    ⟨"e7", .transition, "r", "c", none⟩]

/-- The attribute on the far side of the ring belongs to both, and so do the others. -/
theorem rootOwners_roundabout :
    roundabout.DistinctIds ∧ ¬ roundabout.Closed ∧ roundabout.rootOwners "b" = ["p", "r"] ∧
      (∃ xs, roundabout.AttributeTrail "b" xs "r") ∧
      roundabout.rootOwners "a" = roundabout.rootOwners "b" := by
  have hdistinct : roundabout.DistinctIds := by decide
  obtain ⟨-, hmem, hjoined⟩ := rootOwners_exact hdistinct "b"
  have howners : roundabout.rootOwners "b" = ["p", "r"] := by decide +kernel
  refine ⟨hdistinct, by decide, howners, ((hmem "r").1 (by rw [howners]; decide)).2, ?_⟩
  exact hjoined ⟨"a", .attr .plain, "place", none⟩ (by decide)
    ⟨"b", .attr .plain, "town:TEXT", none⟩ (by decide) rfl rfl
    ⟨⟨"e1", .transition, "a", "b", none⟩, by decide, .inl ⟨rfl, rfl⟩⟩

end EntityRelationship.Diagram
