import EntityRelationship.Diagram.Attribute
import EntityRelationship.Diagram.Dependency
import Mathlib.Data.List.Nodup
import Mathlib.Data.List.Sort
import Mathlib.Data.String.Basic
import Mathlib.Logic.Relation

/-!
# What the lookups find

Every structural question about a diagram is answered by going along edges and looking up ids.
This file says which nodes the answers are made of: nodes of the diagram, found under their own
ids, of the kind that was asked for. Where the ids are distinct, a node of the diagram is found
under its id, and two nodes see each other along the same edge.
-/

namespace EntityRelationship.Diagram

open Relation

variable {d : Diagram} {id : String} {m n : Node} {x : Neighbor}

instance (d : Diagram) : Decidable d.DistinctIds :=
  inferInstanceAs (Decidable ((d.nodes.map (·.id)).Nodup ∧ (d.edges.map (·.id)).Nodup))

instance (d : Diagram) : Decidable d.Closed :=
  inferInstanceAs (Decidable (∀ e ∈ d.edges, d.hasNode e.source = true ∧ d.hasNode e.target = true))

/-! ## Places in lists -/

/-- With an element added at the end, a list has what it had in its places, and the new element in
the next one. -/
theorem getElem?_concat_eq_some_iff {α : Type} {xs : List α} {x y : α} {i : Nat} :
    (xs ++ [x])[i]? = some y ↔ xs[i]? = some y ∨ i = xs.length ∧ x = y := by
  rcases Nat.lt_trichotomy i xs.length with hlt | heq | hgt
  · rw [List.getElem?_append_left hlt]
    simp [Nat.ne_of_lt hlt]
  · simp [heq]
  · rw [List.getElem?_append_right (Nat.le_of_lt hgt),
      List.getElem?_eq_none (Nat.le_of_lt hgt)]
    simp [Nat.ne_of_gt hgt, Nat.sub_ne_zero_of_lt hgt]

/-! ## Sorts of nodes -/

section Sorts

variable {k : NodeKind}

/-- An attribute has a role. -/
theorem exists_role (h : k.isAttribute = true) : ∃ role, k = .attr role := by
  cases k with
  | attr role => exact ⟨role, rfl⟩
  | entity | weakEntity | relation | dependency _ | specialization _ => cases h

/-- A specialization has a form. -/
theorem exists_form (h : k.isSpecialization = true) : ∃ form, k = .specialization form := by
  cases k with
  | specialization form => exact ⟨form, rfl⟩
  | entity | weakEntity | relation | dependency _ | attr _ => cases h

/-- Entities and relations are what attributes belong to. -/
theorem isRoot_of_isEntity (h : k.isEntity = true) : k.isRoot = true := by
  rw [NodeKind.isRoot, h, Bool.true_or]

theorem isRoot_of_isRelation (h : k.isRelation = true) : k.isRoot = true := by
  rw [NodeKind.isRoot, h, Bool.or_true]

/-- A dependency is a relation. -/
theorem isRelation_of_isDependency (h : k.isDependency = true) : k.isRelation = true := by
  cases k <;> simp_all [NodeKind.isDependency, NodeKind.isRelation]

/-- An entity or relation is no attribute. -/
theorem isAttribute_of_isRoot (h : k.isRoot = true) : k.isAttribute = false := by
  cases k <;> simp_all [NodeKind.isRoot, NodeKind.isEntity, NodeKind.isRelation,
    NodeKind.isAttribute]

theorem isAttribute_of_isEntity (h : k.isEntity = true) : k.isAttribute = false :=
  isAttribute_of_isRoot (isRoot_of_isEntity h)

/-- A specialization is no attribute and no entity. -/
theorem isAttribute_of_isSpecialization (h : k.isSpecialization = true) :
    k.isAttribute = false := by
  obtain ⟨form, rfl⟩ := exists_form h
  rfl

theorem isEntity_of_isSpecialization (h : k.isSpecialization = true) : k.isEntity = false := by
  obtain ⟨form, rfl⟩ := exists_form h
  rfl

end Sorts

/-! ## Nodes -/

/-- Nodes with one id are one node. -/
theorem eq_of_id_eq (hd : d.DistinctIds) (hm : m ∈ d.nodes) (hn : n ∈ d.nodes)
    (h : m.id = n.id) : m = n :=
  List.inj_on_of_nodup_map hd.1 hm hn h

/-- Nodes of different sorts have different ids. -/
theorem id_ne_of_kind {p : NodeKind → Bool} (hd : d.DistinctIds) (hm : m ∈ d.nodes)
    (hn : n ∈ d.nodes) (hmp : p m.kind = true) (hnp : p n.kind = false) : m.id ≠ n.id := by
  intro hid
  rw [eq_of_id_eq hd hm hn hid, hnp] at hmp
  cases hmp

/-- A node is found under its id. -/
theorem node?_of_mem (hd : d.DistinctIds) (hn : n ∈ d.nodes) : d.node? n.id = some n := by
  have hfound : (d.node? n.id).isSome := hasNode_iff.2 ⟨n, hn, rfl⟩
  obtain ⟨m, hm⟩ := Option.isSome_iff_exists.1 hfound
  obtain ⟨hmem, hid⟩ := mem_of_node? hm
  rw [hm, eq_of_id_eq hd hmem hn hid]

/-- What is found under an id is the node that has it. -/
theorem node?_eq_some_iff (hd : d.DistinctIds) : d.node? id = some n ↔ n ∈ d.nodes ∧ n.id = id := by
  constructor
  · exact mem_of_node?
  · rintro ⟨hn, rfl⟩
    exact node?_of_mem hd hn

/-- An edge is found under its id. -/
theorem edge?_of_mem {e : Edge} (hd : d.DistinctIds) (he : e ∈ d.edges) :
    d.edge? e.id = some e := by
  have hfound : (d.edge? e.id).isSome :=
    List.find?_isSome.2 ⟨e, he, beq_self_eq_true e.id⟩
  obtain ⟨f, hf⟩ := Option.isSome_iff_exists.1 hfound
  obtain ⟨hmem, hid⟩ := mem_of_edge? hf
  rw [hf, List.inj_on_of_nodup_map hd.2 hmem he hid]

/-- A node that is found under some id is found under its own. -/
theorem node?_id (h : d.node? id = some n) : d.node? n.id = some n := by
  rw [(mem_of_node? h).2, h]

/-- Removing repeats keeps a node of each id. -/
theorem exists_mem_firstOfEach {ns : List Node} (h : n ∈ ns) :
    ∃ m ∈ firstOfEach ns, m.id = n.id := by
  induction ns with
  | nil => cases h
  | cons a ns ih =>
    rw [firstOfEach]
    by_cases hid : a.id = n.id
    · exact ⟨a, List.mem_cons_self, hid⟩
    · rcases List.mem_cons.1 h with rfl | h
      · exact absurd rfl hid
      · obtain ⟨m, hm, hmid⟩ := ih h
        refine ⟨m, List.mem_cons_of_mem _ (List.mem_filter.2 ⟨hm, ?_⟩), hmid⟩
        rw [hmid]
        simpa using Ne.symm hid

/-- Removing repeats loses no node if each id is that of one node. -/
theorem mem_firstOfEach_iff (hd : d.DistinctIds) {ns : List Node} (hns : ∀ n ∈ ns, n ∈ d.nodes) :
    n ∈ firstOfEach ns ↔ n ∈ ns := by
  constructor
  · exact mem_of_mem_firstOfEach
  · intro hn
    obtain ⟨m, hm, hid⟩ := exists_mem_firstOfEach hn
    have hsame : m = n := eq_of_id_eq hd (hns m (mem_of_mem_firstOfEach hm)) (hns n hn) hid
    exact hsame ▸ hm

/-- Removing repeats from some of the nodes leaves what removing repeats from all leaves of them, if
each id is that of one node. -/
theorem filter_firstOfEach {p : Node → Bool} {ns : List Node}
    (h : ∀ m ∈ ns, ∀ n ∈ ns, m.id = n.id → m = n) :
    (firstOfEach ns).filter p = firstOfEach (ns.filter p) := by
  induction ns with
  | nil => rfl
  | cons n ns ih =>
    have ih := ih fun a ha b hb =>
      h a (List.mem_cons_of_mem _ ha) b (List.mem_cons_of_mem _ hb)
    rw [firstOfEach]
    cases hp : p n with
    | true =>
      rw [List.filter_cons_of_pos hp, List.filter_cons_of_pos hp, firstOfEach, ← ih,
        List.filter_comm]
    | false =>
      -- no other node of the sort has the id of the one that is left out
      rw [List.filter_cons_of_neg (by simp [hp]), List.filter_cons_of_neg (by simp [hp]), ← ih,
        List.filter_filter]
      refine List.filter_congr fun m hm => ?_
      cases hpm : p m with
      | false => rfl
      | true =>
        have hne : m.id ≠ n.id := by
          intro hid
          rw [h m (List.mem_cons_of_mem _ (mem_of_mem_firstOfEach hm)) n List.mem_cons_self hid,
            hp] at hpm
          cases hpm
        simp [hne]

/-- The head of a list of one element at most is any element that it has. -/
theorem head?_of_mem {α : Type} {x : α} {xs : List α} (hx : x ∈ xs) (hlength : xs.length ≤ 1) :
    xs.head? = some x := by
  obtain ⟨y, rfl⟩ := List.length_eq_one_iff.1 (le_antisymm hlength (List.length_pos_of_mem hx))
  rw [List.mem_singleton.1 hx]
  rfl

/-! ## Neighbors -/

/-- Opposite ends are the two ends in either order. -/
theorem otherEnd?_eq_some_iff {e : Edge} {a b : String} :
    e.otherEnd? a = some b ↔ e.source = a ∧ e.target = b ∨ e.source = b ∧ e.target = a := by
  unfold Edge.otherEnd?
  grind

/-- The opposite end is one of the two ends. -/
theorem otherEnd?_eq {e : Edge} {a b : String} (h : e.otherEnd? a = some b) :
    e.target = b ∨ e.source = b := by
  rcases otherEnd?_eq_some_iff.1 h with ⟨-, htarget⟩ | ⟨hsource, -⟩
  · exact .inl htarget
  · exact .inr hsource

/-- Opposite ends are opposite to each other. -/
theorem otherEnd?_symm {e : Edge} {a b : String} (h : e.otherEnd? a = some b) :
    e.otherEnd? b = some a :=
  otherEnd?_eq_some_iff.2 (otherEnd?_eq_some_iff.1 h).symm

/-- A neighbor is a node at the opposite end of an edge. -/
theorem mem_neighbors_iff :
    x ∈ d.neighbors id ↔
      x.edge ∈ d.edges ∧ x.edge.otherEnd? id = some x.node.id ∧
        d.node? x.node.id = some x.node := by
  simp only [neighbors, edgesTouching, List.mem_filterMap, List.mem_filter, neighborAlong?,
    Option.bind_eq_bind, Option.bind_eq_some_iff, Option.pure_def, Option.some.injEq]
  constructor
  · rintro ⟨e, ⟨he, -⟩, other, hother, n, hn, rfl⟩
    obtain rfl := (mem_of_node? hn).2
    exact ⟨he, hother, hn⟩
  · rintro ⟨he, hother, hn⟩
    have htouch : x.edge.touches id = true := by
      rw [← Edge.isSome_otherEnd?, hother, Option.isSome_some]
    exact ⟨x.edge, ⟨he, htouch⟩, x.node.id, hother, x.node, hn, rfl⟩

theorem node?_of_mem_neighbors (h : x ∈ d.neighbors id) : d.node? x.node.id = some x.node :=
  (mem_neighbors_iff.1 h).2.2

theorem mem_nodes_of_mem_neighbors (h : x ∈ d.neighbors id) : x.node ∈ d.nodes :=
  (mem_of_node? (node?_of_mem_neighbors h)).1

/-- The edge that leads to a neighbor is an edge of the node. -/
theorem edge_mem_edgesTouching (h : x ∈ d.neighbors id) : x.edge ∈ d.edgesTouching id := by
  obtain ⟨he, hother, -⟩ := mem_neighbors_iff.1 h
  rw [edgesTouching, List.mem_filter, ← Edge.isSome_otherEnd?, hother]
  exact ⟨he, rfl⟩

/-- Along one edge two nodes see each other. -/
theorem neighbor_symm (hn : d.node? n.id = some n) (h : x ∈ d.neighbors n.id) :
    ⟨n, x.edge⟩ ∈ d.neighbors x.node.id := by
  obtain ⟨he, hother, -⟩ := mem_neighbors_iff.1 h
  exact mem_neighbors_iff.2 ⟨he, otherEnd?_symm hother, hn⟩

/-- Another node at an end of an edge of a node is its neighbor. -/
theorem mem_neighbors_of_end {e : Edge} (he : e ∈ d.edgesTouching n.id)
    (hend : e.source = id ∨ e.target = id) (hm : d.node? id = some m) (hne : m.id ≠ n.id) :
    ⟨m, e⟩ ∈ d.neighbors n.id := by
  obtain ⟨hmem, htouches⟩ := List.mem_filter.1 he
  obtain ⟨-, hid⟩ := mem_of_node? hm
  refine mem_neighbors_iff.2 ⟨hmem, ?_, node?_id hm⟩
  rw [Edge.touches, Bool.or_eq_true, beq_iff_eq, beq_iff_eq] at htouches
  rw [Edge.otherEnd?]
  grind

/-- A member of an attribute is an attribute next to it. -/
theorem of_mem_members (hx : x ∈ d.members id) :
    x ∈ d.neighbors id ∧ x.node.kind.isAttribute = true := by
  obtain ⟨e, he, hx⟩ := List.mem_filterMap.1 hx
  unfold memberAlong? at hx
  split at hx
  · next hends =>
    obtain ⟨n, hn, rfl⟩ := Option.map_eq_some_iff.1 hx
    obtain ⟨hn, hkind⟩ := Option.filter_eq_some_iff.1 hn
    refine ⟨mem_neighbors_iff.2 ⟨List.mem_of_mem_filter he, ?_, node?_id hn⟩, hkind⟩
    rw [Edge.otherEnd?, if_pos hends.1, (mem_of_node? hn).2]
  · cases hx

theorem mem_attributes_iff :
    x ∈ d.attributes id ↔ x ∈ d.neighbors id ∧ x.node.kind.isAttribute = true :=
  List.mem_filter

theorem mem_entityEnds_iff :
    x ∈ d.entityEnds id ↔ x ∈ d.neighbors id ∧ x.node.kind.isEntity = true :=
  List.mem_filter

theorem mem_keys_iff : x ∈ d.keys id ↔ x ∈ d.neighbors id ∧ x.node.kind = .attr .key := by
  rw [keys, List.mem_filter, mem_attributes_iff, beq_iff_eq, and_assoc]
  refine and_congr_right fun _ => ⟨fun h => h.2, fun h => ⟨?_, h⟩⟩
  rw [h]
  rfl

/-- The primary key is missing exactly if there is no key. -/
theorem primaryKey?_eq_none_iff : d.primaryKey? id = none ↔ d.keys id = [] := by
  rw [primaryKey?, Option.map_eq_none_iff, List.head?_eq_none_iff]

/-- The primary key is a key attribute of the diagram. -/
theorem of_primaryKey? (h : d.primaryKey? id = some n) :
    d.node? n.id = some n ∧ n.kind = .attr .key := by
  obtain ⟨x, hx, rfl⟩ := Option.map_eq_some_iff.1 h
  obtain ⟨hnear, hkind⟩ := mem_keys_iff.1 (List.mem_of_mem_head? hx)
  exact ⟨node?_of_mem_neighbors hnear, hkind⟩

/-! ## Walks -/

/-- A walk visits only ids of a sort that its start belongs to and its steps do not leave. -/
theorem forall_mem_walkFrom {P : String → Prop} {follow : String → Edge → Option String}
    (hfollow : ∀ v, ∀ e ∈ d.edgesTouching v, ∀ w, P v → follow v e = some w → P w)
    {visited work : List String}
    (hwork : ∀ v ∈ work, P v) : ∀ v ∈ d.walkFrom follow visited work, P v := by
  induction visited, work using walkFrom.induct d follow with
  | case1 visited => simp [walkFrom]
  | case2 visited id work hv ih =>
    rw [walkFrom, if_pos hv]
    exact ih fun v hmem => hwork v (List.mem_cons_of_mem _ hmem)
  | case3 visited id work hv ih =>
    rw [walkFrom, if_neg hv]
    have hid : P id := hwork id List.mem_cons_self
    have hnext : ∀ v ∈ (d.edgesTouching id).filterMap (follow id) ++ work, P v := by
      intro v hmem
      rcases List.mem_append.1 hmem with hmem | hmem
      · obtain ⟨e, hedge, he⟩ := List.mem_filterMap.1 hmem
        exact hfollow id e hedge v hid he
      · exact hwork v (List.mem_cons_of_mem _ hmem)
    intro v hmem
    rcases List.mem_cons.1 hmem with rfl | hmem
    · exact hid
    · exact ih hnext v hmem

theorem forall_mem_walk {P : String → Prop} {follow : String → Edge → Option String}
    (hfollow : ∀ v, ∀ e ∈ d.edgesTouching v, ∀ w, P v → follow v e = some w → P w) (hid : P id) :
    ∀ v ∈ d.walk follow id, P v := by
  refine forall_mem_walkFrom hfollow ?_
  intro v hv
  rw [List.mem_singleton.1 hv]
  exact hid

/-- One step of a walk. -/
def Follows (d : Diagram) (follow : String → Edge → Option String) (v w : String) : Prop :=
  ∃ e ∈ d.edgesTouching v, follow v e = some w

/-- A walk enters what is on its work list and what can be reached from there in one step, unless
it was visited before. -/
theorem mem_visited_or_walkFrom {follow : String → Edge → Option String}
    {visited work : List String} :
    (∀ v ∈ work, v ∈ visited ∨ v ∈ d.walkFrom follow visited work) ∧
      ∀ v ∈ d.walkFrom follow visited work, ∀ w, d.Follows follow v w →
        w ∈ visited ∨ w ∈ d.walkFrom follow visited work := by
  induction visited, work using walkFrom.induct d follow with
  | case1 visited => simp [walkFrom]
  | case2 visited id work hv ih =>
    rw [walkFrom, if_pos hv]
    refine ⟨fun v hmem => ?_, ih.2⟩
    rcases List.mem_cons.1 hmem with rfl | hmem
    · exact .inl hv
    · exact ih.1 v hmem
  | case3 visited id work hv ih =>
    rw [walkFrom, if_neg hv]
    -- what counts as visited in the rest of the walk is visited here or is the first id
    have hrest {w : String} (h : w ∈ id :: visited ∨ w ∈ d.walkFrom follow (id :: visited)
        ((d.edgesTouching id).filterMap (follow id) ++ work)) :
        w ∈ visited ∨ w ∈ id :: d.walkFrom follow (id :: visited)
          ((d.edgesTouching id).filterMap (follow id) ++ work) := by
      rcases h with h | h
      · rcases List.mem_cons.1 h with rfl | h
        · exact .inr List.mem_cons_self
        · exact .inl h
      · exact .inr (List.mem_cons_of_mem _ h)
    constructor
    · intro v hmem
      rcases List.mem_cons.1 hmem with rfl | hmem
      · exact .inr List.mem_cons_self
      · exact hrest (ih.1 v (List.mem_append_right _ hmem))
    · rintro v hmem w ⟨e, he, hw⟩
      rcases List.mem_cons.1 hmem with rfl | hmem
      · have hnext : w ∈ (d.edgesTouching v).filterMap (follow v) :=
          List.mem_filterMap.2 ⟨e, he, hw⟩
        exact hrest (ih.1 w (List.mem_append_left _ hnext))
      · exact hrest (ih.2 v hmem w ⟨e, he, hw⟩)

/-- A walk visits exactly what can be reached from its start. -/
theorem mem_walk_iff {follow : String → Edge → Option String} {v : String} :
    v ∈ d.walk follow id ↔ ReflTransGen (d.Follows follow) id v := by
  constructor
  · intro hv
    refine forall_mem_walk (P := ReflTransGen (d.Follows follow) id) ?_ .refl v hv
    intro u e he w hu hw
    exact hu.tail ⟨e, he, hw⟩
  · intro hv
    obtain ⟨hstart, hclosed⟩ := @mem_visited_or_walkFrom d follow [] [id]
    induction hv with
    | refl => exact (hstart id List.mem_cons_self).resolve_left List.not_mem_nil
    | tail _ hstep ih => exact (hclosed _ ih _ hstep).resolve_left List.not_mem_nil

/-! ## Attributes -/

/-- The leaves of an attribute are attributes without members. -/
theorem of_mem_leaves (hn : d.node? n.id = some n) (hkind : n.kind.isAttribute = true)
    (hm : m ∈ d.leaves n) :
    m ∈ d.nodes ∧ m.kind.isAttribute = true ∧ d.members m.id = [] := by
  obtain ⟨v, hv, hm⟩ := List.mem_filterMap.1 hm
  obtain ⟨hwalk, hempty⟩ := List.mem_filter.1 hv
  obtain ⟨hmem, rfl⟩ := mem_of_node? hm
  -- the walk goes from attribute to attribute only
  obtain ⟨k, hk, hattr⟩ : ∃ k, d.node? m.id = some k ∧ k.kind.isAttribute = true := by
    refine forall_mem_walk (P := fun v => ∃ k, d.node? v = some k ∧ k.kind.isAttribute = true)
      (fun v e _ w _ hw => ?_) ⟨n, hn, hkind⟩ m.id hwalk
    obtain ⟨x, hx, rfl⟩ := Option.map_eq_some_iff.1 hw
    unfold memberAlong? at hx
    split at hx
    · obtain ⟨k, hk, rfl⟩ := Option.map_eq_some_iff.1 hx
      obtain ⟨hk, hattr⟩ := Option.filter_eq_some_iff.1 hk
      exact ⟨k, node?_id hk, hattr⟩
    · cases hx
  rw [hm] at hk
  cases hk
  exact ⟨hmem, hattr, List.isEmpty_iff.1 hempty⟩

/-- Putting an id in its place keeps a list strictly increasing. -/
theorem pairwise_insertId {ids : List String} (h : ids.Pairwise (· < ·)) (id : String) :
    (insertId id ids).Pairwise (· < ·) := by
  induction ids with
  | nil => exact List.pairwise_singleton _ _
  | cons x xs ih =>
    obtain ⟨hx, hxs⟩ := List.pairwise_cons.1 h
    rw [insertId]
    split
    · next hlt =>
      refine List.pairwise_cons.2 ⟨fun y hy => ?_, h⟩
      rcases List.mem_cons.1 hy with rfl | hy
      · exact hlt
      · exact lt_trans hlt (hx y hy)
    · next hnot =>
      split
      · exact h
      · next hne =>
        refine List.pairwise_cons.2 ⟨fun y hy => ?_, ih hxs⟩
        rcases mem_insertId.1 hy with rfl | hy
        · exact lt_of_le_of_ne (not_lt.1 hnot) (Ne.symm hne)
        · exact hx y hy

/-- Sorted ids are strictly increasing. -/
theorem pairwise_sortedIds (ids : List String) : (sortedIds ids).Pairwise (· < ·) := by
  induction ids with
  | nil => exact .nil
  | cons id ids ih => exact pairwise_insertId ih id

/-- Sorted ids depend only on which ids there are. -/
theorem sortedIds_eq_of_mem_iff {ids ids' : List String} (h : ∀ id, id ∈ ids ↔ id ∈ ids') :
    sortedIds ids = sortedIds ids' :=
  (pairwise_sortedIds ids).eq_of_mem_iff (pairwise_sortedIds ids') fun id => by
    rw [mem_sortedIds, mem_sortedIds, h id]

/-- The root owners of an attribute without attributes around it are among its neighbors. -/
theorem exists_of_mem_rootOwners (halone : ∀ x ∈ d.neighbors id, x.node.kind.isAttribute = false)
    {owner : String} (h : owner ∈ d.rootOwners id) :
    ∃ x ∈ d.neighbors id, x.node.kind.isRoot = true ∧ x.node.id = owner := by
  obtain ⟨v, hv, howner⟩ := List.mem_flatMap.1 (mem_sortedIds.1 h)
  have hstay : v = id := by
    -- no step leaves the start, since it would lead to an attribute
    refine forall_mem_walk (P := (· = id)) (fun u e he w hu hw => ?_) rfl v hv
    subst hu
    obtain ⟨x, hx, -⟩ := Option.map_eq_some_iff.1 hw
    obtain ⟨hx, hattr⟩ := Option.filter_eq_some_iff.1 hx
    have hnear : x ∈ d.neighbors u := List.mem_filterMap.2 ⟨e, he, hx⟩
    rw [halone x hnear] at hattr
    cases hattr
  subst hstay
  obtain ⟨x, hx, rfl⟩ := List.mem_map.1 howner
  obtain ⟨hnear, hroot⟩ := List.mem_filter.1 hx
  exact ⟨x, hnear, hroot, rfl⟩

/-! ## Dependencies -/

/-- The entity at the other end of a relation is an entity of the diagram. -/
theorem of_otherEntity {relation known : String} (h : d.otherEntity relation known = .ok n) :
    d.node? n.id = some n ∧ n.kind.isEntity = true := by
  have hmem : n ∈ (d.entityEnds relation).map (·.node) := by
    simp only [otherEntity] at h
    split at h
    · cases h
    · split at h
      · next hfound =>
        cases h
        rcases Option.or_eq_some_iff.1 hfound with hfound | ⟨-, hfound⟩
        · exact List.mem_of_find?_eq_some hfound
        · exact List.mem_of_find?_eq_some hfound
      · cases h
  obtain ⟨x, hx, rfl⟩ := List.mem_map.1 hmem
  obtain ⟨hnear, hkind⟩ := mem_entityEnds_iff.1 hx
  exact ⟨node?_of_mem_neighbors hnear, hkind⟩

/-- A relation with two ends has an entity at the other end of any of its entities. -/
theorem exists_otherEntity {relation known : String} (h : 2 ≤ (d.entityEnds relation).length) :
    ∃ n, d.otherEntity relation known = .ok n := by
  obtain ⟨a, ends, hends⟩ : ∃ a ends, d.entityEnds relation = a :: ends := by
    cases hends : d.entityEnds relation with
    | nil => simp [hends] at h
    | cons a ends => exact ⟨a, ends, rfl⟩
  simp only [otherEntity, List.length_map, if_neg (Nat.not_lt.2 h)]
  cases hfound : (((d.entityEnds relation).map (·.node)).find? (·.id != known)).or
      (((d.entityEnds relation).map (·.node)).find? (·.id == known)) with
  | some n => exact ⟨n, rfl⟩
  | none =>
    -- the first end is the known entity or it is not
    obtain ⟨hother, hsame⟩ := Option.or_eq_none_iff.1 hfound
    rw [List.find?_eq_none] at hother hsame
    have ha : a.node ∈ (d.entityEnds relation).map (·.node) := by
      rw [hends]
      exact List.mem_cons_self
    have h₁ := hother a.node ha
    have h₂ := hsame a.node ha
    simp only [bne_iff_ne, ne_eq, not_not] at h₁
    simp [h₁] at h₂

/-- A dependency of an entity is a dependency relation of the diagram with a dependent end. -/
theorem of_mem_dependencies (h : n ∈ d.dependencies id) :
    n ∈ d.nodes ∧ n.kind.isDependency = true ∧ (d.dependencyEnds? n.id).isSome = true := by
  rw [dependencies, List.mem_filter, List.mem_filter] at h
  obtain ⟨⟨hmem, hkind⟩, hends⟩ := h
  have hmem := mem_of_mem_firstOfEach hmem
  rw [List.mem_filter] at hmem
  obtain ⟨x, hx, rfl⟩ := List.mem_map.1 hmem.1
  refine ⟨mem_nodes_of_mem_neighbors hx, hkind, ?_⟩
  cases hsome : d.dependencyEnds? x.node.id with
  | none => simp [hsome] at hends
  | some ends => rfl

/-- A dependency joins two different entities, its owner and its dependent. -/
theorem of_dependencyEnds? {relation : String} {ends : DependencyEnds}
    (h : d.dependencyEnds? relation = some ends) :
    ∃ a b, d.entityEnds relation = [a, b] ∧ a.node.id ≠ b.node.id ∧
      (ends = ⟨b.node, a.node⟩ ∨ ends = ⟨a.node, b.node⟩) := by
  unfold dependencyEnds? at h
  split at h
  · next a b hends =>
    refine ⟨a, b, hends, ?_⟩
    grind
  · cases h

/-- The entity at the other end of a dependency from the dependent one is the owner. -/
theorem otherEntity_of_dependencyEnds? {relation : String} {ends : DependencyEnds}
    (h : d.dependencyEnds? relation = some ends) :
    d.otherEntity relation ends.dependent.id = .ok ends.owner := by
  obtain ⟨a, b, hab, hne, rfl | rfl⟩ := of_dependencyEnds? h
  · simp [otherEntity, hab, hne.symm]
  · simp [otherEntity, hab, hne]

/-- The dependent end is weak, and the dependency is one of its dependencies. -/
theorem dependent_of_dependencyEnds? (hd : d.DistinctIds) (hn : n ∈ d.nodes)
    (hkind : n.kind.isDependency = true) {ends : DependencyEnds}
    (hends : d.dependencyEnds? n.id = some ends) :
    ends.dependent ∈ d.nodes ∧ ends.dependent.kind = .weakEntity ∧
      n ∈ d.dependencies ends.dependent.id := by
  have hend : ∃ e ∈ d.entityEnds n.id, e.node = ends.dependent ∧ e.node.kind = .weakEntity := by
    unfold dependencyEnds? at hends
    split at hends
    · next a b hab =>
      rw [hab]
      grind
    · cases hends
  obtain ⟨e, he, hnode, hweak⟩ := hend
  obtain ⟨hnear, -⟩ := mem_entityEnds_iff.1 he
  rw [← hnode]
  refine ⟨mem_nodes_of_mem_neighbors hnear, hweak, ?_⟩
  rw [dependencies, List.mem_filter, List.mem_filter, relations]
  refine ⟨⟨(mem_firstOfEach_iff hd ?_).2 ?_, hkind⟩, ?_⟩
  · intro m hm
    obtain ⟨x, hx, rfl⟩ := List.mem_map.1 (List.mem_of_mem_filter hm)
    exact mem_nodes_of_mem_neighbors hx
  · refine List.mem_filter.2 ⟨List.mem_map.2 ⟨_, neighbor_symm (node?_of_mem hd hn) hnear, rfl⟩, ?_⟩
    exact isRelation_of_isDependency hkind
  · rw [hends, hnode]
    exact beq_self_eq_true ends.dependent.id

/-- An entity is the dependent of each of its dependencies. -/
theorem exists_dependencyEnds_of_mem (h : n ∈ d.dependencies id) :
    ∃ ends, d.dependencyEnds? n.id = some ends ∧ ends.dependent.id = id := by
  rw [dependencies, List.mem_filter, Option.any_eq_true] at h
  obtain ⟨ends, hends, hid⟩ := h.2
  exact ⟨ends, hends, beq_iff_eq.1 hid⟩

/-! ## Specializations -/

/-- A parent is an entity of the diagram. -/
theorem of_parent? (h : d.parent? id = some n) :
    d.node? n.id = some n ∧ n.kind.isEntity = true := by
  have hmem : n ∈ d.parents id := List.mem_of_mem_head? h
  rw [parents, List.mem_filter] at hmem
  obtain ⟨hmem, hkind⟩ := hmem
  obtain ⟨e, -, hn⟩ := List.mem_filterMap.1 hmem
  exact ⟨node?_id hn, hkind⟩

/-- A child is an entity of the diagram to which an edge leads that is no constraint. -/
theorem of_mem_children (h : n ∈ d.children id) :
    d.node? n.id = some n ∧ n.kind.isEntity = true ∧
      ∃ e ∈ d.edges, e.source = id ∧ e.target = n.id ∧ e.kind.isConstraint = false := by
  have hmem := mem_of_mem_firstOfEach h
  rw [List.mem_filter] at hmem
  obtain ⟨hmem, hkind⟩ := hmem
  obtain ⟨e, he, hn⟩ := List.mem_filterMap.1 hmem
  rw [edgesTouching, List.mem_filter, List.mem_filter] at he
  obtain ⟨⟨hedge, -⟩, hends⟩ := he
  simp only [Bool.and_eq_true, beq_iff_eq, bne_iff_ne, Bool.not_eq_true'] at hends
  exact ⟨node?_id hn, hkind, e, hedge, hends.1.1, (mem_of_node? hn).2.symm, hends.2⟩

/-- The children of a specialization have different ids. -/
theorem nodup_ids_children (d : Diagram) (id : String) : ((d.children id).map (·.id)).Nodup :=
  nodup_ids_firstOfEach _

/-- A specialization above an entity is a specialization of the diagram. -/
theorem of_mem_specializationsAbove (h : n ∈ d.specializationsAbove id) :
    d.node? n.id = some n ∧ n.kind.isSpecialization = true := by
  have hmem := mem_of_mem_firstOfEach h
  rw [List.mem_filter] at hmem
  obtain ⟨hmem, hkind⟩ := hmem
  obtain ⟨e, -, hn⟩ := List.mem_filterMap.1 hmem
  exact ⟨node?_id hn, hkind⟩

/-- A specialization stands above each of its children. -/
theorem mem_specializationsAbove_of_mem_children (hd : d.DistinctIds) (hn : n ∈ d.nodes)
    (hkind : n.kind.isSpecialization = true) (hm : m ∈ d.children n.id) :
    n ∈ d.specializationsAbove m.id := by
  obtain ⟨-, -, e, he, hsource, htarget, hconstraint⟩ := of_mem_children hm
  have hnode : d.node? e.source = some n := by
    rw [hsource]
    exact node?_of_mem hd hn
  have hmem : n ∈ (((d.edgesTouching m.id).filter fun e =>
      e.target == m.id && !e.kind.isConstraint).filterMap
        fun e => d.node? e.source).filter (·.kind.isSpecialization) := by
    refine List.mem_filter.2 ⟨List.mem_filterMap.2 ⟨e, ?_, hnode⟩, hkind⟩
    simp [edgesTouching, List.mem_filter, he, Edge.touches, htarget, hconstraint]
  obtain ⟨n', hn', hid⟩ := exists_mem_firstOfEach hmem
  have hsame : n' = n := by
    have hfound := (of_mem_specializationsAbove hn').1
    exact eq_of_id_eq hd (mem_of_node? hfound).1 hn hid
  rw [← hsame]
  exact hn'

end EntityRelationship.Diagram
