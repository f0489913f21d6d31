import EntityRelationship.Diagram.Cardinality
import EntityRelationship.Proofs.Diagram.Lookup

/-!
# Copies of a diagram

A diagram has a copy in another one if each of its nodes is found there under a new id, with the
same edges in the same order. The second diagram may have other elements besides. This covers two
cases: a diagram whose ids are renamed, and a part of a diagram that no edge joins to the rest.

Whatever is read off the diagram at one of its nodes is found in the copy under the new ids. Where
ids are put in order, this needs that the new ids have the same order as the old ones; everywhere
else it needs only that different nodes have different ids.
-/

namespace EntityRelationship

/-! ## Renamings -/

/-- New ids for nodes and for edges. -/
structure Renaming where
  node : String → String
  edge : String → String

/-- The renaming that changes no id. -/
def Renaming.refl : Renaming := ⟨id, id⟩

section Renamed

variable (ρ : Renaming)

/-- A node under its new id. -/
def Node.renamed (n : Node) : Node := { n with id := ρ.node n.id }

@[simp] theorem Node.id_renamed (n : Node) : (n.renamed ρ).id = ρ.node n.id := rfl

@[simp] theorem Node.kind_renamed (n : Node) : (n.renamed ρ).kind = n.kind := rfl

@[simp] theorem Node.label_renamed (n : Node) : (n.renamed ρ).label = n.label := rfl

@[simp] theorem Node.expression?_renamed (n : Node) :
    (n.renamed ρ).expression? = n.expression? := rfl

/-- An edge under its new id, between the new ids of its ends. -/
def Edge.renamed (e : Edge) : Edge :=
  { e with id := ρ.edge e.id, source := ρ.node e.source, target := ρ.node e.target }

@[simp] theorem Edge.id_renamed (e : Edge) : (e.renamed ρ).id = ρ.edge e.id := rfl

@[simp] theorem Edge.kind_renamed (e : Edge) : (e.renamed ρ).kind = e.kind := rfl

@[simp] theorem Edge.source_renamed (e : Edge) : (e.renamed ρ).source = ρ.node e.source := rfl

@[simp] theorem Edge.target_renamed (e : Edge) : (e.renamed ρ).target = ρ.node e.target := rfl

@[simp] theorem Edge.cardinalityLabel_renamed (e : Edge) :
    (e.renamed ρ).cardinalityLabel = e.cardinalityLabel := rfl

@[simp] theorem Edge.isMandatory_renamed (e : Edge) :
    (e.renamed ρ).isMandatory = e.isMandatory := rfl

/-- A neighbor under the new ids. -/
def Neighbor.renamed (x : Neighbor) : Neighbor := ⟨x.node.renamed ρ, x.edge.renamed ρ⟩

@[simp] theorem Neighbor.node_renamed (x : Neighbor) : (x.renamed ρ).node = x.node.renamed ρ := rfl

@[simp] theorem Neighbor.edge_renamed (x : Neighbor) : (x.renamed ρ).edge = x.edge.renamed ρ := rfl

/-- The ends of a dependency under their new ids. -/
def DependencyEnds.renamed (ends : DependencyEnds) : DependencyEnds :=
  ⟨ends.owner.renamed ρ, ends.dependent.renamed ρ⟩

end Renamed

@[simp] theorem Node.renamed_refl (n : Node) : n.renamed .refl = n := rfl

/-! ## Copies -/

namespace Diagram

/-- The first diagram has a copy in the second. -/
structure Copy (ρ : Renaming) (p d : Diagram) : Prop where
  closed : p.Closed
  strictMono : ∀ a b, p.hasNode a = true → p.hasNode b = true → a < b → ρ.node a < ρ.node b
  node?_eq : ∀ id, p.hasNode id = true → d.node? (ρ.node id) = (p.node? id).map (·.renamed ρ)
  edgesTouching_eq : ∀ id, p.hasNode id = true →
    d.edgesTouching (ρ.node id) = (p.edgesTouching id).map (·.renamed ρ)

variable {ρ : Renaming} {p d : Diagram} {a b id : String} {n m : Node} {x y : Neighbor} {e : Edge}

/-- What is found under an id is a node. -/
theorem hasNode_of_node? (h : d.node? id = some n) : d.hasNode n.id = true :=
  hasNode_iff.2 ⟨n, (mem_of_node? h).1, rfl⟩

theorem hasNode_of_mem_neighbors (h : x ∈ d.neighbors id) : d.hasNode x.node.id = true :=
  hasNode_of_node? (node?_of_mem_neighbors h)

/-- Mapping the elements before filtering is mapping what is left after filtering, if the two
tests go together. -/
theorem filterMap_map_eq {α α' β β' : Type} {f : α → Option β} {g : α' → Option β'} {i : α → α'}
    {j : β → β'} {xs : List α} (h : ∀ x ∈ xs, g (i x) = (f x).map j) :
    (xs.map i).filterMap g = (xs.filterMap f).map j := by
  rw [List.filterMap_map, List.map_filterMap]
  exact List.filterMap_congr h

/-- Mapping the elements before searching is mapping what is found. -/
theorem find?_map_eq {α α' : Type} {f : α → Bool} {g : α' → Bool} {i : α → α'} {xs : List α}
    (h : ∀ x ∈ xs, g (i x) = f x) : (xs.map i).find? g = (xs.find? f).map i := by
  rw [List.find?_map]
  refine congrArg _ ?_
  induction xs with
  | nil => rfl
  | cons x xs ih =>
    rw [List.find?_cons, List.find?_cons, Function.comp_apply, h x List.mem_cons_self,
      ih fun y hy => h y (List.mem_cons_of_mem _ hy)]

namespace Copy

/-! ## Ids -/

/-- Nodes have the same order under the new ids. -/
theorem lt_iff (h : Copy ρ p d) (ha : p.hasNode a = true) (hb : p.hasNode b = true) :
    ρ.node a < ρ.node b ↔ a < b := by
  refine ⟨fun hlt => ?_, h.strictMono a b ha hb⟩
  rcases lt_trichotomy a b with hab | rfl | hba
  · exact hab
  · exact absurd hlt (lt_irrefl _)
  · exact absurd (h.strictMono b a hb ha hba) (lt_asymm hlt)

theorem le_iff (h : Copy ρ p d) (ha : p.hasNode a = true) (hb : p.hasNode b = true) :
    ρ.node a ≤ ρ.node b ↔ a ≤ b := by
  rw [← not_lt, h.lt_iff hb ha, not_lt]

/-- Different nodes have different new ids. -/
theorem id_eq_iff (h : Copy ρ p d) (ha : p.hasNode a = true) (hb : p.hasNode b = true) :
    ρ.node a = ρ.node b ↔ a = b := by
  rw [le_antisymm_iff, h.le_iff ha hb, h.le_iff hb ha, ← le_antisymm_iff]

theorem beq_eq (h : Copy ρ p d) (ha : p.hasNode a = true) (hb : p.hasNode b = true) :
    (ρ.node a == ρ.node b) = (a == b) := by
  rw [Bool.eq_iff_iff, beq_iff_eq, beq_iff_eq, h.id_eq_iff ha hb]

theorem bne_eq (h : Copy ρ p d) (ha : p.hasNode a = true) (hb : p.hasNode b = true) :
    (ρ.node a != ρ.node b) = (a != b) :=
  congrArg (!·) (h.beq_eq ha hb)

theorem mem_map_iff (h : Copy ρ p d) {ids : List String} (ha : p.hasNode a = true)
    (hids : ∀ b ∈ ids, p.hasNode b = true) : ρ.node a ∈ ids.map ρ.node ↔ a ∈ ids := by
  constructor
  · intro hmem
    obtain ⟨b, hb, hsame⟩ := List.mem_map.1 hmem
    rwa [← (h.id_eq_iff (hids b hb) ha).1 hsame]
  · exact List.mem_map_of_mem

/-- A node is found in the copy. -/
theorem node?_renamed (h : Copy ρ p d) (hn : p.node? id = some n) :
    d.node? (ρ.node id) = some (n.renamed ρ) := by
  have hid : p.hasNode id = true := by rw [hasNode, hn]; rfl
  rw [h.node?_eq id hid, hn]
  rfl

/-! ## Edges and neighbors -/

theorem hasNode_source (h : Copy ρ p d) (he : e ∈ p.edgesTouching id) :
    p.hasNode e.source = true :=
  (h.closed e (List.mem_of_mem_filter he)).1

theorem hasNode_target (h : Copy ρ p d) (he : e ∈ p.edgesTouching id) :
    p.hasNode e.target = true :=
  (h.closed e (List.mem_of_mem_filter he)).2

theorem neighborAlong?_eq (h : Copy ρ p d) (hid : p.hasNode id = true)
    (he : e ∈ p.edgesTouching id) :
    d.neighborAlong? (ρ.node id) (e.renamed ρ) = (p.neighborAlong? id e).map (·.renamed ρ) := by
  have hs := h.hasNode_source he
  have ht := h.hasNode_target he
  simp only [neighborAlong?, Edge.otherEnd?, Edge.source_renamed, Edge.target_renamed,
    h.id_eq_iff hs hid, h.id_eq_iff ht hid]
  split
  · simp only [Option.bind_eq_bind, Option.bind_some, h.node?_eq _ ht]
    cases p.node? e.target <;> rfl
  · split
    · simp only [Option.bind_eq_bind, Option.bind_some, h.node?_eq _ hs]
      cases p.node? e.source <;> rfl
    · rfl

/-- The neighbors of a node are copied. -/
theorem neighbors_eq (h : Copy ρ p d) (hid : p.hasNode id = true) :
    d.neighbors (ρ.node id) = (p.neighbors id).map (·.renamed ρ) := by
  rw [neighbors, neighbors, h.edgesTouching_eq id hid]
  exact filterMap_map_eq fun e he => h.neighborAlong?_eq hid he

theorem attributes_eq (h : Copy ρ p d) (hid : p.hasNode id = true) :
    d.attributes (ρ.node id) = (p.attributes id).map (·.renamed ρ) := by
  rw [attributes, h.neighbors_eq hid, List.filter_map]
  rfl

theorem entityEnds_eq (h : Copy ρ p d) (hid : p.hasNode id = true) :
    d.entityEnds (ρ.node id) = (p.entityEnds id).map (·.renamed ρ) := by
  rw [entityEnds, h.neighbors_eq hid, List.filter_map]
  rfl

theorem keys_eq (h : Copy ρ p d) (hid : p.hasNode id = true) :
    d.keys (ρ.node id) = (p.keys id).map (·.renamed ρ) := by
  rw [keys, h.attributes_eq hid, List.filter_map]
  rfl

theorem primaryKey?_eq (h : Copy ρ p d) (hid : p.hasNode id = true) :
    d.primaryKey? (ρ.node id) = (p.primaryKey? id).map (·.renamed ρ) := by
  rw [primaryKey?, primaryKey?, h.keys_eq hid, List.head?_map, Option.map_map, Option.map_map]
  rfl

/-- Removing repeats goes by ids. -/
theorem firstOfEach_eq (h : Copy ρ p d) {ns : List Node} (hns : ∀ n ∈ ns, p.hasNode n.id = true) :
    firstOfEach (ns.map (·.renamed ρ)) = (firstOfEach ns).map (·.renamed ρ) := by
  induction ns with
  | nil => rfl
  | cons n ns ih =>
    have hn := hns n List.mem_cons_self
    have hrest : ∀ m ∈ ns, p.hasNode m.id = true := fun m hm => hns m (List.mem_cons_of_mem _ hm)
    rw [List.map_cons, firstOfEach, firstOfEach, List.map_cons, ih hrest, List.filter_map]
    refine congrArg (fun ms : List Node => n.renamed ρ :: ms.map (·.renamed ρ)) ?_
    exact List.filter_congr fun m hm => h.bne_eq (hrest m (mem_of_mem_firstOfEach hm)) hn

theorem relations_eq (h : Copy ρ p d) (hid : p.hasNode id = true) :
    d.relations (ρ.node id) = (p.relations id).map (·.renamed ρ) := by
  have hmap : ((p.neighbors id).map (·.renamed ρ)).map (·.node) =
      ((p.neighbors id).map (·.node)).map (·.renamed ρ) := by
    simp only [List.map_map]
    rfl
  rw [relations, relations, h.neighbors_eq hid, hmap, List.filter_map]
  refine h.firstOfEach_eq fun n hn => ?_
  obtain ⟨x, hx, rfl⟩ := List.mem_map.1 (List.mem_of_mem_filter hn)
  exact hasNode_of_mem_neighbors hx

theorem cardinality_eq (h : Copy ρ p d) (hid : p.hasNode id = true) :
    d.cardinality (ρ.node id) = p.cardinality id := by
  rw [cardinality, cardinality, h.edgesTouching_eq id hid, List.filter_map, List.map_map]
  rfl

/-! ## Walks -/

/-- A walk goes the same way in the copy if it follows the same edges to nodes. -/
theorem walkFrom_eq (h : Copy ρ p d) {follow follow' : String → Edge → Option String}
    (hfollow : ∀ id, p.hasNode id = true → ∀ e ∈ p.edgesTouching id,
      follow' (ρ.node id) (e.renamed ρ) = (follow id e).map ρ.node)
    (hnodes : ∀ id, ∀ e ∈ p.edgesTouching id, ∀ v, follow id e = some v → p.hasNode v = true)
    {visited work : List String} (hvisited : ∀ v ∈ visited, p.hasNode v = true)
    (hwork : ∀ v ∈ work, p.hasNode v = true) :
    d.walkFrom follow' (visited.map ρ.node) (work.map ρ.node) =
      (p.walkFrom follow visited work).map ρ.node := by
  induction visited, work using walkFrom.induct p follow with
  | case1 visited => simp only [walkFrom, List.map_nil]
  | case2 visited id work hv ih =>
    rw [List.map_cons, walkFrom, walkFrom, if_pos hv, if_pos (List.mem_map_of_mem hv)]
    exact ih hvisited fun v hmem => hwork v (List.mem_cons_of_mem _ hmem)
  | case3 visited id work hv ih =>
    have hid : p.hasNode id = true := hwork id List.mem_cons_self
    have hnext : ((d.edgesTouching (ρ.node id)).filterMap (follow' (ρ.node id))) =
        ((p.edgesTouching id).filterMap (follow id)).map ρ.node := by
      rw [h.edgesTouching_eq id hid]
      exact filterMap_map_eq (hfollow id hid)
    have hvisited' : ∀ v ∈ id :: visited, p.hasNode v = true := by
      intro v hmem
      rcases List.mem_cons.1 hmem with rfl | hmem
      · exact hid
      · exact hvisited v hmem
    have hwork' : ∀ v ∈ (p.edgesTouching id).filterMap (follow id) ++ work,
        p.hasNode v = true := by
      intro v hmem
      rcases List.mem_append.1 hmem with hmem | hmem
      · obtain ⟨e, he, hfound⟩ := List.mem_filterMap.1 hmem
        exact hnodes id e he v hfound
      · exact hwork v (List.mem_cons_of_mem _ hmem)
    have hv' : ρ.node id ∉ visited.map ρ.node := (h.mem_map_iff hid hvisited).not.2 hv
    rw [List.map_cons, walkFrom, walkFrom, if_neg hv, if_neg hv', List.map_cons, hnext,
      ← List.map_append, ← List.map_cons, ih hvisited' hwork']

theorem walk_eq (h : Copy ρ p d) {follow follow' : String → Edge → Option String}
    (hfollow : ∀ id, p.hasNode id = true → ∀ e ∈ p.edgesTouching id,
      follow' (ρ.node id) (e.renamed ρ) = (follow id e).map ρ.node)
    (hnodes : ∀ id, ∀ e ∈ p.edgesTouching id, ∀ v, follow id e = some v → p.hasNode v = true)
    (hid : p.hasNode id = true) :
    d.walk follow' (ρ.node id) = (p.walk follow id).map ρ.node := by
  have hvisited : ∀ v ∈ ([] : List String), p.hasNode v = true :=
    fun _ hv => absurd hv List.not_mem_nil
  have hwork : ∀ v ∈ [id], p.hasNode v = true := by
    intro v hv
    rwa [List.mem_singleton.1 hv]
  exact h.walkFrom_eq hfollow hnodes hvisited hwork

/-! ## Attributes -/

theorem memberAlong?_eq (h : Copy ρ p d) (hid : p.hasNode id = true)
    (he : e ∈ p.edgesTouching id) :
    d.memberAlong? (ρ.node id) (e.renamed ρ) = (p.memberAlong? id e).map (·.renamed ρ) := by
  have hs := h.hasNode_source he
  have ht := h.hasNode_target he
  simp only [memberAlong?, Edge.source_renamed, Edge.target_renamed, ne_eq,
    h.id_eq_iff hs hid, h.id_eq_iff ht hid, h.node?_eq _ ht]
  split
  · rw [Option.filter_map, Option.map_map, Option.map_map]
    rfl
  · rfl

theorem members_eq (h : Copy ρ p d) (hid : p.hasNode id = true) :
    d.members (ρ.node id) = (p.members id).map (·.renamed ρ) := by
  rw [members, members, h.edgesTouching_eq id hid]
  exact filterMap_map_eq fun e he => h.memberAlong?_eq hid he

theorem hasNode_of_memberAlong? (hx : p.memberAlong? id e = some x) :
    p.hasNode x.node.id = true := by
  unfold memberAlong? at hx
  split at hx
  · obtain ⟨n, hn, rfl⟩ := Option.map_eq_some_iff.1 hx
    exact hasNode_of_node? (Option.filter_eq_some_iff.1 hn).1
  · cases hx

theorem hasNode_of_attributeAlong? (hv : p.attributeAlong? id e = some a) : p.hasNode a = true := by
  obtain ⟨x, hx, rfl⟩ := Option.map_eq_some_iff.1 hv
  obtain ⟨other, -, hnode⟩ := Option.bind_eq_some_iff.1 (Option.filter_eq_some_iff.1 hx).1
  obtain ⟨n, hn, hsome⟩ := Option.bind_eq_some_iff.1 hnode
  cases hsome
  exact hasNode_of_node? hn

theorem memberWalk_eq (h : Copy ρ p d) (hid : p.hasNode id = true) :
    d.memberWalk (ρ.node id) = (p.memberWalk id).map ρ.node := by
  refine h.walk_eq (fun id hid e he => ?_) (fun id e he v hv => ?_) hid
  · rw [h.memberAlong?_eq hid he, Option.map_map, Option.map_map]
    rfl
  · obtain ⟨x, hx, rfl⟩ := Option.map_eq_some_iff.1 hv
    exact hasNode_of_memberAlong? hx

theorem hasNode_of_mem_memberWalk (hid : p.hasNode id = true) (ha : a ∈ p.memberWalk id) :
    p.hasNode a = true := by
  refine forall_mem_walk (P := fun v => p.hasNode v = true) (fun v e _ w _ hw => ?_) hid a ha
  obtain ⟨x, hx, rfl⟩ := Option.map_eq_some_iff.1 hw
  exact hasNode_of_memberAlong? hx

theorem leaves_eq (h : Copy ρ p d) (hn : p.hasNode n.id = true) :
    d.leaves (n.renamed ρ) = (p.leaves n).map (·.renamed ρ) := by
  have hwalk : ∀ v ∈ p.memberWalk n.id, p.hasNode v = true :=
    fun v hv => hasNode_of_mem_memberWalk hn hv
  have hempty : ((p.memberWalk n.id).map ρ.node).filter (fun v => (d.members v).isEmpty) =
      ((p.memberWalk n.id).filter fun v => (p.members v).isEmpty).map ρ.node := by
    rw [List.filter_map]
    refine congrArg _ (List.filter_congr fun v hv => ?_)
    rw [Function.comp_apply, h.members_eq (hwalk v hv), List.isEmpty_map]
  rw [leaves, Node.id_renamed, h.memberWalk_eq hn, hempty]
  exact filterMap_map_eq fun v hv => h.node?_eq v (hwalk v (List.mem_of_mem_filter hv))

/-! ## Owners -/

theorem hasNode_of_mem_rootNeighbors (ha : a ∈ p.rootNeighbors id) : p.hasNode a = true := by
  obtain ⟨x, hx, rfl⟩ := List.mem_map.1 ha
  exact hasNode_of_mem_neighbors (List.mem_of_mem_filter hx)

theorem rootNeighbors_eq (h : Copy ρ p d) (hid : p.hasNode id = true) :
    d.rootNeighbors (ρ.node id) = (p.rootNeighbors id).map ρ.node := by
  rw [rootNeighbors, rootNeighbors, h.neighbors_eq hid, List.filter_map, List.map_map, List.map_map]
  rfl

/-- An id is put in the same place. -/
theorem insertId_eq (h : Copy ρ p d) {ids : List String} (ha : p.hasNode a = true)
    (hids : ∀ b ∈ ids, p.hasNode b = true) :
    insertId (ρ.node a) (ids.map ρ.node) = (insertId a ids).map ρ.node := by
  induction ids with
  | nil => rfl
  | cons b ids ih =>
    have hb := hids b List.mem_cons_self
    rw [List.map_cons, insertId, insertId, ih fun c hc => hids c (List.mem_cons_of_mem _ hc)]
    simp only [h.lt_iff ha hb, h.id_eq_iff ha hb]
    split
    · rfl
    · split <;> rfl

theorem sortedIds_eq (h : Copy ρ p d) {ids : List String} (hids : ∀ b ∈ ids, p.hasNode b = true) :
    sortedIds (ids.map ρ.node) = (sortedIds ids).map ρ.node := by
  induction ids with
  | nil => rfl
  | cons a ids ih =>
    have hrest : ∀ b ∈ ids, p.hasNode b = true := fun b hb => hids b (List.mem_cons_of_mem _ hb)
    have hcons (c : String) (cs : List String) : sortedIds (c :: cs) = insertId c (sortedIds cs) :=
      rfl
    rw [List.map_cons, hcons, hcons, ih hrest]
    exact h.insertId_eq (hids a List.mem_cons_self) fun b hb => hrest b (mem_sortedIds.1 hb)

theorem rootOwners_eq (h : Copy ρ p d) (hid : p.hasNode id = true) :
    d.rootOwners (ρ.node id) = (p.rootOwners id).map ρ.node := by
  have hwalk : d.walk d.attributeAlong? (ρ.node id) =
      (p.walk p.attributeAlong? id).map ρ.node := by
    refine h.walk_eq (fun id hid e he => ?_) (fun id e he v hv => hasNode_of_attributeAlong? hv) hid
    rw [attributeAlong?, attributeAlong?, h.neighborAlong?_eq hid he, Option.filter_map,
      Option.map_map, Option.map_map]
    rfl
  have hvisited : ∀ v ∈ p.walk p.attributeAlong? id, p.hasNode v = true :=
    forall_mem_walk (P := fun v => p.hasNode v = true)
      (fun v e _ w _ hw => hasNode_of_attributeAlong? hw) hid
  rw [rootOwners, rootOwners, hwalk, List.flatMap_map, ← h.sortedIds_eq, List.map_flatMap]
  · exact congrArg sortedIds (List.flatMap_congr fun v hv => h.rootNeighbors_eq (hvisited v hv))
  · intro a ha
    obtain ⟨v, -, ha⟩ := List.mem_flatMap.1 ha
    exact hasNode_of_mem_rootNeighbors ha

theorem hasNode_of_mem_rootOwners (ha : a ∈ p.rootOwners id) : p.hasNode a = true := by
  obtain ⟨v, -, ha⟩ := List.mem_flatMap.1 (mem_sortedIds.1 ha)
  exact hasNode_of_mem_rootNeighbors ha

/-! ## Dependencies -/

theorem dependencyEnds?_eq (h : Copy ρ p d) (hid : p.hasNode id = true) :
    d.dependencyEnds? (ρ.node id) = (p.dependencyEnds? id).map (·.renamed ρ) := by
  have hend {x : Neighbor} (hx : x ∈ p.entityEnds id) :
      p.hasNode x.node.id = true ∧ p.hasNode x.edge.source = true := by
    have hnear := (mem_entityEnds_iff.1 hx).1
    exact ⟨hasNode_of_mem_neighbors hnear, h.hasNode_source (edge_mem_edgesTouching hnear)⟩
  unfold dependencyEnds?
  rw [h.entityEnds_eq hid]
  match hl : p.entityEnds id with
  | [] | [_] | _ :: _ :: _ :: _ => rfl
  | [a, b] =>
    obtain ⟨ha, has⟩ := hend (x := a) (by simp [hl])
    obtain ⟨hb, hbs⟩ := hend (x := b) (by simp [hl])
    simp only [List.map_cons, List.map_nil, Neighbor.node_renamed, Neighbor.edge_renamed,
      Node.id_renamed, Node.kind_renamed, Edge.source_renamed, h.id_eq_iff ha hb,
      h.beq_eq has hid, h.beq_eq hbs hid, apply_ite (Option.map _)]
    rfl

/-- The ends of a dependency are nodes. -/
theorem hasNode_of_dependencyEnds? {ends : DependencyEnds}
    (hends : p.dependencyEnds? id = some ends) :
    p.hasNode ends.owner.id = true ∧ p.hasNode ends.dependent.id = true := by
  obtain ⟨a, b, hab, -, hends⟩ := of_dependencyEnds? hends
  have hnode {x : Neighbor} (hx : x ∈ p.entityEnds id) : p.hasNode x.node.id = true :=
    hasNode_of_mem_neighbors (mem_entityEnds_iff.1 hx).1
  have ha := hnode (x := a) (by simp [hab])
  have hb := hnode (x := b) (by simp [hab])
  rcases hends with rfl | rfl
  · exact ⟨hb, ha⟩
  · exact ⟨ha, hb⟩

theorem dependencies_eq (h : Copy ρ p d) (hid : p.hasNode id = true) :
    d.dependencies (ρ.node id) = (p.dependencies id).map (·.renamed ρ) := by
  rw [dependencies, dependencies, h.relations_eq hid, List.filter_map, List.filter_map]
  refine congrArg _ (List.filter_congr fun r hr => ?_)
  have hr : p.hasNode r.id = true := by
    have hmem := List.mem_of_mem_filter (mem_of_mem_firstOfEach (List.mem_of_mem_filter hr))
    obtain ⟨x, hx, rfl⟩ := List.mem_map.1 hmem
    exact hasNode_of_mem_neighbors hx
  rw [Function.comp_apply, Node.id_renamed, h.dependencyEnds?_eq hr, Option.any_map]
  cases hends : p.dependencyEnds? r.id with
  | none => rfl
  | some ends => exact h.beq_eq (hasNode_of_dependencyEnds? hends).2 hid

/-! ## Specializations -/

/-- Edges are picked, one end of each is looked up, and nodes of some kinds are picked. -/
theorem lookup_eq (h : Copy ρ p d) {es : List Edge} {pick pick' : Edge → Bool}
    {far : Edge → String} (hpick : ∀ e ∈ es, pick' (e.renamed ρ) = pick e)
    (hrenamed : ∀ e, far (e.renamed ρ) = ρ.node (far e))
    (hfar : ∀ e ∈ es, p.hasNode (far e) = true) (kinds : NodeKind → Bool) :
    (((es.map (·.renamed ρ)).filter pick').filterMap fun e => d.node? (far e)).filter
        (kinds ·.kind) =
      (((es.filter pick).filterMap fun e => p.node? (far e)).filter (kinds ·.kind)).map
        (·.renamed ρ) := by
  have hes : (es.map (·.renamed ρ)).filter pick' = (es.filter pick).map (·.renamed ρ) := by
    rw [List.filter_map]
    exact congrArg _ (List.filter_congr hpick)
  have hnodes : ((es.filter pick).map (·.renamed ρ)).filterMap (fun e => d.node? (far e)) =
      ((es.filter pick).filterMap fun e => p.node? (far e)).map (·.renamed ρ) :=
    filterMap_map_eq fun e he => by
      rw [hrenamed, h.node?_eq _ (hfar e (List.mem_of_mem_filter he))]
  rw [hes, hnodes, List.filter_map]
  rfl

theorem hasNode_of_mem_lookup {es : List Edge} {far : Edge → String} {kinds : Node → Bool}
    (hn : n ∈ (es.filterMap fun e => p.node? (far e)).filter kinds) : p.hasNode n.id = true := by
  obtain ⟨e, -, hfound⟩ := List.mem_filterMap.1 (List.mem_of_mem_filter hn)
  exact hasNode_of_node? (node?_id hfound)

theorem parents_eq (h : Copy ρ p d) (hid : p.hasNode id = true) :
    d.parents (ρ.node id) = (p.parents id).map (·.renamed ρ) := by
  rw [parents, parents, h.edgesTouching_eq id hid]
  refine h.lookup_eq (fun e he => ?_) (fun e => rfl) (fun e he => h.hasNode_source he) _
  rw [Edge.target_renamed, h.beq_eq (h.hasNode_target he) hid, Edge.kind_renamed]

theorem parent?_eq (h : Copy ρ p d) (hid : p.hasNode id = true) :
    d.parent? (ρ.node id) = (p.parent? id).map (·.renamed ρ) := by
  rw [parent?, parent?, h.parents_eq hid, List.head?_map]

theorem children_eq (h : Copy ρ p d) (hid : p.hasNode id = true) :
    d.children (ρ.node id) = (p.children id).map (·.renamed ρ) := by
  rw [children, children, h.edgesTouching_eq id hid, ← h.firstOfEach_eq fun n hn =>
    hasNode_of_mem_lookup hn]
  refine congrArg firstOfEach (h.lookup_eq (fun e he => ?_) (fun e => rfl)
    (fun e he => h.hasNode_target he) _)
  rw [Edge.source_renamed, Edge.target_renamed, h.beq_eq (h.hasNode_source he) hid,
    h.bne_eq (h.hasNode_target he) hid, Edge.kind_renamed]

theorem specializationsAbove_eq (h : Copy ρ p d) (hid : p.hasNode id = true) :
    d.specializationsAbove (ρ.node id) = (p.specializationsAbove id).map (·.renamed ρ) := by
  rw [specializationsAbove, specializationsAbove, h.edgesTouching_eq id hid,
    ← h.firstOfEach_eq fun n hn => hasNode_of_mem_lookup hn]
  refine congrArg firstOfEach (h.lookup_eq (fun e he => ?_) (fun e => rfl)
    (fun e he => h.hasNode_source he) _)
  rw [Edge.target_renamed, h.beq_eq (h.hasNode_target he) hid, Edge.kind_renamed]

theorem specializationAbove?_eq (h : Copy ρ p d) (hid : p.hasNode id = true) :
    d.specializationAbove? (ρ.node id) = (p.specializationAbove? id).map (·.renamed ρ) := by
  rw [specializationAbove?, specializationAbove?, h.specializationsAbove_eq hid, List.head?_map]

end Copy

end Diagram

end EntityRelationship
