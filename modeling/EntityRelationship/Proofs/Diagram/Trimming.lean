import EntityRelationship.Diagram.Cardinality
import EntityRelationship.Diagram.Edit
import EntityRelationship.Proofs.Diagram.Lookup
import Mathlib.Data.List.Find

/-!
# Trimming a diagram

A diagram is trimmed by leaving out nodes and edges in such a way that the edges that stay find the
same nodes at their ends. What is read off a node along its edges is then read along those of them
that stay. So the neighbors of some sort are the same as before if the edges that lead to them stay,
whatever else is left out, and a walk visits the same ids if it takes the same steps from each of
them.
-/

namespace EntityRelationship.Diagram

variable {d d' : Diagram} {id : String} {n : Node} {x : Neighbor}

/-- The second diagram is the first one without some of its nodes and edges. Its edges find the
same nodes at their ends as in the first one. -/
structure Trims (d d' : Diagram) : Prop where
  edges_eq : d'.edges = d.edges.filter (· ∈ d'.edges)
  source_eq : ∀ e ∈ d'.edges, d'.node? e.source = d.node? e.source
  target_eq : ∀ e ∈ d'.edges, d'.node? e.target = d.node? e.target

/-! ## Ways to trim -/

/-- Some of the edges may be left out. -/
theorem trims_filter_edges (d : Diagram) (keep : Edge → Bool) :
    d.Trims { d with edges := d.edges.filter keep } where
  edges_eq := by
    refine List.filter_congr fun e he => ?_
    simp [he]
  source_eq := fun _ _ => rfl
  target_eq := fun _ _ => rfl

/-- Removing a node leaves the other nodes where they are. -/
theorem node?_of_remove (hn : d.hasNode n.id = true) (h : d.remove n.id = .ok d')
    (hne : id ≠ n.id) : d'.node? id = d.node? id := by
  rw [remove, if_pos hn] at h
  cases h
  rw [node?, node?, List.find?_filter]
  refine List.find?_congr fun m _ => ?_
  by_cases hm : m.id = id <;> simp [hm, hne]

/-- Removing a node leaves the edges that do not touch it. -/
theorem mem_edges_of_remove (hn : d.hasNode n.id = true) (h : d.remove n.id = .ok d') {e : Edge} :
    e ∈ d'.edges ↔ e ∈ d.edges ∧ e.source ≠ n.id ∧ e.target ≠ n.id := by
  rw [remove, if_pos hn] at h
  cases h
  simp [Edge.touches]

/-- Removing a node leaves the edges between other nodes. -/
theorem edge_mem_of_remove (hn : d.hasNode n.id = true) (h : d.remove n.id = .ok d')
    (hx : x ∈ d.neighbors id) (hid : id ≠ n.id) (hne : x.node.id ≠ n.id) :
    x.edge ∈ d'.edges := by
  obtain ⟨hmem, hends, -⟩ := mem_neighbors_iff.1 hx
  rw [mem_edges_of_remove hn h]
  unfold Edge.otherEnd? at hends
  grind

/-- A node may be removed, and the edges that touch it with it. -/
theorem trims_of_remove (hn : d.hasNode n.id = true) (h : d.remove n.id = .ok d') :
    d.Trims d' where
  edges_eq := by
    have hmem := fun e => mem_edges_of_remove hn h (e := e)
    rw [remove, if_pos hn] at h
    cases h
    refine List.filter_congr fun e he => ?_
    simp [he]
  source_eq := fun _ he => node?_of_remove hn h ((mem_edges_of_remove hn h).1 he).2.1
  target_eq := fun _ he => node?_of_remove hn h ((mem_edges_of_remove hn h).1 he).2.2

/-! ## Neighbors -/

/-- A neighbor is seen along its edge. -/
theorem edge_of_neighborAlong? {e : Edge} (h : d.neighborAlong? id e = some x) : x.edge = e := by
  simp only [neighborAlong?, Option.bind_eq_bind, Option.bind_eq_some_iff, Option.pure_def,
    Option.some.injEq] at h
  obtain ⟨_, -, _, -, rfl⟩ := h
  rfl

theorem edge_of_memberAlong? {e : Edge} (h : d.memberAlong? id e = some x) : x.edge = e := by
  unfold memberAlong? at h
  split at h
  · obtain ⟨_, -, rfl⟩ := Option.map_eq_some_iff.1 h
    rfl
  · cases h

namespace Trims

theorem edgesTouching_eq (h : d.Trims d') (id : String) :
    d'.edgesTouching id = (d.edgesTouching id).filter (· ∈ d'.edges) := by
  unfold edgesTouching
  conv_lhs => rw [h.edges_eq]
  exact List.filter_comm _ _ _

/-- What is read along each edge that stays as before is read along those that stay. -/
theorem filterMap_edgesTouching (h : d.Trims d') {α : Type} {edge : α → Edge}
    {f f' : Edge → Option α} (hsame : ∀ e ∈ d'.edges, f' e = f e)
    (hedge : ∀ e a, f e = some a → edge a = e) :
    (d'.edgesTouching id).filterMap f' =
      ((d.edgesTouching id).filterMap f).filter (edge · ∈ d'.edges) := by
  rw [h.edgesTouching_eq, List.filterMap_filter, List.filter_filterMap]
  refine List.filterMap_congr fun e _ => ?_
  cases hf : f e with
  | none =>
    split
    · next he => rw [hsame e (by simpa using he), hf]; rfl
    · rfl
  | some a =>
    rw [Option.filter_some, hedge e a hf]
    split
    · next he => rw [hsame e (by simpa using he), hf]
    · rfl

/-- An edge that stays finds the same node at its other end. -/
theorem otherEnd?_eq (h : d.Trims d') {e : Edge} (he : e ∈ d'.edges) {v : String}
    (hother : e.otherEnd? id = some v) : d'.node? v = d.node? v := by
  unfold Edge.otherEnd? at hother
  split at hother
  · cases hother
    exact h.target_eq e he
  · split at hother
    · cases hother
      exact h.source_eq e he
    · cases hother

/-- The neighbors that are left are those to which an edge stays. -/
theorem neighbors_eq (h : d.Trims d') (id : String) :
    d'.neighbors id = (d.neighbors id).filter (·.edge ∈ d'.edges) := by
  refine h.filterMap_edgesTouching (fun e he => ?_) fun e x => edge_of_neighborAlong?
  cases hother : e.otherEnd? id with
  | none => simp [neighborAlong?, hother]
  | some v => simp [neighborAlong?, hother, h.otherEnd?_eq he hother]

theorem members_eq (h : d.Trims d') (id : String) :
    d'.members id = (d.members id).filter (·.edge ∈ d'.edges) := by
  refine h.filterMap_edgesTouching (fun e he => ?_) fun e x => edge_of_memberAlong?
  rw [memberAlong?, memberAlong?, h.target_eq e he]

/-- The neighbors of some sort are the same if all edges to them stay. -/
theorem filter_neighbors (h : d.Trims d') {p : Neighbor → Bool}
    (hstays : ∀ x ∈ d.neighbors id, p x = true → x.edge ∈ d'.edges) :
    (d'.neighbors id).filter p = (d.neighbors id).filter p := by
  rw [h.neighbors_eq, List.filter_filter]
  refine List.filter_congr fun x hx => ?_
  cases hp : p x with
  | false => rfl
  | true => simpa using hstays x hx hp

theorem entityEnds_eq (h : d.Trims d')
    (hstays : ∀ x ∈ d.entityEnds id, x.edge ∈ d'.edges) : d'.entityEnds id = d.entityEnds id :=
  h.filter_neighbors fun x hx hkind => hstays x (mem_entityEnds_iff.2 ⟨hx, hkind⟩)

/-- The attributes of some sort are the same if all edges to them stay. -/
theorem filter_attributes (h : d.Trims d') {p : Neighbor → Bool}
    (hstays : ∀ x ∈ d.attributes id, p x = true → x.edge ∈ d'.edges) :
    (d'.attributes id).filter p = (d.attributes id).filter p := by
  rw [attributes, attributes, List.filter_filter, List.filter_filter]
  refine h.filter_neighbors fun x hx hp => ?_
  rw [Bool.and_eq_true] at hp
  exact hstays x (mem_attributes_iff.2 ⟨hx, hp.2⟩) hp.1

/-- The primary key is the same if its edges stay. -/
theorem primaryKey?_eq (h : d.Trims d')
    (hstays : ∀ x ∈ d.keys id, d.primaryKey? id = some x.node → x.edge ∈ d'.edges) :
    d'.primaryKey? id = d.primaryKey? id := by
  have hkeys : d'.keys id = (d.keys id).filter (·.edge ∈ d'.edges) := by
    simp only [keys, attributes, h.neighbors_eq, List.filter_filter, Bool.and_comm,
      Bool.and_left_comm]
  rw [primaryKey?, primaryKey?, hkeys]
  cases hfirst : d.keys id with
  | nil => rfl
  | cons x xs =>
    have hx := hstays x (hfirst ▸ List.mem_cons_self) (by rw [primaryKey?, hfirst]; rfl)
    rw [List.filter_cons_of_pos (by simpa using hx)]
    rfl

theorem relations_eq (h : d.Trims d')
    (hstays : ∀ x ∈ d.neighbors id, x.node.kind.isRelation = true → x.edge ∈ d'.edges) :
    d'.relations id = d.relations id := by
  have hnear : (d'.neighbors id).filter (·.node.kind.isRelation) =
      (d.neighbors id).filter (·.node.kind.isRelation) := h.filter_neighbors hstays
  rw [relations, relations, List.filter_map, List.filter_map]
  exact congrArg (fun xs => firstOfEach (xs.map (·.node))) hnear

theorem cardinality_eq (h : d.Trims d')
    (hstays : ∀ e ∈ d.edgesTouching id, e.kind = .weighted → e ∈ d'.edges) :
    d'.cardinality id = d.cardinality id := by
  have hweighted : (d'.edgesTouching id).filter (·.kind == .weighted) =
      (d.edgesTouching id).filter (·.kind == .weighted) := by
    rw [h.edgesTouching_eq, List.filter_filter]
    refine List.filter_congr fun e he => ?_
    by_cases hkind : e.kind = .weighted
    · simp [hkind, hstays e he hkind]
    · simp [hkind]
  rw [cardinality, hweighted, cardinality]

/-! ## Specializations -/

/-- The nodes of some sort at one end of the edges that meet a condition. -/
theorem filter_lookups (h : d.Trims d') {condition : Edge → Bool} {endOf : Edge → String}
    {p : Node → Bool} (hend : ∀ e ∈ d'.edges, d'.node? (endOf e) = d.node? (endOf e))
    (hstays : ∀ e ∈ d.edgesTouching id, condition e = true →
      ∀ m, d.node? (endOf e) = some m → p m = true → e ∈ d'.edges) :
    (((d'.edgesTouching id).filter condition).filterMap fun e => d'.node? (endOf e)).filter p =
      (((d.edgesTouching id).filter condition).filterMap fun e => d.node? (endOf e)).filter p := by
  simp only [h.edgesTouching_eq, List.filter_filterMap, List.filterMap_filter]
  refine List.filterMap_congr fun e he => ?_
  by_cases hcondition : condition e = true
  · by_cases hmem : e ∈ d'.edges
    · simp [hmem, hcondition, hend e hmem]
    · -- an edge that is left out has no such node at its end
      have hnone : (d.node? (endOf e)).filter p = none := by
        rw [Option.filter_eq_none_iff]
        exact fun m hm hp => hmem (hstays e he hcondition m hm hp)
      simp [hmem, hcondition, hnone]
  · simp [hcondition]

/-- The parents of a specialization are the same if the edges that lead from them stay. -/
theorem parents_eq (h : d.Trims d')
    (hstays : ∀ e ∈ d.edgesTouching id, e.kind.isConstraint = false →
      ∀ m, d.node? e.source = some m → m.kind.isEntity = true → e ∈ d'.edges) :
    d'.parents id = d.parents id := by
  refine h.filter_lookups h.source_eq fun e he hcondition m hm hp => ?_
  rw [Bool.and_eq_true, Bool.not_eq_true'] at hcondition
  exact hstays e he hcondition.2 m hm hp

theorem children_eq (h : d.Trims d')
    (hstays : ∀ e ∈ d.edgesTouching id, e.kind.isConstraint = false →
      ∀ m, d.node? e.target = some m → m.kind.isEntity = true → e ∈ d'.edges) :
    d'.children id = d.children id := by
  refine congrArg firstOfEach (h.filter_lookups h.target_eq fun e he hcondition m hm hp => ?_)
  rw [Bool.and_eq_true, Bool.not_eq_true'] at hcondition
  exact hstays e he hcondition.2 m hm hp

theorem specializationsAbove_eq (h : d.Trims d')
    (hstays : ∀ e ∈ d.edgesTouching id, e.kind.isConstraint = false →
      ∀ m, d.node? e.source = some m → m.kind.isSpecialization = true → e ∈ d'.edges) :
    d'.specializationsAbove id = d.specializationsAbove id := by
  refine congrArg firstOfEach (h.filter_lookups h.source_eq fun e he hcondition m hm hp => ?_)
  rw [Bool.and_eq_true, Bool.not_eq_true'] at hcondition
  exact hstays e he hcondition.2 m hm hp

end Trims

/-! ## Walks -/

/-- Two walks that take the same steps from each id of a sort, to ids of that sort, visit the same
ids. -/
theorem walkFrom_congr {P : String → Prop} {follow follow' : String → Edge → Option String}
    (hsteps : ∀ v, P v → (d'.edgesTouching v).filterMap (follow' v) =
      (d.edgesTouching v).filterMap (follow v))
    (hstay : ∀ v, P v → ∀ w ∈ (d.edgesTouching v).filterMap (follow v), P w)
    {visited work : List String} (hwork : ∀ v ∈ work, P v) :
    d'.walkFrom follow' visited work = d.walkFrom follow visited work := by
  induction visited, work using walkFrom.induct d follow with
  | case1 visited => rw [walkFrom, walkFrom]
  | case2 visited id work hv ih =>
    rw [walkFrom, if_pos hv, walkFrom, if_pos hv]
    exact ih fun v hmem => hwork v (List.mem_cons_of_mem _ hmem)
  | case3 visited id work hv ih =>
    have hid : P id := hwork id List.mem_cons_self
    rw [walkFrom, if_neg hv, walkFrom, if_neg hv, hsteps id hid]
    refine congrArg (id :: ·) (ih fun v hmem => ?_)
    rcases List.mem_append.1 hmem with hmem | hmem
    · exact hstay id hid v hmem
    · exact hwork v (List.mem_cons_of_mem _ hmem)

theorem walk_congr {P : String → Prop} {follow follow' : String → Edge → Option String}
    (hsteps : ∀ v, P v → (d'.edgesTouching v).filterMap (follow' v) =
      (d.edgesTouching v).filterMap (follow v))
    (hstay : ∀ v, P v → ∀ w ∈ (d.edgesTouching v).filterMap (follow v), P w) (hid : P id) :
    d'.walk follow' id = d.walk follow id := by
  refine walkFrom_congr hsteps hstay fun v hv => ?_
  rw [List.mem_singleton.1 hv]
  exact hid

/-- A walk through members goes on to the members of an id. -/
theorem filterMap_memberAlong? (d : Diagram) (id : String) :
    (d.edgesTouching id).filterMap (fun e => (d.memberAlong? id e).map (·.node.id)) =
      (d.members id).map (·.node.id) :=
  List.map_filterMap.symm

/-- A walk through attributes goes on to those next to an id. -/
theorem filterMap_attributeAlong? (d : Diagram) (id : String) :
    (d.edgesTouching id).filterMap (d.attributeAlong? id) =
      (d.attributes id).map (·.node.id) := by
  rw [attributes, neighbors, List.filter_filterMap, List.map_filterMap]
  rfl

namespace Trims

/-- An attribute has the same leaves if nothing that is reached from it through members is left
out. -/
theorem leaves_eq (h : d.Trims d') {P : String → Prop}
    (hnode : ∀ v, P v → d'.node? v = d.node? v)
    (hmembers : ∀ v, P v → ∀ x ∈ d.members v, x.edge ∈ d'.edges ∧ P x.node.id) (hn : P n.id) :
    d'.leaves n = d.leaves n := by
  have hsame (v : String) (hv : P v) : d'.members v = d.members v := by
    rw [h.members_eq, List.filter_eq_self]
    exact fun x hx => by simpa using (hmembers v hv x hx).1
  have hstay (v : String) (hv : P v) : ∀ w ∈ (d.members v).map (·.node.id), P w := by
    intro w hw
    obtain ⟨x, hx, rfl⟩ := List.mem_map.1 hw
    exact (hmembers v hv x hx).2
  have hwalk : d'.memberWalk n.id = d.memberWalk n.id := by
    refine walk_congr (fun v hv => ?_) (fun v hv => ?_) hn
    · rw [filterMap_memberAlong?, filterMap_memberAlong?, hsame v hv]
    · rw [filterMap_memberAlong?]
      exact hstay v hv
  have hvisited : ∀ v ∈ d.memberWalk n.id, P v := by
    refine forall_mem_walk (fun v e he w hv hw => hstay v hv w ?_) hn
    rw [← filterMap_memberAlong?]
    exact List.mem_filterMap.2 ⟨e, he, hw⟩
  have hleaf : (d.memberWalk n.id).filter (fun v => (d'.members v).isEmpty) =
      (d.memberWalk n.id).filter fun v => (d.members v).isEmpty :=
    List.filter_congr fun v hv => by rw [hsame v (hvisited v hv)]
  rw [leaves, hwalk, hleaf]
  exact List.filterMap_congr fun v hv => hnode v (hvisited v (List.mem_of_mem_filter hv))

/-- An attribute that has only entities and relations around it has the same owners if none of
them is left out. -/
theorem rootOwners_eq (h : d.Trims d') (halone : d.attributes id = [])
    (hstays : ∀ x ∈ d.neighbors id, x.edge ∈ d'.edges) : d'.rootOwners id = d.rootOwners id := by
  have hneighbors : d'.neighbors id = d.neighbors id := by
    rw [h.neighbors_eq, List.filter_eq_self]
    exact fun x hx => by simpa using hstays x hx
  have hattributes : d'.attributes id = [] := by rw [attributes, hneighbors]; exact halone
  -- both walks end where they start
  have hwalk : d'.walk d'.attributeAlong? id = d.walk d.attributeAlong? id := by
    refine walk_congr (P := (· = id)) ?_ ?_ rfl
    · rintro v rfl
      rw [filterMap_attributeAlong?, filterMap_attributeAlong?, hattributes, halone]
    · rintro v rfl
      rw [filterMap_attributeAlong?, halone]
      exact fun w hw => absurd hw List.not_mem_nil
  have hvisited : ∀ v ∈ d.walk d.attributeAlong? id, v = id := by
    refine forall_mem_walk (P := (· = id)) (fun v e he w hv hw => ?_) rfl
    have hmem : w ∈ (d.attributes id).map (·.node.id) := by
      rw [← filterMap_attributeAlong?, ← hv]
      exact List.mem_filterMap.2 ⟨e, he, hw⟩
    rw [halone] at hmem
    cases hmem
  rw [rootOwners, rootOwners, hwalk]
  refine congrArg sortedIds (List.flatMap_congr fun v hv => ?_)
  rw [hvisited v hv, rootNeighbors, rootNeighbors, hneighbors]

end Trims

end EntityRelationship.Diagram
