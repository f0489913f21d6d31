import EntityRelationship.Proofs.Diagnostic.Acceptance

/-!
# Forms of edges

No rule says which nodes an edge may join: each rule looks at the edges from one of their ends. On
an accepted diagram the rules at both ends together leave seven forms. The synthesis relies on
them. It counts every weighted edge of a relation as one of its ends, for instance, and reads the
columns of whatever attribute it meets.

The forms do not depend on the direction of an edge, except that a key is never a member of
another attribute.
-/

namespace EntityRelationship

/-- An edge joins two nodes in one of the forms that a diagram may have. The ends are named in a
fixed order, whichever of them the edge leaves. -/
inductive Edge.Joins (e : Edge) : Node → Node → Prop
  /-- An entity takes part in a relation, by a weighted edge with a readable cardinality. -/
  | participation {a b : Node} (ha : a.kind.isEntity = true) (hb : b.kind.isRelation = true)
    (hkind : e.kind = .weighted) (hlabel : e.participation?.isSome = true) : Joins e a b
  /-- An entity is the parent or a child of a specialization, or bears one of its constraints. -/
  | inheritance {a b : Node} (ha : a.kind.isEntity = true) (hb : b.kind.isSpecialization = true)
    (hkind : e.kind = .transition ∨ e.kind.isConstraint = true) : Joins e a b
  /-- A constraint stands between two specializations. -/
  | constraint {a b : Node} (ha : a.kind.isSpecialization = true)
    (hb : b.kind.isSpecialization = true) (hkind : e.kind.isConstraint = true) : Joins e a b
  /-- An attribute belongs to an entity. Keys and multi-valued attributes are not optional. -/
  | ofEntity {a b : Node} (role : AttributeKind) (ha : a.kind = .attr role)
    (hb : b.kind.isEntity = true)
    (hkind : e.kind = .transition ∨ e.kind = .optional ∧ role ≠ .key ∧ role ≠ .multiValued) :
    Joins e a b
  /-- An attribute belongs to a plain relation. Keys are not optional, and alternative keys and
  multi-valued attributes do not occur. -/
  | ofRelation {a b : Node} (role : AttributeKind) (ha : a.kind = .attr role)
    (hb : b.kind = .relation) (hrole : role ≠ .alternativeKey ∧ role ≠ .multiValued)
    (hkind : e.kind = .transition ∨ e.kind = .optional ∧ role ≠ .key) : Joins e a b
  /-- A key completes an identifying dependency. -/
  | ofDependency {a b : Node} (ha : a.kind = .attr .key)
    (hb : b.kind = .dependency .identifying) (hkind : e.kind = .transition) : Joins e a b
  /-- A plain attribute is a member of a plain attribute or of a key, which the edge leaves. -/
  | member {a b : Node} (ha : a.kind = .attr .plain ∨ a.kind = .attr .key ∧ e.source = a.id)
    (hb : b.kind = .attr .plain) (hkind : e.kind = .transition ∨ e.kind = .optional) : Joins e a b

namespace Edge.Joins

variable {e : Edge} {a b : Node}

/-- Only participations are weighted. -/
theorem of_weighted (h : e.Joins a b) (hkind : e.kind = .weighted) :
    a.kind.isEntity = true ∧ b.kind.isRelation = true := by
  cases h with
  | participation ha hb _ _ => exact ⟨ha, hb⟩
  | inheritance _ _ h | constraint _ _ h | ofEntity _ _ _ h | ofRelation _ _ _ _ h
  | ofDependency _ _ h | member _ _ h => simp [hkind, EdgeKind.isConstraint] at h

/-- Two attributes that are joined are plain, or one of them is a key. -/
theorem of_attributes (h : e.Joins a b) (ha : a.kind.isAttribute = true)
    (hb : b.kind.isAttribute = true) :
    (a.kind = .attr .plain ∨ a.kind = .attr .key) ∧ b.kind = .attr .plain := by
  cases h with
  | member ha hb _ => exact ⟨ha.imp_right And.left, hb⟩
  | participation h _ _ _ | inheritance h _ _ | constraint h _ _ =>
    cases hk : a.kind <;>
      simp_all [NodeKind.isAttribute, NodeKind.isEntity, NodeKind.isSpecialization]
  | ofEntity _ _ h _ =>
    cases hk : b.kind <;> simp_all [NodeKind.isAttribute, NodeKind.isEntity]
  | ofRelation _ _ h _ _ | ofDependency _ h _ => simp [h, NodeKind.isAttribute] at hb

end Edge.Joins

namespace Diagram

variable {d : Diagram} {a b n : Node} {e : Edge}

/-! ## What joins two nodes

The nodes are taken kind by kind. In each step the kinds that came before are left to them, since
an edge is seen from both of its ends. -/

/-- The edges of an entity. -/
theorem Accepted.joins_of_entity (h : d.Accepted) (ha : d.node? a.id = some a)
    (hb : ⟨b, e⟩ ∈ d.neighbors a.id) (hkind : a.kind.isEntity = true) :
    e.Joins a b ∨ e.Joins b a := by
  have hmem : b ∈ d.nodes := mem_nodes_of_mem_neighbors hb
  have hback : ⟨a, e⟩ ∈ d.neighbors b.id := neighbor_symm ha hb
  have htouch : e ∈ d.edgesTouching b.id := edge_mem_edgesTouching hback
  obtain ⟨hentity, hweighted⟩ := h.of_mem_neighbors_entity (mem_of_node? ha).1 hkind hb
  have hrelation (hr : b.kind.isRelation = true) : e.Joins a b :=
    .participation hkind hr (hweighted hr)
      (h.isSome_participation? hmem hr htouch (hweighted hr))
  cases hk : b.kind with
  | entity | weakEntity => simp [hk, NodeKind.isEntity] at hentity
  | relation | dependency _ => exact .inl (hrelation (by rw [hk]; rfl))
  | specialization k =>
    have hspecial : b.kind.isSpecialization = true := by rw [hk]; rfl
    exact .inl (.inheritance hkind hspecial (h.edge_of_specialization hmem hspecial htouch))
  | attr role =>
    refine .inr (.ofEntity role hk hkind ?_)
    have huse := h.mayUse hmem hk hback
    have hkey (hrole : role = .key) : e.kind ≠ .optional :=
      (h.of_mem_neighbors_key hmem (hrole ▸ hk) hback).1 (by simp [NodeKind.isRoot, hkind])
    cases hek : e.kind <;> cases role <;> simp_all [AttributeKind.mayUse]

/-- The edges of an attribute. -/
theorem Accepted.joins_of_attribute (h : d.Accepted) (ha : d.node? a.id = some a)
    (hb : ⟨b, e⟩ ∈ d.neighbors a.id) {role : AttributeKind} (hkind : a.kind = .attr role) :
    e.Joins a b ∨ e.Joins b a := by
  have hmem : a ∈ d.nodes := (mem_of_node? ha).1
  have hmem' : b ∈ d.nodes := mem_nodes_of_mem_neighbors hb
  have hback : ⟨a, e⟩ ∈ d.neighbors b.id := neighbor_symm ha hb
  have htouch := h.mayTouch hmem hkind hb
  have huse := h.mayUse hmem hkind hb
  have hkey (hrole : role = .key) := h.of_mem_neighbors_key hmem (hrole ▸ hkind) hb
  cases hk : b.kind with
  | entity | weakEntity =>
    exact (h.joins_of_entity (node?_of_mem_neighbors hb) hback (by rw [hk]; rfl)).symm
  | specialization k => cases role <;> simp [hk, AttributeKind.mayTouch] at htouch
  | relation =>
    refine .inl (.ofRelation role hkind hk ?_ ?_)
    · cases role <;> simp_all [AttributeKind.mayTouch]
    · cases hek : e.kind <;> cases role <;>
        simp_all [AttributeKind.mayUse, NodeKind.isRoot, NodeKind.isRelation]
  | dependency k =>
    obtain rfl : role = .key := by cases role <;> simp_all [AttributeKind.mayTouch]
    cases k with
    | existence =>
      have hkeys : (⟨a, e⟩ : Neighbor) ∈ d.keys b.id := mem_keys_iff.2 ⟨hback, hkind⟩
      rw [h.keys_eq_nil_of_existence hmem' hk] at hkeys
      cases hkeys
    | identifying =>
      refine .inl (.ofDependency hkind hk ?_)
      have hoptional := (hkey rfl).1 (by simp [hk, NodeKind.isRoot, NodeKind.isRelation])
      cases hek : e.kind <;> simp_all [AttributeKind.mayUse]
  | attr role' =>
    have htouch' := h.mayTouch hmem' hk hback
    -- a key stands at the source, since it is the target of no edge from an attribute
    have hsource {k m : Node} (hk : k ∈ d.nodes) (hkey : k.kind = .attr .key)
        (hm : ⟨m, e⟩ ∈ d.neighbors k.id) (hattr : m.kind.isAttribute = true) : e.source = k.id := by
      have htarget := (h.of_mem_neighbors_key hk hkey hm).2 hattr
      have hends := edge_mem_edgesTouching hm
      rw [edgesTouching, List.mem_filter, Edge.touches, Bool.or_eq_true, beq_iff_eq,
        beq_iff_eq] at hends
      exact hends.2.resolve_right htarget
    have hplain (hrole : role = .plain ∨ role = .key) :
        e.kind = .transition ∨ e.kind = .optional := by
      cases hek : e.kind <;> rcases hrole with rfl | rfl <;> simp_all [AttributeKind.mayUse]
    cases role <;> cases role' <;> simp [hkind, hk, AttributeKind.mayTouch] at htouch htouch'
    · exact .inl (.member (.inl hkind) hk (hplain (.inl rfl)))
    · have hs := hsource hmem' hk hback (by rw [hkind]; rfl)
      exact .inr (.member (.inr ⟨hk, hs⟩) hkind (hplain (.inl rfl)))
    · have hs := hsource hmem hkind hb (by rw [hk]; rfl)
      exact .inl (.member (.inr ⟨hkind, hs⟩) hk (hplain (.inr rfl)))

/-- The edges of a specialization. -/
theorem Accepted.joins_of_specialization (h : d.Accepted) (ha : d.node? a.id = some a)
    (hb : ⟨b, e⟩ ∈ d.neighbors a.id) (hkind : a.kind.isSpecialization = true) :
    e.Joins a b ∨ e.Joins b a := by
  have hmem : a ∈ d.nodes := (mem_of_node? ha).1
  have hfound : d.node? b.id = some b := node?_of_mem_neighbors hb
  have hback : ⟨a, e⟩ ∈ d.neighbors b.id := neighbor_symm ha hb
  cases hk : b.kind with
  | entity | weakEntity => exact (h.joins_of_entity hfound hback (by rw [hk]; rfl)).symm
  | attr role => exact (h.joins_of_attribute hfound hback hk).symm
  | relation | dependency _ =>
    have hnone := (h.of_mem_neighbors_relation (mem_of_node? hfound).1 (by rw [hk]; rfl) hback).2
    rw [hkind] at hnone
    cases hnone
  | specialization k =>
    refine .inl (.constraint hkind (by rw [hk]; rfl) ?_)
    refine (h.edge_of_specialization hmem hkind (edge_mem_edgesTouching hb)).resolve_left ?_
    intro hlink
    have hentity := h.isEntity_of_linked hmem hkind hb hlink
    simp [hk, NodeKind.isEntity] at hentity

/-- Two nodes that see each other are joined in one of the forms. -/
theorem Accepted.joins_of_neighbor (h : d.Accepted) (ha : d.node? a.id = some a)
    (hb : ⟨b, e⟩ ∈ d.neighbors a.id) : e.Joins a b ∨ e.Joins b a := by
  have hfound : d.node? b.id = some b := node?_of_mem_neighbors hb
  have hback : ⟨a, e⟩ ∈ d.neighbors b.id := neighbor_symm ha hb
  have hrelation (hkind : a.kind.isRelation = true) : e.Joins a b ∨ e.Joins b a := by
    obtain ⟨hnone, hnone'⟩ := h.of_mem_neighbors_relation (mem_of_node? ha).1 hkind hb
    cases hk : b.kind with
    | entity | weakEntity => exact (h.joins_of_entity hfound hback (by rw [hk]; rfl)).symm
    | attr role => exact (h.joins_of_attribute hfound hback hk).symm
    | relation | dependency _ => simp [hk, NodeKind.isRelation] at hnone
    | specialization k => simp [hk, NodeKind.isSpecialization] at hnone'
  cases hk : a.kind with
  | entity | weakEntity => exact h.joins_of_entity ha hb (by rw [hk]; rfl)
  | attr role => exact h.joins_of_attribute ha hb hk
  | specialization k => exact h.joins_of_specialization ha hb (by rw [hk]; rfl)
  | relation | dependency _ => exact hrelation (by rw [hk]; rfl)

/-! ## The attributes of a dependency -/

/-- The attributes of a dependency are keys. -/
theorem Accepted.attributes_eq_keys (h : d.Accepted) (hn : d.node? n.id = some n)
    {k : DependencyKind} (hkind : n.kind = .dependency k) : d.attributes n.id = d.keys n.id := by
  rw [keys, eq_comm, List.filter_eq_self]
  intro x hx
  obtain ⟨hnear, hattribute⟩ := mem_attributes_iff.1 hx
  obtain ⟨role, hk⟩ := exists_role hattribute
  have htouch := h.mayTouch (mem_nodes_of_mem_neighbors hnear) hk (neighbor_symm hn hnear)
  cases role <;> simp_all [AttributeKind.mayTouch]

/-! ## All edges -/

/-- Every edge of an accepted diagram has two nodes as ends and joins them in one of the forms. So
only participations are weighted, and of two attributes that are joined both are plain or one is a
key. An existence dependency has no attribute, and an identifying one has one. -/
theorem Accepted.edge_joins (h : d.Accepted) (hd : d.DistinctIds)
    (hrefs : d.checkReferences = .ok ()) :
    (∀ e ∈ d.edges, ∃ a b, d.node? e.source = some a ∧ d.node? e.target = some b ∧
      (e.Joins a b ∨ e.Joins b a) ∧
      (e.kind = .weighted → a.kind.isEntity = true ∧ b.kind.isRelation = true ∨
        b.kind.isEntity = true ∧ a.kind.isRelation = true) ∧
      (a.kind.isAttribute = true → b.kind.isAttribute = true →
        (a.kind = .attr .plain ∨ a.kind = .attr .key) ∧
          (b.kind = .attr .plain ∨ b.kind = .attr .key))) ∧
    (∀ n ∈ d.nodes, n.kind = .dependency .existence → d.attributes n.id = []) ∧
    ∀ n ∈ d.nodes, n.kind = .dependency .identifying → ∃ x, d.attributes n.id = [x] := by
  refine ⟨?_, ?_, ?_⟩
  · intro e he
    obtain ⟨hsource, htarget⟩ := checkReferences_eq_ok_iff.1 hrefs e he
    obtain ⟨a, ha⟩ := Option.isSome_iff_exists.1 hsource
    obtain ⟨b, hb⟩ := Option.isSome_iff_exists.1 htarget
    have hsees : ⟨b, e⟩ ∈ d.neighbors a.id := by
      refine mem_neighbors_iff.2 ⟨he, ?_, node?_id hb⟩
      rw [Edge.otherEnd?, if_pos (mem_of_node? ha).2.symm, (mem_of_node? hb).2]
    have hjoins := h.joins_of_neighbor (node?_id ha) hsees
    refine ⟨a, b, ha, hb, hjoins, ?_, ?_⟩
    · intro hkind
      exact hjoins.imp (·.of_weighted hkind) (·.of_weighted hkind)
    · intro hattr hattr'
      rcases hjoins with hjoins | hjoins
      · obtain ⟨hfirst, hsecond⟩ := hjoins.of_attributes hattr hattr'
        exact ⟨hfirst, .inl hsecond⟩
      · obtain ⟨hfirst, hsecond⟩ := hjoins.of_attributes hattr' hattr
        exact ⟨.inl hsecond, hfirst⟩
  · intro n hn hkind
    rw [h.attributes_eq_keys (node?_of_mem hd hn) hkind]
    exact h.keys_eq_nil_of_existence hn hkind
  · intro n hn hkind
    obtain ⟨x, hx, -⟩ := h.keys_eq_of_identifying hn hkind
    rw [h.attributes_eq_keys (node?_of_mem hd hn) hkind]
    exact ⟨x, hx⟩

/-- A diagram with edges of all forms: its key has members, and a constraint stands between its
specializations. -/
def clinic : Diagram where
  nodes := [
    ⟨"patient", .entity, "Patient", none⟩,
    ⟨"pid", .attr .key, "pid", none⟩,
    ⟨"year", .attr .plain, "year:INTEGER", none⟩,
    ⟨"nr", .attr .plain, "nr:INTEGER", none⟩,
    ⟨"care", .specialization ⟨false, true⟩, "care", none⟩,
    ⟨"inpatient", .entity, "Inpatient", none⟩,
    ⟨"age", .specialization ⟨false, true⟩, "age", none⟩,
    ⟨"minor", .entity, "Minor", none⟩,
    ⟨"visit", .weakEntity, "Visit", none⟩,
    ⟨"makes", .dependency .identifying, "makes", none⟩,
    ⟨"date", .attr .key, "date:DATE", none⟩,
    ⟨"refers", .relation, "refers", none⟩,
    ⟨"reason", .attr .plain, "reason:TEXT", none⟩]
  edges := [
    ⟨"e1", .transition, "patient", "pid", none⟩,
    ⟨"e2", .transition, "pid", "year", none⟩,
    ⟨"e3", .optional, "pid", "nr", none⟩,
    ⟨"e4", .transition, "patient", "care", none⟩,
    ⟨"e5", .transition, "care", "inpatient", none⟩,
    ⟨"e6", .transition, "patient", "age", none⟩,
    ⟨"e7", .transition, "age", "minor", none⟩,
    ⟨"e8", .constraint .disjointness, "care", "age", none⟩,
    ⟨"e9", .weighted, "patient", "makes", some "(1..1)"⟩,
    ⟨"e10", .weighted, "makes", "visit", some "(0..N)"⟩,
    ⟨"e11", .transition, "makes", "date", none⟩,
    ⟨"e12", .weighted, "patient", "refers", some "(0..N)"⟩,
    ⟨"e13", .weighted, "refers", "patient", some "(0..N)"⟩,
    ⟨"e14", .optional, "reason", "refers", none⟩]

theorem accepted_clinic : clinic.Accepted := by decide +kernel

theorem edge_joins_clinic :
    clinic.Accepted ∧ clinic.DistinctIds ∧ clinic.checkReferences = .ok () ∧
      (∀ e ∈ clinic.edges, ∃ a b, clinic.node? e.source = some a ∧
        clinic.node? e.target = some b ∧ (e.Joins a b ∨ e.Joins b a)) ∧
      ∃ x, clinic.attributes "makes" = [x] := by
  have hdistinct : clinic.DistinctIds := by decide +kernel
  have hrefs : clinic.checkReferences = .ok () := by decide +kernel
  obtain ⟨hedges, -, hidentifying⟩ := accepted_clinic.edge_joins hdistinct hrefs
  refine ⟨accepted_clinic, hdistinct, hrefs, fun e he => ?_, ?_⟩
  · obtain ⟨a, b, ha, hb, hjoins, -⟩ := hedges e he
    exact ⟨a, b, ha, hb, hjoins⟩
  · exact hidentifying ⟨"makes", .dependency .identifying, "makes", none⟩ (by decide +kernel) rfl

end Diagram

end EntityRelationship
