import EntityRelationship.Proofs.Relational.Step

/-!
# Runs of the synthesis

In a run the tables stay in their places. The tables of the entities come first, in the order in
which these are taken, and each of them begins with what was made for its entity. A node that is
taken later finds them there, and what it leaves behind is in the schema, with what comes after it.
-/

namespace EntityRelationship

open Outcome

variable {d : Diagram} {n : Node} {s s' s'' : Draft} {schema : Schema}

/-! ## Tables in their places -/

namespace Diagram

theorem Step.continues (h : d.Step s n s') : s.Continues s' := by
  rcases h.grown_or_add with ⟨-, -, hs⟩ | ⟨-, t, rfl⟩ | ⟨-, t, rfl⟩
  · exact hs.continues
  · exact s.continues_add n t
  · exact s.continues_add n t

theorem continues_foldlM_build {ns : List Node} (h : ns.foldlM d.build s = .ok s') :
    s.Continues s' :=
  foldlM_induction (I := fun r => s.Continues r)
    (fun _ _ _ _ hs hbuild => hs.trans (step_of_build hbuild).continues) h (.refl s)

/-! ## Tables of entities -/

/-- The tables of the entities come first, in the order of these. -/
theorem map_node_of_foldlM_entityNodes (h : d.entityNodes.foldlM d.build .empty = .ok s) :
    s.tables.map (·.node) = d.entityNodes := by
  rw [← entityNodes_of_foldlM_entityNodes h, Draft.entityNodes, eq_comm, List.filter_eq_self]
  intro n hn
  obtain ⟨t, ht, rfl⟩ := List.mem_map.1 hn
  exact (mem_entityNodes_iff.1 (entityTable_of_mem_tables h t ht).1).2

/-- A draft has tables for all entities, in the order of these and before any other. Each begins
with what was made for its entity. -/
structure Underway (d : Diagram) (s : Draft) : Prop where
  entityNodes_eq : s.entityNodes = d.entityNodes
  indexed : s.Indexed
  table : ∀ (i : Nat) (n : Node), d.entityNodes[i]? = some n →
    ∃ t t', d.entityTable n = .ok t ∧ s.tables[i]? = some ⟨n, t'⟩ ∧ t.Extends t'

/-- Once the entities are taken, the run is under way. -/
theorem underway_of_foldlM_entityNodes (h : d.entityNodes.foldlM d.build .empty = .ok s) :
    d.Underway s where
  entityNodes_eq := entityNodes_of_foldlM_entityNodes h
  indexed := indexed_foldlM_build h Draft.indexed_empty
  table := by
    intro i n hi
    rw [← map_node_of_foldlM_entityNodes h, List.getElem?_map] at hi
    obtain ⟨t, ht, rfl⟩ := Option.map_eq_some_iff.1 hi
    obtain ⟨-, htable⟩ := entityTable_of_mem_tables h t (List.mem_of_getElem? ht)
    exact ⟨t.table, t.table, htable, ht, .refl t.table⟩

theorem Underway.grown (h : d.Underway s) (hs : s.Grown s') : d.Underway s' where
  entityNodes_eq := hs.entityNodes_eq.trans h.entityNodes_eq
  indexed := hs.indexed h.indexed
  table := by
    intro i n hi
    obtain ⟨t, t', ht, htable, hgrows⟩ := h.table i n hi
    obtain ⟨⟨m, t''⟩, htable', hnode, hgrows'⟩ := hs.continues i _ htable
    obtain rfl : m = n := hnode
    exact ⟨t, t'', ht, htable', hgrows.trans hgrows'⟩

theorem Underway.add (h : d.Underway s) (hkind : n.kind.isEntity = false) (t : Table) :
    d.Underway (s.add n t) where
  entityNodes_eq := by
    rw [Draft.entityNodes_add, List.filter_singleton, hkind, h.entityNodes_eq]
    exact List.append_nil _
  indexed := h.indexed.add hkind t
  table := by
    intro i m hi
    obtain ⟨u, u', hu, htable, hgrows⟩ := h.table i m hi
    exact ⟨u, u', hu, Draft.getElem?_tables_add htable n t, hgrows⟩

/-- A node that is taken after the entities leaves their tables in place. -/
theorem Underway.step (h : d.Underway s) (hn : n ∈ d.laterNodes) (hstep : d.Step s n s') :
    d.Underway s' := by
  rcases hstep.grown_or_add with ⟨-, -, hs⟩ | ⟨hkind, -⟩ | ⟨hkind, t, rfl⟩
  · exact h.grown hs
  · rw [isEntity_of_mem_laterNodes hn] at hkind
    cases hkind
  · exact h.add hkind t

theorem Underway.foldlM_build (h : d.Underway s) {ns : List Node}
    (hns : ∀ n ∈ ns, n ∈ d.laterNodes) (hrun : ns.foldlM d.build s = .ok s') : d.Underway s' :=
  foldlM_induction (I := d.Underway)
    (fun _ n _ hn hr hbuild => hr.step (hns n hn) (step_of_build hbuild)) hrun h

/-- Each entity has its place. -/
theorem Underway.exists_place (h : d.Underway s) (hn : n ∈ d.nodes)
    (hkind : n.kind.isEntity = true) : ∃ i t, s.place? n.id = some i ∧ s.tables[i]? = some t :=
  h.indexed.exists_place_of_mem (h.entityNodes_eq ▸ mem_entityNodes_iff.2 ⟨hn, hkind⟩)

/-- Where ids are distinct, the noted places are exact. -/
theorem Underway.exact (h : d.Underway s) (hd : d.DistinctIds) : s.Exact :=
  h.indexed.exact (h.entityNodes_eq ▸ nodup_ids_entityNodes hd)

/-- The table of each entity is in the schema, in the place of the entity, with what is added to it
later. -/
theorem exists_table_at (h : d.synthesize = .ok schema) {i : Nat}
    (hi : d.entityNodes[i]? = some n) :
    ∃ t t', d.entityTable n = .ok t ∧ schema.tables[i]? = some t' ∧ t.Extends t' := by
  obtain ⟨s₁, s₂, hs₁, hs₂, rfl⟩ := exists_drafts_of_synthesize h
  obtain ⟨t, t', ht, htable, hgrows⟩ :=
    ((underway_of_foldlM_entityNodes hs₁).foldlM_build (fun _ hn => hn) hs₂).table i n hi
  refine ⟨t, t', ht, ?_, hgrows⟩
  rw [Draft.schema, List.getElem?_map, htable]
  rfl

/-- The table of each entity is in the schema, with what is added to it later. -/
theorem exists_table_of_entity (h : d.synthesize = .ok schema) (hn : n ∈ d.nodes)
    (hkind : n.kind.isEntity = true) :
    ∃ t, d.entityTable n = .ok t ∧ ∃ t' ∈ schema.tables, t.Extends t' := by
  obtain ⟨i, hi⟩ := List.mem_iff_getElem?.1 (mem_entityNodes_iff.2 ⟨hn, hkind⟩)
  obtain ⟨t, t', ht, htable, hgrows⟩ := exists_table_at h hi
  exact ⟨t, ht, t', List.mem_of_getElem? htable, hgrows⟩

/-! ## Tables that stand for no entity -/

section Others

variable {i : Nat} {t : NodeTable}

/-- A change of the table of an entity changes no table but those of entities. -/
theorem getElem?_of_update (hs : s.Indexed) {entity : String} {change : Table → Table}
    (h : s.update entity change = .ok s') (hi : s.tables[i]? = some t)
    (hkind : t.node.kind.isEntity = false) : s'.tables[i]? = some t := by
  obtain ⟨j, hplace, rfl⟩ := Draft.update_eq_ok_iff.1 h
  have hji : j ≠ i := by
    rintro rfl
    obtain ⟨u, hu, hof⟩ := hs.exists_isOf entity j hplace
    rw [← Option.some.inj (hi.symm.trans hu), NodeTable.isOf_eq_false hkind] at hof
    cases hof
  exact (List.getElem?_modify_ne _ _ hji).trans hi

theorem getElem?_of_foldlM_append (hs : s.Indexed) {as : List Addition}
    (h : as.foldlM Draft.append s = .ok s') (hi : s.tables[i]? = some t)
    (hkind : t.node.kind.isEntity = false) : s'.tables[i]? = some t := by
  refine (foldlM_induction (I := fun r : Draft => r.Indexed ∧ r.tables[i]? = some t) ?_ h
    ⟨hs, hi⟩).2
  rintro r a r' - ⟨hr, hri⟩ happend
  exact ⟨(Draft.grown_of_append happend).indexed hr, getElem?_of_update hr happend hri hkind⟩

/-- A step changes no table but those of entities. -/
theorem Step.getElem?_eq (h : d.Step s n s') (hs : s.Indexed) (hi : s.tables[i]? = some t)
    (hkind : t.node.kind.isEntity = false) : s'.tables[i]? = some t := by
  cases h with
  | entity _ _ => exact Draft.getElem?_tables_add hi _ _
  | junction _ _ _ => exact Draft.getElem?_tables_add hi _ _
  | values _ _ => exact Draft.getElem?_tables_add hi _ _
  | foreignKey _ _ _ _ _ hs' => exact getElem?_of_update hs hs' hi hkind
  | exclusive _ _ _ _ hs' => exact getElem?_of_foldlM_append hs hs' hi hkind
  | overlapped _ _ _ _ hs' => exact getElem?_of_foldlM_append hs hs' hi hkind
  | idle _ _ _ => exact hi

/-- Nor does a run. -/
theorem getElem?_of_foldlM_build {ns : List Node} (h : ns.foldlM d.build s = .ok s')
    (hs : s.Indexed) (hi : s.tables[i]? = some t) (hkind : t.node.kind.isEntity = false) :
    s'.tables[i]? = some t := by
  refine (foldlM_induction (I := fun r : Draft => r.Indexed ∧ r.tables[i]? = some t) ?_ h
    ⟨hs, hi⟩).2
  rintro r m r' - ⟨hr, hri⟩ hbuild
  have hstep := step_of_build hbuild
  exact ⟨hstep.indexed hr, hstep.getElem?_eq hr hri hkind⟩

end Others

/-! ## Nodes taken later -/

/-- In the synthesis of a schema a node is taken from the first draft, and the second one is what it
leaves behind. -/
def Takes (d : Diagram) (schema : Schema) (n : Node) (s s' : Draft) : Prop :=
  ∃ earlier later s'', d.buildOrder = earlier ++ n :: later ∧
    earlier.foldlM d.build .empty = .ok s ∧ d.build s n = .ok s' ∧
    later.foldlM d.build s' = .ok s'' ∧ schema = s''.schema

theorem Takes.build_eq (h : d.Takes schema n s s') : d.build s n = .ok s' := by
  obtain ⟨_, _, _, -, -, hbuild, -⟩ := h
  exact hbuild

/-- The tables that a node leaves behind are in the schema, with what is added later. -/
theorem Takes.exists_continues (h : d.Takes schema n s s') :
    ∃ s'', s'.Continues s'' ∧ schema = s''.schema := by
  obtain ⟨_, _, s'', -, -, -, hlater, hschema⟩ := h
  exact ⟨s'', continues_foldlM_build hlater, hschema⟩

/-- A table that a node adds is in the schema as it was added, if the node is no entity. -/
theorem Takes.mem_tables_of_add {t : Table} (h : d.Takes schema n s (s.add n t))
    (hkind : n.kind.isEntity = false) : t ∈ schema.tables := by
  obtain ⟨_, _, s'', -, hearlier, -, hlater, rfl⟩ := h
  have hindexed : (s.add n t).Indexed :=
    (indexed_foldlM_build hearlier Draft.indexed_empty).add hkind t
  have hlast : (s.add n t).tables[s.tables.length]? = some ⟨n, t⟩ := by
    rw [Draft.add, List.getElem?_concat_length]
  exact List.mem_map_of_mem
    (List.mem_of_getElem? (getElem?_of_foldlM_build hlater hindexed hlast hkind))

/-- Each node that is taken after the entities is taken while the run is under way. -/
theorem exists_takes_of_later (h : d.synthesize = .ok schema) (hn : n ∈ d.laterNodes) :
    ∃ s s', d.Takes schema n s s' ∧ d.Underway s := by
  obtain ⟨s₁, s₂, hs₁, hs₂, rfl⟩ := exists_drafts_of_synthesize h
  obtain ⟨before, after, hsplit⟩ := List.append_of_mem hn
  rw [hsplit, List.foldlM_append, bind_eq_ok_iff] at hs₂
  obtain ⟨s, hs, hs₂⟩ := hs₂
  rw [List.foldlM_cons, bind_eq_ok_iff] at hs₂
  obtain ⟨s', hs', hs₂⟩ := hs₂
  refine ⟨s, s', ⟨d.entityNodes ++ before, after, s₂, ?_, ?_, hs', hs₂, rfl⟩, ?_⟩
  · rw [buildOrder_eq, hsplit, List.append_assoc]
  · rw [List.foldlM_append, hs₁, ok_bind, hs]
  · exact (underway_of_foldlM_entityNodes hs₁).foldlM_build
      (fun m hm => hsplit ▸ List.mem_append_left _ hm) hs

/-- Each node that is taken after the entities makes a step while the run is under way, and the
tables that it leaves behind are in the schema, with what is added later. -/
theorem exists_step_of_later (h : d.synthesize = .ok schema) (hn : n ∈ d.laterNodes) :
    ∃ s s' s'', d.Underway s ∧ d.build s n = .ok s' ∧ s'.Continues s'' ∧ schema = s''.schema := by
  obtain ⟨s, s', htakes, hs⟩ := exists_takes_of_later h hn
  obtain ⟨s'', hlater, hschema⟩ := htakes.exists_continues
  exact ⟨s, s', s'', hs, htakes.build_eq, hlater, hschema⟩

end Diagram

end EntityRelationship
