import EntityRelationship.Proofs.Diagnostic.Resolution
import EntityRelationship.Proofs.Relational.Run
import EntityRelationship.Proofs.Relational.TableNames

/-!
# Validation suffices

A diagram without errors has a schema, with one exception: validation does not look whether the
identity of an entity is built on itself. The synthesis of an accepted diagram succeeds if no chain
of owners and parents comes back to an entity that it has passed, and otherwise it fails for that
reason and no other.

The proof follows the run. Each step asks the diagram questions that have answers, and asks the
draft for the tables of entities, which are all there once the entities are taken.
-/

namespace EntityRelationship.Diagram

open Outcome

variable {d : Diagram} {m n : Node} {s s' : Draft} {x : Neighbor}

/-! ## Attributes of a node -/

/-- The columns of an attribute of an accepted diagram can be made. -/
theorem Accepted.exists_columnsOf (h : d.Accepted) {id : String} (hx : x ∈ d.neighbors id)
    (nullable : Bool) : ∃ cs, d.columnsOf nullable x = .ok cs := by
  have hfound := node?_of_mem_neighbors hx
  unfold columnsOf
  split
  · next hkind =>
    obtain ⟨leaves, hleaves⟩ := h.exists_leafColumns hfound (by rw [hkind]; rfl)
    rw [hleaves]
    exact ⟨_, rfl⟩
  · next hkind =>
    have hmem := mem_nodes_of_mem_neighbors hx
    obtain ⟨expression, hexpression⟩ := h.exists_expression hmem hkind
    obtain ⟨t, ht⟩ := h.exists_typedName_of_simple hmem hkind rfl
    rw [hexpression, ht]
    exact ⟨_, rfl⟩
  · exact ⟨[], rfl⟩

theorem Accepted.exists_attributeColumns (h : d.Accepted) (owner : String) (nullable : Bool) :
    ∃ cs, d.attributeColumns owner nullable = .ok cs := by
  obtain ⟨groups, hgroups⟩ : ∃ groups,
      (d.attributes owner).mapM (d.columnsOf nullable) = .ok groups :=
    exists_mapM_eq_ok fun x hx => h.exists_columnsOf (mem_attributes_iff.1 hx).1 nullable
  refine ⟨groups.flatten, ?_⟩
  rw [attributeColumns, hgroups]
  rfl

theorem Accepted.exists_alternativeKey (h : d.Accepted) (entity : String) :
    ∃ cs, d.alternativeKey entity = .ok cs := by
  apply exists_mapM_eq_ok
  intro x hx
  obtain ⟨hx, hkind⟩ := List.mem_filter.1 hx
  rw [beq_iff_eq] at hkind
  obtain ⟨hnear, -⟩ := mem_attributes_iff.1 hx
  obtain ⟨t, ht⟩ := h.exists_typedName_of_simple (mem_nodes_of_mem_neighbors hnear) hkind rfl
  rw [ht]
  exact ⟨_, rfl⟩

/-! ## New tables -/

theorem Accepted.faultsIn_identityTable (h : d.Accepted) (hn : d.node? n.id = some n)
    (hkind : n.kind.isEntity = true) : FaultsIn d.CycleFault (d.identityTable n) := by
  have hsource := h.exists_identitySource (mem_of_node? hn).1 hkind
  refine (faultsIn_of_exists hsource).bind fun source hs => ?_
  cases source with
  | ownKey key =>
    have hcolumns := h.exists_leafColumns_of_primaryKey? (primaryKey?_of_ownKey hs)
    exact (faultsIn_of_exists hcolumns).bind fun cs _ => faultsIn_ok _ _
  | dependent relation owner partialKey =>
    obtain ⟨howner, hentity⟩ := of_base? hs rfl
    refine (h.faultsIn_foreignKeyColumns howner hentity).bind fun refs _ => ?_
    exact (faultsIn_of_exists (h.exists_partialColumns hs)).bind fun cs _ => faultsIn_ok _ _
  | subclass specialization parent =>
    exact (h.faultsIn_identityColumns hn hkind).bind fun cs _ => faultsIn_ok _ _

/-- The table of an entity is missing only for want of an identity. -/
theorem Accepted.faultsIn_entityTable (h : d.Accepted) (hn : d.node? n.id = some n)
    (hkind : n.kind.isEntity = true) : FaultsIn d.CycleFault (d.entityTable n) := by
  refine (h.faultsIn_identityTable hn hkind).bind fun t _ => ?_
  refine (faultsIn_of_exists (h.exists_alternativeKey n.id)).bind fun cs _ => ?_
  exact (faultsIn_of_exists (h.exists_attributeColumns n.id false)).bind fun cs _ => faultsIn_ok _ _

/-- The table of a relation is missing only for want of the identity of an end. -/
theorem Accepted.faultsIn_junctionTable (h : d.Accepted) (n : Node) :
    FaultsIn d.CycleFault (d.junctionTable n) := by
  have hends : FaultsIn d.CycleFault ((d.entityEnds n.id).foldlM d.addEnd (.blank n.safeName)) := by
    refine FaultsIn.foldlM (I := fun _ => True) (fun _ _ _ _ _ _ => trivial) ?_ trivial
    intro t e he _
    obtain ⟨hnear, hentity⟩ := mem_entityEnds_iff.1 he
    have hrefs := h.faultsIn_foreignKeyColumns (node?_of_mem_neighbors hnear) hentity
    exact hrefs.bind fun refs _ => faultsIn_ok _ _
  have hfinish (t : Table) : FaultsIn d.CycleFault (do
      let attributes ← d.attributeColumns n.id false
      return t.pushAll n.safeName attributes) :=
    (faultsIn_of_exists (h.exists_attributeColumns n.id false)).bind fun cs _ => faultsIn_ok _ _
  refine hends.bind fun ends _ => ?_
  dsimp only
  split
  · next key hkey =>
    have hcolumns := h.exists_leafColumns_of_primaryKey? hkey
    exact (faultsIn_of_exists hcolumns).bind fun cs _ => hfinish _
  · exact hfinish _

/-- The table of a multi-valued attribute is missing only for want of the owner's identity. -/
theorem Accepted.faultsIn_multiValuedTable (h : d.Accepted) (hd : d.DistinctIds)
    (hn : n ∈ d.nodes) (hkind : n.kind = .attr .multiValued) :
    FaultsIn d.CycleFault (d.multiValuedTable n) := by
  refine (faultsIn_of_exists (h.exists_entityOwner hd hn hkind)).bind fun owner howner => ?_
  obtain ⟨-, hfound, hentity⟩ := of_entityOwner howner
  refine (h.faultsIn_foreignKeyColumns hfound hentity).bind fun refs _ => ?_
  have hvalue := h.exists_typedName_of_simple hn hkind rfl
  exact (faultsIn_of_exists hvalue).bind fun value _ => faultsIn_ok _ _

/-! ## Changes of tables -/

/-- A table that is there can be changed. -/
theorem exists_update (hs : d.Underway s) (hn : n ∈ d.nodes)
    (hkind : n.kind.isEntity = true) (change : Table → Table) :
    ∃ s', s.update n.id change = .ok s' := by
  obtain ⟨i, -, hplace, -⟩ := hs.exists_place hn hkind
  exact ⟨_, Draft.update_eq_ok_iff.2 ⟨i, hplace, rfl⟩⟩

/-- A name that several entities share can be found. -/
theorem exists_sharedName (hs : d.Underway s) {ns : List Node}
    (hns : ∀ n ∈ ns, n ∈ d.nodes ∧ n.kind.isEntity = true) (name : String) :
    ∃ name', s.sharedName (ns.map (·.id)) name = .ok name' := by
  obtain ⟨tables, htables⟩ : ∃ tables, (ns.map (·.id)).mapM s.tableOf = .ok tables := by
    apply exists_mapM_eq_ok
    intro id hid
    obtain ⟨n, hn, rfl⟩ := List.mem_map.1 hid
    obtain ⟨i, t, hplace, ht⟩ := hs.exists_place (hns n hn).1 (hns n hn).2
    refine ⟨t.table, ?_⟩
    simp [Draft.tableOf, Draft.table?, hplace, ht]
  rw [Draft.sharedName, htables]
  exact ⟨_, rfl⟩

/-- Additions to the tables of entities can all be made. -/
theorem exists_foldlM_append (hs : d.Underway s) {as : List Addition}
    (has : ∀ a ∈ as, ∃ n ∈ d.nodes, n.kind.isEntity = true ∧ a.entity = n.id) :
    ∃ s', as.foldlM Draft.append s = .ok s' := by
  induction as generalizing s with
  | nil => exact ⟨s, rfl⟩
  | cons a as ih =>
    obtain ⟨n, hn, hkind, hentity⟩ := has a List.mem_cons_self
    obtain ⟨s₁, hs₁⟩ : ∃ s₁, s.append a = .ok s₁ := by
      rw [Draft.append, hentity]
      exact exists_update hs hn hkind _
    rw [List.foldlM_cons, hs₁]
    exact ih (hs.grown (Draft.grown_of_append hs₁)) fun a ha => has a (List.mem_cons_of_mem _ ha)

/-! ## Steps -/

/-- A relation with two ends can be made a foreign key. -/
theorem exists_relationKey (h : 2 ≤ (d.entityEnds n.id).length) :
    ∃ key, d.relationKey n = .ok key := by
  unfold relationKey
  match hends : d.entityEnds n.id with
  | [] => simp [hends] at h
  | [_] => simp [hends] at h
  | a :: b :: _ =>
    dsimp only
    split
    · exact ⟨_, rfl⟩
    · exact ⟨_, rfl⟩

/-- A relation between two entities finds the table of its holder. -/
theorem Accepted.faultsIn_addRelationKey (h : d.Accepted) (hs : d.Underway s)
    (hn : n ∈ d.nodes) (hkind : n.kind = .relation) :
    FaultsIn d.CycleFault (d.addRelationKey s n) := by
  have hends : 2 ≤ (d.entityEnds n.id).length := by
    apply h.two_le_length_entityEnds hn
    rw [hkind]
    rfl
  refine (faultsIn_of_exists (exists_relationKey hends)).bind fun key hkey => ?_
  obtain ⟨e, he, htarget⟩ := target_of_relationKey hkey
  obtain ⟨hnear, hentity⟩ := mem_entityEnds_iff.1 he
  obtain ⟨hnear', hentity'⟩ := mem_entityEnds_iff.1 (holder_of_relationKey hkey)
  have hrefs := h.faultsIn_foreignKeyColumns (node?_of_mem_neighbors hnear) hentity
  rw [htarget] at hrefs
  refine hrefs.bind fun refs _ => ?_
  refine (faultsIn_of_exists (h.exists_attributeColumns n.id _)).bind fun attributes _ => ?_
  exact faultsIn_of_exists (exists_update hs (mem_nodes_of_mem_neighbors hnear') hentity' _)

theorem Accepted.faultsIn_addRelation (h : d.Accepted) (hs : d.Underway s)
    (hn : n ∈ d.nodes) (hkind : n.kind = .relation) :
    FaultsIn d.CycleFault (d.addRelation s n) := by
  unfold addRelation
  split
  · exact faultsIn_ok _ _
  · exact h.faultsIn_addRelationKey hs hn hkind
  · exact h.faultsIn_addRelationKey hs hn hkind
  · exact (h.faultsIn_junctionTable n).bind fun t _ => faultsIn_ok _ _

/-- A specialization finds the tables of its parent and its children. -/
theorem Accepted.faultsIn_addSpecialization (h : d.Accepted) (hs : d.Underway s)
    (hn : n ∈ d.nodes) {kind : SpecializationKind} (hkind : n.kind = .specialization kind) :
    FaultsIn d.CycleFault (d.addSpecialization s n kind) := by
  obtain ⟨⟨parent, hparents⟩, -⟩ := h.parents_and_children hn (by rw [hkind]; rfl)
  have hparent : d.parent? n.id = some parent := by rw [parent?, hparents]; rfl
  obtain ⟨hfound, hentity⟩ := of_parent? hparent
  have htie : FaultsIn d.CycleFault (d.specializationTie n kind) := by
    rw [specializationTie, hparent]
    exact (h.faultsIn_foreignKeyColumns hfound hentity).bind fun refs _ => faultsIn_ok _ _
  refine htie.bind fun tie htie => ?_
  -- everything that the specialization asks for or changes is the table of one of these
  have hmembers := isEntity_of_member htie
  have happend {as : List Addition}
      (has : ∀ a ∈ as, ∃ m ∈ tie.parent :: tie.children, a.entity = m.id) :
      FaultsIn d.CycleFault (as.foldlM Draft.append s) := by
    refine faultsIn_of_exists (exists_foldlM_append hs fun a ha => ?_)
    obtain ⟨m, hm, hid⟩ := has a ha
    exact ⟨m, (hmembers m hm).1, (hmembers m hm).2, hid⟩
  dsimp only
  split
  · have hname := exists_sharedName hs hmembers tie.discriminatorName
    refine (faultsIn_of_exists hname).bind fun discriminator _ => ?_
    exact happend fun a ha => entity_of_mem_exclusiveAdditions ha
  · obtain ⟨flags, hflags⟩ : ∃ flags, tie.children.mapM (fun c =>
        s.sharedName [tie.parent.id, c.id] (SpecializationTie.flagName c)) = .ok flags := by
      apply exists_mapM_eq_ok
      intro c hc
      have hpair : ∀ m ∈ [tie.parent, c], m ∈ d.nodes ∧ m.kind.isEntity = true := by
        intro m hm
        rcases List.mem_cons.1 hm with rfl | hm
        · exact hmembers _ List.mem_cons_self
        · rw [List.mem_singleton.1 hm]
          exact hmembers c (List.mem_cons_of_mem _ hc)
      exact exists_sharedName hs hpair _
    refine (faultsIn_of_exists ⟨flags, hflags⟩).bind fun flags' _ => ?_
    exact happend fun a ha => entity_of_mem_overlappedAdditions ha

/-- The entities can be taken, but for want of an identity. -/
theorem Accepted.faultsIn_entities (h : d.Accepted) (hd : d.DistinctIds) :
    FaultsIn d.CycleFault (d.entityNodes.foldlM d.build .empty) := by
  refine FaultsIn.foldlM (I := fun _ => True) (fun _ _ _ _ _ _ => trivial) ?_ trivial
  intro s n hn _
  obtain ⟨hmem, hentity⟩ := mem_entityNodes_iff.1 hn
  have htable := h.faultsIn_entityTable (node?_of_mem hd hmem) hentity
  cases hk : n.kind with
  | entity | weakEntity =>
    simp only [build, hk]
    exact htable.bind fun t _ => faultsIn_ok _ _
  | relation | dependency _ | specialization _ | attr _ => simp [hk, NodeKind.isEntity] at hentity

/-- The other nodes can be taken after the entities, but for want of an identity. -/
theorem Accepted.faultsIn_laterNodes (h : d.Accepted) (hd : d.DistinctIds)
    (hs : d.Underway s) :
    FaultsIn d.CycleFault (d.laterNodes.foldlM d.build s) := by
  refine FaultsIn.foldlM (I := d.Underway) ?_ ?_ hs
  · intro s n s' hn hs hstep
    exact hs.step hn (step_of_build hstep)
  · intro s n hn hs
    obtain ⟨hmem, hkind | hkind | hkind⟩ := mem_laterNodes_iff.1 hn
    · rw [build, hkind]
      exact h.faultsIn_addRelation hs hmem hkind
    · rw [build, hkind]
      exact (h.faultsIn_multiValuedTable hd hmem hkind).bind fun t _ => faultsIn_ok _ _
    · cases hk : n.kind with
      | specialization kind =>
        simp only [build, hk]
        exact h.faultsIn_addSpecialization hs hmem hk
      | entity | weakEntity | relation | dependency _ | attr _ =>
        simp [hk, NodeKind.isSpecialization] at hkind

/-! ## The whole run -/

/-- The synthesis of an accepted diagram has no other fault than a cycle of identities. -/
theorem Accepted.faultsIn_synthesize (h : d.Accepted) (hd : d.DistinctIds) :
    FaultsIn d.CycleFault d.synthesize := by
  refine FaultsIn.bind ?_ fun s _ => faultsIn_ok _ _
  rw [buildOrder_eq, List.foldlM_append]
  refine (h.faultsIn_entities hd).bind fun s hs => ?_
  exact h.faultsIn_laterNodes hd (underway_of_foldlM_entityNodes hs)

/-- An entity that has a table has a chain that ends. -/
theorem endsAtKey_of_identityTable {t : Table} (hn : d.node? n.id = some n)
    (h : d.identityTable n = .ok t) : d.EndsAtKey n := by
  obtain ⟨source, hs, h⟩ := bind_eq_ok_iff.1 h
  cases source with
  | ownKey key => exact ⟨n, key, .refl, hs⟩
  | dependent relation owner partialKey =>
    obtain ⟨refs, hrefs, -⟩ := bind_eq_ok_iff.1 h
    obtain ⟨l, hl, -⟩ := bind_eq_ok_iff.1 hrefs
    have howner : d.Descends owner l := (lineage_eq_ok_iff (of_base? hs rfl).1).1 hl
    exact (Descends.weak hs howner).endsAtKey
  | subclass specialization parent =>
    obtain ⟨columns, hcolumns, -⟩ := bind_eq_ok_iff.1 h
    obtain ⟨l, hl, -⟩ := bind_eq_ok_iff.1 hcolumns
    exact ((lineage_eq_ok_iff hn).1 hl).endsAtKey

/-- In a diagram with a schema every chain ends. -/
theorem endsAtKey_of_synthesize {schema : Schema} (hd : d.DistinctIds)
    (h : d.synthesize = .ok schema) (hn : n ∈ d.nodes) (hkind : n.kind.isEntity = true) :
    d.EndsAtKey n := by
  obtain ⟨s₁, s₂, hs₁, -, -⟩ := exists_drafts_of_synthesize h
  obtain ⟨r, r', hstep⟩ := exists_step_of_foldlM hs₁ n (mem_entityNodes_iff.2 ⟨hn, hkind⟩)
  obtain ⟨t, ht, -⟩ := entityTable_of_build hkind hstep
  obtain ⟨identity, alternative, columns, hidentity, -⟩ := of_entityTable ht
  exact endsAtKey_of_identityTable (node?_of_mem hd hn) hidentity

/-- An accepted diagram has a schema, or else its synthesis fails with a cycle of identities and
with nothing else. It fails exactly if the chain of owners and parents above some entity comes back
to an entity that it has passed, instead of ending at one with a key of its own. -/
theorem Accepted.synthesize_outcome (h : d.Accepted) (hd : d.DistinctIds) :
    ((∃ schema, d.synthesize = .ok schema) ∨ ∃ id, d.synthesize = .error (.identityCycle id)) ∧
    ((∃ f, d.synthesize = .error f) ↔ ∃ n ∈ d.nodes, n.kind.isEntity = true ∧ d.Revisits n) ∧
    ∀ n ∈ d.nodes, n.kind.isEntity = true → (d.Revisits n ↔ ¬ d.EndsAtKey n) := by
  have hfaults := h.faultsIn_synthesize hd
  refine ⟨?_, ⟨?_, ?_⟩, fun n hn hkind => h.revisits_iff (node?_of_mem hd hn) hkind⟩
  · rcases hfaults.ok_or_error with hok | ⟨f, hf, ⟨id, rfl⟩, -⟩
    · exact .inl hok
    · exact .inr ⟨id, hf⟩
  · rintro ⟨f, hf⟩
    exact (hfaults f hf).2
  · rintro ⟨n, hn, hkind, hrevisits⟩
    rcases hfaults.ok_or_error with ⟨schema, hok⟩ | ⟨f, hf, -⟩
    · -- a schema has a table for every entity, and so an identity
      exact absurd hrevisits (endsAtKey_of_synthesize hd hok hn hkind).not_revisits
    · exact ⟨f, hf⟩

/-- Two weak entities, each of which owns the other. -/
def ring : Diagram where
  nodes := [
    ⟨"a", .weakEntity, "A", none⟩,
    ⟨"x", .attr .key, "x:INTEGER", none⟩,
    ⟨"b", .weakEntity, "B", none⟩,
    ⟨"y", .attr .key, "y:INTEGER", none⟩,
    ⟨"r", .dependency .existence, "R", none⟩,
    ⟨"q", .dependency .existence, "Q", none⟩]
  edges := [
    ⟨"e1", .transition, "a", "x", none⟩,
    ⟨"e2", .transition, "b", "y", none⟩,
    ⟨"e3", .weighted, "b", "r", some "(1..1)"⟩,
    ⟨"e4", .weighted, "r", "a", some "(0..N)"⟩,
    ⟨"e5", .weighted, "a", "q", some "(1..1)"⟩,
    ⟨"e6", .weighted, "q", "b", some "(0..N)"⟩]

theorem synthesize_outcome_ring :
    ring.Accepted ∧ ring.DistinctIds ∧ ∃ id, ring.synthesize = .error (.identityCycle id) := by
  have haccepted : ring.Accepted := by decide +kernel
  have hdistinct : ring.DistinctIds := by decide
  obtain ⟨hout, hiff, -⟩ := haccepted.synthesize_outcome hdistinct
  have hab : ring.BuiltOn ⟨"a", .weakEntity, "A", none⟩ ⟨"b", .weakEntity, "B", none⟩ :=
    ⟨.dependent ⟨"r", .dependency .existence, "R", none⟩ _
      (some ⟨"x", .attr .key, "x:INTEGER", none⟩), by decide +kernel, rfl⟩
  have hba : ring.BuiltOn ⟨"b", .weakEntity, "B", none⟩ ⟨"a", .weakEntity, "A", none⟩ :=
    ⟨.dependent ⟨"q", .dependency .existence, "Q", none⟩ _
      (some ⟨"y", .attr .key, "y:INTEGER", none⟩), by decide +kernel, rfl⟩
  have hrevisits : ring.Revisits ⟨"a", .weakEntity, "A", none⟩ :=
    ⟨_, .refl, .tail (.single hab) hba⟩
  obtain ⟨f, hf⟩ := hiff.2 ⟨_, by decide, rfl, hrevisits⟩
  rcases hout with ⟨schema, hok⟩ | hcycle
  · rw [hok] at hf
    cases hf
  · exact ⟨haccepted, hdistinct, hcycle⟩

end EntityRelationship.Diagram
