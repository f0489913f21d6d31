import EntityRelationship.Proofs.Diagnostic.Acceptance
import EntityRelationship.Proofs.Diagram.Chain
import EntityRelationship.Relational.Entity

/-!
# What accepted diagrams resolve

On an accepted diagram the questions that the synthesis asks about single nodes have answers: an
attribute has the columns of its leaves, an entity has a source of identity, and a lineage has
identity columns. What is left to go wrong is that an entity has no lineage, and this happens
exactly if the chain above it comes back to an entity that it has passed.
-/

namespace EntityRelationship.Diagram

open Outcome Relation

variable {d : Diagram} {k m n : Node} {l : Lineage} {role : AttributeKind}

/-! ## Attributes -/

/-- An attribute that cannot be composite has a typed label. -/
theorem Accepted.exists_typedName_of_simple (h : d.Accepted) (hn : n ∈ d.nodes)
    (hkind : n.kind = .attr role) (hrole : role.mayBeComposite = false) :
    ∃ t, n.typedName = .ok t :=
  h.exists_typedName hn hkind (h.members_eq_nil hn hkind hrole)

/-- The leaves of an attribute have typed labels. -/
theorem Accepted.exists_leafColumns (h : d.Accepted) (hn : d.node? n.id = some n)
    (hkind : n.kind.isAttribute = true) : ∃ cs, d.leafColumns n = .ok cs := by
  apply exists_mapM_eq_ok
  intro m hm
  obtain ⟨hmem, hattribute, hmembers⟩ := of_mem_leaves hn hkind hm
  obtain ⟨role, hk⟩ := exists_role hattribute
  exact h.exists_typedName hmem hk hmembers

/-- A primary key has columns. -/
theorem Accepted.exists_leafColumns_of_primaryKey? (h : d.Accepted) {id : String}
    (hk : d.primaryKey? id = some k) : ∃ cs, d.leafColumns k = .ok cs := by
  obtain ⟨hfound, hkind⟩ := of_primaryKey? hk
  refine h.exists_leafColumns hfound ?_
  rw [hkind]
  rfl

/-- All neighbors of a multi-valued attribute are entities: it may touch plain attributes too, but
these may not touch it. -/
theorem Accepted.isEntity_of_multiValued (h : d.Accepted) (hfound : d.node? n.id = some n)
    (hkind : n.kind = .attr .multiValued) {x : Neighbor} (hx : x ∈ d.neighbors n.id) :
    x.node.kind.isEntity = true := by
  have htouch := h.mayTouch (mem_of_node? hfound).1 hkind hx
  cases hk : x.node.kind with
  | entity => rfl
  | weakEntity => rfl
  | relation | dependency _ | specialization _ => simp [hk, AttributeKind.mayTouch] at htouch
  | attr role =>
    -- the edge is seen from the other attribute too
    have hback := h.mayTouch (mem_nodes_of_mem_neighbors hx) hk (neighbor_symm hfound hx)
    rw [hkind] at hback
    cases role <;> simp [AttributeKind.mayTouch] at hback

/-- The owners of a multi-valued attribute are among its neighbors. -/
theorem Accepted.exists_entity_of_multiValued (h : d.Accepted) (hfound : d.node? n.id = some n)
    (hkind : n.kind = .attr .multiValued) {owner : String} (howner : owner ∈ d.rootOwners n.id) :
    ∃ x ∈ d.neighbors n.id, x.node.kind.isEntity = true ∧ x.node.id = owner := by
  have hentity {x : Neighbor} (hx : x ∈ d.neighbors n.id) : x.node.kind.isEntity = true :=
    h.isEntity_of_multiValued hfound hkind hx
  obtain ⟨x, hx, -, hid⟩ :=
    exists_of_mem_rootOwners (fun x hx => isAttribute_of_isEntity (hentity hx)) howner
  exact ⟨x, hx, hentity hx, hid⟩

/-- The owner of a multi-valued attribute is an entity. -/
theorem Accepted.exists_entityOwner (h : d.Accepted) (hd : d.DistinctIds) (hn : n ∈ d.nodes)
    (hkind : n.kind = .attr .multiValued) : ∃ owner, d.entityOwner n = .ok owner := by
  have hfound : d.node? n.id = some n := node?_of_mem hd hn
  obtain ⟨id, hid⟩ := h.rootOwners_eq hn hkind
  have howner : id ∈ d.rootOwners n.id := by simp [hid]
  obtain ⟨x, hx, hentity, rfl⟩ := h.exists_entity_of_multiValued hfound hkind howner
  refine ⟨x.node, ?_⟩
  simp only [entityOwner, hid, node?_of_mem_neighbors hx, hentity, if_true]

/-! ## Sources of identity -/

/-- A strong entity has a parent or a key. -/
theorem Accepted.exists_identitySource_of_strong (h : d.Accepted) (hn : n ∈ d.nodes)
    (hkind : n.kind = .entity) : ∃ s, d.identitySource n = .ok s := by
  unfold identitySource specializationAbove?
  simp only [hkind]
  cases habove : d.specializationsAbove n.id with
  | nil =>
    have hkeys := h.keys_ne_nil hn hkind habove
    cases hkey : d.primaryKey? n.id with
    | none => exact absurd (primaryKey?_eq_none_iff.1 hkey) hkeys
    | some key => exact ⟨.ownKey key, rfl⟩
  | cons specialization others =>
    obtain ⟨hfound, hspecial⟩ :=
      of_mem_specializationsAbove (habove ▸ List.mem_cons_self)
    obtain ⟨⟨parent, hparents⟩, -⟩ := h.parents_and_children (mem_of_node? hfound).1 hspecial
    refine ⟨.subclass specialization parent, ?_⟩
    simp [parent?, hparents]

/-- A weak entity has an owner, and a partial key unless it corresponds to the owner one to one. -/
theorem Accepted.exists_identitySource_of_weak (h : d.Accepted) (hn : n ∈ d.nodes)
    (hkind : n.kind = .weakEntity) : ∃ s, d.identitySource n = .ok s := by
  obtain ⟨r, hr, hexistence⟩ := h.dependencies_eq hn hkind
  have hmember : r ∈ d.dependencies n.id := by
    rw [hr]
    exact List.mem_cons_self
  obtain ⟨hmem, hdependency, -⟩ := of_mem_dependencies hmember
  have hrelation := isRelation_of_isDependency hdependency
  obtain ⟨owner, howner⟩ : ∃ owner, d.otherEntity r.id n.id = .ok owner :=
    exists_otherEntity (h.two_le_length_entityEnds hmem hrelation)
  -- the key stands at the dependency if this is identifying, and else at the entity
  have hkey : ∃ key, d.partialKey? r n.id = some key := by
    rw [← Option.ne_none_iff_exists', partialKey?, ne_eq, primaryKey?_eq_none_iff]
    split
    · next hidentifying => exact h.keys_ne_nil_of_identifying hmem hidentifying
    · next hidentifying =>
      refine hexistence ?_
      cases hk : r.kind with
      | dependency kind => cases kind <;> simp_all
      | entity | weakEntity | relation | specialization _ | attr _ =>
        simp [hk, NodeKind.isDependency] at hdependency
  obtain ⟨key, hkey⟩ := hkey
  unfold identitySource dependency?
  simp only [hkind, hr, List.head?_cons, howner, ok_bind, hkey]
  split
  · exact ⟨_, rfl⟩
  · exact ⟨_, rfl⟩

/-- Every entity has a source of identity. -/
theorem Accepted.exists_identitySource (h : d.Accepted) (hn : n ∈ d.nodes)
    (hkind : n.kind.isEntity = true) : ∃ s, d.identitySource n = .ok s := by
  cases hk : n.kind with
  | entity => exact h.exists_identitySource_of_strong hn hk
  | weakEntity => exact h.exists_identitySource_of_weak hn hk
  | relation | dependency _ | specialization _ | attr _ =>
    simp [hk, NodeKind.isEntity] at hkind

/-- A child is built on the parent of its specialization: it has no other specialization above it,
and is not weak. -/
theorem Accepted.identitySource_of_child (h : d.Accepted) (hd : d.DistinctIds) (hn : n ∈ d.nodes)
    (hkind : n.kind.isSpecialization = true) (hparent : d.parent? n.id = some m)
    (hk : k ∈ d.children n.id) : d.identitySource k = .ok (.subclass n m) := by
  obtain ⟨hfound, hentity, -⟩ := of_mem_children hk
  have hmem := (mem_of_node? hfound).1
  have hstrong : k.kind = .entity := by
    have hweak := (h.parents_and_children hn hkind).2 k hk
    cases hkk : k.kind <;> simp_all [NodeKind.isEntity]
  have habove : d.specializationAbove? k.id = some n :=
    head?_of_mem (mem_specializationsAbove_of_mem_children hd hn hkind hk)
      (h.length_specializationsAbove_le hmem hstrong)
  simp only [identitySource, hstrong, habove, hparent]

/-- The parent of a specialization, if its identity can be resolved, is none of the children. -/
theorem Accepted.parent_not_mem_children (h : d.Accepted) (hd : d.DistinctIds) (hn : n ∈ d.nodes)
    (hkind : n.kind.isSpecialization = true) (hparent : d.parent? n.id = some m)
    (hends : d.EndsAtKey m) : m.id ∉ (d.children n.id).map (·.id) := by
  intro hmem
  obtain ⟨c, hc, hid⟩ := List.mem_map.1 hmem
  have hsame : c = m := eq_of_id_eq hd (mem_of_node? (of_mem_children hc).1).1
    (mem_of_node? (of_parent? hparent).1).1 hid
  rw [hsame] at hc
  -- a child would be built on the parent, here on itself
  have hstep : d.BuiltOn m m := ⟨_, h.identitySource_of_child hd hn hkind hparent hc, rfl⟩
  exact hends.not_transGen (.single hstep)

/-! ## Identities -/

/-- A partial key, if there is one, has columns. -/
theorem Accepted.exists_partialColumns (h : d.Accepted) {relation owner : Node}
    {partialKey : Option Node}
    (hs : d.identitySource n = .ok (.dependent relation owner partialKey)) :
    ∃ cs, partialKey.elim (.ok []) d.leafColumns = .ok cs := by
  cases partialKey with
  | none => exact ⟨[], rfl⟩
  | some key => exact h.exists_leafColumns_of_primaryKey? (partialKey?_of_dependent hs)

/-- Every lineage has identity columns. -/
theorem Accepted.exists_identityOf (h : d.Accepted) (hl : d.Descends n l) :
    ∃ cs, d.identityOf l = .ok cs := by
  induction hl with
  | root hs => exact h.exists_leafColumns_of_primaryKey? (primaryKey?_of_ownKey hs)
  | weak hs _ ih =>
    obtain ⟨inherited, hinherited⟩ := ih
    obtain ⟨own, hown⟩ := h.exists_partialColumns hs
    simp only [identityOf, hinherited, hown, ok_bind]
    exact ⟨_, rfl⟩
  | subclass hs _ ih =>
    obtain ⟨inherited, hinherited⟩ := ih
    simp only [identityOf, hinherited, ok_bind]
    exact ⟨_, rfl⟩

/-- The fault that the identity of some entity is built on itself, in a diagram where the chain of
some entity comes back. -/
def CycleFault (d : Diagram) (f : SynthesisFault) : Prop :=
  (∃ id, f = .identityCycle id) ∧ ∃ n ∈ d.nodes, n.kind.isEntity = true ∧ d.Revisits n

/-- Reading a lineage has no other fault. -/
theorem Accepted.faultsIn_lineage (h : d.Accepted) (hn : d.node? n.id = some n)
    (hkind : n.kind.isEntity = true) :
    FaultsIn (fun f => (∃ id, f = .identityCycle id) ∧ d.Revisits n) (d.lineage n.id) :=
  faultsIn_lineageFrom (fun _ hm hk => h.exists_identitySource hm hk) hn hkind
    fun _ hv => absurd hv List.not_mem_nil

/-- The chain of an entity comes back or ends at a key. -/
theorem Accepted.revisits_iff (h : d.Accepted) (hn : d.node? n.id = some n)
    (hkind : n.kind.isEntity = true) : d.Revisits n ↔ ¬ d.EndsAtKey n := by
  constructor
  · intro hrevisits hends
    exact hends.not_revisits hrevisits
  · intro hends
    rcases (h.faultsIn_lineage hn hkind).ok_or_error with ⟨l, hl⟩ | ⟨f, -, -, hrevisits⟩
    · exact absurd ((lineage_eq_ok_iff hn).1 hl).endsAtKey hends
    · exact hrevisits

/-- Identity columns are missing only for want of a lineage. -/
theorem Accepted.faultsIn_identityColumns (h : d.Accepted) (hn : d.node? n.id = some n)
    (hkind : n.kind.isEntity = true) : FaultsIn d.CycleFault (d.identityColumns n.id) := by
  refine FaultsIn.bind (fun f hf => ?_) fun l hl => ?_
  · obtain ⟨hcycle, hrevisits⟩ := h.faultsIn_lineage hn hkind f hf
    exact ⟨hcycle, n, (mem_of_node? hn).1, hkind, hrevisits⟩
  · exact faultsIn_of_exists (h.exists_identityOf ((lineage_eq_ok_iff hn).1 hl))

/-- The columns that refer to an entity are made from its identity columns, and have no fault of
their own. -/
theorem Accepted.faultsIn_foreignKeyColumns (h : d.Accepted) (hn : d.node? n.id = some n)
    (hkind : n.kind.isEntity = true) : FaultsIn d.CycleFault (d.foreignKeyColumns n.id) := by
  refine FaultsIn.bind (fun f hf => ?_) fun l hl => ?_
  · obtain ⟨hcycle, hrevisits⟩ := h.faultsIn_lineage hn hkind f hf
    exact ⟨hcycle, n, (mem_of_node? hn).1, hkind, hrevisits⟩
  · have hidentity := h.exists_identityOf ((lineage_eq_ok_iff hn).1 hl)
    exact (faultsIn_of_exists hidentity).bind fun cs _ => faultsIn_ok _ _

end EntityRelationship.Diagram
