import EntityRelationship.Diagnostic.Validation
import EntityRelationship.Proofs.Diagram.Lookup
import EntityRelationship.Proofs.Relational.Places

/-!
# Steps of the synthesis

Taking a node either adds the table of that node to the draft, or changes tables that are there,
or leaves the draft as it is. This file says once what a successful step has done and from which
parts of the diagram it was made. The order in which the nodes are taken falls in two: first the
entities, each of which adds its table, and then the nodes that refer to those tables.
-/

namespace EntityRelationship

open Outcome

namespace Diagram

variable {d : Diagram} {n : Node} {s s' : Draft} {t : Table}

/-! ## What new tables are made of -/

/-- The table of an entity is its identity with the alternative keys and the attributes added. -/
theorem of_entityTable (h : d.entityTable n = .ok t) :
    ∃ identity alternative columns, d.identityTable n = .ok identity ∧
      d.alternativeKey n.id = .ok alternative ∧ d.attributeColumns n.id false = .ok columns ∧
      t = (if alternative = [] then identity else identity.addKey .unique alternative).pushAll
        n.safeName columns := by
  obtain ⟨identity, hidentity, h⟩ := bind_eq_ok_iff.1 h
  obtain ⟨alternative, halternative, h⟩ := bind_eq_ok_iff.1 h
  obtain ⟨columns, hcolumns, h⟩ := bind_eq_ok_iff.1 h
  cases h
  exact ⟨identity, alternative, columns, hidentity, halternative, hcolumns, rfl⟩

/-- The table of a relation consists of its ends, with a key and the attributes added. -/
theorem of_junctionTable (h : d.junctionTable n = .ok t) :
    ∃ ends keyed attributes,
      (d.entityEnds n.id).foldlM d.addEnd (.blank n.safeName) = .ok ends ∧
      d.attributeColumns n.id false = .ok attributes ∧ t = keyed.pushAll n.safeName attributes ∧
      ((d.primaryKey? n.id = none ∧ keyed = ends.extend [] [.key .primary ends.columnNames]) ∨
        ∃ key columns, d.primaryKey? n.id = some key ∧ d.leafColumns key = .ok columns ∧
          keyed = ends.addKey .primary (columns.map .ofTypedName)) := by
  obtain ⟨ends, hends, h⟩ := bind_eq_ok_iff.1 h
  extract_lets finish at h
  have hfinish {keyed : Table} (h : finish keyed = .ok t) :
      ∃ attributes, d.attributeColumns n.id false = .ok attributes ∧
        t = keyed.pushAll n.safeName attributes := by
    obtain ⟨attributes, hattributes, h⟩ := bind_eq_ok_iff.1 h
    cases h
    exact ⟨attributes, hattributes, rfl⟩
  split at h
  · next key hkey =>
    obtain ⟨columns, hcolumns, h⟩ := bind_eq_ok_iff.1 h
    obtain ⟨attributes, hattributes, rfl⟩ := hfinish h
    exact ⟨ends, _, attributes, hends, hattributes, rfl, .inr ⟨key, columns, hkey, hcolumns, rfl⟩⟩
  · next hnone =>
    obtain ⟨attributes, hattributes, rfl⟩ := hfinish h
    exact ⟨ends, _, attributes, hends, hattributes, rfl, .inl ⟨hnone, rfl⟩⟩

/-! ## What specializations are made of -/

/-- A specialization is read from the diagram together with the references to its parent. -/
theorem of_specializationTie {kind : SpecializationKind} {tie : SpecializationTie}
    (h : d.specializationTie n kind = .ok tie) :
    d.parent? n.id = some tie.parent ∧ tie.children = d.children n.id ∧
      d.foreignKeyColumns tie.parent.id = .ok tie.references := by
  unfold specializationTie at h
  split at h
  · cases h
  · next hparent =>
    obtain ⟨refs, hrefs, h⟩ := bind_eq_ok_iff.1 h
    cases h
    exact ⟨hparent, rfl, hrefs⟩

/-- The parent and the children of a specialization are entities of the diagram. -/
theorem isEntity_of_member {kind : SpecializationKind} {tie : SpecializationTie}
    (h : d.specializationTie n kind = .ok tie) :
    ∀ m ∈ tie.parent :: tie.children, m ∈ d.nodes ∧ m.kind.isEntity = true := by
  obtain ⟨hparent, hchildren, -⟩ := of_specializationTie h
  intro m hm
  rcases List.mem_cons.1 hm with rfl | hm
  · obtain ⟨hfound, hentity⟩ := of_parent? hparent
    exact ⟨(mem_of_node? hfound).1, hentity⟩
  · rw [hchildren] at hm
    obtain ⟨hfound, hentity, -⟩ := of_mem_children hm
    exact ⟨(mem_of_node? hfound).1, hentity⟩

/-- The additions of an exclusive specialization are meant for its parent and its children. -/
theorem entity_of_mem_exclusiveAdditions {tie : SpecializationTie} {discriminator : String}
    {a : Addition} (h : a ∈ tie.exclusiveAdditions discriminator) :
    ∃ m ∈ tie.parent :: tie.children, a.entity = m.id := by
  rcases List.mem_cons.1 h with rfl | h
  · exact ⟨tie.parent, List.mem_cons_self, rfl⟩
  · obtain ⟨c, hc, rfl⟩ := List.mem_map.1 h
    exact ⟨c, List.mem_cons_of_mem _ hc, rfl⟩

/-- The additions of an overlapped specialization are meant for its parent and its children. -/
theorem entity_of_mem_overlappedAdditions {tie : SpecializationTie} {flags : List String}
    {a : Addition} (h : a ∈ tie.overlappedAdditions flags) :
    ∃ m ∈ tie.parent :: tie.children, a.entity = m.id := by
  rcases List.mem_cons.1 h with rfl | h
  · exact ⟨tie.parent, List.mem_cons_self, rfl⟩
  · rw [← List.map_uncurry_zip_eq_zipWith] at h
    obtain ⟨⟨c, f⟩, hc, rfl⟩ := List.mem_map.1 h
    exact ⟨c, List.mem_cons_of_mem _ (List.of_mem_zip hc).1, rfl⟩

/-! ## What foreign keys of relations are made of -/

/-- The holder of a relation's foreign key is an end of the relation. -/
theorem holder_of_relationKey {key : RelationKey} (h : d.relationKey n = .ok key) :
    key.holder ∈ d.entityEnds n.id := by
  unfold relationKey at h
  extract_lets cardinality at h
  split at h
  · next a b ends hends =>
    rw [hends]
    split at h <;> cases h <;> simp
  · cases h

/-- The target of a relation's foreign key is the entity of an end. -/
theorem target_of_relationKey {key : RelationKey} (h : d.relationKey n = .ok key) :
    ∃ e ∈ d.entityEnds n.id, e.node = key.target := by
  unfold relationKey at h
  extract_lets cardinality at h
  split at h
  · next a b ends hends =>
    rw [hends]
    split at h <;> cases h <;> simp
  · cases h

/-! ## One step -/

/-- What taking a node does to a draft. -/
inductive Step (d : Diagram) (s : Draft) (n : Node) : Draft → Prop
  /-- An entity adds its table. -/
  | entity {t : Table} (hkind : n.kind.isEntity = true) (ht : d.entityTable n = .ok t) :
    Step d s n (s.addEntity n t)
  /-- A relation between many and many adds its table. -/
  | junction {t : Table} (hkind : n.kind = .relation) (hmany : d.cardinality n.id = .manyToMany)
    (ht : d.junctionTable n = .ok t) : Step d s n (s.add n t)
  /-- A multi-valued attribute adds its table. -/
  | values {t : Table} (hkind : n.kind = .attr .multiValued) (ht : d.multiValuedTable n = .ok t) :
    Step d s n (s.add n t)
  /-- Any other relation extends the table of its holder. -/
  | foreignKey {s' : Draft} {key : RelationKey} {refs : List Reference} {attributes : List Column}
    (hkind : n.kind = .relation)
    (hclass : d.cardinality n.id = .oneToOne ∨ d.cardinality n.id = .oneToMany)
    (hkey : d.relationKey n = .ok key) (hrefs : d.foreignKeyColumns key.target.id = .ok refs)
    (hattributes : d.attributeColumns n.id key.isNullable = .ok attributes)
    (hs' : s.update key.holder.node.id (key.extend refs attributes) = .ok s') : Step d s n s'
  /-- An exclusive specialization extends the tables of its parent and its children. -/
  | exclusive {s' : Draft} {kind : SpecializationKind} {tie : SpecializationTie}
    {discriminator : String} (hkind : n.kind = .specialization kind)
    (hexclusive : kind.exclusive = true) (htie : d.specializationTie n kind = .ok tie)
    (hname : s.sharedName (tie.parent.id :: tie.children.map (·.id)) tie.discriminatorName =
      .ok discriminator)
    (hs' : (tie.exclusiveAdditions discriminator).foldlM Draft.append s = .ok s') : Step d s n s'
  /-- An overlapped specialization does so too, with a flag for each child. -/
  | overlapped {s' : Draft} {kind : SpecializationKind} {tie : SpecializationTie}
    {flags : List String} (hkind : n.kind = .specialization kind)
    (hoverlapped : kind.exclusive = false) (htie : d.specializationTie n kind = .ok tie)
    (hnames : tie.children.mapM (fun c =>
      s.sharedName [tie.parent.id, c.id] (SpecializationTie.flagName c)) = .ok flags)
    (hs' : (tie.overlappedAdditions flags).foldlM Draft.append s = .ok s') : Step d s n s'
  /-- No other node matters. -/
  | idle (hname : d.tableName? n = none)
    (hrelation : n.kind = .relation → d.cardinality n.id = .unrelated)
    (hspecial : n.kind.isSpecialization = false) : Step d s n s

theorem step_of_addRelation (hkind : n.kind = .relation) (h : d.addRelation s n = .ok s') :
    d.Step s n s' := by
  have hkey (hclass : d.cardinality n.id = .oneToOne ∨ d.cardinality n.id = .oneToMany)
      (h : d.addRelationKey s n = .ok s') : d.Step s n s' := by
    obtain ⟨key, hkey, h⟩ := bind_eq_ok_iff.1 h
    obtain ⟨refs, hrefs, h⟩ := bind_eq_ok_iff.1 h
    obtain ⟨attributes, hattributes, h⟩ := bind_eq_ok_iff.1 h
    exact .foreignKey hkind hclass hkey hrefs hattributes h
  unfold addRelation at h
  split at h
  · next hcard =>
    cases h
    refine .idle ?_ (fun _ => hcard) (by rw [hkind]; rfl)
    rw [tableName?, hkind]
    simp [hcard]
  · next hcard => exact hkey (.inl hcard) h
  · next hcard => exact hkey (.inr hcard) h
  · next hcard =>
    obtain ⟨t, ht, h⟩ := bind_eq_ok_iff.1 h
    cases h
    exact .junction hkind hcard ht

theorem step_of_addSpecialization {kind : SpecializationKind}
    (hkind : n.kind = .specialization kind) (h : d.addSpecialization s n kind = .ok s') :
    d.Step s n s' := by
  obtain ⟨tie, htie, h⟩ := bind_eq_ok_iff.1 h
  extract_lets addAll at h
  split at h
  · next hexclusive =>
    obtain ⟨discriminator, hname, h⟩ := bind_eq_ok_iff.1 h
    exact .exclusive hkind hexclusive htie hname h
  · next hoverlapped =>
    obtain ⟨flags, hnames, h⟩ := bind_eq_ok_iff.1 h
    exact .overlapped hkind (by simpa using hoverlapped) htie hnames h

/-- Every successful step is one of these. -/
theorem step_of_build (h : d.build s n = .ok s') : d.Step s n s' := by
  unfold build at h
  split at h
  · next hkind =>
    obtain ⟨t, ht, h⟩ := bind_eq_ok_iff.1 h
    cases h
    exact .entity (by rw [hkind]; rfl) ht
  · next hkind =>
    obtain ⟨t, ht, h⟩ := bind_eq_ok_iff.1 h
    cases h
    exact .entity (by rw [hkind]; rfl) ht
  · next hkind => exact step_of_addRelation hkind h
  · next hkind =>
    obtain ⟨t, ht, h⟩ := bind_eq_ok_iff.1 h
    cases h
    exact .values hkind ht
  · next hkind => exact step_of_addSpecialization hkind h
  · next hentity hweak hrelation hvalues hspecial =>
    cases h
    have hspecial' : n.kind.isSpecialization = false := by
      cases hk : n.kind with
      | specialization kind => exact absurd hk (hspecial kind)
      | entity | weakEntity | relation | dependency _ | attr _ => rfl
    refine .idle ?_ (fun hkind => absurd hkind hrelation) hspecial'
    unfold tableName?
    split
    · next hkind => exact absurd hkind hentity
    · next hkind => exact absurd hkind hweak
    · next hkind => exact absurd hkind hrelation
    · next hkind => exact absurd hkind hvalues
    · rfl

/-- An entity has a table, and so a name for it. -/
theorem tableName?_of_isEntity (hkind : n.kind.isEntity = true) :
    d.tableName? n = some n.safeName := by
  unfold tableName?
  cases hk : n.kind <;> simp_all [NodeKind.isEntity]

/-- A step lets the tables grow in their places, or it adds a table. -/
theorem Step.grown_or_add (h : d.Step s n s') :
    (d.tableName? n = none ∧ n.kind.isEntity = false ∧ s.Grown s') ∨
      (n.kind.isEntity = true ∧ ∃ t, s' = s.addEntity n t) ∨
      n.kind.isEntity = false ∧ ∃ t, s' = s.add n t := by
  have hgrown (hname : d.tableName? n = none) (hs : s.Grown s') :
      d.tableName? n = none ∧ n.kind.isEntity = false ∧ s.Grown s' := by
    refine ⟨hname, ?_, hs⟩
    rw [← Bool.not_eq_true]
    intro hkind
    rw [tableName?_of_isEntity hkind] at hname
    cases hname
  cases h with
  | entity hkind _ => exact .inr (.inl ⟨hkind, _, rfl⟩)
  | junction hkind _ _ => exact .inr (.inr ⟨by rw [hkind]; rfl, _, rfl⟩)
  | values hkind _ => exact .inr (.inr ⟨by rw [hkind]; rfl, _, rfl⟩)
  | @foreignKey _ key refs attributes hkind hclass _ _ _ hs' =>
    refine .inl (hgrown ?_ (Draft.grown_of_update (key.extends_extend refs attributes) hs'))
    rw [tableName?, hkind]
    rcases hclass with hclass | hclass <;> simp [hclass]
  | exclusive hkind _ _ _ hs' =>
    refine .inl (hgrown ?_ (Draft.grown_of_foldlM_append hs'))
    rw [tableName?, hkind]
  | overlapped hkind _ _ _ hs' =>
    refine .inl (hgrown ?_ (Draft.grown_of_foldlM_append hs'))
    rw [tableName?, hkind]
  | idle hname _ _ => exact .inl (hgrown hname (.refl s))

/-- A step adds an entity to those that have tables, and no other node. -/
theorem Step.entityNodes (h : d.Step s n s') :
    s'.entityNodes = s.entityNodes ++ [n].filter (·.kind.isEntity) := by
  rcases h.grown_or_add with ⟨-, hkind, hs⟩ | ⟨-, t, rfl⟩ | ⟨-, t, rfl⟩
  · rw [hs.entityNodes_eq, List.filter_singleton, hkind]
    exact (List.append_nil _).symm
  · exact Draft.entityNodes_add s n t
  · exact Draft.entityNodes_add s n t

/-- A step keeps the noted places those of the tables of entities. -/
theorem Step.indexed (h : d.Step s n s') (hs : s.Indexed) : s'.Indexed := by
  rcases h.grown_or_add with ⟨-, -, hgrown⟩ | ⟨hkind, t, rfl⟩ | ⟨hkind, t, rfl⟩
  · exact hgrown.indexed hs
  · exact hs.addEntity hkind t
  · exact hs.add hkind t

/-- So does a run. -/
theorem indexed_foldlM_build {ns : List Node} (h : ns.foldlM d.build s = .ok s')
    (hs : s.Indexed) : s'.Indexed :=
  foldlM_induction (I := Draft.Indexed)
    (fun _ _ _ _ hr hbuild => (step_of_build hbuild).indexed hr) h hs

/-! ## The order of steps -/

/-- The entities in the order in which they are taken: the strong ones and then the weak ones. -/
def entityNodes (d : Diagram) : List Node :=
  d.nodes.filter (·.kind == .entity) ++ d.nodes.filter (·.kind == .weakEntity)

/-- The nodes that are taken after the entities and refer to their tables. -/
def laterNodes (d : Diagram) : List Node :=
  d.nodes.filter (·.kind == .relation) ++ d.nodes.filter (·.kind == .attr .multiValued) ++
    d.nodes.filter (·.kind.isSpecialization)

theorem buildOrder_eq (d : Diagram) : d.buildOrder = d.entityNodes ++ d.laterNodes := by
  simp [buildOrder, NodeKind.passes, entityNodes, laterNodes]

theorem mem_entityNodes_iff : n ∈ d.entityNodes ↔ n ∈ d.nodes ∧ n.kind.isEntity = true := by
  simp only [entityNodes, List.mem_append, List.mem_filter, beq_iff_eq, ← and_or_left]
  refine and_congr_right fun _ => ?_
  cases n.kind <;> simp [NodeKind.isEntity]

theorem mem_laterNodes_iff :
    n ∈ d.laterNodes ↔
      n ∈ d.nodes ∧ (n.kind = .relation ∨ n.kind = .attr .multiValued ∨
        n.kind.isSpecialization = true) := by
  simp only [laterNodes, List.mem_append, List.mem_filter, beq_iff_eq, ← and_or_left, or_assoc]

/-- Taking an entity adds its table. -/
theorem entityTable_of_build (hkind : n.kind.isEntity = true) (h : d.build s n = .ok s') :
    ∃ t, d.entityTable n = .ok t ∧ s' = s.addEntity n t := by
  have hbuild : d.build s n = (do
      let table ← d.entityTable n
      return s.addEntity n table) := by
    unfold build
    cases hk : n.kind <;> simp_all [NodeKind.isEntity]
  rw [hbuild, bind_eq_ok_iff] at h
  obtain ⟨t, ht, h⟩ := h
  cases h
  exact ⟨t, ht, rfl⟩

/-- After the entities are taken, the tables are those that they have. -/
theorem entityTable_of_mem_tables (h : d.entityNodes.foldlM d.build .empty = .ok s) :
    ∀ t ∈ s.tables, t.node ∈ d.entityNodes ∧ d.entityTable t.node = .ok t.table := by
  refine foldlM_induction
    (I := fun s => ∀ t ∈ s.tables, t.node ∈ d.entityNodes ∧ d.entityTable t.node = .ok t.table)
    (fun s n s' hn hs hstep => ?_) h fun t ht => absurd ht List.not_mem_nil
  obtain ⟨u, hu, rfl⟩ := entityTable_of_build (mem_entityNodes_iff.1 hn).2 hstep
  intro t ht
  rcases List.mem_append.1 ht with ht | ht
  · exact hs t ht
  · rw [List.mem_singleton.1 ht]
    exact ⟨hn, hu⟩

/-- A synthesis goes through a draft that has the tables of all entities. -/
theorem exists_drafts_of_synthesize {schema : Schema} (h : d.synthesize = .ok schema) :
    ∃ s₁ s₂, d.entityNodes.foldlM d.build .empty = .ok s₁ ∧
      d.laterNodes.foldlM d.build s₁ = .ok s₂ ∧ schema = s₂.schema := by
  obtain ⟨s₂, hs₂, h⟩ := bind_eq_ok_iff.1 h
  rw [buildOrder_eq, List.foldlM_append, bind_eq_ok_iff] at hs₂
  obtain ⟨s₁, hs₁, hs₂⟩ := hs₂
  cases h
  exact ⟨s₁, s₂, hs₁, hs₂, rfl⟩

/-- A run adds the entities that it takes to those that have tables. -/
theorem entityNodes_foldlM_build {ns : List Node} (h : ns.foldlM d.build s = .ok s') :
    s'.entityNodes = s.entityNodes ++ ns.filter (·.kind.isEntity) := by
  induction ns generalizing s with
  | nil =>
    rw [List.foldlM_nil, pure_eq_ok_iff] at h
    rw [h, List.filter_nil, List.append_nil]
  | cons n ns ih =>
    rw [List.foldlM_cons, bind_eq_ok_iff] at h
    obtain ⟨s₁, hs₁, h⟩ := h
    rw [ih h, (step_of_build hs₁).entityNodes, List.append_assoc, ← List.filter_append]
    rfl

/-- Once the entities are taken, they have tables. -/
theorem entityNodes_of_foldlM_entityNodes (h : d.entityNodes.foldlM d.build .empty = .ok s) :
    s.entityNodes = d.entityNodes := by
  rw [entityNodes_foldlM_build h, Draft.entityNodes_empty, List.nil_append, List.filter_eq_self]
  intro n hn
  exact (mem_entityNodes_iff.1 hn).2

theorem isEntity_of_mem_laterNodes (hn : n ∈ d.laterNodes) : n.kind.isEntity = false := by
  obtain ⟨-, hkind | hkind | hkind⟩ := mem_laterNodes_iff.1 hn
  · rw [hkind]
    rfl
  · rw [hkind]
    rfl
  · cases hk : n.kind <;> simp_all [NodeKind.isSpecialization, NodeKind.isEntity]

/-- Where ids are distinct, no entity is taken twice. -/
theorem nodup_ids_entityNodes (hd : d.DistinctIds) : (d.entityNodes.map (·.id)).Nodup := by
  have hpass (p : Node → Bool) : ((d.nodes.filter p).map (·.id)).Nodup :=
    hd.1.sublist (List.filter_sublist.map _)
  rw [entityNodes, List.map_append]
  refine (hpass _).append (hpass _) fun id hstrong hweak => ?_
  -- a node is not both strong and weak
  obtain ⟨n, hn, hid⟩ := List.mem_map.1 hstrong
  obtain ⟨m, hm, hid'⟩ := List.mem_map.1 hweak
  rw [List.mem_filter, beq_iff_eq] at hn hm
  obtain rfl := List.inj_on_of_nodup_map hd.1 hn.1 hm.1 (hid.trans hid'.symm)
  rw [hn.2] at hm
  cases hm.2

end Diagram

end EntityRelationship
