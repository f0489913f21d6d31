import EntityRelationship.Proofs.Relational.TableNames
import EntityRelationship.Proofs.Diagram.Chain

/-!
# What the synthesis asks

The synthesis does not look at a diagram as a whole: it asks a few questions about the nodes that it
takes. Two diagrams that answer these questions alike have the same schema, or fail with the same
fault, whatever else they have in them. The proof goes up the layers of the synthesis, and each
layer asks nothing but what the layers below it ask.
-/

namespace EntityRelationship

open Outcome

/-- Two relations as foreign keys do the same to a table: they have the same class, lead from the same
entity to the same target, and may both be missing or not. -/
structure RelationKey.SameEffect (k k' : RelationKey) : Prop where
  relation_eq : k.relation = k'.relation
  cardinality_eq : k.cardinality = k'.cardinality
  holder_eq : k.holder.node = k'.holder.node
  target_eq : k.target = k'.target
  isNullable_eq : k.isNullable = k'.isNullable

namespace RelationKey.SameEffect

variable {k k' : RelationKey}

theorem refl (k : RelationKey) : k.SameEffect k :=
  ⟨rfl, rfl, rfl, rfl, rfl⟩

theorem extend_eq (h : k.SameEffect k') : k.extend = k'.extend := by
  funext refs attributes t
  have hreflexive : k.isReflexive = k'.isReflexive := by
    rw [isReflexive, isReflexive, h.holder_eq, h.target_eq]
  have hname : k.columnName t = k'.columnName t := by
    funext r
    rw [columnName, columnName, hreflexive, h.relation_eq]
  simp only [extend, rename, hname, h.relation_eq, h.cardinality_eq, h.target_eq, h.isNullable_eq]

end RelationKey.SameEffect

namespace Diagram

variable {d d' : Diagram} {k n : Node} {x : Neighbor} {l : Lineage}

/-- An attribute of an entity or relation is read: it is no key, or the first of the keys. -/
def Reads (d : Diagram) (n : Node) (x : Neighbor) : Prop :=
  x ∈ d.attributes n.id ∧ (x.node.kind = .attr .key → d.primaryKey? n.id = some x.node)

/-- The second diagram answers as the first one does what the synthesis asks about the nodes of the
first, except that the ends of a plain relation may differ. -/
structure SameButEnds (d d' : Diagram) : Prop where
  buildOrder_eq : d'.buildOrder = d.buildOrder
  node?_eq : ∀ n ∈ d.nodes, n.kind.isEntity = true → d'.node? n.id = d.node? n.id
  attributes_eq : ∀ n ∈ d.nodes, n.kind.isRoot = true →
    (d'.attributes n.id).filter (·.node.kind != .attr .key) =
      (d.attributes n.id).filter (·.node.kind != .attr .key)
  primaryKey?_eq : ∀ n ∈ d.nodes, n.kind.isRoot = true → d'.primaryKey? n.id = d.primaryKey? n.id
  leaves_eq : ∀ n ∈ d.nodes, n.kind.isRoot = true → ∀ x, d.Reads n x →
    d'.leaves x.node = d.leaves x.node
  relations_eq : ∀ n ∈ d.nodes, n.kind.isEntity = true →
    (d'.relations n.id).filter (·.kind.isDependency) =
      (d.relations n.id).filter (·.kind.isDependency)
  dependencyEnds_eq : ∀ n ∈ d.nodes, n.kind.isDependency = true →
    d'.entityEnds n.id = d.entityEnds n.id
  cardinality_eq : ∀ n ∈ d.nodes, n.kind.isRelation = true →
    d'.cardinality n.id = d.cardinality n.id
  parents_eq : ∀ n ∈ d.nodes, n.kind.isSpecialization = true → d'.parents n.id = d.parents n.id
  children_eq : ∀ n ∈ d.nodes, n.kind.isSpecialization = true → d'.children n.id = d.children n.id
  specializationsAbove_eq : ∀ n ∈ d.nodes, n.kind.isEntity = true →
    d'.specializationsAbove n.id = d.specializationsAbove n.id
  entityOwner_eq : ∀ n ∈ d.nodes, n.kind = .attr .multiValued → d'.entityOwner n = d.entityOwner n

/-- The second diagram answers as the first one does whatever the synthesis asks about the nodes of
the first. -/
structure SameAnswers (d d' : Diagram) : Prop extends SameButEnds d d' where
  relationEnds_eq : ∀ n ∈ d.nodes, n.kind = .relation → d'.entityEnds n.id = d.entityEnds n.id

/-- A weak entity is built on its owner by its dependency. -/
theorem dependency?_of_dependent {relation owner : Node} {partialKey : Option Node}
    (h : d.identitySource n = .ok (.dependent relation owner partialKey)) :
    d.dependency? n.id = some relation := by
  unfold identitySource at h
  split at h
  · split at h
    · split at h <;> cases h
    · split at h <;> cases h
  · split at h
    · cases h
    · next hr =>
      obtain ⟨owner, -, h⟩ := bind_eq_ok_iff.1 h
      split at h
      · cases h
        exact hr
      · split at h <;> cases h
        exact hr
  · cases h

namespace SameButEnds

/-! ## Attributes -/

theorem leafColumns_eq (h : d.SameButEnds d') (hn : n ∈ d.nodes) (hkind : n.kind.isRoot = true)
    (hx : d.Reads n x) : d'.leafColumns x.node = d.leafColumns x.node := by
  rw [leafColumns, leafColumns, h.leaves_eq n hn hkind x hx]

/-- The primary key is read. -/
theorem leafColumns_primaryKey?_eq (h : d.SameButEnds d') (hn : n ∈ d.nodes)
    (hkind : n.kind.isRoot = true) (hk : d.primaryKey? n.id = some k) :
    d'.leafColumns k = d.leafColumns k := by
  have hprimary := hk
  obtain ⟨x, hx, rfl⟩ := Option.map_eq_some_iff.1 hk
  have hmem : x ∈ d.attributes n.id := List.mem_of_mem_filter (List.mem_of_mem_head? hx)
  exact h.leafColumns_eq hn hkind ⟨hmem, fun _ => hprimary⟩

theorem columnsOf_eq (h : d.SameButEnds d') (hn : n ∈ d.nodes) (hkind : n.kind.isRoot = true)
    (hx : d.Reads n x) (nullable : Bool) : d'.columnsOf nullable x = d.columnsOf nullable x := by
  unfold columnsOf
  split
  · rw [h.leafColumns_eq hn hkind hx]
  · rfl
  · rfl

/-- The keys among the attributes give no columns here. -/
theorem attributeColumns_eq_filter (d : Diagram) (id : String) (nullable : Bool) :
    d.attributeColumns id nullable = (do
      return (← ((d.attributes id).filter (·.node.kind != .attr .key)).mapM
        (d.columnsOf nullable)).flatten) := by
  refine (mapM_flatten_filter fun x _ hx => ?_).symm
  rw [bne_eq_false_iff_eq] at hx
  rw [columnsOf, hx]

theorem attributeColumns_eq (h : d.SameButEnds d') (hn : n ∈ d.nodes)
    (hkind : n.kind.isRoot = true) (nullable : Bool) :
    d'.attributeColumns n.id nullable = d.attributeColumns n.id nullable := by
  have hcolumns : ((d.attributes n.id).filter (·.node.kind != .attr .key)).mapM
      (d'.columnsOf nullable) = ((d.attributes n.id).filter (·.node.kind != .attr .key)).mapM
        (d.columnsOf nullable) := by
    refine mapM_congr fun x hx => ?_
    rw [List.mem_filter, bne_iff_ne] at hx
    exact h.columnsOf_eq hn hkind ⟨hx.1, fun hkey => absurd hkey hx.2⟩ nullable
  rw [attributeColumns_eq_filter, attributeColumns_eq_filter, h.attributes_eq n hn hkind, hcolumns]

theorem alternativeKey_eq (h : d.SameButEnds d') (hn : n ∈ d.nodes)
    (hkind : n.kind.isRoot = true) : d'.alternativeKey n.id = d.alternativeKey n.id := by
  have hsome (d : Diagram) : (d.attributes n.id).filter (·.node.kind == .attr .alternativeKey) =
      ((d.attributes n.id).filter (·.node.kind != .attr .key)).filter
        (·.node.kind == .attr .alternativeKey) := by
    rw [List.filter_filter]
    refine List.filter_congr fun x _ => ?_
    by_cases hk : x.node.kind = .attr .alternativeKey <;> simp [hk]
  rw [alternativeKey, alternativeKey, hsome d', hsome d, h.attributes_eq n hn hkind]

/-! ## Identities -/

theorem dependencyEnds?_eq (h : d.SameButEnds d') (hn : n ∈ d.nodes)
    (hkind : n.kind.isDependency = true) : d'.dependencyEnds? n.id = d.dependencyEnds? n.id := by
  rw [dependencyEnds?, dependencyEnds?, h.dependencyEnds_eq n hn hkind]

theorem otherEntity_eq (h : d.SameButEnds d') (hn : n ∈ d.nodes)
    (hkind : n.kind.isDependency = true) (known : String) :
    d'.otherEntity n.id known = d.otherEntity n.id known := by
  rw [otherEntity, otherEntity, h.dependencyEnds_eq n hn hkind]

theorem dependencies_eq (h : d.SameButEnds d') (hn : n ∈ d.nodes) (hkind : n.kind.isEntity = true) :
    d'.dependencies n.id = d.dependencies n.id := by
  rw [dependencies, dependencies, h.relations_eq n hn hkind]
  refine List.filter_congr fun r hr => ?_
  have hmem := mem_of_mem_firstOfEach (List.mem_of_mem_filter hr)
  obtain ⟨y, hy, rfl⟩ := List.mem_map.1 (List.mem_of_mem_filter hmem)
  have hdependency : y.node.kind.isDependency = true := (List.mem_filter.1 hr).2
  rw [h.dependencyEnds?_eq (mem_nodes_of_mem_neighbors hy) hdependency]

theorem partialKey?_eq (h : d.SameButEnds d') (hn : n ∈ d.nodes) (hkind : n.kind.isEntity = true)
    {r : Node} (hr : r ∈ d.nodes) (hrelation : r.kind.isRelation = true) :
    d'.partialKey? r n.id = d.partialKey? r n.id := by
  have hroot := isRoot_of_isRelation hrelation
  unfold partialKey?
  split
  · exact h.primaryKey?_eq r hr hroot
  · exact h.primaryKey?_eq n hn (isRoot_of_isEntity hkind)

theorem identitySource_eq (h : d.SameButEnds d') (hn : n ∈ d.nodes) :
    d'.identitySource n = d.identitySource n := by
  cases hk : n.kind with
  | relation | dependency _ | specialization _ | attr _ => simp only [identitySource, hk]
  | entity =>
    have hentity : n.kind.isEntity = true := by rw [hk]; rfl
    have habove : d'.specializationAbove? n.id = d.specializationAbove? n.id :=
      congrArg List.head? (h.specializationsAbove_eq n hn hentity)
    have hkey := h.primaryKey?_eq n hn (isRoot_of_isEntity hentity)
    cases hs : d.specializationAbove? n.id with
    | none => simp only [identitySource, hk, habove, hs, hkey]
    | some s =>
      obtain ⟨hfound, hspecial⟩ := of_mem_specializationsAbove (List.mem_of_mem_head? hs)
      have hparent : d'.parent? s.id = d.parent? s.id :=
        congrArg List.head? (h.parents_eq s (mem_of_node? hfound).1 hspecial)
      simp only [identitySource, hk, habove, hs, hparent]
  | weakEntity =>
    have hentity : n.kind.isEntity = true := by rw [hk]; rfl
    have hdependency : d'.dependency? n.id = d.dependency? n.id :=
      congrArg List.head? (h.dependencies_eq hn hentity)
    cases hr : d.dependency? n.id with
    | none => simp only [identitySource, hk, hdependency, hr]
    | some r =>
      obtain ⟨hmem, hkind, -⟩ := of_mem_dependencies (List.mem_of_mem_head? hr)
      have hrelation := isRelation_of_isDependency hkind
      simp only [identitySource, hk, hdependency, hr, h.otherEntity_eq hmem hkind,
        h.cardinality_eq r hmem hrelation, h.partialKey?_eq hn hentity hmem hrelation]

/-- The partial key of a weak entity is read. -/
theorem partialColumns_eq (h : d.SameButEnds d') (hn : n ∈ d.nodes) (hkind : n.kind.isEntity = true)
    {relation owner : Node} {partialKey : Option Node}
    (hs : d.identitySource n = .ok (.dependent relation owner partialKey)) :
    partialKey.elim (.ok []) d'.leafColumns = partialKey.elim (.ok []) d.leafColumns := by
  cases partialKey with
  | none => rfl
  | some k =>
    have hk := partialKey?_of_dependent hs
    unfold partialKey? at hk
    split at hk
    · obtain ⟨hmem, hdependency, -⟩ :=
        of_mem_dependencies (List.mem_of_mem_head? (dependency?_of_dependent hs))
      have hroot := isRoot_of_isRelation (isRelation_of_isDependency hdependency)
      exact h.leafColumns_primaryKey?_eq hmem hroot hk
    · exact h.leafColumns_primaryKey?_eq hn (isRoot_of_isEntity hkind) hk

theorem lineageFrom_eq (h : d.SameButEnds d') {visited : List String} {id : String}
    (hn : d.node? id = some n) (hkind : n.kind.isEntity = true) :
    d'.lineageFrom visited id = d.lineageFrom visited id := by
  induction visited, id using lineageFrom.induct d generalizing n with
  | case1 visited id hnone => simp [hnone] at hn
  | case2 visited id m hm hv =>
    have hn' := (h.node?_eq n (mem_of_node? hn).1 hkind).trans (node?_id hn)
    rw [(mem_of_node? hn).2] at hn'
    rw [lineageFrom_of_mem hn hv, lineageFrom_of_mem hn' hv]
  | case3 visited id m hm hv ih =>
    obtain ⟨hmem, rfl⟩ := mem_of_node? hn
    have hn' := (h.node?_eq n hmem hkind).trans hn
    rw [lineageFrom_of_not_mem hn hv, lineageFrom_of_not_mem hn' hv, h.identitySource_eq hmem]
    refine bind_congr_of_ok fun s hs => ?_
    cases s with
    | ownKey key => rfl
    | dependent relation owner partialKey =>
      obtain ⟨hfound, hentity⟩ := of_base? hs rfl
      show (d'.lineageFrom (n.id :: visited) owner.id >>= _) = _
      rw [ih owner hfound hentity]
    | subclass specialization parent =>
      obtain ⟨hfound, hentity⟩ := of_base? hs rfl
      show (d'.lineageFrom (n.id :: visited) parent.id >>= _) = _
      rw [ih parent hfound hentity]

/-- The keys along a lineage are read. -/
theorem identityOf_eq (h : d.SameButEnds d') (hn : d.node? n.id = some n)
    (hkind : n.kind.isEntity = true) (hl : d.Descends n l) : d'.identityOf l = d.identityOf l := by
  induction hl with
  | @root n key hs =>
    exact h.leafColumns_primaryKey?_eq (mem_of_node? hn).1 (isRoot_of_isEntity hkind)
      (primaryKey?_of_ownKey hs)
  | @weak n relation owner partialKey l hs _ ih =>
    obtain ⟨howner, hentity⟩ := of_base? hs rfl
    rw [identityOf, identityOf, ih howner hentity, h.partialColumns_eq (mem_of_node? hn).1 hkind hs]
  | subclass hs _ ih =>
    obtain ⟨hparent, hentity⟩ := of_base? hs rfl
    rw [identityOf, identityOf, ih hparent hentity]

theorem identityColumns_eq (h : d.SameButEnds d') (hn : d.node? n.id = some n)
    (hkind : n.kind.isEntity = true) : d'.identityColumns n.id = d.identityColumns n.id := by
  rw [identityColumns, identityColumns, lineage, lineage, h.lineageFrom_eq hn hkind]
  exact bind_congr_of_ok fun l hl => h.identityOf_eq hn hkind ((lineage_eq_ok_iff hn).1 hl)

theorem foreignKeyColumns_eq (h : d.SameButEnds d') (hn : d.node? n.id = some n)
    (hkind : n.kind.isEntity = true) : d'.foreignKeyColumns n.id = d.foreignKeyColumns n.id := by
  rw [foreignKeyColumns, foreignKeyColumns, lineage, lineage, h.lineageFrom_eq hn hkind]
  refine bind_congr_of_ok fun l hl => ?_
  rw [h.identityOf_eq hn hkind ((lineage_eq_ok_iff hn).1 hl)]

/-! ## Tables -/

theorem identityTable_eq (h : d.SameButEnds d') (hn : d.node? n.id = some n)
    (hkind : n.kind.isEntity = true) : d'.identityTable n = d.identityTable n := by
  obtain ⟨hmem, -⟩ := mem_of_node? hn
  rw [identityTable, identityTable, h.identitySource_eq hmem]
  refine bind_congr_of_ok fun s hs => ?_
  cases s with
  | ownKey key =>
    show (d'.leafColumns key >>= _) = _
    rw [h.leafColumns_primaryKey?_eq hmem (isRoot_of_isEntity hkind) (primaryKey?_of_ownKey hs)]
  | dependent relation owner partialKey =>
    obtain ⟨howner, hentity⟩ := of_base? hs rfl
    show (d'.foreignKeyColumns owner.id >>= _) = _
    rw [h.foreignKeyColumns_eq howner hentity, h.partialColumns_eq hmem hkind hs]
  | subclass specialization parent =>
    show (d'.identityColumns n.id >>= _) = _
    rw [h.identityColumns_eq hn hkind]

theorem entityTable_eq (h : d.SameButEnds d') (hn : d.node? n.id = some n)
    (hkind : n.kind.isEntity = true) : d'.entityTable n = d.entityTable n := by
  obtain ⟨hmem, -⟩ := mem_of_node? hn
  have hroot := isRoot_of_isEntity hkind
  rw [entityTable, entityTable, h.identityTable_eq hn hkind, h.alternativeKey_eq hmem hroot,
    h.attributeColumns_eq hmem hroot]

/-- The references of a relation lead to entities. -/
theorem addEnd_eq (h : d.SameButEnds d') {e : Neighbor} {relation : String}
    (he : e ∈ d.entityEnds relation) (t : Table) : d'.addEnd t e = d.addEnd t e := by
  obtain ⟨hnear, hentity⟩ := mem_entityEnds_iff.1 he
  rw [addEnd, addEnd, h.foreignKeyColumns_eq (node?_of_mem_neighbors hnear) hentity]

theorem junctionTable_eq (h : d.SameButEnds d') (hn : n ∈ d.nodes) (hkind : n.kind = .relation)
    (hends : d'.entityEnds n.id = d.entityEnds n.id) : d'.junctionTable n = d.junctionTable n := by
  have hroot : n.kind.isRoot = true := by rw [hkind]; rfl
  rw [junctionTable, junctionTable, hends, h.primaryKey?_eq n hn hroot,
    h.attributeColumns_eq hn hroot,
    foldlM_congr fun e he t => h.addEnd_eq he t]
  refine bind_congr_of_ok fun ends _ => ?_
  cases hk : d.primaryKey? n.id with
  | none => rfl
  | some k =>
    dsimp only
    rw [h.leafColumns_primaryKey?_eq hn hroot hk]

theorem multiValuedTable_eq (h : d.SameButEnds d') (hn : n ∈ d.nodes)
    (hkind : n.kind = .attr .multiValued) : d'.multiValuedTable n = d.multiValuedTable n := by
  rw [multiValuedTable, multiValuedTable, h.entityOwner_eq n hn hkind]
  refine bind_congr_of_ok fun owner howner => ?_
  obtain ⟨-, hfound, hentity⟩ := of_entityOwner howner
  rw [h.foreignKeyColumns_eq hfound hentity]

/-! ## Steps -/

/-- A relation is the same addition if the keys that are made of it do the same. -/
theorem addRelationKey_eq (h : d.SameButEnds d') (hn : n ∈ d.nodes) (hkind : n.kind = .relation)
    {key key' : RelationKey} (hkey : d.relationKey n = .ok key)
    (hkey' : d'.relationKey n = .ok key') (hsame : key'.SameEffect key) (s : Draft) :
    d'.addRelationKey s n = d.addRelationKey s n := by
  have hroot : n.kind.isRoot = true := by rw [hkind]; rfl
  obtain ⟨e, he, htarget⟩ := target_of_relationKey hkey
  obtain ⟨hnear, hentity⟩ := mem_entityEnds_iff.1 he
  have hrefs : d'.foreignKeyColumns key.target.id = d.foreignKeyColumns key.target.id := by
    rw [← htarget, h.foreignKeyColumns_eq (node?_of_mem_neighbors hnear) hentity]
  simp only [addRelationKey, hkey, hkey', ok_bind, hsame.target_eq, hsame.holder_eq,
    hsame.isNullable_eq, hsame.extend_eq, hrefs, h.attributeColumns_eq hn hroot]

theorem addRelation_eq (h : d.SameButEnds d') (hn : n ∈ d.nodes) (hkind : n.kind = .relation)
    (hends : d'.entityEnds n.id = d.entityEnds n.id) (s : Draft) :
    d'.addRelation s n = d.addRelation s n := by
  have hcardinality := h.cardinality_eq n hn (by rw [hkind]; rfl)
  have hsame : d'.relationKey n = d.relationKey n := by
    rw [relationKey, relationKey, hends, hcardinality]
  have hadd : d'.addRelationKey s n = d.addRelationKey s n := by
    cases hkey : d.relationKey n with
    | error e => simp only [addRelationKey, hsame, hkey]; rfl
    | ok key => exact h.addRelationKey_eq hn hkind hkey (hsame.trans hkey) (.refl key) s
  rw [addRelation, addRelation, hcardinality, hadd, h.junctionTable_eq hn hkind hends]

theorem specializationTie_eq (h : d.SameButEnds d') (hn : n ∈ d.nodes)
    (hkind : n.kind.isSpecialization = true) (form : SpecializationKind) :
    d'.specializationTie n form = d.specializationTie n form := by
  have hparent : d'.parent? n.id = d.parent? n.id :=
    congrArg List.head? (h.parents_eq n hn hkind)
  unfold specializationTie
  rw [hparent, h.children_eq n hn hkind]
  cases hp : d.parent? n.id with
  | none => rfl
  | some parent =>
    obtain ⟨hfound, hentity⟩ := of_parent? hp
    dsimp only
    rw [h.foreignKeyColumns_eq hfound hentity]

/-- Every node is the same step, apart from plain relations with other ends. -/
theorem build_eq (h : d.SameButEnds d') (hn : d.node? n.id = some n)
    (hends : n.kind = .relation → d'.entityEnds n.id = d.entityEnds n.id) (s : Draft) :
    d'.build s n = d.build s n := by
  obtain ⟨hmem, -⟩ := mem_of_node? hn
  cases hk : n.kind with
  | entity | weakEntity =>
    simp only [build, hk, h.entityTable_eq hn (by rw [hk]; rfl)]
  | relation => simp only [build, hk, h.addRelation_eq hmem hk (hends hk)]
  | specialization form =>
    simp only [build, hk, addSpecialization, h.specializationTie_eq hmem (by rw [hk]; rfl)]
  | dependency _ => simp only [build, hk]
  | attr role =>
    cases role with
    | multiValued => simp only [build, hk, h.multiValuedTable_eq hmem hk]
    | plain | key | alternativeKey | derived => simp only [build, hk]

/-- If every node is the same step, the diagrams have the same schema, or the same fault. -/
theorem synthesize_eq_of_build (h : d.SameButEnds d')
    (hbuild : ∀ n ∈ d.nodes, ∀ s, d'.build s n = d.build s n) : d'.synthesize = d.synthesize := by
  rw [synthesize, synthesize, h.buildOrder_eq]
  rw [foldlM_congr fun n hn s => hbuild n (mem_nodes_of_mem_buildOrder hn) s]

end SameButEnds

/-- Diagrams that answer alike have the same schema, or the same fault. -/
theorem SameAnswers.synthesize_eq (h : d.SameAnswers d') (hd : d.DistinctIds) :
    d'.synthesize = d.synthesize :=
  h.synthesize_eq_of_build fun n hn s =>
    h.build_eq (node?_of_mem hd hn) (h.relationEnds_eq n hn) s

end Diagram

end EntityRelationship
