import EntityRelationship.Proofs.Diagnostic.EdgeForm
import EntityRelationship.Proofs.Diagnostic.Resolution
import EntityRelationship.Proofs.Diagram.Members
import EntityRelationship.Proofs.Relational.Identity
import EntityRelationship.Proofs.Relational.Run

/-!
# Keys that name columns

A key or foreign key that names no column has no meaning. Most of those in a schema are made from
the columns that refer to some entity, or have a column of their own besides. The columns that refer
to an entity go back to the key at the end of its lineage. So all of them name columns if the keys of
entities and of relations between many and many have leaves, and otherwise some table has a primary
key without columns.

No rule asks for a leaf. Accepted diagrams have keys without leaves, but only where members form a
ring.
-/

namespace EntityRelationship

open Outcome

variable {d : Diagram} {k n : Node} {l : Lineage} {s s' : Draft} {t : Table}
  {refs : List Reference} {cs : List Column} {ks : List Constraint} {columns : List TypedName}

/-! ## Constraints that name columns -/

/-- The lists of columns that a constraint names. -/
def Constraint.columnLists : Constraint → List (List String)
  | key _ columns => [columns]
  | foreignKey k => [k.columns, k.references]
  | check _ => []

/-- If a constraint is a key or a foreign key, it names some column. -/
def Constraint.Filled (c : Constraint) : Prop :=
  ∀ columns ∈ c.columnLists, columns ≠ []

/-- The keys and foreign keys that are declared with a table name some column each. A key that is
declared with a column names this one. -/
def Table.Filled (t : Table) : Prop :=
  ∀ c ∈ t.constraints, c.Filled

instance (c : Constraint) : Decidable c.Filled :=
  inferInstanceAs (Decidable (∀ columns ∈ c.columnLists, columns ≠ []))

instance (t : Table) : Decidable t.Filled :=
  inferInstanceAs (Decidable (∀ c ∈ t.constraints, c.Filled))

namespace Constraint

theorem filled_key {kind : KeyKind} {names : List String} : (key kind names).Filled ↔ names ≠ [] := by
  simp [Filled, columnLists]

theorem filled_check (condition : String) : (check condition).Filled := by
  simp [Filled, columnLists]

/-- A foreign key names columns if it is made from references or has a shared column. -/
theorem filled_ofReferences {shared : List String} {cascade : Bool}
    (h : refs ≠ [] ∨ shared ≠ []) :
    (foreignKey (.ofReferences refs shared n cascade)).Filled := by
  simp only [Filled, columnLists, ForeignKey.ofReferences, List.mem_cons, List.not_mem_nil, or_false]
  rintro names (rfl | rfl) hnil
  · rw [List.append_eq_nil_iff, List.map_eq_nil_iff] at hnil
    exact h.elim (· hnil.1) (· hnil.2)
  · rw [List.append_eq_nil_iff, List.map_eq_nil_iff] at hnil
    exact h.elim (· hnil.1) (· hnil.2)

end Constraint

namespace Table

theorem filled_blank (name : String) : (blank name).Filled :=
  fun _ hc => absurd hc List.not_mem_nil

theorem Filled.extend (h : t.Filled) (cs : List Column) (hks : ∀ c ∈ ks, c.Filled) :
    (t.extend cs ks).Filled := by
  intro c hc
  rcases List.mem_append.1 hc with hc | hc
  · exact h c hc
  · exact hks c hc

theorem Filled.addKey (h : t.Filled) (kind : KeyKind) (hcs : cs ≠ []) :
    (t.addKey kind cs).Filled := by
  have hlisted : (t.extend cs [.key kind (Column.names cs)]).Filled :=
    h.extend cs fun c hc => by
      rw [List.mem_singleton.1 hc, Constraint.filled_key, Column.names, Ne, List.map_eq_nil_iff]
      exact hcs
  rcases cs with _ | ⟨c, _ | ⟨c', cs⟩⟩
  · exact absurd rfl hcs
  · exact h.extend _ (by simp)
  · exact hlisted

theorem Filled.pushAll (h : t.Filled) (owner : String) (cs : List Column) :
    (t.pushAll owner cs).Filled := by
  rw [Filled, constraints_pushAll]
  exact h

end Table

/-! ## Additions to tables -/

/-- The holder of a relation's foreign key goes on to be filled. -/
theorem RelationKey.filled_extend (key : RelationKey) (hrefs : refs ≠ []) (attributes : List Column)
    (h : t.Filled) : (key.extend refs attributes t).Filled := by
  unfold RelationKey.extend
  extract_lets refs' columns table
  have hrefs' : refs' ≠ [] := by
    simpa [refs', rename] using hrefs
  have htable : table.Filled := by
    unfold table
    split
    · exact h.addKey .unique (by rwa [Ne, List.map_eq_nil_iff])
    · exact h.extend columns (by simp)
  refine (htable.extend [] fun c hc => ?_).pushAll _ _
  rw [List.mem_singleton.1 hc]
  exact Constraint.filled_ofReferences (.inl hrefs')

namespace SpecializationTie

theorem filled_parentKey (tie : SpecializationTie) (shared : String) :
    (tie.parentKey shared).Filled :=
  Constraint.filled_key.2 (by simp)

theorem filled_childKey (tie : SpecializationTie) (shared : String) :
    (tie.childKey shared).Filled :=
  Constraint.filled_ofReferences (.inr (by simp))

/-- The keys of a specialization include the shared column. -/
theorem filled_of_mem_exclusiveAdditions {tie : SpecializationTie} {discriminator : String}
    {a : Addition} (ha : a ∈ tie.exclusiveAdditions discriminator) :
    ∀ c ∈ a.constraints, c.Filled := by
  intro c hc
  rcases List.mem_cons.1 ha with rfl | ha
  · simp only [List.mem_cons, List.not_mem_nil, or_false] at hc
    rcases hc with rfl | rfl
    · exact Constraint.filled_check _
    · exact tie.filled_parentKey discriminator
  · obtain ⟨m, -, rfl⟩ := List.mem_map.1 ha
    rw [List.mem_singleton.1 hc]
    exact tie.filled_childKey discriminator

theorem filled_of_mem_overlappedAdditions {tie : SpecializationTie} {flags : List String}
    {a : Addition} (ha : a ∈ tie.overlappedAdditions flags) : ∀ c ∈ a.constraints, c.Filled := by
  intro c hc
  rcases List.mem_cons.1 ha with rfl | ha
  · rcases List.mem_append.1 hc with hc | hc
    · obtain ⟨flag, -, rfl⟩ := List.mem_map.1 hc
      exact tie.filled_parentKey flag
    · split at hc
      · rw [List.mem_singleton.1 hc]
        exact Constraint.filled_check _
      · cases hc
  · rw [← List.map_uncurry_zip_eq_zipWith] at ha
    obtain ⟨⟨m, flag⟩, -, rfl⟩ := List.mem_map.1 ha
    rw [List.mem_singleton.1 hc]
    exact tie.filled_childKey flag

end SpecializationTie

namespace Diagram

/-! ## Leaves of keys -/

/-- An attribute has as many columns as leaves. -/
theorem leafColumns_eq_nil_iff (h : d.leafColumns k = .ok columns) :
    columns = [] ↔ d.leaves k = [] := by
  rw [← List.length_eq_zero_iff, ← (mapM_eq_ok_iff.1 h).length_eq, List.length_eq_zero_iff]

/-- The columns of an attribute make up the primary key of a node's table: it is the key of an entity
that is built on no other, or the key of a relation between many and many. -/
def KeyOf (d : Diagram) (n k : Node) : Prop :=
  d.identitySource n = .ok (.ownKey k) ∨
    n.kind = .relation ∧ d.cardinality n.id = .manyToMany ∧ d.primaryKey? n.id = some k

instance (d : Diagram) (n k : Node) : Decidable (d.KeyOf n k) :=
  inferInstanceAs (Decidable (_ ∨ _))

/-- Such a key is found under its id. -/
theorem KeyOf.node?_eq (h : d.KeyOf n k) : d.node? k.id = some k := by
  rcases h with hsource | ⟨-, -, hprimary⟩
  · exact (of_primaryKey? (primaryKey?_of_ownKey hsource)).1
  · exact (of_primaryKey? hprimary).1

/-- All keys that tables are made from have leaves. -/
def KeysHaveLeaves (d : Diagram) : Prop :=
  ∀ n ∈ d.nodes, ∀ k, d.KeyOf n k → d.leaves k ≠ []

/-- An identity has columns, for it goes back to the key of some entity. -/
theorem KeysHaveLeaves.identityOf_ne_nil (h : d.KeysHaveLeaves) (hl : d.Descends n l)
    (hn : n ∈ d.nodes) (hcolumns : d.identityOf l = .ok columns) : columns ≠ [] := by
  induction hl generalizing columns with
  | root hs => exact fun hnil => h _ hn _ (.inl hs) ((leafColumns_eq_nil_iff hcolumns).1 hnil)
  | weak hs _ ih =>
    obtain ⟨inherited, hinherited, hcolumns⟩ := bind_eq_ok_iff.1 hcolumns
    obtain ⟨own, -, hcolumns⟩ := bind_eq_ok_iff.1 hcolumns
    cases hcolumns
    have hne := ih (mem_of_node? (of_base? hs rfl).1).1 hinherited
    simp [hne]
  | subclass hs _ ih =>
    obtain ⟨inherited, hinherited, hcolumns⟩ := bind_eq_ok_iff.1 hcolumns
    cases hcolumns
    have hne := ih (mem_of_node? (of_base? hs rfl).1).1 hinherited
    simp [hne]

theorem KeysHaveLeaves.identityColumns_ne_nil (h : d.KeysHaveLeaves) (hn : d.node? n.id = some n)
    (hcolumns : d.identityColumns n.id = .ok columns) : columns ≠ [] := by
  obtain ⟨l, hl, hcolumns⟩ := bind_eq_ok_iff.1 hcolumns
  exact h.identityOf_ne_nil ((lineage_eq_ok_iff hn).1 hl) (mem_of_node? hn).1 hcolumns

theorem KeysHaveLeaves.foreignKeyColumns_ne_nil (h : d.KeysHaveLeaves) (hn : d.node? n.id = some n)
    (hrefs : d.foreignKeyColumns n.id = .ok refs) : refs ≠ [] := by
  have hne := h.identityColumns_ne_nil hn (identityColumns_of_foreignKeyColumns hrefs)
  rwa [Ne, List.map_eq_nil_iff] at hne

/-! ## New tables -/

theorem KeysHaveLeaves.filled_identityTable (h : d.KeysHaveLeaves) (hn : d.node? n.id = some n)
    (ht : d.identityTable n = .ok t) : t.Filled := by
  obtain ⟨source, hs, ht⟩ := bind_eq_ok_iff.1 ht
  cases source with
  | ownKey key =>
    obtain ⟨columns, hcolumns, ht⟩ := bind_eq_ok_iff.1 ht
    cases ht
    refine (Table.filled_blank _).addKey .primary fun hnil => ?_
    rw [List.map_eq_nil_iff, leafColumns_eq_nil_iff hcolumns] at hnil
    exact h n (mem_of_node? hn).1 key (.inl hs) hnil
  | dependent relation owner partialKey =>
    obtain ⟨refs, hrefs, ht⟩ := bind_eq_ok_iff.1 ht
    obtain ⟨own, -, ht⟩ := bind_eq_ok_iff.1 ht
    cases ht
    have hne := h.foreignKeyColumns_ne_nil (of_base? hs rfl).1 hrefs
    refine (Table.filled_blank _).extend _ fun c hc => ?_
    simp only [List.mem_cons, List.not_mem_nil, or_false] at hc
    rcases hc with rfl | rfl
    · exact Constraint.filled_key.2 (by simp [Column.names, hne])
    · exact Constraint.filled_ofReferences (.inl hne)
  | subclass specialization parent =>
    obtain ⟨columns, hcolumns, ht⟩ := bind_eq_ok_iff.1 ht
    cases ht
    have hne := h.identityColumns_ne_nil hn hcolumns
    refine (Table.filled_blank _).extend _ fun c hc => ?_
    rw [List.mem_singleton.1 hc]
    exact Constraint.filled_key.2 (by simp [Column.names, hne])

theorem KeysHaveLeaves.filled_entityTable (h : d.KeysHaveLeaves) (hn : d.node? n.id = some n)
    (ht : d.entityTable n = .ok t) : t.Filled := by
  obtain ⟨identity, alternative, columns, hidentity, -, -, rfl⟩ := of_entityTable ht
  have hfilled := h.filled_identityTable hn hidentity
  refine Table.Filled.pushAll ?_ _ _
  split
  · exact hfilled
  · next hne => exact hfilled.addKey .unique hne

/-- Each end of a relation adds columns and a foreign key that names them. -/
theorem KeysHaveLeaves.addEnd (h : d.KeysHaveLeaves) {relation : String} {e : Neighbor}
    (he : e ∈ d.entityEnds relation) {t' : Table} (ht : t.Filled) (hstep : d.addEnd t e = .ok t') :
    t'.Filled ∧ t'.columnNames ≠ [] := by
  obtain ⟨refs, hrefs, hstep⟩ := bind_eq_ok_iff.1 hstep
  cases hstep
  have hne := h.foreignKeyColumns_ne_nil (node?_of_mem_neighbors (mem_entityEnds_iff.1 he).1) hrefs
  constructor
  · refine ht.extend _ fun c hc => ?_
    rw [List.mem_singleton.1 hc]
    exact Constraint.filled_ofReferences (.inl (by simpa using hne))
  · simp [Table.columnNames, Column.names, hne]

/-- The table of a relation has a primary key that names the key of the relation or all of the
referring columns. -/
theorem KeysHaveLeaves.filled_junctionTable (h : d.KeysHaveLeaves) (hn : n ∈ d.nodes)
    (hkind : n.kind = .relation) (hmany : d.cardinality n.id = .manyToMany)
    (hne : d.entityEnds n.id ≠ []) (ht : d.junctionTable n = .ok t) : t.Filled := by
  obtain ⟨ends, keyed, attributes, hends, -, rfl, hkeyed⟩ := of_junctionTable ht
  have hfilled : ends.Filled ∧ ends.columnNames ≠ [] := by
    obtain ⟨e, es, hes⟩ := List.exists_cons_of_ne_nil hne
    have hmem (x : Neighbor) (hx : x ∈ e :: es) : x ∈ d.entityEnds n.id := hes ▸ hx
    rw [hes, List.foldlM_cons, bind_eq_ok_iff] at hends
    obtain ⟨first, hfirst, hends⟩ := hends
    refine foldlM_induction (I := fun t => t.Filled ∧ t.columnNames ≠ []) ?_ hends
      (h.addEnd (hmem e List.mem_cons_self) (Table.filled_blank _) hfirst)
    exact fun t x t' hx ht hstep => h.addEnd (hmem x (List.mem_cons_of_mem e hx)) ht.1 hstep
  refine Table.Filled.pushAll ?_ _ _
  rcases hkeyed with ⟨-, rfl⟩ | ⟨key, columns, hkey, hcolumns, rfl⟩
  · refine hfilled.1.extend _ fun c hc => ?_
    rw [List.mem_singleton.1 hc]
    exact Constraint.filled_key.2 hfilled.2
  · refine hfilled.1.addKey .primary fun hnil => ?_
    rw [List.map_eq_nil_iff, leafColumns_eq_nil_iff hcolumns] at hnil
    exact h n hn key (.inr ⟨hkind, hmany, hkey⟩) hnil

theorem KeysHaveLeaves.filled_multiValuedTable (h : d.KeysHaveLeaves)
    (ht : d.multiValuedTable n = .ok t) : t.Filled := by
  obtain ⟨owner, howner, ht⟩ := bind_eq_ok_iff.1 ht
  obtain ⟨refs, hrefs, ht⟩ := bind_eq_ok_iff.1 ht
  obtain ⟨value, -, ht⟩ := bind_eq_ok_iff.1 ht
  cases ht
  obtain ⟨-, hfound, -⟩ := of_entityOwner howner
  refine ((Table.filled_blank _).extend _ (by simp)).extend _ fun c hc => ?_
  simp only [List.mem_cons, List.not_mem_nil, or_false] at hc
  rcases hc with rfl | rfl
  · exact Constraint.filled_key.2 (by simp)
  · exact Constraint.filled_ofReferences (.inl (h.foreignKeyColumns_ne_nil hfound hrefs))

/-! ## Runs -/

/-- Every step leaves tables that are filled. -/
theorem KeysHaveLeaves.step (h : d.KeysHaveLeaves) (haccepted : d.Accepted) (hd : d.DistinctIds)
    (hn : n ∈ d.nodes) (hstep : d.Step s n s') (hs : ∀ t ∈ s.tables, t.table.Filled) :
    ∀ t ∈ s'.tables, t.table.Filled := by
  have hadd {t : Table} (ht : t.Filled) : ∀ r ∈ (s.add n t).tables, r.table.Filled := by
    intro r hr
    rcases List.mem_append.1 hr with hr | hr
    · exact hs r hr
    · rw [List.mem_singleton.1 hr]
      exact ht
  cases hstep with
  | entity _ ht => exact hadd (h.filled_entityTable (node?_of_mem hd hn) ht)
  | junction hkind hmany ht =>
    have hends := haccepted.two_le_length_entityEnds hn (by rw [hkind]; rfl)
    have hne : d.entityEnds n.id ≠ [] := List.ne_nil_of_length_pos (by omega)
    exact hadd (h.filled_junctionTable hn hkind hmany hne ht)
  | values _ ht => exact hadd (h.filled_multiValuedTable ht)
  | @foreignKey _ key refs attributes _ _ hkey hrefs _ hs' =>
    obtain ⟨e, he, htarget⟩ := target_of_relationKey hkey
    have hfound := node?_of_mem_neighbors (mem_entityEnds_iff.1 he).1
    rw [htarget] at hfound
    exact Draft.forall_tables_update hs' hs fun t ht =>
      key.filled_extend (h.foreignKeyColumns_ne_nil hfound hrefs) attributes ht
  | exclusive _ _ _ _ hs' =>
    exact Draft.forall_tables_foldlM_append hs' hs fun a ha t ht =>
      ht.extend a.columns (SpecializationTie.filled_of_mem_exclusiveAdditions ha)
  | overlapped _ _ _ _ hs' =>
    exact Draft.forall_tables_foldlM_append hs' hs fun a ha t ht =>
      ht.extend a.columns (SpecializationTie.filled_of_mem_overlappedAdditions ha)
  | idle _ _ _ => exact hs

/-- If the keys have leaves, all tables are filled. -/
theorem KeysHaveLeaves.filled_of_synthesize (h : d.KeysHaveLeaves) (haccepted : d.Accepted)
    (hd : d.DistinctIds) {schema : Schema} (hs : d.synthesize = .ok schema) :
    ∀ t ∈ schema.tables, t.Filled := by
  obtain ⟨s, hrun, hs⟩ := bind_eq_ok_iff.1 hs
  cases hs
  have hend : ∀ t ∈ s.tables, t.table.Filled :=
    foldlM_induction (I := fun s => ∀ t ∈ s.tables, t.table.Filled)
      (fun s n s' hn hs hbuild =>
        h.step haccepted hd (mem_nodes_of_mem_buildOrder hn) (step_of_build hbuild) hs)
      hrun fun t ht => absurd ht List.not_mem_nil
  intro u hu
  obtain ⟨t, ht, rfl⟩ := List.mem_map.1 hu
  exact hend t ht

/-- A key without leaves makes a primary key without columns in the table of its node. -/
theorem exists_not_filled_of_keyOf {schema : Schema} (hs : d.synthesize = .ok schema)
    (hn : n ∈ d.nodes) (hk : d.KeyOf n k) (hleaves : d.leaves k = []) :
    ∃ t ∈ schema.tables, ¬ t.Filled := by
  suffices hempty : ∃ t : Table, ∃ t' ∈ schema.tables,
      t.Extends t' ∧ .key .primary [] ∈ t.constraints by
    obtain ⟨t, t', ht', hgrows, hkey⟩ := hempty
    exact ⟨t', ht', fun hfilled =>
      Constraint.filled_key.1 (hfilled _ (hgrows.constraints.subset hkey)) rfl⟩
  rcases hk with hsource | ⟨hkind, hmany, hprimary⟩
  · have hentity : n.kind.isEntity = true := by
      rw [(of_identitySource_ownKey hsource).1]
      rfl
    obtain ⟨t, ht, t', ht', hgrows⟩ := exists_table_of_entity hs hn hentity
    obtain ⟨identity, -, -, hidentity, -⟩ := of_entityTable ht
    refine ⟨identity, t', ht', (extends_entityTable hidentity ht).trans hgrows, ?_⟩
    obtain ⟨source, hsource', hidentity⟩ := bind_eq_ok_iff.1 hidentity
    obtain rfl := Except.ok.inj (hsource.symm.trans hsource')
    obtain ⟨columns, hcolumns, hidentity⟩ := bind_eq_ok_iff.1 hidentity
    cases hidentity
    rw [(leafColumns_eq_nil_iff hcolumns).2 hleaves]
    exact List.mem_singleton_self _
  · obtain ⟨s, s', s'', -, hbuild, hrest, rfl⟩ :=
      exists_step_of_later hs (mem_laterNodes_iff.2 ⟨hn, .inl hkind⟩)
    have htable : ∃ t, d.junctionTable n = .ok t ∧ s' = s.add n t := by
      unfold build at hbuild
      simp only [hkind, addRelation, hmany] at hbuild
      obtain ⟨t, ht, hbuild⟩ := bind_eq_ok_iff.1 hbuild
      cases hbuild
      exact ⟨t, ht, rfl⟩
    obtain ⟨t, ht, rfl⟩ := htable
    obtain ⟨t', ht', hgrows⟩ := hrest.exists_table (r := ⟨n, t⟩)
      (List.mem_append_right _ (List.mem_singleton_self _))
    refine ⟨t, t', ht', hgrows, ?_⟩
    obtain ⟨ends, keyed, attributes, -, -, rfl, ⟨hnone, -⟩ | ⟨key, columns, hkey, hcolumns, rfl⟩⟩ :=
      of_junctionTable ht
    · rw [hprimary] at hnone
      cases hnone
    · obtain rfl := Option.some.inj (hprimary.symm.trans hkey)
      rw [(leafColumns_eq_nil_iff hcolumns).2 hleaves, Table.constraints_pushAll]
      exact List.mem_append_right _ (List.mem_singleton_self _)

/-- In an accepted diagram a key has no columns exactly if nothing without members is reached from it,
and then members form a ring below it. The keys and foreign keys of the schema name columns exactly
if something without members is reached from every key of which a table is made. -/
theorem Accepted.filled_iff_hasLeaf (h : d.Accepted) (hd : d.DistinctIds) :
    (∀ k ∈ d.nodes, k.kind = .attr .key → ∃ columns, d.leafColumns k = .ok columns ∧
      (columns = [] ↔ ¬ d.HasLeaf k.id) ∧
      (columns = [] → ∃ id, d.ReachesMember k.id id ∧ d.OnRing id)) ∧
    ∀ schema, d.synthesize = .ok schema →
      ((∀ t ∈ schema.tables, t.Filled) ↔
        ∀ n ∈ d.nodes, ∀ k ∈ d.nodes, d.KeyOf n k → d.HasLeaf k.id) := by
  constructor
  · intro k hk hkind
    have hfound := node?_of_mem hd hk
    obtain ⟨columns, hcolumns⟩ := h.exists_leafColumns hfound (by rw [hkind]; rfl)
    have hnil := (leafColumns_eq_nil_iff hcolumns).trans (leaves_eq_nil_iff hfound)
    exact ⟨columns, hcolumns, hnil, fun hcs => exists_onRing_of_not_hasLeaf (hnil.1 hcs)⟩
  · intro schema hs
    constructor
    · intro hfilled n hn k hk hkey
      by_contra hleaf
      obtain ⟨t, ht, hempty⟩ := exists_not_filled_of_keyOf hs hn hkey
        ((leaves_eq_nil_iff (node?_of_mem hd hk)).2 hleaf)
      exact hempty (hfilled t ht)
    · intro hleaf
      have hkeys : d.KeysHaveLeaves := by
        intro n hn k hkey hnil
        have hfound := hkey.node?_eq
        exact (leaves_eq_nil_iff hfound).1 hnil (hleaf n hn k (mem_of_node? hfound).1 hkey)
      exact hkeys.filled_of_synthesize h hd hs

/-- The key of the clinic's patients has members, and all keys name columns. -/
theorem filled_clinic :
    clinic.Accepted ∧ clinic.DistinctIds ∧
      (∃ columns, clinic.leafColumns ⟨"pid", .attr .key, "pid", none⟩ = .ok columns ∧
        columns ≠ []) ∧
      ∃ schema, clinic.synthesize = .ok schema ∧ ∀ t ∈ schema.tables, t.Filled := by
  have hdistinct : clinic.DistinctIds := by decide +kernel
  have hsome : clinic.synthesize.toOption.any (fun _ => true) = true := by decide +kernel
  obtain ⟨schema, hs, -⟩ := exists_eq_ok_of_any hsome
  obtain ⟨hcolumns, hfilled⟩ := accepted_clinic.filled_iff_hasLeaf hdistinct
  obtain ⟨columns, hpid, hnil, -⟩ :=
    hcolumns ⟨"pid", .attr .key, "pid", none⟩ (by decide +kernel) rfl
  have hleaf : clinic.HasLeaf "pid" := by decide +kernel
  have hkeys : ∀ n ∈ clinic.nodes, ∀ k ∈ clinic.nodes, clinic.KeyOf n k → clinic.HasLeaf k.id := by
    decide +kernel
  exact ⟨accepted_clinic, hdistinct, ⟨columns, hpid, fun h => hnil.1 h hleaf⟩, schema, hs,
    (hfilled schema hs).2 hkeys⟩

/-- People whose key has two members, each of which is a member of the other. -/
def ringed : Diagram where
  nodes := [
    ⟨"p", .entity, "Person", none⟩,
    ⟨"k", .attr .key, "id", none⟩,
    ⟨"a", .attr .plain, "first:TEXT", none⟩,
    ⟨"b", .attr .plain, "second:TEXT", none⟩]
  edges := [
    ⟨"edge-1", .transition, "p", "k", none⟩,
    ⟨"edge-2", .transition, "k", "a", none⟩,
    ⟨"edge-3", .transition, "a", "b", none⟩,
    ⟨"edge-4", .transition, "b", "a", none⟩]

/-- In a diagram about which there is no diagnostic a key can be without columns, and a table can
have a primary key that names none. -/
theorem exists_key_without_columns :
    ringed.validate = [] ∧ ringed.DistinctIds ∧ ringed.checkReferences = .ok () ∧
      ringed.leafColumns ⟨"k", .attr .key, "id", none⟩ = .ok [] ∧
      ringed.synthesize = .ok ⟨[⟨"Person", [], [.key .primary []]⟩]⟩ := by
  decide +kernel

end Diagram

end EntityRelationship
