import EntityRelationship.Proofs.Diagnostic.Resolution
import EntityRelationship.Proofs.Relational.Identity
import Mathlib.Data.List.Forall2

/-!
# Referential integrity

Every foreign key of the schema of an accepted diagram leads to a table of the schema. It refers to
columns there that are declared as a key, one for each of its own columns and of the same type.

Two things hold of every draft from the moment when the entities are taken: the table of each entity
offers the entity's identity, and the foreign keys that are there lead to what they refer to. Tables
only grow, so a step has to be looked at only for the foreign keys that it adds. Most of them refer
to the identity of an entity. Those of a specialization refer to the identity of the parent together
with a shared column, and so to a key that the parent's table declares in the same step.
-/

namespace EntityRelationship

open Outcome

variable {d : Diagram} {m n : Node} {s s' : Draft} {t t' u : Table} {k : ForeignKey}
  {refs : List Reference} {tables tables' : List Table}

/-! ## The foreign keys of a table -/

/-- The foreign key that a constraint is, if it is one. -/
def Constraint.foreignKey? : Constraint → Option ForeignKey
  | foreignKey k => some k
  | _ => none

namespace Table

/-- The foreign keys of a table. -/
def foreignKeys (t : Table) : List ForeignKey :=
  t.constraints.filterMap (·.foreignKey?)

theorem mem_foreignKeys_iff : k ∈ t.foreignKeys ↔ .foreignKey k ∈ t.constraints := by
  rw [foreignKeys, List.mem_filterMap]
  constructor
  · rintro ⟨c, hc, hk⟩
    cases c with
    | foreignKey k' =>
      cases hk
      exact hc
    | key _ _ => cases hk
    | check _ => cases hk
  · intro hk
    exact ⟨_, hk, rfl⟩

@[simp] theorem foreignKeys_blank (name : String) : (blank name).foreignKeys = [] := rfl

@[simp] theorem foreignKeys_extend (t : Table) (cs : List Column) (ks : List Constraint) :
    (t.extend cs ks).foreignKeys = t.foreignKeys ++ ks.filterMap (·.foreignKey?) := by
  simp [foreignKeys]

/-- A key is no foreign key. -/
@[simp] theorem foreignKeys_addKey (t : Table) (kind : KeyKind) (cs : List Column) :
    (t.addKey kind cs).foreignKeys = t.foreignKeys := by
  rcases cs with _ | ⟨c, _ | ⟨c', cs⟩⟩ <;> simp [addKey, Constraint.foreignKey?]

@[simp] theorem foreignKeys_pushAll (t : Table) (owner : String) (cs : List Column) :
    (t.pushAll owner cs).foreignKeys = t.foreignKeys := by
  simp [foreignKeys]

end Table

/-! ## Sound foreign keys -/

/-- A foreign key of a table is sound among some tables: one of these has its name and declares the
columns referred to as a key, and position by position the two columns exist and have one type. -/
structure ForeignKey.Sound (tables : List Table) (t : Table) (k : ForeignKey) : Prop where
  length_eq : k.columns.length = k.references.length
  target : ∃ u ∈ tables, u.name = k.table ∧ u.Declares k.references ∧
    ∀ (i : Nat) (name referred : String), k.columns[i]? = some name →
      k.references[i]? = some referred → ∃ type,
        (⟨name, type⟩ : TypedName) ∈ t.typedNames ∧ (⟨referred, type⟩ : TypedName) ∈ u.typedNames

/-- All foreign keys of a schema are sound. -/
def Schema.Integral (schema : Schema) : Prop :=
  ∀ t ∈ schema.tables, ∀ k ∈ t.foreignKeys, k.Sound schema.tables t

namespace ForeignKey

/-- A foreign key that is sound stays so while the tables grow. -/
theorem Sound.mono (h : k.Sound tables t) (ht : t.Extends t')
    (htables : ∀ u ∈ tables, ∃ u' ∈ tables', u.Extends u') : k.Sound tables' t' where
  length_eq := h.length_eq
  target := by
    obtain ⟨u, hu, hname, hkey, hcolumns⟩ := h.target
    obtain ⟨u', hu', hextends⟩ := htables u hu
    refine ⟨u', hu', hextends.name_eq.trans hname, hextends.declares hkey, ?_⟩
    intro i name referred hi hi'
    obtain ⟨type, hmem, hmem'⟩ := hcolumns i name referred hi hi'
    exact ⟨type, ht.mem_typedNames hmem, hextends.mem_typedNames hmem'⟩

/-- References with shared columns make a sound foreign key if the tables have what it names. -/
theorem sound_ofReferences (shared : List TypedName) {cascade : Bool} (hu : u ∈ tables)
    (hname : u.name = n.safeName)
    (hkey : u.Declares (refs.map (·.references) ++ shared.map (·.name)))
    (hrefs : ∀ r ∈ refs, r.column ∈ t.typedNames ∧ r.target ∈ u.typedNames)
    (hshared : ∀ c ∈ shared, c ∈ t.typedNames ∧ c ∈ u.typedNames) :
    (ofReferences refs (shared.map (·.name)) n cascade).Sound tables t := by
  -- a referring column is paired with its target, and a shared one with itself
  have hpairs : List.Forall₂ (fun name referred => ∃ type,
      (⟨name, type⟩ : TypedName) ∈ t.typedNames ∧ (⟨referred, type⟩ : TypedName) ∈ u.typedNames)
      (refs.map (·.column.name) ++ shared.map (·.name))
      (refs.map (·.references) ++ shared.map (·.name)) := by
    refine List.rel_append ?_ ?_
    · rw [List.forall₂_map_left_iff, List.forall₂_map_right_iff, List.forall₂_same]
      exact fun r hr => ⟨r.column.type, hrefs r hr⟩
    · rw [List.forall₂_map_left_iff, List.forall₂_map_right_iff, List.forall₂_same]
      exact fun c hc => ⟨c.type, hshared c hc⟩
  refine ⟨hpairs.length_eq, u, hu, hname, hkey, ?_⟩
  intro i name referred hi hi'
  obtain ⟨hlt, rfl⟩ := List.getElem?_eq_some_iff.1 hi
  obtain ⟨hlt', rfl⟩ := List.getElem?_eq_some_iff.1 hi'
  exact (List.forall₂_iff_get.1 hpairs).2 i hlt hlt'

/-- A foreign key of a table leads to an entity: it refers to the identity columns, from columns of
the same types. -/
def LeadsTo (d : Diagram) (t : Table) (k : ForeignKey) (n : Node) : Prop :=
  ∃ refs cascade, k = ofReferences refs [] n cascade ∧
    d.identityColumns n.id = .ok (refs.map (·.target)) ∧ ∀ r ∈ refs, r.column ∈ t.typedNames

theorem LeadsTo.mono (h : k.LeadsTo d t n) (ht : t.Extends t') : k.LeadsTo d t' n := by
  obtain ⟨refs, cascade, hk, hidentity, hrefs⟩ := h
  exact ⟨refs, cascade, hk, hidentity, fun r hr => ht.mem_typedNames (hrefs r hr)⟩

/-- The references to an entity make a foreign key that leads to it, also under other names. -/
theorem leadsTo_ofReferences {refs' : List Reference} {cascade : Bool}
    (hrefs : d.foreignKeyColumns n.id = .ok refs)
    (htargets : refs'.map (·.target) = refs.map (·.target))
    (hcolumns : ∀ r ∈ refs', r.column ∈ t.typedNames) :
    (ofReferences refs' [] n cascade).LeadsTo d t n := by
  refine ⟨refs', cascade, rfl, ?_, hcolumns⟩
  rw [htargets]
  exact Diagram.identityColumns_of_foreignKeyColumns hrefs

/-- A foreign key that leads to an entity is sound where a table offers the entity's identity. -/
theorem LeadsTo.sound (h : k.LeadsTo d t n) (hu : u ∈ tables) (hoffers : d.Offers n u) :
    k.Sound tables t := by
  obtain ⟨refs, cascade, rfl, hidentity, hrefs⟩ := h
  obtain ⟨cs, hcs, hbegin, hkey⟩ := hoffers.identity
  obtain rfl := Except.ok.inj (hidentity.symm.trans hcs)
  have hnames : (refs.map (·.target)).map (·.name) = refs.map (·.references) := by
    rw [List.map_map]
    rfl
  rw [hnames] at hkey
  refine sound_ofReferences [] hu hoffers.name_eq (by simpa using hkey) ?_ (by simp)
  exact fun r hr => ⟨hrefs r hr, hbegin.subset (List.mem_map_of_mem hr)⟩

end ForeignKey

/-! ## New tables -/

namespace Diagram

/-- All foreign keys of a table lead to entities. -/
def LeadsToEntities (d : Diagram) (t : Table) : Prop :=
  ∀ k ∈ t.foreignKeys, ∃ m ∈ d.nodes, m.kind.isEntity = true ∧ k.LeadsTo d t m

/-- The foreign keys of a table go on to lead to entities while it grows, if those that are added
do. -/
theorem LeadsToEntities.extend (added : List ForeignKey) (h : d.LeadsToEntities t)
    (ht : t.Extends t') (hkeys : t'.foreignKeys = t.foreignKeys ++ added)
    (hadded : ∀ k ∈ added, ∃ m ∈ d.nodes, m.kind.isEntity = true ∧ k.LeadsTo d t' m) :
    d.LeadsToEntities t' := by
  intro k hk
  rw [hkeys] at hk
  rcases List.mem_append.1 hk with hk | hk
  · obtain ⟨m, hm, hkind, hleads⟩ := h k hk
    exact ⟨m, hm, hkind, hleads.mono ht⟩
  · exact hadded k hk

/-- A weak entity's table leads to the owner, and that of any other entity to nothing. -/
theorem leadsToEntities_identityTable (h : d.identityTable n = .ok t) : d.LeadsToEntities t := by
  obtain ⟨source, hs, h⟩ := bind_eq_ok_iff.1 h
  intro k hk
  cases source with
  | ownKey key =>
    obtain ⟨columns, -, h⟩ := bind_eq_ok_iff.1 h
    cases h
    rw [Table.foreignKeys_addKey] at hk
    cases hk
  | dependent relation owner partialKey =>
    obtain ⟨refs, hrefs, h⟩ := bind_eq_ok_iff.1 h
    obtain ⟨own, -, h⟩ := bind_eq_ok_iff.1 h
    cases h
    obtain ⟨howner, hentity⟩ := of_base? hs rfl
    obtain rfl : k = .ofReferences refs [] owner true := by
      simpa [Constraint.foreignKey?] using hk
    refine ⟨owner, (mem_of_node? howner).1, hentity, ?_⟩
    refine ForeignKey.leadsTo_ofReferences hrefs rfl fun r hr => ?_
    rw [Table.typedNames_extend, Column.map_typedName_ofTypedName]
    exact List.mem_append_right _ (List.mem_append_left _ (List.mem_map_of_mem hr))
  | subclass specialization parent =>
    obtain ⟨columns, -, h⟩ := bind_eq_ok_iff.1 h
    cases h
    simp [Constraint.foreignKey?] at hk

theorem leadsToEntities_entityTable (h : d.entityTable n = .ok t) : d.LeadsToEntities t := by
  obtain ⟨identity, alternative, columns, hidentity, -, -, ht⟩ := of_entityTable h
  refine (leadsToEntities_identityTable hidentity).extend [] (extends_entityTable hidentity h) ?_
    (by simp)
  rw [ht, Table.foreignKeys_pushAll, List.append_nil]
  split
  · rfl
  · exact Table.foreignKeys_addKey identity _ _

/-- Each end of a relation adds a foreign key that leads to its entity. -/
theorem leadsToEntities_addEnd {e : Neighbor} {relation : String}
    (he : e ∈ d.entityEnds relation) (ht : d.LeadsToEntities t) (h : d.addEnd t e = .ok t') :
    d.LeadsToEntities t' := by
  obtain ⟨refs, hrefs, h⟩ := bind_eq_ok_iff.1 h
  extract_lets refs' at h
  cases h
  obtain ⟨hnear, hentity⟩ := mem_entityEnds_iff.1 he
  have htargets : refs'.map (·.target) = refs.map (·.target) := by
    rw [List.map_map]
    rfl
  refine ht.extend _ (Table.extends_extend t _ _) (Table.foreignKeys_extend t _ _) fun k hk => ?_
  obtain rfl : k = .ofReferences refs' [] e.node true := by
    simpa [Constraint.foreignKey?] using hk
  refine ⟨e.node, mem_nodes_of_mem_neighbors hnear, hentity, ?_⟩
  refine ForeignKey.leadsTo_ofReferences hrefs htargets fun r hr => ?_
  rw [Table.typedNames_extend]
  exact List.mem_append_right _ (by simpa [Column.typedName_ofTypedName] using ⟨r, hr, rfl⟩)

theorem leadsToEntities_junctionTable (h : d.junctionTable n = .ok t) : d.LeadsToEntities t := by
  obtain ⟨ends, keyed, attributes, hends, -, rfl, hkeyed⟩ := of_junctionTable h
  have hleads : d.LeadsToEntities ends :=
    foldlM_induction (fun t e t' he ht hstep => leadsToEntities_addEnd he ht hstep) hends
      (fun k hk => by cases hk)
  have hkeyed' : ends.Extends keyed ∧ keyed.foreignKeys = ends.foreignKeys := by
    rcases hkeyed with ⟨-, rfl⟩ | ⟨key, columns, -, -, rfl⟩
    · exact ⟨Table.extends_extend _ _ _, by simp [Constraint.foreignKey?]⟩
    · exact ⟨Table.extends_addKey _ _ _, Table.foreignKeys_addKey _ _ _⟩
  refine hleads.extend [] (hkeyed'.1.trans (Table.extends_pushAll _ _ _)) ?_ (by simp)
  rw [Table.foreignKeys_pushAll, hkeyed'.2, List.append_nil]

/-- The table of a multi-valued attribute leads to the owner. -/
theorem leadsToEntities_multiValuedTable (h : d.multiValuedTable n = .ok t) :
    d.LeadsToEntities t := by
  obtain ⟨owner, howner, h⟩ := bind_eq_ok_iff.1 h
  obtain ⟨refs, hrefs, h⟩ := bind_eq_ok_iff.1 h
  obtain ⟨value, -, h⟩ := bind_eq_ok_iff.1 h
  cases h
  obtain ⟨-, hfound, hentity⟩ := of_entityOwner howner
  intro k hk
  obtain rfl : k = .ofReferences refs [] owner true := by
    simpa [Constraint.foreignKey?] using hk
  refine ⟨owner, (mem_of_node? hfound).1, hentity, ?_⟩
  refine ForeignKey.leadsTo_ofReferences hrefs rfl fun r hr => ?_
  rw [Table.typedNames_extend, Table.typedNames_extend]
  exact List.mem_append_left _ (List.mem_append_right _ (by simpa using ⟨r, hr, rfl⟩))

end Diagram

/-! ## Drafts -/

/-- A draft has the tables of all entities, and each offers the identity of its entity. -/
structure Draft.OffersAll (d : Diagram) (s : Draft) : Prop where
  entityNodes_eq : s.entityNodes = d.entityNodes
  indexed : s.Indexed
  offers : ∀ t ∈ s.tables, t.node.kind.isEntity = true → d.Offers t.node t.table

namespace Draft

variable {f : NodeTable → NodeTable}

/-- For each entity there is a table that offers its identity. -/
theorem OffersAll.exists_table (hs : s.OffersAll d) (hn : n ∈ d.nodes)
    (hkind : n.kind.isEntity = true) : ∃ t ∈ s.tables, t.node = n ∧ d.Offers n t.table := by
  have hmem : n ∈ s.entityNodes := by
    rw [hs.entityNodes_eq]
    exact Diagram.mem_entityNodes_iff.2 ⟨hn, hkind⟩
  obtain ⟨-, t, ht, rfl⟩ := mem_entityNodes_iff.1 hmem
  exact ⟨t, ht, rfl, hs.offers t ht hkind⟩

/-- In a draft that has tables for the entities of a diagram, a table that stands for the entity of
an id is that of the node with this id. -/
theorem node_of_isOf (hs : s.entityNodes = d.entityNodes) (hd : d.DistinctIds) (hn : n ∈ d.nodes)
    {t : NodeTable} (ht : t ∈ s.tables) (hof : t.isOf n.id = true) :
    t.node = n ∧ n.kind.isEntity = true := by
  rw [NodeTable.isOf_iff] at hof
  have hmem : t.node ∈ s.entityNodes := mem_entityNodes_iff.2 ⟨hof.1, t, ht, rfl⟩
  rw [hs, Diagram.mem_entityNodes_iff] at hmem
  have hnode : t.node = n := Diagram.eq_of_id_eq hd hmem.1 hn hof.2
  exact ⟨hnode, hnode ▸ hof.1⟩

/-- A table that stands for the entity of an id offers the identity of this entity. -/
theorem OffersAll.offers_of_isOf (hs : s.OffersAll d) (hd : d.DistinctIds) (hn : n ∈ d.nodes)
    {t : NodeTable} (ht : t ∈ s.tables) (hof : t.isOf n.id = true) : d.Offers n t.table := by
  obtain ⟨rfl, hkind⟩ := node_of_isOf hs.entityNodes_eq hd hn ht hof
  exact hs.offers t ht hkind

/-- Where ids are distinct, the noted places are exact. -/
theorem OffersAll.exact (hs : s.OffersAll d) (hd : d.DistinctIds) : s.Exact :=
  hs.indexed.exact (hs.entityNodes_eq ▸ Diagram.nodup_ids_entityNodes hd)

theorem OffersAll.grown (hs : s.OffersAll d) (h : s.Grown s') : s'.OffersAll d where
  entityNodes_eq := h.entityNodes_eq.trans hs.entityNodes_eq
  indexed := h.indexed hs.indexed
  offers := by
    intro t' ht' hkind
    obtain ⟨i, hi⟩ := List.mem_iff_getElem?.1 ht'
    obtain ⟨t, ht, hnode, hgrows⟩ := h.exists_of_getElem? hi
    rw [hnode] at hkind ⊢
    exact (hs.offers t (List.mem_of_getElem? ht) hkind).mono hgrows

theorem OffersAll.add (hs : s.OffersAll d) (hkind : n.kind.isEntity = false) (t : Table) :
    (s.add n t).OffersAll d where
  entityNodes_eq := by
    rw [entityNodes_add, List.filter_singleton, hkind]
    exact (List.append_nil _).trans hs.entityNodes_eq
  indexed := hs.indexed.add hkind t
  offers := by
    intro t ht hkind'
    rcases List.mem_append.1 ht with ht | ht
    · exact hs.offers t ht hkind'
    · rw [List.mem_singleton.1 ht, hkind] at hkind'
      cases hkind'

/-- A draft stays sound while its tables grow, if the foreign keys that are added are sound. -/
theorem integral_of_grownBy (h : s.schema.Integral) (hf : Draft.GrownBy f s s')
    (hnew : ∀ t ∈ s.tables, ∀ k ∈ (f t).table.foreignKeys, k ∉ t.table.foreignKeys →
      k.Sound s'.schema.tables (f t).table) : s'.schema.Integral := by
  have hgrown : ∀ u ∈ s.schema.tables, ∃ u' ∈ s'.schema.tables, u.Extends u' := by
    intro u hu
    obtain ⟨t, ht, rfl⟩ := List.mem_map.1 hu
    have ht' : f t ∈ s'.tables := hf.tables_eq ▸ List.mem_map_of_mem ht
    exact ⟨(f t).table, List.mem_map_of_mem ht', hf.grows t⟩
  intro u hu k hk
  obtain ⟨r, hr, rfl⟩ := List.mem_map.1 hu
  rw [hf.tables_eq] at hr
  obtain ⟨t, ht, rfl⟩ := List.mem_map.1 hr
  -- only new foreign keys have to be looked at
  by_cases hold : k ∈ t.table.foreignKeys
  · exact (h t.table (List.mem_map_of_mem ht) k hold).mono (hf.grows t) hgrown
  · exact hnew t ht k hk hold

/-- A draft stays sound if a table is added whose foreign keys lead to entities. -/
theorem integral_add (h : s.schema.Integral) (hs : s.OffersAll d) {t : Table}
    (ht : d.LeadsToEntities t) : (s.add n t).schema.Integral := by
  have hold : ∀ u ∈ s.schema.tables, u ∈ (s.add n t).schema.tables := by
    intro u hu
    rw [schema, add, List.map_append]
    exact List.mem_append_left _ hu
  intro u hu k hk
  rw [schema, add, List.map_append] at hu
  rcases List.mem_append.1 hu with hu | hu
  · exact (h u hu k hk).mono (.refl u) fun v hv => ⟨v, hold v hv, .refl v⟩
  · rw [List.mem_singleton.1 hu] at hk ⊢
    obtain ⟨m, hm, hkind, hleads⟩ := ht k hk
    obtain ⟨v, hv, -, hoffers⟩ := hs.exists_table hm hkind
    exact hleads.sound (hold _ (List.mem_map_of_mem hv)) hoffers

end Draft

namespace Diagram

/-- Once the entities are taken, their tables offer the identities. -/
theorem offersAll_of_foldlM_entityNodes (hd : d.DistinctIds)
    (h : d.entityNodes.foldlM d.build .empty = .ok s) : s.OffersAll d where
  entityNodes_eq := entityNodes_of_foldlM_entityNodes h
  indexed := indexed_foldlM_build h Draft.indexed_empty
  offers := by
    intro t ht _
    obtain ⟨hmem, htable⟩ := entityTable_of_mem_tables h t ht
    exact offers_entityTable (node?_of_mem hd (mem_entityNodes_iff.1 hmem).1) htable

/-- Once the entities are taken, the draft is sound: what the tables of weak entities refer to is
there, whatever the order. -/
theorem integral_of_foldlM_entityNodes (hd : d.DistinctIds)
    (h : d.entityNodes.foldlM d.build .empty = .ok s) : s.schema.Integral := by
  intro u hu k hk
  obtain ⟨t, ht, rfl⟩ := List.mem_map.1 hu
  obtain ⟨-, htable⟩ := entityTable_of_mem_tables h t ht
  obtain ⟨m, hm, hkind, hleads⟩ := leadsToEntities_entityTable htable k hk
  obtain ⟨v, hv, -, hoffers⟩ := (offersAll_of_foldlM_entityNodes hd h).exists_table hm hkind
  exact hleads.sound (List.mem_map_of_mem hv) hoffers

/-! ## Steps after the entities -/

/-- What is added to the table of a relation's holder. -/
theorem foreignKeys_extend (key : RelationKey) (refs : List Reference) (attributes : List Column)
    (t : Table) :
    (key.extend refs attributes t).foreignKeys =
      t.foreignKeys ++ [.ofReferences (key.rename t refs) [] key.target false] := by
  unfold RelationKey.extend
  extract_lets refs' columns table
  have htable : table.foreignKeys = t.foreignKeys := by
    unfold table
    split
    · exact Table.foreignKeys_addKey t _ _
    · simp
  simp [htable, Constraint.foreignKey?, refs']

/-- The referring columns are in the holder's table. -/
theorem mem_typedNames_extend (key : RelationKey) (attributes : List Column) (t : Table)
    {r : Reference} (hr : r ∈ key.rename t refs) :
    r.column ∈ (key.extend refs attributes t).typedNames := by
  unfold RelationKey.extend
  extract_lets refs' columns table
  refine (Table.extends_pushAll _ _ _).mem_typedNames ?_
  have hcolumns : r.column ∈ columns.map (·.typedName) := by
    unfold columns
    rw [List.map_map]
    exact List.mem_map.2 ⟨r, hr, rfl⟩
  unfold table
  split <;> simp [hcolumns]

/-- The tables of all entities stay and go on to offer their identities. -/
theorem Step.offersAll (h : d.Step s n s') (hn : n ∈ d.laterNodes) (hs : s.OffersAll d) :
    s'.OffersAll d := by
  rcases h.grown_or_add with ⟨-, -, hgrown⟩ | ⟨hkind, -⟩ | ⟨hkind, t, rfl⟩
  · exact hs.grown hgrown
  · rw [isEntity_of_mem_laterNodes hn] at hkind
    cases hkind
  · exact hs.add hkind t

end Diagram

/-! ## Specializations -/

/-- Additions match if each foreign key among them is that of a child with some shared column, which
is added to the child together with it, and to the parent together with the key it leads to. -/
def SpecializationTie.Matching (tie : SpecializationTie) (as : List Addition) : Prop :=
  ∀ a ∈ as, ∀ k, .foreignKey k ∈ a.constraints →
    ∃ shared : TypedName, (∃ c ∈ tie.children, a.entity = c.id) ∧
      k = .ofReferences tie.references [shared.name] tie.parent true ∧
      shared ∈ a.columns.map (·.typedName) ∧
      ∃ b ∈ as, b.entity = tie.parent.id ∧ shared ∈ b.columns.map (·.typedName) ∧
        tie.parentKey shared.name ∈ b.constraints

namespace SpecializationTie

theorem matching_exclusiveAdditions (tie : SpecializationTie) (discriminator : String) :
    tie.Matching (tie.exclusiveAdditions discriminator) := by
  intro a ha k hk
  refine ⟨⟨discriminator, tie.discriminatorType⟩, ?_⟩
  rcases List.mem_cons.1 ha with rfl | ha
  · -- the parent has no foreign key
    simp [parentKey] at hk
  · obtain ⟨c, hc, rfl⟩ := List.mem_map.1 ha
    refine ⟨⟨c, hc, rfl⟩, ?_, ?_, _, List.mem_cons_self, rfl, ?_, ?_⟩
    · simpa [childKey] using hk
    · simp [Column.typedName]
    · simp [Column.typedName]
    · simp

theorem matching_overlappedAdditions (tie : SpecializationTie) (flags : List String) :
    tie.Matching (tie.overlappedAdditions flags) := by
  intro a ha k hk
  rcases List.mem_cons.1 ha with rfl | ha
  · -- the parent has no foreign key
    exfalso
    rcases List.mem_append.1 hk with hk | hk
    · obtain ⟨f, -, hf⟩ := List.mem_map.1 hk
      cases hf
    · split at hk <;> simp at hk
  · rw [← List.map_uncurry_zip_eq_zipWith] at ha
    obtain ⟨⟨c, f⟩, hcf, rfl⟩ := List.mem_map.1 ha
    obtain ⟨hc, hf⟩ := List.of_mem_zip hcf
    refine ⟨⟨f, "BOOLEAN"⟩, ⟨c, hc, rfl⟩, ?_, ?_, _, List.mem_cons_self, rfl, ?_, ?_⟩
    · simpa [childKey] using hk
    · simp [Column.typedName]
    · simpa [Column.typedName] using hf
    · exact List.mem_append_left _ (List.mem_map_of_mem hf)

end SpecializationTie

namespace NodeTable

variable {as : List Addition} {a : Addition} {r : NodeTable}

/-- A table receives what is meant for its entity. -/
theorem mem_additions_iff : a ∈ r.additions as ↔ a ∈ as ∧ r.isOf a.entity = true :=
  List.mem_filter

theorem mem_typedNames_receive (ha : a ∈ r.additions as) {c : TypedName}
    (hc : c ∈ a.columns.map (·.typedName)) : c ∈ (r.receive as).table.typedNames := by
  rw [receive, Table.typedNames_extend, List.mem_append, List.map_flatMap]
  exact .inr (List.mem_flatMap.2 ⟨a, ha, hc⟩)

theorem mem_constraints_receive (ha : a ∈ r.additions as) {c : Constraint}
    (hc : c ∈ a.constraints) : c ∈ (r.receive as).table.constraints :=
  List.mem_append_right _ (List.mem_flatMap.2 ⟨a, ha, hc⟩)

/-- A new foreign key comes from an addition. -/
theorem exists_of_mem_foreignKeys_receive (hk : k ∈ (r.receive as).table.foreignKeys)
    (hnew : k ∉ r.table.foreignKeys) : ∃ a ∈ r.additions as, .foreignKey k ∈ a.constraints := by
  rw [Table.mem_foreignKeys_iff] at hk hnew
  rcases List.mem_append.1 hk with hk | hk
  · exact absurd hk hnew
  · exact List.mem_flatMap.1 hk

end NodeTable

namespace Diagram

/-- A specialization adds only sound foreign keys. -/
theorem integral_of_matching (h : d.Accepted) (hd : d.DistinctIds) (hs : s.OffersAll d)
    (hsound : s.schema.Integral) (hn : n ∈ d.nodes) {kind : SpecializationKind}
    (hkind : n.kind = .specialization kind) {tie : SpecializationTie}
    (htie : d.specializationTie n kind = .ok tie) {as : List Addition} (has : tie.Matching as)
    (hs' : s'.tables = s.tables.map (·.receive as)) : s'.schema.Integral := by
  obtain ⟨hparent, hchildren, hrefs⟩ := of_specializationTie htie
  obtain ⟨hfound, hentity⟩ := of_parent? hparent
  have hspecial : n.kind.isSpecialization = true := by rw [hkind]; rfl
  refine Draft.integral_of_grownBy hsound (Draft.grownBy_receive hs') ?_
  intro t ht k hk hold
  obtain ⟨a, ha, hka⟩ := NodeTable.exists_of_mem_foreignKeys_receive hk hold
  obtain ⟨hmem, hof⟩ := NodeTable.mem_additions_iff.1 ha
  obtain ⟨shared, ⟨c, hc, hac⟩, rfl, hsharedA, b, hb, hbparent, hsharedB, hkey⟩ := has a hmem k hka
  -- the table of the child has the columns that refer to the parent
  rw [hchildren] at hc
  rw [hac] at hof
  have hchild := hs.offers_of_isOf hd (mem_of_node? (of_mem_children hc).1).1 ht hof
  obtain ⟨cs, hcs, hcolumns, -⟩ := hchild.identity
  have hsource := h.identitySource_of_child hd hn hspecial hparent hc
  rw [identityColumns_of_subclass (of_mem_children hc).1 hsource hrefs] at hcs
  cases hcs
  -- the table of the parent has the columns referred to, and receives the key
  obtain ⟨r, hr, hnode, hoffers⟩ := hs.exists_table (mem_of_node? hfound).1 hentity
  obtain ⟨cs, hcs, htargets, -⟩ := hoffers.identity
  rw [identityColumns_of_foreignKeyColumns hrefs] at hcs
  cases hcs
  have hbr : b ∈ r.additions as := by
    refine NodeTable.mem_additions_iff.2 ⟨hb, ?_⟩
    simp [NodeTable.isOf, hnode, hentity, hbparent]
  refine ForeignKey.sound_ofReferences (u := (r.receive as).table) [shared] ?_ ?_ ?_ ?_ ?_
  · exact List.mem_map_of_mem (hs' ▸ List.mem_map_of_mem hr)
  · exact hoffers.name_eq
  · exact .inl ⟨.unique, NodeTable.mem_constraints_receive hbr hkey⟩
  · intro x hx
    exact ⟨(t.extends_receive as).mem_typedNames (hcolumns.subset (List.mem_map_of_mem hx)),
      (r.extends_receive as).mem_typedNames (htargets.subset (List.mem_map_of_mem hx))⟩
  · intro x hx
    rw [List.mem_singleton.1 hx]
    exact ⟨NodeTable.mem_typedNames_receive ha hsharedA,
      NodeTable.mem_typedNames_receive hbr hsharedB⟩

/-! ## The whole run -/

/-- A relation that is no table adds a sound foreign key to the table of its holder. -/
theorem integral_of_relationKey (hd : d.DistinctIds) (hs : s.OffersAll d)
    (hsound : s.schema.Integral) {key : RelationKey} {attributes : List Column}
    (hkey : d.relationKey n = .ok key) (hrefs : d.foreignKeyColumns key.target.id = .ok refs)
    (hs' : s.update key.holder.node.id (key.extend refs attributes) = .ok s') :
    s'.schema.Integral := by
  have hextends := key.extends_extend refs attributes
  have hgrown := Draft.grownBy_ite hextends ((hs.exact hd).tables_update hs')
  obtain ⟨e, he, htarget⟩ := target_of_relationKey hkey
  obtain ⟨hnear, hentity⟩ := mem_entityEnds_iff.1 he
  rw [htarget] at hentity
  have htargets (t : Table) : (key.rename t refs).map (·.target) = refs.map (·.target) := by
    rw [RelationKey.rename, List.map_map]
    rfl
  refine Draft.integral_of_grownBy hsound hgrown fun t ht k hk hold => ?_
  split at hk
  · next hof =>
    rw [foreignKeys_extend, List.mem_append, List.mem_singleton] at hk
    obtain rfl := hk.resolve_left hold
    obtain ⟨u, hu, -, hoffers⟩ :=
      (hs.grown (Draft.grown_of_update hextends hs')).exists_table
        (htarget ▸ mem_nodes_of_mem_neighbors hnear) hentity
    rw [if_pos hof]
    have hleads : (ForeignKey.ofReferences (key.rename t.table refs) [] key.target false).LeadsTo d
        (key.extend refs attributes t.table) key.target :=
      ForeignKey.leadsTo_ofReferences hrefs (htargets t.table)
        fun r hr => mem_typedNames_extend key attributes t.table hr
    exact hleads.sound (List.mem_map_of_mem hu) hoffers
  · exact absurd hk hold

/-- Every step after the entities keeps a draft sound. -/
theorem Step.integral (hstep : d.Step s n s') (h : d.Accepted) (hd : d.DistinctIds)
    (hn : n ∈ d.laterNodes) (hs : s.OffersAll d) (hsound : s.schema.Integral) :
    s'.schema.Integral := by
  have hmem : n ∈ d.nodes := (mem_laterNodes_iff.1 hn).1
  cases hstep with
  | entity hkind _ =>
    rw [isEntity_of_mem_laterNodes hn] at hkind
    cases hkind
  | junction _ _ ht => exact Draft.integral_add hsound hs (leadsToEntities_junctionTable ht)
  | values _ ht => exact Draft.integral_add hsound hs (leadsToEntities_multiValuedTable ht)
  | foreignKey _ _ hkey hrefs _ hs' => exact integral_of_relationKey hd hs hsound hkey hrefs hs'
  | exclusive hkind _ htie _ hs' =>
    exact integral_of_matching h hd hs hsound hmem hkind htie
      (SpecializationTie.matching_exclusiveAdditions _ _)
      ((hs.exact hd).tables_foldlM_append hs')
  | overlapped hkind _ htie _ hs' =>
    exact integral_of_matching h hd hs hsound hmem hkind htie
      (SpecializationTie.matching_overlappedAdditions _ _)
      ((hs.exact hd).tables_foldlM_append hs')
  | idle _ _ _ => exact hsound

/-- The schema of an accepted diagram is referentially integral. -/
theorem Accepted.integral_synthesize (h : d.Accepted) (hd : d.DistinctIds) {schema : Schema}
    (hschema : d.synthesize = .ok schema) :
    ∀ t ∈ schema.tables, ∀ k ∈ t.foreignKeys, k.Sound schema.tables t := by
  obtain ⟨s₁, s₂, hs₁, hs₂, rfl⟩ := exists_drafts_of_synthesize hschema
  have hstart : s₁.OffersAll d ∧ s₁.schema.Integral :=
    ⟨offersAll_of_foldlM_entityNodes hd hs₁, integral_of_foldlM_entityNodes hd hs₁⟩
  have hend : s₂.OffersAll d ∧ s₂.schema.Integral := by
    refine foldlM_induction (I := fun s => s.OffersAll d ∧ s.schema.Integral) ?_ hs₂ hstart
    rintro s n s' hn ⟨hs, hsound⟩ hbuild
    have hstep := step_of_build hbuild
    exact ⟨hstep.offersAll hn hs, hstep.integral h hd hn hs hsound⟩
  exact hend.2

theorem integral_university :
    ∃ schema, university.synthesize = .ok schema ∧
      ∀ t ∈ schema.tables, ∀ k ∈ t.foreignKeys, k.Sound schema.tables t := by
  obtain ⟨schema, h⟩ := exists_synthesize_university
  exact ⟨schema, h, accepted_university.integral_synthesize (by decide) h⟩

end Diagram

end EntityRelationship
