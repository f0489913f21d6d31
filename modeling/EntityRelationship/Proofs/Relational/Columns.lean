import EntityRelationship.Proofs.Diagnostic.Classification
import EntityRelationship.Proofs.Diagnostic.Silence
import EntityRelationship.Proofs.Relational.FreshName
import EntityRelationship.Proofs.Relational.Identity
import EntityRelationship.Proofs.Relational.Run
import EntityRelationship.Proofs.Relational.Unread

/-!
# Columns of attributes

In a diagram about which there is no diagnostic, each attribute without members that is read has a
column: one of its type, whose name contains the attribute's. Where the column is depends on the
role of the attribute that stands for it. It comes with the identity, the alternative key or the
attributes of an entity, with the attributes or the key of a relation, or with a table of its own.

Attributes that are not read have no column, and nothing tells so. An attribute may belong to an
entity by way of edges that no expansion follows, and of the keys of a relation only the first
counts.
-/

namespace EntityRelationship

open Outcome

variable {d : Diagram} {a k n : Node} {x : Neighbor} {b c : TypedName} {s s' : Draft}
  {t t' : Table} {cs : List Column} {ks : List Constraint} {schema : Schema}

/-! ## Tables with a column for a name -/

/-- Some column of a table has a given type and a name that contains a given one. -/
def Table.Shows (t : Table) (b : TypedName) : Prop :=
  ∃ c ∈ t.columns, c.type = b.type ∧ b.name.toList <:+: c.name.toList

/-- Some table of a schema has such a column. -/
def Schema.Shows (s : Schema) (b : TypedName) : Prop :=
  ∃ t ∈ s.tables, t.Shows b

instance (t : Table) (b : TypedName) : Decidable (t.Shows b) :=
  inferInstanceAs (Decidable (∃ c ∈ t.columns, c.type = b.type ∧ b.name.toList <:+: c.name.toList))

instance (s : Schema) (b : TypedName) : Decidable (s.Shows b) :=
  inferInstanceAs (Decidable (∃ t ∈ s.tables, t.Shows b))

namespace Table

/-- A table that grows keeps its columns. -/
theorem Shows.mono (h : t.Shows b) (ht : t.Extends t') : t'.Shows b := by
  obtain ⟨c, hc, hshown⟩ := h
  exact ⟨c, ht.columns.subset hc, hshown⟩

theorem shows_extend (t : Table) {c : Column} (hc : c ∈ cs) (htype : c.type = b.type)
    (hname : b.name.toList <:+: c.name.toList) : (t.extend cs ks).Shows b :=
  ⟨c, List.mem_append_right _ hc, htype, hname⟩

/-- The columns of a key have their names, whichever way the key is declared. -/
theorem shows_addKey (t : Table) (kind : KeyKind) {c : Column} (hc : c ∈ cs) :
    (t.addKey kind cs).Shows c.typedName := by
  match cs, hc with
  | [c'], hc =>
    rw [List.mem_singleton.1 hc]
    exact t.shows_extend (List.mem_singleton_self _) rfl List.infix_rfl
  | c₁ :: c₂ :: cs, hc => exact t.shows_extend hc rfl List.infix_rfl

/-- A column that is pushed keeps its type, and its name stays a part of the free name. -/
theorem shows_pushAll (t : Table) (owner : String) {c : Column} (hc : c ∈ cs) :
    (t.pushAll owner cs).Shows c.typedName := by
  obtain ⟨pushed, hcolumns, hpushed⟩ := t.exists_columns_pushAll owner cs
  obtain ⟨c', hc', hrenames⟩ := exists_of_forall₂ hpushed hc
  refine ⟨c', hcolumns ▸ List.mem_append_right _ hc', ?_, hrenames.name⟩
  rw [hrenames.eq_with]
  rfl

end Table

namespace Diagram

/-! ## Leaves -/

/-- The columns of an attribute have one for each leaf. -/
theorem mem_leafColumns {columns : List TypedName} (h : d.leafColumns k = .ok columns)
    (ha : a ∈ d.leaves k) (hb : a.typedName = .ok b) : b ∈ columns := by
  obtain ⟨c, hc, hac⟩ := exists_of_mapM_eq_ok h ha
  obtain rfl := Except.ok.inj (hb.symm.trans hac)
  exact hc

/-- The columns of the attributes have one for each leaf of a plain attribute, and one for each
derived attribute. -/
theorem exists_column_of_attributeColumns {id : String} {nullable : Bool}
    (h : d.attributeColumns id nullable = .ok cs) (hx : x ∈ d.attributes id)
    (hkind : x.node.kind = .attr .plain ∨ x.node.kind = .attr .derived ∧ a = x.node)
    (ha : a ∈ d.leaves x.node) (hb : a.typedName = .ok b) : ∃ c ∈ cs, c.typedName = b := by
  obtain ⟨groups, hgroups, h⟩ := bind_eq_ok_iff.1 h
  cases h
  obtain ⟨group, hgroup, hcolumns⟩ := exists_of_mapM_eq_ok hgroups hx
  suffices hmem : ∃ c ∈ group, c.typedName = b by
    obtain ⟨c, hc, hcb⟩ := hmem
    exact ⟨c, List.mem_flatten_of_mem hgroup hc, hcb⟩
  rcases hkind with hkind | ⟨hkind, rfl⟩
  · rw [columnsOf, hkind] at hcolumns
    obtain ⟨leaves, hleaves, hcolumns⟩ := bind_eq_ok_iff.1 hcolumns
    cases hcolumns
    exact ⟨_, List.mem_map_of_mem (mem_leafColumns hleaves ha hb), rfl⟩
  · rw [columnsOf, hkind] at hcolumns
    dsimp only at hcolumns
    split at hcolumns
    · cases hcolumns
    · obtain ⟨c, hc, hcolumns⟩ := bind_eq_ok_iff.1 hcolumns
      obtain rfl := Except.ok.inj (hb.symm.trans hc)
      cases hcolumns
      exact ⟨_, List.mem_singleton_self _, rfl⟩

/-! ## Columns of new tables -/

/-- The alternative keys of an entity have one column each. -/
theorem exists_column_of_alternativeKey {id : String} (h : d.alternativeKey id = .ok cs)
    (hx : x ∈ d.attributes id) (hkind : x.node.kind = .attr .alternativeKey)
    (hb : x.node.typedName = .ok b) : ∃ c ∈ cs, c.typedName = b := by
  obtain ⟨c, hc, hcolumn⟩ :=
    exists_of_mapM_eq_ok h (List.mem_filter.2 ⟨hx, beq_iff_eq.2 hkind⟩)
  obtain ⟨b', hb', hcolumn⟩ := bind_eq_ok_iff.1 hcolumn
  obtain rfl := Except.ok.inj (hb.symm.trans hb')
  cases hcolumn
  exact ⟨_, hc, rfl⟩

end Diagram

/-- The key that belongs to an entity's identity, whether it is the whole or a part of it. -/
def IdentitySource.key? : IdentitySource → Option Node
  | ownKey key => some key
  | dependent _ _ partialKey => partialKey
  | subclass _ _ => none

namespace Diagram

/-- The table of an entity has a column for each leaf of its key. -/
theorem shows_identityTable {source : IdentitySource} (h : d.identityTable n = .ok t)
    (hs : d.identitySource n = .ok source) (hk : source.key? = some k) (ha : a ∈ d.leaves k)
    (hb : a.typedName = .ok b) : t.Shows b := by
  obtain ⟨source', hs', h⟩ := bind_eq_ok_iff.1 h
  obtain rfl := Except.ok.inj (hs.symm.trans hs')
  cases source with
  | ownKey key =>
    cases hk
    obtain ⟨columns, hcolumns, h⟩ := bind_eq_ok_iff.1 h
    cases h
    exact Table.shows_addKey _ _ (List.mem_map_of_mem (mem_leafColumns hcolumns ha hb))
  | dependent relation owner partialKey =>
    cases hk
    obtain ⟨refs, -, h⟩ := bind_eq_ok_iff.1 h
    obtain ⟨own, hown, h⟩ := bind_eq_ok_iff.1 h
    cases h
    -- the partial key stands behind what refers to the owner, with the entity's name in front
    have hmem : b.qualify n.safeName ∈
        refs.map (·.column) ++ own.map (·.qualify n.safeName) :=
      List.mem_append_right _ (List.mem_map_of_mem (mem_leafColumns hown ha hb))
    refine Table.shows_extend _ (List.mem_map_of_mem hmem) rfl ?_
    rw [Column.name_ofTypedName, TypedName.qualify, String.toList_append]
    exact (List.suffix_append _ _).isInfix
  | subclass specialization parent => cases hk

/-- The table of an entity has a column for each leaf of an attribute of the entity, unless this is
a key or has a table of its own. -/
theorem shows_entityTable (h : d.entityTable n = .ok t) (hx : x ∈ d.attributes n.id)
    (hkind : x.node.kind = .attr .plain ∨ x.node.kind = .attr .derived ∧ a = x.node ∨
      x.node.kind = .attr .alternativeKey ∧ a = x.node)
    (ha : a ∈ d.leaves x.node) (hb : a.typedName = .ok b) : t.Shows b := by
  obtain ⟨identity, alternative, columns, -, halternative, hcolumns, rfl⟩ := of_entityTable h
  rw [← or_assoc] at hkind
  rcases hkind with hkind | ⟨hkind, rfl⟩
  · obtain ⟨c, hc, rfl⟩ := exists_column_of_attributeColumns hcolumns hx hkind ha hb
    exact Table.shows_pushAll _ _ hc
  · obtain ⟨c, hc, rfl⟩ := exists_column_of_alternativeKey halternative hx hkind hb
    rw [if_neg (List.ne_nil_of_mem hc)]
    exact (Table.shows_addKey _ _ hc).mono (Table.extends_pushAll _ _ _)

/-- The table of a relation has a column for each leaf of an attribute, and for each leaf of its
first key. -/
theorem shows_junctionTable (h : d.junctionTable n = .ok t) (hx : x ∈ d.attributes n.id)
    (hkind : x.node.kind = .attr .plain ∨ x.node.kind = .attr .derived ∧ a = x.node ∨
      d.primaryKey? n.id = some x.node)
    (ha : a ∈ d.leaves x.node) (hb : a.typedName = .ok b) : t.Shows b := by
  obtain ⟨ends, keyed, attributes, -, hattributes, rfl, hkeyed⟩ := of_junctionTable h
  rw [← or_assoc] at hkind
  rcases hkind with hkind | hprimary
  · obtain ⟨c, hc, rfl⟩ := exists_column_of_attributeColumns hattributes hx hkind ha hb
    exact Table.shows_pushAll _ _ hc
  · rcases hkeyed with ⟨hnone, -⟩ | ⟨key, columns, hkey, hcolumns, rfl⟩
    · rw [hprimary] at hnone
      cases hnone
    · obtain rfl := Option.some.inj (hprimary.symm.trans hkey)
      have hmem := List.mem_map_of_mem (f := Column.ofTypedName) (mem_leafColumns hcolumns ha hb)
      exact (Table.shows_addKey _ _ hmem).mono (Table.extends_pushAll _ _ _)

/-- The table of a multi-valued attribute has a column for the value. -/
theorem shows_multiValuedTable (h : d.multiValuedTable a = .ok t) (hb : a.typedName = .ok b) :
    t.Shows b := by
  obtain ⟨owner, -, h⟩ := bind_eq_ok_iff.1 h
  obtain ⟨refs, -, h⟩ := bind_eq_ok_iff.1 h
  obtain ⟨value, hvalue, h⟩ := bind_eq_ok_iff.1 h
  obtain rfl := Except.ok.inj (hb.symm.trans hvalue)
  cases h
  exact Table.shows_extend _ (List.mem_singleton_self _) rfl (infix_freshName _ _)

end Diagram

/-- The holder of a relation's foreign key has the columns of the relation's attributes. -/
theorem RelationKey.shows_extend (key : RelationKey) (refs : List Reference) (t : Table)
    {c : Column} (hc : c ∈ cs) : (key.extend refs cs t).Shows c.typedName := by
  unfold RelationKey.extend
  extract_lets refs' columns table
  exact Table.shows_pushAll _ _ hc

namespace Diagram

/-! ## Columns in a schema -/

/-- The columns of an entity are in its table. -/
theorem shows_of_entity (hs : d.synthesize = .ok schema) (hn : n ∈ d.nodes)
    (hkind : n.kind.isEntity = true) (hx : x ∈ d.attributes n.id)
    (hrole : x.node.kind = .attr .plain ∨ x.node.kind = .attr .derived ∧ a = x.node ∨
      x.node.kind = .attr .alternativeKey ∧ a = x.node)
    (ha : a ∈ d.leaves x.node) (hb : a.typedName = .ok b) : schema.Shows b := by
  obtain ⟨t, ht, t', ht', hgrows⟩ := exists_table_of_entity hs hn hkind
  exact ⟨t', ht', (shows_entityTable ht hx hrole ha hb).mono hgrows⟩

/-- The columns of a relation are in its own table or in that of its holder. The key of a relation
is only looked for in its own table. -/
theorem shows_of_relation (h : d.Accepted) (hd : d.DistinctIds)
    (hs : d.synthesize = .ok schema) (hn : n ∈ d.nodes) (hkind : n.kind = .relation)
    (hx : x ∈ d.attributes n.id)
    (hrole : x.node.kind = .attr .plain ∨ x.node.kind = .attr .derived ∧ a = x.node ∨
      d.primaryKey? n.id = some x.node ∧ d.cardinality n.id = .manyToMany)
    (ha : a ∈ d.leaves x.node) (hb : a.typedName = .ok b) : schema.Shows b := by
  obtain ⟨s, s', s'', hunderway, hbuild, hrest, rfl⟩ :=
    exists_step_of_later hs (mem_laterNodes_iff.2 ⟨hn, .inl hkind⟩)
  suffices hshows : ∃ r ∈ s'.tables, r.table.Shows b by
    obtain ⟨r, hr, hr'⟩ := hshows
    obtain ⟨t, ht, hgrows⟩ := hrest.exists_table hr
    exact ⟨t, ht, hr'.mono hgrows⟩
  cases step_of_build hbuild with
  | entity hentity _ => simp [hkind, NodeKind.isEntity] at hentity
  | values hvalues _ => simp [hkind] at hvalues
  | exclusive hspecial _ _ _ _ => simp [hkind] at hspecial
  | overlapped hspecial _ _ _ _ => simp [hkind] at hspecial
  | idle _ hrelation _ =>
    exact absurd (hrelation hkind) (h.cardinality_ne_unrelated hd hn (by rw [hkind]; rfl))
  | @junction t _ _ ht =>
    refine ⟨⟨n, t⟩, List.mem_append_right _ (List.mem_singleton_self _), ?_⟩
    exact shows_junctionTable ht hx (hrole.imp_right (.imp_right And.left)) ha hb
  | @foreignKey _ key refs attributes _ hclass hkey _ hattributes hs' =>
    have hrole' : x.node.kind = .attr .plain ∨ x.node.kind = .attr .derived ∧ a = x.node := by
      rcases hrole with hplain | hderived | ⟨-, hmany⟩
      · exact .inl hplain
      · exact .inr hderived
      · simp [hmany] at hclass
    obtain ⟨c, hc, rfl⟩ := exists_column_of_attributeColumns hattributes hx hrole' ha hb
    obtain ⟨r, -, -, hchanged⟩ := hunderway.indexed.exists_mem_of_update hs'
    exact ⟨_, hchanged, key.shows_extend refs r.table hc⟩

/-- The leaves of the primary key of an entity or relation have columns. -/
theorem shows_of_primaryKey? (h : d.validate = []) (hd : d.DistinctIds)
    (hs : d.synthesize = .ok schema) (hn : n ∈ d.nodes) (hroot : n.kind.isRoot = true)
    (hx : x ∈ d.attributes n.id) (hk : d.primaryKey? n.id = some x.node)
    (ha : a ∈ d.leaves x.node) (hb : a.typedName = .ok b) : schema.Shows b := by
  -- the key belongs to the identity of an entity, unless it is that of a relation's own table
  have hidentity {m : Node} {source : IdentitySource} (hm : m ∈ d.nodes)
      (hentity : m.kind.isEntity = true) (hsource : d.identitySource m = .ok source)
      (hkey : source.key? = some x.node) : schema.Shows b := by
    obtain ⟨t, ht, t', ht', hgrows⟩ := exists_table_of_entity hs hm hentity
    obtain ⟨identity, -, -, hidentity, -⟩ := of_entityTable ht
    have hshows := shows_identityTable hidentity hsource hkey ha hb
    exact ⟨t', ht', (hshows.mono (extends_entityTable hidentity ht)).mono hgrows⟩
  cases hkind : n.kind with
  | entity => exact hidentity hn (by rw [hkind]; rfl) (identitySource_of_strong h hn hkind hk) rfl
  | weakEntity =>
    obtain ⟨r, owner, hsource⟩ := exists_identitySource_of_weak h hn hkind hk
    exact hidentity hn (by rw [hkind]; rfl) hsource rfl
  | dependency form =>
    obtain ⟨m, hm, hentity, owner, hsource⟩ :=
      exists_identitySource_of_dependency h hd hn (by rw [hkind]; rfl) hk
    exact hidentity hm hentity hsource rfl
  | relation =>
    have hmany := cardinality_eq_of_keys h hn hkind (keys_ne_nil_of_primaryKey? hk)
    exact shows_of_relation (accepted_of_validate_eq_nil h) hd hs hn hkind hx
      (.inr (.inr ⟨hk, hmany⟩)) ha hb
  | specialization _ | attr _ => simp [hkind, NodeKind.isRoot, NodeKind.isEntity,
      NodeKind.isRelation] at hroot

/-- The value of a multi-valued attribute has a column. -/
theorem shows_of_multiValued (h : d.Accepted) (hd : d.DistinctIds)
    (hs : d.synthesize = .ok schema) (ha : a ∈ d.nodes) (hkind : a.kind = .attr .multiValued)
    (hb : a.typedName = .ok b) : schema.Shows b := by
  obtain ⟨s, s', s'', -, hbuild, hrest, rfl⟩ :=
    exists_step_of_later hs (mem_laterNodes_iff.2 ⟨ha, .inr (.inl hkind)⟩)
  cases step_of_build hbuild with
  | entity hentity _ => simp [hkind, NodeKind.isEntity] at hentity
  | junction hrelation _ _ => simp [hkind] at hrelation
  | foreignKey hrelation _ _ _ _ _ => simp [hkind] at hrelation
  | exclusive hspecial _ _ _ _ => simp [hkind] at hspecial
  | overlapped hspecial _ _ _ _ => simp [hkind] at hspecial
  | idle hname _ _ =>
    -- a table has a name, since the attribute has an owner
    obtain ⟨owner, howner⟩ := h.exists_entityOwner hd ha hkind
    obtain ⟨hroots, hfound, -⟩ := of_entityOwner howner
    simp [tableName?, hkind, hroots, hfound] at hname
  | @values t _ ht =>
    obtain ⟨t', ht', hgrows⟩ := hrest.exists_table (r := ⟨a, t⟩)
      (List.mem_append_right _ (List.mem_singleton_self _))
    exact ⟨t', ht', (shows_multiValuedTable ht hb).mono hgrows⟩

/-- An attribute that is no key belongs to an entity or a plain relation, and an alternative key to
an entity. -/
theorem Accepted.isEntity_or_relation (h : d.Accepted) (hn : d.node? n.id = some n)
    (hroot : n.kind.isRoot = true) (hx : x ∈ d.attributes n.id) {role : AttributeKind}
    (hk : x.node.kind = .attr role) (hne : role ≠ .key) :
    n.kind.isEntity = true ∨ n.kind = .relation ∧ role ≠ .alternativeKey := by
  obtain ⟨hnear, -⟩ := mem_attributes_iff.1 hx
  have htouch := h.mayTouch (mem_nodes_of_mem_neighbors hnear) hk (neighbor_symm hn hnear)
  cases hkind : n.kind <;> cases role <;>
    simp_all [AttributeKind.mayTouch, NodeKind.isEntity, NodeKind.isRoot, NodeKind.isRelation]

/-- What is read has a column. -/
theorem IsRead.shows (hread : d.IsRead a) (h : d.validate = []) (hd : d.DistinctIds)
    (hs : d.synthesize = .ok schema) (hb : a.typedName = .ok b) : schema.Shows b := by
  obtain ⟨n, hn, hroot, x, ⟨hx, hkey⟩, ha⟩ := hread
  have haccepted := accepted_of_validate_eq_nil h
  obtain ⟨hnear, hattribute⟩ := mem_attributes_iff.1 hx
  have hmem := mem_nodes_of_mem_neighbors hnear
  have hsingle {role : AttributeKind} (hk : x.node.kind = .attr role)
      (hrole : role.mayBeComposite = false) : a = x.node :=
    eq_of_mem_leaves (node?_of_mem_neighbors hnear) (haccepted.members_eq_nil hmem hk hrole) ha
  have hplace {role : AttributeKind} (hk : x.node.kind = .attr role) (hne : role ≠ .key) :
      n.kind.isEntity = true ∨ n.kind = .relation ∧ role ≠ .alternativeKey :=
    haccepted.isEntity_or_relation (node?_of_mem hd hn) hroot hx hk hne
  obtain ⟨role, hk⟩ := exists_role hattribute
  cases role with
  | key => exact shows_of_primaryKey? h hd hs hn hroot hx (hkey hk) ha hb
  | multiValued =>
    obtain rfl := hsingle hk rfl
    exact shows_of_multiValued haccepted hd hs hmem hk hb
  | plain =>
    rcases hplace hk (by simp) with hentity | ⟨hrelation, -⟩
    · exact shows_of_entity hs hn hentity hx (.inl hk) ha hb
    · exact shows_of_relation haccepted hd hs hn hrelation hx (.inl hk) ha hb
  | derived =>
    have hderived := And.intro hk (hsingle hk rfl)
    rcases hplace hk (by simp) with hentity | ⟨hrelation, -⟩
    · exact shows_of_entity hs hn hentity hx (.inr (.inl hderived)) ha hb
    · exact shows_of_relation haccepted hd hs hn hrelation hx (.inr (.inl hderived)) ha hb
  | alternativeKey =>
    rcases hplace hk (by simp) with hentity | ⟨-, hne⟩
    · exact shows_of_entity hs hn hentity hx (.inr (.inr ⟨hk, hsingle hk rfl⟩)) ha hb
    · exact absurd rfl hne

/-- In a diagram about which there is no diagnostic, an attribute without members has a column of
its type, whose name contains the attribute's, if the synthesis reads it. If the synthesis does not
read it, the attribute has no influence on the schema at all: without it there is the same one. -/
theorem shows_or_unread (h : d.validate = []) (hd : d.DistinctIds)
    (hs : d.synthesize = .ok schema) (ha : a ∈ d.nodes) (hkind : a.kind.isAttribute = true)
    (hmembers : d.members a.id = []) (hb : a.typedName = .ok b) :
    (d.IsRead a → schema.Shows b) ∧
      (¬ d.IsRead a → ∃ d', d.remove a.id = .ok d' ∧ d'.synthesize = .ok schema) := by
  constructor
  · intro hread
    exact hread.shows h hd hs hb
  · intro hunread
    obtain ⟨d', hremove, hsame⟩ :=
      (accepted_of_validate_eq_nil h).synthesize_remove hd ha hkind hmembers hunread
    exact ⟨d', hremove, hsame.trans hs⟩

/-- People with a name and a phone number, which belong together as ways of contact, and their
calls. Only the name is attached to the person, and the calls have two keys. -/
def contacts : Diagram where
  nodes := [
    ⟨"p", .entity, "Person", none⟩,
    ⟨"k", .attr .key, "id:INTEGER", none⟩,
    ⟨"n", .attr .plain, "name:TEXT", none⟩,
    ⟨"c", .attr .plain, "contact", none⟩,
    ⟨"q", .attr .plain, "phone:TEXT", none⟩,
    ⟨"r", .relation, "Calls", none⟩,
    ⟨"x", .attr .key, "day:DATE", none⟩,
    ⟨"y", .attr .key, "hour:TIME", none⟩]
  edges := [
    ⟨"edge-1", .transition, "p", "k", none⟩,
    ⟨"edge-2", .transition, "p", "n", none⟩,
    ⟨"edge-3", .transition, "c", "n", none⟩,
    ⟨"edge-4", .transition, "c", "q", none⟩,
    ⟨"edge-5", .weighted, "p", "r", some "(0..N)"⟩,
    ⟨"edge-6", .weighted, "r", "p", some "(0..N)"⟩,
    ⟨"edge-7", .transition, "r", "x", none⟩,
    ⟨"edge-8", .transition, "r", "y", none⟩]

theorem validate_contacts : contacts.validate = [] := by decide +kernel

theorem shows_or_unread_contacts :
    contacts.validate = [] ∧ contacts.DistinctIds ∧
      ∃ schema, contacts.synthesize = .ok schema ∧ schema.Shows ⟨"name", "TEXT"⟩ ∧
        ∃ d', contacts.remove "q" = .ok d' ∧ d'.synthesize = .ok schema := by
  have hdistinct : contacts.DistinctIds := by decide
  have hsome : contacts.synthesize.toOption.any (fun _ => true) = true := by decide +kernel
  obtain ⟨schema, hs, -⟩ := exists_eq_ok_of_any hsome
  have hname := shows_or_unread (a := ⟨"n", .attr .plain, "name:TEXT", none⟩)
    (b := ⟨"name", "TEXT"⟩) validate_contacts hdistinct hs (by decide) rfl (by decide)
    (by decide +kernel)
  have hphone := shows_or_unread (a := ⟨"q", .attr .plain, "phone:TEXT", none⟩)
    (b := ⟨"phone", "TEXT"⟩) validate_contacts hdistinct hs (by decide) rfl (by decide)
    (by decide +kernel)
  exact ⟨validate_contacts, hdistinct, schema, hs, hname.1 (by decide +kernel),
    hphone.2 (by decide +kernel)⟩

/-- A diagram about which there is no diagnostic can have attributes without members and without a
column: here the phone number, which no walk through members comes to, and the second key. -/
theorem exists_leaf_without_column :
    contacts.validate = [] ∧ contacts.DistinctIds ∧ contacts.checkReferences = .ok () ∧
      ∃ schema, contacts.synthesize = .ok schema ∧
        ∀ id ∈ ["q", "y"], ∃ a b, contacts.node? id = some a ∧ a.kind.isAttribute = true ∧
          contacts.members id = [] ∧ a.typedName = .ok b ∧ ¬ schema.Shows b := by
  have hsome : contacts.synthesize.toOption.any (fun schema => decide
      (¬ schema.Shows ⟨"phone", "TEXT"⟩ ∧ ¬ schema.Shows ⟨"hour", "TIME"⟩)) = true := by
    decide +kernel
  obtain ⟨schema, hs, hlost⟩ := exists_eq_ok_of_any hsome
  obtain ⟨hphone, hhour⟩ := of_decide_eq_true hlost
  refine ⟨validate_contacts, by decide, by decide +kernel, schema, hs, fun id hid => ?_⟩
  simp only [List.mem_cons, List.not_mem_nil, or_false] at hid
  rcases hid with rfl | rfl
  · exact ⟨⟨"q", .attr .plain, "phone:TEXT", none⟩, ⟨"phone", "TEXT"⟩, by decide, rfl, by decide,
      by decide +kernel, hphone⟩
  · exact ⟨⟨"y", .attr .key, "hour:TIME", none⟩, ⟨"hour", "TIME"⟩, by decide, rfl, by decide,
      by decide +kernel, hhour⟩

end Diagram

end EntityRelationship
