import EntityRelationship.Proofs.Diagnostic.Resolution
import EntityRelationship.Proofs.Relational.FreshName
import EntityRelationship.Proofs.Relational.Integrity

/-!
# Columns of one name

Most columns are added under a name that is free in the table. Some groups of columns are not: the
names of a group are chosen before any of its columns is added, and those of keys are not chosen
at all. So a table of a schema can have two columns of one name, even if the diagram is accepted.

This file says exactly when that happens. A step of the synthesis keeps the columns of all tables
apart if and only if the names of the group that it adds without a check are different; and the
whole run does so if and only if each of its steps does.
-/

namespace EntityRelationship

open Outcome

variable {d : Diagram} {m n : Node} {s s' : Draft} {t t' : Table} {refs : List Reference}

/-! ## Names abroad -/

/-- Columns of different names have different names abroad. -/
theorem Lineage.name_abroad_inj (l : Lineage) {b c : TypedName}
    (h : (l.abroad b).name = (l.abroad c).name) : b.name = c.name := by
  cases l with
  | root entity key => exact (String.append_right_inj _).1 h
  | weak entity partialKey owner => exact h
  | subclass entity parent => exact h

/-- References to columns of different names have different names. -/
theorem Diagram.nodup_names_foreignKeyColumns {id : String} {cs : List TypedName}
    (hcs : d.identityColumns id = .ok cs) (hnodup : (cs.map (·.name)).Nodup)
    (h : d.foreignKeyColumns id = .ok refs) : (refs.map (·.column.name)).Nodup := by
  obtain ⟨l, hl, h⟩ := bind_eq_ok_iff.1 h
  obtain ⟨columns, hcolumns, h⟩ := bind_eq_ok_iff.1 h
  cases h
  have hsame : d.identityColumns id = .ok columns := by
    rw [identityColumns, hl]
    exact hcolumns
  obtain rfl := Except.ok.inj (hcs.symm.trans hsame)
  rw [List.map_map]
  refine List.Nodup.map_on (fun b hb c hc hbc => ?_) hnodup.of_map
  exact List.inj_on_of_nodup_map hnodup hb hc (l.name_abroad_inj hbc)

/-! ## Drafts -/

/-- No table of a draft has two columns of one name. -/
def Draft.ColumnsApart (s : Draft) : Prop :=
  ∀ t ∈ s.tables, t.table.columnNames.Nodup

namespace Draft

theorem columnsApart_add (s : Draft) (n : Node) (t : Table) :
    (s.add n t).ColumnsApart ↔ s.ColumnsApart ∧ t.columnNames.Nodup := by
  simp [ColumnsApart, add, or_imp, forall_and]

theorem columnsApart_addEntity (s : Draft) (n : Node) (t : Table) :
    (s.addEntity n t).ColumnsApart ↔ s.ColumnsApart ∧ t.columnNames.Nodup :=
  s.columnsApart_add n t

theorem GrownBy.columnsApart_iff {f : NodeTable → NodeTable} (h : Draft.GrownBy f s s') :
    s'.ColumnsApart ↔ ∀ t ∈ s.tables, (f t).table.columnNames.Nodup := by
  simp [ColumnsApart, h.tables_eq]

/-- Tables that have grown apart were apart before. -/
theorem GrownBy.columnsApart {f : NodeTable → NodeTable} (h : Draft.GrownBy f s s')
    (hs' : s'.ColumnsApart) : s.ColumnsApart := by
  intro t ht
  exact (h.columnsApart_iff.1 hs' t ht).sublist (h.grows t).columnNames.sublist

/-- A name that some entities share is taken in the table of none of them. -/
theorem sharedName_not_mem (hs : s.Exact) {ids : List String} {wanted name : String}
    (h : s.sharedName ids wanted = .ok name) {t : NodeTable} (ht : t ∈ s.tables) {id : String}
    (hid : id ∈ ids) (hof : t.isOf id = true) : name ∉ t.table.columnNames := by
  obtain ⟨tables, htables, h⟩ := bind_eq_ok_iff.1 h
  cases h
  have hmem : t.table ∈ tables := by
    obtain ⟨u, hu, hfound⟩ := exists_of_mapM_eq_ok htables hid
    rw [tableOf, hs.table?_of_mem ht hof] at hfound
    cases hfound
    exact hu
  exact EntityRelationship.sharedName_not_mem hmem wanted

end Draft

namespace Diagram

/-! ## New tables -/

/-- The identity columns of an entity and its alternative keys have different names. -/
def IdentityApart (d : Diagram) (n : Node) : Prop :=
  ∀ identity alternative, d.identityColumns n.id = .ok identity →
    d.alternativeKey n.id = .ok alternative →
      (identity.map (·.name) ++ Column.names alternative).Nodup

/-- An entity's table has its columns apart if the identity and the alternative keys do not clash.
The attributes that follow never do. -/
theorem nodup_columnNames_entityTable_iff (hn : d.node? n.id = some n)
    (h : d.entityTable n = .ok t) : t.columnNames.Nodup ↔ d.IdentityApart n := by
  obtain ⟨identity, alternative, columns, hidentity, halternative, -, rfl⟩ := of_entityTable h
  have hcolumns := (identityColumns_of_identityTable hn hidentity).1
  have hnames : (if alternative = [] then identity
      else identity.addKey .unique alternative).columnNames =
        identity.typedNames.map (·.name) ++ Column.names alternative := by
    rw [Table.map_name_typedNames]
    split
    · next hnil => rw [hnil]; exact (List.append_nil _).symm
    · exact Table.columnNames_addKey _ _ _
  rw [Table.nodup_columnNames_pushAll, hnames]
  constructor
  · intro hnodup cs alt hcs halt
    obtain rfl := Except.ok.inj (hcolumns.symm.trans hcs)
    obtain rfl := Except.ok.inj (halternative.symm.trans halt)
    exact hnodup
  · intro hapart
    exact hapart _ _ hcolumns halternative

/-- The columns that refer to the ends of a relation have different names, as far as those of one
end go. They are chosen against the columns of the ends before. -/
def EndsApart (d : Diagram) : Table → List Neighbor → Prop
  | _, [] => True
  | t, e :: es =>
    (∀ refs, d.foreignKeyColumns e.node.id = .ok refs →
      (refs.map fun r => t.freshName r.column.name).Nodup) ∧
    ∀ t', d.addEnd t e = .ok t' → d.EndsApart t' es

/-- An end keeps the columns apart if its own columns have different names. -/
theorem nodup_columnNames_addEnd_iff {e : Neighbor} (h : d.addEnd t e = .ok t') :
    t'.columnNames.Nodup ↔ t.columnNames.Nodup ∧
      ∀ refs, d.foreignKeyColumns e.node.id = .ok refs →
        (refs.map fun r => t.freshName r.column.name).Nodup := by
  obtain ⟨refs, hrefs, h⟩ := bind_eq_ok_iff.1 h
  cases h
  have hnames : Column.names ((refs.map fun r =>
      { r with column := { r.column with name := t.freshName r.column.name } }).map
        fun r => .ofTypedName r.column) = refs.map fun r => t.freshName r.column.name := by
    simp [Column.names]
  have hfresh : t.columnNames.Disjoint (refs.map fun r => t.freshName r.column.name) := by
    intro name hname hmem
    obtain ⟨r, -, rfl⟩ := List.mem_map.1 hmem
    exact t.freshName_not_mem _ hname
  rw [Table.columnNames_extend, hnames, List.nodup_append', forall_ok_iff hrefs]
  constructor
  · rintro ⟨ht, hgroup, -⟩
    exact ⟨ht, hgroup⟩
  · rintro ⟨ht, hgroup⟩
    exact ⟨ht, hgroup, hfresh⟩

/-- The ends keep the columns apart if each of them does. -/
theorem nodup_columnNames_ends_iff {es : List Neighbor} (h : es.foldlM d.addEnd t = .ok t') :
    t'.columnNames.Nodup ↔ t.columnNames.Nodup ∧ d.EndsApart t es := by
  induction es generalizing t with
  | nil =>
    rw [List.foldlM_nil, pure_eq_ok_iff] at h
    rw [h, EndsApart, and_true]
  | cons e es ih =>
    rw [List.foldlM_cons, bind_eq_ok_iff] at h
    obtain ⟨t₁, ht₁, h⟩ := h
    rw [ih h, nodup_columnNames_addEnd_iff ht₁, EndsApart, forall_ok_iff ht₁, and_assoc]

/-- The columns of a relation's ends have different names, and so have those of its key, which are
added as they are. -/
def JunctionApart (d : Diagram) (n : Node) : Prop :=
  d.EndsApart (.blank n.safeName) (d.entityEnds n.id) ∧
    ∀ ends key columns, (d.entityEnds n.id).foldlM d.addEnd (.blank n.safeName) = .ok ends →
      d.primaryKey? n.id = some key → d.leafColumns key = .ok columns →
        (ends.columnNames ++ columns.map (·.name)).Nodup

/-- A relation's table has its columns apart if the ends and the key do not clash. -/
theorem nodup_columnNames_junctionTable_iff (h : d.junctionTable n = .ok t) :
    t.columnNames.Nodup ↔ d.JunctionApart n := by
  obtain ⟨ends, keyed, attributes, hends, -, rfl, hkeyed⟩ := of_junctionTable h
  have hiff : ends.columnNames.Nodup ↔ d.EndsApart (.blank n.safeName) (d.entityEnds n.id) :=
    (nodup_columnNames_ends_iff hends).trans (and_iff_right List.nodup_nil)
  rw [Table.nodup_columnNames_pushAll, JunctionApart, ← hiff]
  rcases hkeyed with ⟨hnone, rfl⟩ | ⟨key, columns, hkey, hcolumns, rfl⟩
  · rw [Table.columnNames_extend]
    simp [Column.names, hnone]
  · rw [Table.columnNames_addKey, Column.names_ofTypedName]
    constructor
    · intro hnodup
      refine ⟨hnodup.of_append_left, fun ends' key' columns' hends' hkey' hcolumns' => ?_⟩
      obtain rfl := Except.ok.inj (hends.symm.trans hends')
      obtain rfl := Option.some.inj (hkey.symm.trans hkey')
      obtain rfl := Except.ok.inj (hcolumns.symm.trans hcolumns')
      exact hnodup
    · rintro ⟨-, hnodup⟩
      exact hnodup ends key columns hends hkey hcolumns

/-- The table of a multi-valued attribute has its columns apart if that of the owner has: the value
is added under a free name. -/
theorem nodup_columnNames_multiValuedTable (hs : s.OffersAll d) (hapart : s.ColumnsApart)
    (h : d.multiValuedTable n = .ok t) : t.columnNames.Nodup := by
  obtain ⟨owner, howner, h⟩ := bind_eq_ok_iff.1 h
  obtain ⟨refs, hrefs, h⟩ := bind_eq_ok_iff.1 h
  obtain ⟨value, -, h⟩ := bind_eq_ok_iff.1 h
  extract_lets table name at h
  cases h
  obtain ⟨-, hfound, hentity⟩ := of_entityOwner howner
  obtain ⟨u, hu, -, hoffers⟩ := hs.exists_table (mem_of_node? hfound).1 hentity
  obtain ⟨cs, hcs, hbegin, -⟩ := hoffers.identity
  -- the owner's table begins with its identity
  have hidentity : (cs.map (·.name)).Nodup := by
    have hprefix : cs.map (·.name) <+: u.table.columnNames := by
      rw [← Table.map_name_typedNames]
      exact hbegin.map _
    exact (hapart u hu).sublist hprefix.sublist
  have htable : table.columnNames = refs.map (·.column.name) := by
    unfold table
    rw [Table.columnNames_extend]
    simp [Column.names, Table.blank, Table.columnNames]
  rw [Table.columnNames_extend]
  refine List.Nodup.append ?_ (List.nodup_singleton _) ?_
  · rw [htable]
    exact nodup_names_foreignKeyColumns hcs hidentity hrefs
  · intro x hx hx'
    rw [List.mem_singleton.1 hx'] at hx
    exact table.freshName_not_mem value.name hx

/-! ## Relations without tables -/

/-- The columns by which the holder of a relation refers to the target have different names. They
are chosen against the holder's table as it is before any of them is added. -/
def HolderApart (d : Diagram) (s : Draft) (n : Node) : Prop :=
  ∀ key refs holder, d.relationKey n = .ok key → d.foreignKeyColumns key.target.id = .ok refs →
    s.table? key.holder.node.id = some holder →
      ((key.rename holder refs).map (·.column.name)).Nodup

/-- The holder's table keeps its columns apart if the referring columns have different names. -/
theorem nodup_columnNames_extend_iff (key : RelationKey) (refs : List Reference)
    (attributes : List Column) (t : Table) :
    (key.extend refs attributes t).columnNames.Nodup ↔
      t.columnNames.Nodup ∧ ((key.rename t refs).map (·.column.name)).Nodup := by
  unfold RelationKey.extend
  extract_lets refs' columns table
  have hcolumns : Column.names columns = refs'.map (·.column.name) := by
    unfold columns
    rw [Column.names, List.map_map]
    rfl
  have htable : table.columnNames = t.columnNames ++ refs'.map (·.column.name) := by
    unfold table
    split
    · rw [Table.columnNames_addKey, hcolumns]
    · rw [Table.columnNames_extend, hcolumns]
  have hfree : t.columnNames.Disjoint (refs'.map (·.column.name)) := by
    intro name hname hmem
    obtain ⟨r', hr', rfl⟩ := List.mem_map.1 hmem
    obtain ⟨r, -, rfl⟩ := List.mem_map.1 hr'
    exact key.columnName_not_mem t r hname
  have hnone : Column.names [] = [] := rfl
  rw [Table.nodup_columnNames_pushAll, Table.columnNames_extend, htable, hnone, List.append_nil,
    List.nodup_append']
  exact ⟨fun h => ⟨h.1, h.2.1⟩, fun h => ⟨h.1, h.2, hfree⟩⟩

/-- A relation that is no table keeps the columns apart if the referring columns have different
names. -/
theorem columnsApart_relationKey_iff (hs : s.Exact) {key : RelationKey}
    {attributes : List Column} (hkey : d.relationKey n = .ok key)
    (hrefs : d.foreignKeyColumns key.target.id = .ok refs)
    (hs' : s.update key.holder.node.id (key.extend refs attributes) = .ok s') :
    s'.ColumnsApart ↔ s.ColumnsApart ∧ d.HolderApart s n := by
  have hgrown := Draft.grownBy_ite (key.extends_extend refs attributes) (hs.tables_update hs')
  constructor
  · intro hapart
    refine ⟨hgrown.columnsApart hapart, fun key' refs' holder hkey' hrefs' hholder => ?_⟩
    obtain rfl := Except.ok.inj (hkey.symm.trans hkey')
    obtain rfl := Except.ok.inj (hrefs.symm.trans hrefs')
    obtain ⟨t, ht, hof, rfl⟩ := hs.exists_of_table? hholder
    have hnodup := hgrown.columnsApart_iff.1 hapart t ht
    rw [if_pos hof] at hnodup
    exact ((nodup_columnNames_extend_iff key refs attributes t.table).1 hnodup).2
  · rintro ⟨hapart, hholder⟩
    refine hgrown.columnsApart_iff.2 fun t ht => ?_
    split
    · next hof =>
      refine (nodup_columnNames_extend_iff key refs attributes t.table).2 ⟨hapart t ht, ?_⟩
      exact hholder key refs t.table hkey hrefs (hs.table?_of_mem ht hof)
    · exact hapart t ht

end Diagram

/-! ## Specializations -/

namespace NodeTable

variable {as : List Addition} {r : NodeTable}

/-- Of additions to different entities a table receives one at most. -/
theorem additions_eq_nil_or_singleton (has : (as.map (·.entity)).Nodup) (r : NodeTable) :
    r.additions as = [] ∨ ∃ a ∈ as, r.isOf a.entity = true ∧ r.additions as = [a] := by
  match hl : r.additions as with
  | [] => exact .inl rfl
  | [a] =>
    obtain ⟨ha, hof⟩ := mem_additions_iff.1 (hl ▸ List.mem_singleton_self a)
    exact .inr ⟨a, ha, hof, rfl⟩
  | a :: b :: rest =>
    -- both would be meant for the entity of this table
    exfalso
    have hsublist : ((a :: b :: rest).map (·.entity)).Sublist (as.map (·.entity)) := by
      rw [← hl]
      exact List.filter_sublist.map _
    have hne : a.entity ≠ b.entity := by
      have hnodup := has.sublist hsublist
      simp only [List.map_cons, List.nodup_cons, List.mem_cons, not_or] at hnodup
      exact hnodup.1.1
    have hof (x : Addition) (hx : x ∈ r.additions as) : r.node.id = x.entity := by
      have hof := (mem_additions_iff.1 hx).2
      simp only [isOf, Bool.and_eq_true, beq_iff_eq] at hof
      exact hof.2
    rw [hl] at hof
    exact hne ((hof a (by simp)).symm.trans (hof b (by simp)))

/-- It receives the one that is meant for its entity. -/
theorem additions_eq_singleton (has : (as.map (·.entity)).Nodup) {a : Addition} (ha : a ∈ as)
    (hof : r.isOf a.entity = true) : r.additions as = [a] := by
  have hmem : a ∈ r.additions as := mem_additions_iff.2 ⟨ha, hof⟩
  rcases additions_eq_nil_or_singleton has r with hnil | ⟨b, -, -, hone⟩
  · rw [hnil] at hmem
    cases hmem
  · rw [hone, List.mem_singleton] at hmem
    rw [hone, hmem]

theorem columnNames_receive (r : NodeTable) (as : List Addition) :
    (r.receive as).table.columnNames =
      r.table.columnNames ++ (r.additions as).flatMap fun a => Column.names a.columns := by
  rw [receive, Table.columnNames_extend, Column.names, List.map_flatMap]
  rfl

/-- A table that receives columns under names that are free in it keeps its columns apart if those
that it receives together have different names. -/
theorem nodup_columnNames_receive_iff (has : (as.map (·.entity)).Nodup) (r : NodeTable)
    (hfree : ∀ a ∈ as, r.isOf a.entity = true →
      r.table.columnNames.Disjoint (Column.names a.columns)) :
    (r.receive as).table.columnNames.Nodup ↔
      r.table.columnNames.Nodup ∧
        ∀ a ∈ as, r.isOf a.entity = true → (Column.names a.columns).Nodup := by
  rw [columnNames_receive]
  rcases additions_eq_nil_or_singleton has r with hnil | ⟨b, hb, hof, hone⟩
  · have hnone : ∀ a ∈ as, r.isOf a.entity = true → (Column.names a.columns).Nodup := by
      intro a ha hof
      have hmem := mem_additions_iff.2 ⟨ha, hof⟩
      rw [hnil] at hmem
      cases hmem
    rw [hnil, List.flatMap_nil, List.append_nil]
    exact (and_iff_left hnone).symm
  · have hsame : ∀ a ∈ as, r.isOf a.entity = true → a = b := by
      intro a ha hof
      rw [additions_eq_singleton has ha hof, List.singleton_inj] at hone
      exact hone
    rw [hone, List.flatMap_singleton, List.nodup_append']
    constructor
    · rintro ⟨hr, hnames, -⟩
      refine ⟨hr, ?_⟩
      intro a ha hof
      rw [hsame a ha hof]
      exact hnames
    · rintro ⟨hr, hnames⟩
      exact ⟨hr, hnames b hb hof, hfree b hb hof⟩

end NodeTable

/-- Additions to different entities, under names that are free in the tables of these, keep the
columns apart if each addition does by itself. -/
theorem Draft.columnsApart_append_iff {as : List Addition} (has : (as.map (·.entity)).Nodup)
    (hs : s.Exact) (hs' : as.foldlM Draft.append s = .ok s')
    (hfree : ∀ t ∈ s.tables, ∀ a ∈ as, t.isOf a.entity = true →
      t.table.columnNames.Disjoint (Column.names a.columns)) :
    s'.ColumnsApart ↔ s.ColumnsApart ∧
      ∀ t ∈ s.tables, ∀ a ∈ as, t.isOf a.entity = true → (Column.names a.columns).Nodup := by
  have htable : ∀ t ∈ s.tables, (t.receive as).table.columnNames.Nodup ↔
      t.table.columnNames.Nodup ∧
        ∀ a ∈ as, t.isOf a.entity = true → (Column.names a.columns).Nodup :=
    fun t ht => t.nodup_columnNames_receive_iff has (hfree t ht)
  rw [(Draft.grownBy_receive (hs.tables_foldlM_append hs')).columnsApart_iff]
  constructor
  · intro hapart
    exact ⟨fun t ht => ((htable t ht).1 (hapart t ht)).1,
      fun t ht => ((htable t ht).1 (hapart t ht)).2⟩
  · rintro ⟨hapart, hnames⟩ t ht
    exact (htable t ht).2 ⟨hapart t ht, hnames t ht⟩

namespace SpecializationTie

/-- The additions of an exclusive specialization are meant for its parent and its children, in this
order. -/
theorem map_entity_exclusiveAdditions (tie : SpecializationTie) (discriminator : String) :
    (tie.exclusiveAdditions discriminator).map (·.entity) =
      tie.parent.id :: tie.children.map (·.id) := by
  simp [exclusiveAdditions]

/-- So are those of an overlapped specialization, if there is a flag for each child. -/
theorem map_entity_overlappedAdditions (tie : SpecializationTie) {flags : List String}
    (hlength : tie.children.length = flags.length) :
    (tie.overlappedAdditions flags).map (·.entity) = tie.parent.id :: tie.children.map (·.id) := by
  have hchildren : (tie.children.zip flags).map Prod.fst = tie.children :=
    List.map_fst_zip (Nat.le_of_eq hlength)
  rw [overlappedAdditions, List.map_cons, ← List.map_uncurry_zip_eq_zipWith, List.map_map]
  conv_rhs => rw [← hchildren, List.map_map]
  rfl

/-- The parent receives all flags, and each child its own. -/
theorem overlappedAdditions_eq_cons (tie : SpecializationTie) (flags : List String) :
    ∃ p rest, tie.overlappedAdditions flags = p :: rest ∧ p.entity = tie.parent.id ∧
      Column.names p.columns = flags ∧
      ∀ a ∈ rest, ∃ c f, (c, f) ∈ tie.children.zip flags ∧ a.entity = c.id ∧
        Column.names a.columns = [f] := by
  refine ⟨_, _, rfl, rfl, ?_, fun a ha => ?_⟩
  · rw [Column.names, List.map_map]
    exact List.map_id flags
  · rw [← List.map_uncurry_zip_eq_zipWith] at ha
    obtain ⟨⟨c, f⟩, hcf, rfl⟩ := List.mem_map.1 ha
    exact ⟨c, f, hcf, rfl, rfl⟩

end SpecializationTie

namespace Diagram

variable {kind : SpecializationKind} {tie : SpecializationTie}

/-- The parent and the children of a specialization are different entities. -/
theorem Accepted.nodup_members (h : d.Accepted) (hd : d.DistinctIds) (hn : n ∈ d.nodes)
    (hkind : n.kind = .specialization kind) (htie : d.specializationTie n kind = .ok tie) :
    (tie.parent.id :: tie.children.map (·.id)).Nodup := by
  obtain ⟨hparent, hchildren, hrefs⟩ := of_specializationTie htie
  have hends : d.EndsAtKey tie.parent := by
    obtain ⟨l, hl, -⟩ := bind_eq_ok_iff.1 hrefs
    exact ((lineage_eq_ok_iff (of_parent? hparent).1).1 hl).endsAtKey
  rw [List.nodup_cons, hchildren]
  refine ⟨h.parent_not_mem_children hd hn ?_ hparent hends, nodup_ids_children d n.id⟩
  rw [hkind]
  rfl

/-- An exclusive specialization keeps the columns apart: the discriminator is free in all tables
that receive it, and each of them receives it once. -/
theorem columnsApart_exclusive_iff (hs : s.Exact)
    (hmembers : (tie.parent.id :: tie.children.map (·.id)).Nodup) {discriminator : String}
    (hname : s.sharedName (tie.parent.id :: tie.children.map (·.id)) tie.discriminatorName =
      .ok discriminator)
    (hs' : (tie.exclusiveAdditions discriminator).foldlM Draft.append s = .ok s') :
    s'.ColumnsApart ↔ s.ColumnsApart := by
  have hentities := tie.map_entity_exclusiveAdditions discriminator
  have hnames : ∀ a ∈ tie.exclusiveAdditions discriminator,
      Column.names a.columns = [discriminator] := by
    intro a ha
    rcases List.mem_cons.1 ha with rfl | ha
    · rfl
    · obtain ⟨c, -, rfl⟩ := List.mem_map.1 ha
      rfl
  rw [Draft.columnsApart_append_iff (hentities ▸ hmembers) hs hs', and_iff_left]
  · intro t _ a ha _
    rw [hnames a ha]
    exact List.nodup_singleton discriminator
  · intro t ht a ha hof
    have hid : a.entity ∈ tie.parent.id :: tie.children.map (·.id) := by
      rw [← hentities]
      exact List.mem_map_of_mem ha
    rw [hnames a ha, List.disjoint_singleton]
    exact Draft.sharedName_not_mem hs hname ht hid hof

/-- The flags of the children of a specialization are different. Each is chosen against the tables
of the parent and of its child as they are before any flag is added. -/
def FlagsApart (d : Diagram) (s : Draft) (n : Node) : Prop :=
  ∀ parent flags, d.parent? n.id = some parent →
    (d.children n.id).mapM (fun c =>
      s.sharedName [parent.id, c.id] (SpecializationTie.flagName c)) = .ok flags → flags.Nodup

/-- An overlapped specialization keeps the columns apart if the flags are different. -/
theorem columnsApart_overlapped_iff (hs : s.OffersAll d) (hd : d.DistinctIds)
    (hmembers : (tie.parent.id :: tie.children.map (·.id)).Nodup)
    (htie : d.specializationTie n kind = .ok tie) {flags : List String}
    (hnames : tie.children.mapM (fun c =>
      s.sharedName [tie.parent.id, c.id] (SpecializationTie.flagName c)) = .ok flags)
    (hs' : (tie.overlappedAdditions flags).foldlM Draft.append s = .ok s') :
    s'.ColumnsApart ↔ s.ColumnsApart ∧ d.FlagsApart s n := by
  obtain ⟨hparent, hchildren, -⟩ := of_specializationTie htie
  obtain ⟨hfound, hentity⟩ := of_parent? hparent
  obtain ⟨hlength, hshared⟩ := List.forall₂_iff_zip.1 (mapM_eq_ok_iff.1 hnames)
  have hentities := tie.map_entity_overlappedAdditions hlength
  obtain ⟨p, rest, hcons, hp, hpnames, hrest⟩ := tie.overlappedAdditions_eq_cons flags
  rw [Draft.columnsApart_append_iff (hentities ▸ hmembers) (hs.exact hd) hs', hcons]
  · refine and_congr_right fun _ => ?_
    constructor
    · intro hall parent flags' hparent' hflags'
      obtain rfl := Option.some.inj (hparent.symm.trans hparent')
      rw [← hchildren] at hflags'
      obtain rfl := Except.ok.inj (hnames.symm.trans hflags')
      -- the parent's table receives all flags together
      obtain ⟨t, ht, hnode, -⟩ := hs.exists_table (mem_of_node? hfound).1 hentity
      rw [← hpnames]
      refine hall t ht p List.mem_cons_self ?_
      simp [NodeTable.isOf, hnode, hentity, hp]
    · intro hflags t _ a ha _
      rcases List.mem_cons.1 ha with rfl | ha
      · rw [hpnames]
        exact hflags tie.parent flags hparent (hchildren ▸ hnames)
      · obtain ⟨c, f, -, -, hanames⟩ := hrest a ha
        rw [hanames]
        exact List.nodup_singleton f
  · -- a flag is free in the table of the parent and in that of its child
    intro t ht a ha hof
    rw [hcons] at ha
    rcases List.mem_cons.1 ha with rfl | ha
    · rw [hpnames]
      rw [hp] at hof
      intro f hmem hf
      rw [← List.map_snd_zip (Nat.le_of_eq hlength.symm), List.mem_map] at hf
      obtain ⟨⟨c, f⟩, hcf, rfl⟩ := hf
      exact Draft.sharedName_not_mem (hs.exact hd) (hshared hcf) ht List.mem_cons_self hof hmem
    · obtain ⟨c, f, hcf, hac, hanames⟩ := hrest a ha
      rw [hac] at hof
      rw [hanames, List.disjoint_singleton]
      exact Draft.sharedName_not_mem (hs.exact hd) (hshared hcf) ht
        (List.mem_cons_of_mem _ List.mem_cons_self) hof

/-! ## Steps and runs -/

/-- A step keeps the columns apart: the names of the group that it adds without a check are
different. Multi-valued attributes and exclusive specializations have no such group. -/
def StepApart (d : Diagram) (s : Draft) (n : Node) : Prop :=
  match n.kind with
  | .entity | .weakEntity => d.IdentityApart n
  | .relation =>
    match d.cardinality n.id with
    | .unrelated => True
    | .oneToOne | .oneToMany => d.HolderApart s n
    | .manyToMany => d.JunctionApart n
  | .specialization kind => kind.exclusive = false → d.FlagsApart s n
  | _ => True

/-- Every step of a run keeps the columns apart. -/
def RunApart (d : Diagram) : Draft → List Node → Prop
  | _, [] => True
  | s, n :: ns => d.StepApart s n ∧ ∀ s', d.build s n = .ok s' → d.RunApart s' ns

/-- Taking an entity keeps the columns apart exactly under its condition. -/
theorem columnsApart_entity_iff (hn : d.node? n.id = some n) (hkind : n.kind.isEntity = true)
    (h : d.build s n = .ok s') : s'.ColumnsApart ↔ s.ColumnsApart ∧ d.StepApart s n := by
  obtain ⟨t, ht, rfl⟩ := entityTable_of_build hkind h
  rw [Draft.columnsApart_addEntity, nodup_columnNames_entityTable_iff hn ht, StepApart]
  cases hk : n.kind <;> simp_all [NodeKind.isEntity]

/-- Every later step keeps the columns apart exactly under its condition. -/
theorem Step.columnsApart_iff (hstep : d.Step s n s') (h : d.Accepted) (hd : d.DistinctIds)
    (hn : n ∈ d.laterNodes) (hs : s.OffersAll d) :
    s'.ColumnsApart ↔ s.ColumnsApart ∧ d.StepApart s n := by
  have hmem : n ∈ d.nodes := (mem_laterNodes_iff.1 hn).1
  cases hstep with
  | entity hkind _ =>
    rw [isEntity_of_mem_laterNodes hn] at hkind
    cases hkind
  | junction hkind hmany ht =>
    rw [Draft.columnsApart_add, nodup_columnNames_junctionTable_iff ht, StepApart, hkind, hmany]
  | values hkind ht =>
    rw [Draft.columnsApart_add, StepApart, hkind]
    exact and_congr_right fun hapart =>
      iff_of_true (nodup_columnNames_multiValuedTable hs hapart ht) trivial
  | foreignKey hkind hclass hkey hrefs _ hs' =>
    rw [columnsApart_relationKey_iff (hs.exact hd) hkey hrefs hs', StepApart, hkind]
    rcases hclass with hclass | hclass <;> rw [hclass]
  | exclusive hkind hexclusive htie hname hs' =>
    rw [columnsApart_exclusive_iff (hs.exact hd) (h.nodup_members hd hmem hkind htie) hname hs',
      StepApart, hkind]
    simp [hexclusive]
  | overlapped hkind hoverlapped htie hnames hs' =>
    rw [columnsApart_overlapped_iff hs hd (h.nodup_members hd hmem hkind htie) htie hnames hs',
      StepApart, hkind]
    simp [hoverlapped]
  | idle hname hrelation hspecial =>
    have hnothing : d.StepApart s n := by
      unfold StepApart
      cases hk : n.kind with
      | relation =>
        rw [hrelation hk]
        trivial
      | entity => simp [tableName?, hk] at hname
      | weakEntity => simp [tableName?, hk] at hname
      | specialization kind => simp [hk, NodeKind.isSpecialization] at hspecial
      | dependency _ | attr _ => trivial
    exact (and_iff_left hnothing).symm

/-- A run keeps the columns apart exactly if each of its steps does. -/
theorem columnsApart_foldlM_iff {I : Draft → Prop} {ns : List Node}
    (hstep : ∀ s n s', n ∈ ns → I s → d.build s n = .ok s' →
      I s' ∧ (s'.ColumnsApart ↔ s.ColumnsApart ∧ d.StepApart s n))
    (hs : I s) (h : ns.foldlM d.build s = .ok s') :
    s'.ColumnsApart ↔ s.ColumnsApart ∧ d.RunApart s ns := by
  induction ns generalizing s with
  | nil =>
    rw [List.foldlM_nil, pure_eq_ok_iff] at h
    rw [h, RunApart, and_true]
  | cons n ns ih =>
    rw [List.foldlM_cons, bind_eq_ok_iff] at h
    obtain ⟨s₁, hs₁, h⟩ := h
    obtain ⟨hI, hiff⟩ := hstep s n s₁ List.mem_cons_self hs hs₁
    rw [ih (fun s m s' hm => hstep s m s' (List.mem_cons_of_mem _ hm)) hI h, hiff, RunApart,
      forall_ok_iff hs₁, and_assoc]

/-- A run in two parts keeps the columns apart if both parts do. -/
theorem runApart_append_iff {ns ms : List Node} :
    d.RunApart s (ns ++ ms) ↔
      d.RunApart s ns ∧ ∀ s', ns.foldlM d.build s = .ok s' → d.RunApart s' ms := by
  induction ns generalizing s with
  | nil =>
    rw [List.nil_append, RunApart, true_and]
    constructor
    · intro h s' hs'
      rw [List.foldlM_nil, pure_eq_ok_iff] at hs'
      exact hs' ▸ h
    · intro h
      exact h s rfl
  | cons n ns ih =>
    rw [List.cons_append, RunApart, RunApart, and_assoc]
    refine and_congr_right fun _ => ?_
    constructor
    · intro h
      refine ⟨fun s₁ hs₁ => (ih.1 (h s₁ hs₁)).1, fun s' hs' => ?_⟩
      rw [List.foldlM_cons, bind_eq_ok_iff] at hs'
      obtain ⟨s₁, hs₁, hs'⟩ := hs'
      exact (ih.1 (h s₁ hs₁)).2 s' hs'
    · rintro ⟨hfirst, hsecond⟩ s₁ hs₁
      refine ih.2 ⟨hfirst s₁ hs₁, fun s' hs' => hsecond s' ?_⟩
      rw [List.foldlM_cons, hs₁]
      exact hs'

/-- The tables of the schema of an accepted diagram have no two columns of one name if and only if
each step of the synthesis gives different names to the columns that it adds without a check. -/
theorem Accepted.nodup_columnNames_iff (h : d.Accepted) (hd : d.DistinctIds) {schema : Schema}
    (hschema : d.synthesize = .ok schema) :
    (∀ t ∈ schema.tables, t.columnNames.Nodup) ↔ d.RunApart .empty d.buildOrder := by
  obtain ⟨s₁, s₂, hs₁, hs₂, rfl⟩ := exists_drafts_of_synthesize hschema
  have hentities : s₁.ColumnsApart ↔ d.RunApart .empty d.entityNodes := by
    have hstep : ∀ s n s', n ∈ d.entityNodes → True → d.build s n = .ok s' →
        True ∧ (s'.ColumnsApart ↔ s.ColumnsApart ∧ d.StepApart s n) := by
      intro s n s' hn _ hbuild
      obtain ⟨hmem, hkind⟩ := mem_entityNodes_iff.1 hn
      exact ⟨trivial, columnsApart_entity_iff (node?_of_mem hd hmem) hkind hbuild⟩
    rw [columnsApart_foldlM_iff (I := fun _ => True) hstep trivial hs₁]
    exact and_iff_right fun t ht => absurd ht List.not_mem_nil
  have hlater : s₂.ColumnsApart ↔ s₁.ColumnsApart ∧ d.RunApart s₁ d.laterNodes := by
    refine columnsApart_foldlM_iff (I := (·.OffersAll d)) ?_
      (offersAll_of_foldlM_entityNodes hd hs₁) hs₂
    intro s n s' hn hs hbuild
    have hstep := step_of_build hbuild
    exact ⟨hstep.offersAll hn hs, hstep.columnsApart_iff h hd hn hs⟩
  have hschema : (∀ t ∈ s₂.schema.tables, t.columnNames.Nodup) ↔ s₂.ColumnsApart := by
    simp [Draft.schema, Draft.ColumnsApart]
  rw [hschema, hlater, hentities, buildOrder_eq, runApart_append_iff,
    forall_ok_iff hs₁]

theorem runApart_university : university.RunApart .empty university.buildOrder := by
  have hsome : university.synthesize.toOption.any
      (fun schema => decide (∀ t ∈ schema.tables, t.columnNames.Nodup)) = true := by decide +kernel
  obtain ⟨schema, h, hnodup⟩ := exists_eq_ok_of_any hsome
  exact (accepted_university.nodup_columnNames_iff (by decide) h).1 (of_decide_eq_true hnodup)

/-- An entity with a key and an alternative key of one name. -/
def repeated : Diagram where
  nodes := [
    ⟨"p", .entity, "Person", none⟩,
    ⟨"k", .attr .key, "id:INTEGER", none⟩,
    ⟨"a", .attr .alternativeKey, "id:INTEGER", none⟩]
  edges := [
    ⟨"edge-1", .transition, "p", "k", none⟩,
    ⟨"edge-2", .transition, "p", "a", none⟩]

/-- An accepted diagram can have a schema with two columns of one name in a table. -/
theorem not_nodup_columnNames_repeated :
    repeated.DistinctIds ∧ repeated.Closed ∧ repeated.Accepted ∧
      ∃ schema, repeated.synthesize = .ok schema ∧
        ¬ ∀ t ∈ schema.tables, t.columnNames.Nodup := by
  have hsome : repeated.synthesize.toOption.any
      (fun schema => !decide (∀ t ∈ schema.tables, t.columnNames.Nodup)) = true := by decide +kernel
  obtain ⟨schema, h, hnodup⟩ := exists_eq_ok_of_any hsome
  exact ⟨by decide, by decide, by decide +kernel, schema, h, by simpa using hnodup⟩

end Diagram

end EntityRelationship
