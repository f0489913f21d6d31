import EntityRelationship.Proofs.Relational.AttributeColumns
import EntityRelationship.Proofs.Relational.Keys

/-!
# Tables of relations

A relation between many and many has a table of its own. It refers to each end of the relation by a
foreign key, whose columns have the types of the identity columns of the entity there. If an entity
is at several ends, each of them has columns of its own. Behind the columns of the ends come those
of the relation's key, if it has one, and then those of its other attributes. The relation's key is
the primary key, and otherwise all referring columns together are.

No later step touches the table, so it is in the schema as it was made. The tables of the entities
have grown since, but they still offer the identities.
-/

namespace EntityRelationship

open Outcome

variable {d : Diagram} {n : Node} {s : Draft} {t t' : Table} {e : Neighbor} {es : List Neighbor}
  {schema : Schema}

/-! ## Referring columns -/

/-- A column that must have a value stands for a column of another table, whatever its name. -/
structure StandsFor (c : Column) (referred : TypedName) : Prop where
  type_eq : c.type = referred.type
  nullable_eq : c.nullable = false

/-- Some columns make up a foreign key that leads to the entity at an end of a relation: they stand
for the identity columns, one by one. -/
structure Diagram.RefersToEnd (d : Diagram) (e : Neighbor) (columns : List Column)
    (key : ForeignKey) : Prop where
  identity : ∃ ids, d.identityColumns e.node.id = .ok ids ∧
    List.Forall₂ StandsFor columns ids ∧ key.references = ids.map (·.name)
  columns_eq : key.columns = Column.names columns
  table_eq : key.table = e.node.safeName
  cascade_eq : key.cascade = true

namespace Diagram

/-- Adding an end adds columns and the foreign key that they make up, under names that are free. -/
theorem exists_refersToEnd_of_addEnd (h : d.addEnd t e = .ok t') :
    ∃ columns key, d.RefersToEnd e columns key ∧ t' = t.extend columns [.foreignKey key] ∧
      t.columnNames.Disjoint (Column.names columns) := by
  obtain ⟨refs, hrefs, h⟩ := bind_eq_ok_iff.1 h
  extract_lets refs' at h
  cases h
  have htargets : refs'.map (·.target) = refs.map (·.target) := by
    rw [List.map_map]
    rfl
  have hnames : Column.names (refs'.map fun r => .ofTypedName r.column) =
      refs'.map (·.column.name) := by
    rw [Column.names, List.map_map]
    rfl
  refine ⟨_, _, ⟨⟨refs'.map (·.target), ?_, ?_, ?_⟩, ?_, rfl, rfl⟩, rfl, ?_⟩
  · rw [htargets]
    exact identityColumns_of_foreignKeyColumns hrefs
  · rw [List.forall₂_map_left_iff, List.forall₂_map_right_iff, List.forall₂_same]
    exact fun r _ => ⟨rfl, rfl⟩
  · rw [List.map_map]
    exact List.append_nil _
  · rw [hnames]
    exact List.append_nil _
  · rw [hnames]
    intro name hname hmem
    obtain ⟨r', hr', rfl⟩ := List.mem_map.1 hmem
    obtain ⟨r, -, rfl⟩ := List.mem_map.1 hr'
    exact t.freshName_not_mem _ hname

/-- The ends of a relation add their columns and foreign keys one behind the other. No end has a
column under a name of an earlier one. -/
theorem exists_refersToEnd_of_ends (h : es.foldlM d.addEnd t = .ok t') :
    ∃ parts : List (List Column × ForeignKey),
      List.Forall₂ (fun e p => d.RefersToEnd e p.1 p.2) es parts ∧
      t' = t.extend (parts.map (·.1)).flatten (parts.map fun p => .foreignKey p.2) ∧
      (∀ p ∈ parts, t.columnNames.Disjoint (Column.names p.1)) ∧
      parts.Pairwise fun p q => (Column.names p.1).Disjoint (Column.names q.1) := by
  induction es generalizing t with
  | nil =>
    rw [List.foldlM_nil, pure_eq_ok_iff] at h
    exact ⟨[], .nil, by simp [← h, Table.extend], by simp, .nil⟩
  | cons e es ih =>
    rw [List.foldlM_cons, bind_eq_ok_iff] at h
    obtain ⟨t₁, ht₁, h⟩ := h
    obtain ⟨columns, key, hrefers, rfl, hfree⟩ := exists_refersToEnd_of_addEnd ht₁
    obtain ⟨parts, hparts, rfl, hlater, hapart⟩ := ih h
    -- a later end avoids what was there before the first one, and the columns of the first one
    rw [Table.columnNames_extend] at hlater
    refine ⟨(columns, key) :: parts, .cons hrefers hparts, ?_, ?_, .cons ?_ hapart⟩
    · simp [Table.extend]
    · rw [List.forall_mem_cons]
      exact ⟨hfree, fun p hp => (List.disjoint_append_left.1 (hlater p hp)).1⟩
    · exact fun p hp => (List.disjoint_append_left.1 (hlater p hp)).2

/-- A table to which nothing but ends was added consists of their columns and foreign keys. -/
theorem exists_refersToEnd_of_blank {name : String} (h : es.foldlM d.addEnd (.blank name) = .ok t) :
    ∃ parts : List (List Column × ForeignKey),
      List.Forall₂ (fun e p => d.RefersToEnd e p.1 p.2) es parts ∧ t.name = name ∧
      t.columns = (parts.map (·.1)).flatten ∧
      t.columnNames = (parts.map (·.2.columns)).flatten ∧
      t.foreignKeys = parts.map (·.2) ∧
      parts.Pairwise fun p q => p.2.columns.Disjoint q.2.columns := by
  obtain ⟨parts, hparts, rfl, -, hapart⟩ := exists_refersToEnd_of_ends h
  -- a foreign key names the columns that make it up
  have hnames : ∀ p ∈ parts, p.2.columns = Column.names p.1 := by
    intro p hp
    obtain ⟨e, -, he⟩ := exists_of_forall₂ hparts.flip hp
    exact he.columns_eq
  refine ⟨parts, hparts, rfl, rfl, ?_, ?_, hapart.imp_of_mem fun hp hq hpq => ?_⟩
  · rw [List.map_congr_left hnames]
    simp [Table.blank, Table.columnNames, Column.names, List.map_flatten, Function.comp_def]
  · simp [Constraint.foreignKey?, List.filterMap_map]
  · rw [hnames _ hp, hnames _ hq]
    exact hpq

/-! ## Keys -/

/-- The columns of a key are added behind the others, also where a column is marked as the key. -/
theorem exists_columns_addKey (t : Table) (kind : KeyKind) (ts : List TypedName) :
    ∃ cs, (t.addKey kind (ts.map .ofTypedName)).columns = t.columns ++ cs ∧
      List.Forall₂ (fun (c : Column) x => c.name = x.name ∧ StandsFor c x) cs ts := by
  rw [Table.addKey_eq_extend, Table.columns_extend]
  refine ⟨_, rfl, ?_⟩
  split
  · rw [List.map_map, List.forall₂_map_left_iff, List.forall₂_same]
    exact fun x _ => ⟨rfl, rfl, rfl⟩
  · rw [List.forall₂_map_left_iff, List.forall₂_same]
    exact fun x _ => ⟨rfl, rfl, rfl⟩

/-- The columns of a relation's own key, and the primary key of its table. Without a key of its own
there are no such columns, and all referring columns are the primary key. -/
inductive IsJunctionKey (d : Diagram) (n : Node) (referring : List String) :
    List Column → List String → Prop
  | own {key : Node} {leaves : List TypedName} {columns : List Column}
    (hkey : d.primaryKey? n.id = some key) (hleaves : d.leafColumns key = .ok leaves)
    (hcolumns : List.Forall₂ (fun (c : Column) x => c.name = x.name ∧ StandsFor c x)
      columns leaves) :
    IsJunctionKey d n referring columns (leaves.map (·.name))
  | referring (hnone : d.primaryKey? n.id = none) : IsJunctionKey d n referring [] referring

/-- The primary key is declared behind the ends of a relation, with the columns of the relation's
own key. -/
theorem exists_isJunctionKey {ends keyed : Table} (hends : ends.Keyless)
    (h : (d.primaryKey? n.id = none ∧ keyed = ends.extend [] [.key .primary ends.columnNames]) ∨
      ∃ key columns, d.primaryKey? n.id = some key ∧ d.leafColumns key = .ok columns ∧
        keyed = ends.addKey .primary (columns.map .ofTypedName)) :
    ∃ key names, d.IsJunctionKey n ends.columnNames key names ∧ keyed.KeyedBy names ∧
      keyed.name = ends.name ∧ keyed.columns = ends.columns ++ key ∧
      keyed.foreignKeys = ends.foreignKeys := by
  rcases h with ⟨hnone, rfl⟩ | ⟨key, leaves, hkey, hleaves, rfl⟩
  · exact ⟨[], _, .referring hnone, hends.keyedBy_all, rfl, rfl, by simp [Constraint.foreignKey?]⟩
  · obtain ⟨columns, hcolumns, hleafColumns⟩ := exists_columns_addKey ends .primary leaves
    exact ⟨columns, _, .own hkey hleaves hleafColumns, hends.keyedBy_addKey leaves,
      Table.name_addKey _ _ _, hcolumns, Table.foreignKeys_addKey _ _ _⟩

/-! ## The table -/

/-- The table of a relation: the columns and foreign keys of its ends, the columns of its key, and
the groups of columns of its other attributes. -/
structure IsJunctionTable (d : Diagram) (n : Node) (t : Table)
    (parts : List (List Column × ForeignKey)) (key : List Column) (groups : List (List Column)) :
    Prop where
  ends : List.Forall₂ (fun e p => d.RefersToEnd e p.1 p.2) (d.entityEnds n.id) parts
  attributes : List.Forall₂ (d.IsGroupOf False) (d.attributes n.id) groups
  name_eq : t.name = n.safeName
  columns_eq : t.columns = (parts.map (·.1)).flatten ++ key ++ groups.flatten
  foreignKeys_eq : t.foreignKeys = parts.map (·.2)
  keyed : ∃ names, d.IsJunctionKey n (parts.map (·.2.columns)).flatten key names ∧ t.KeyedBy names
  apart : parts.Pairwise fun p q => p.2.columns.Disjoint q.2.columns

/-- What is made for a relation between many and many is such a table. -/
theorem exists_isJunctionTable_of_junctionTable (h : d.junctionTable n = .ok t) :
    ∃ parts key groups, d.IsJunctionTable n t parts key groups := by
  obtain ⟨ends, keyed, attributes, hends, hattributes, rfl, hkeyed⟩ := of_junctionTable h
  obtain ⟨groups, hcolumns, hgroups⟩ := exists_groups_pushAll hattributes keyed n.safeName
  rw [Bool.false_eq_true] at hgroups
  obtain ⟨parts, hparts, hname, hendColumns, hendNames, hendKeys, hapart⟩ :=
    exists_refersToEnd_of_blank hends
  obtain ⟨key, names, hkey, hkeyedBy, hkeyedName, hkeyedColumns, hkeyedForeign⟩ :=
    exists_isJunctionKey (keyless_ends hends) hkeyed
  rw [hendNames] at hkey
  have hkeeps := Table.keepsKey_pushAll keyed n.safeName (key_of_mem_attributeColumns hattributes)
  refine ⟨parts, key, groups, hparts, hgroups, ?_, ?_, ?_, ⟨names, hkey, hkeyedBy.mono hkeeps⟩,
    hapart⟩
  · rw [Table.name_pushAll, hkeyedName, hname]
  · rw [hcolumns, hkeyedColumns, hendColumns]
  · rw [Table.foreignKeys_pushAll, hkeyedForeign, hendKeys]

/-! ## The table in the schema -/

/-- An entity's table is found under the entity's name, and it offers the entity's identity. -/
theorem Accepted.exists_table?_offers (h : d.Accepted) (hd : d.DistinctIds)
    (hs : d.synthesize = .ok schema) (hn : n ∈ d.nodes) (hkind : n.kind.isEntity = true) :
    ∃ t, schema.table? n.safeName = some t ∧ d.Offers n t := by
  obtain ⟨t, ht, t', hmem, hgrows⟩ := exists_table_of_entity hs hn hkind
  have hoffers : d.Offers n t' := (offers_entityTable (node?_of_mem hd hn) ht).mono hgrows
  exact ⟨t', hoffers.name_eq ▸ h.table?_of_mem hs hmem, hoffers⟩

/-- A relation between many and many has two ends or more, and a table that is found under its name.
The table has one foreign key for each end, in the order of the ends. The foreign key leads to the
table of the entity there; it is made up of columns that stand for the identity columns of the
entity and must have a value, and a row goes with the row referred to. These columns come first,
then those of the relation's key and then those of its plain and derived attributes. The primary key
is the relation's key if it has one, and otherwise the columns of all foreign keys in a row. -/
theorem Accepted.exists_isJunctionTable (h : d.Accepted) (hd : d.DistinctIds)
    (hs : d.synthesize = .ok schema) (hn : n ∈ d.nodes) (hkind : n.kind = .relation)
    (hmany : d.cardinality n.id = .manyToMany) :
    2 ≤ (d.entityEnds n.id).length ∧
    (∃ t parts key groups, schema.table? n.safeName = some t ∧
      d.IsJunctionTable n t parts key groups) ∧
    ∀ e ∈ d.entityEnds n.id, ∃ t, schema.table? e.node.safeName = some t ∧ d.Offers e.node t := by
  refine ⟨h.two_le_length_entityEnds hn (by rw [hkind]; rfl), ?_, fun e he => ?_⟩
  · obtain ⟨s, s', htakes, -⟩ := exists_takes_of_later hs (mem_laterNodes_iff.2 ⟨hn, .inl hkind⟩)
    obtain ⟨t, ht, rfl⟩ : ∃ t, d.junctionTable n = .ok t ∧ s' = s.add n t := by
      have hbuild := htakes.build_eq
      rw [build, hkind] at hbuild
      simp only [addRelation, hmany] at hbuild
      obtain ⟨t, ht, hadd⟩ := bind_eq_ok_iff.1 hbuild
      exact ⟨t, ht, (Except.ok.inj hadd).symm⟩
    obtain ⟨parts, key, groups, hjunction⟩ := exists_isJunctionTable_of_junctionTable ht
    refine ⟨t, parts, key, groups, ?_, hjunction⟩
    rw [← hjunction.name_eq]
    exact h.table?_of_mem hs (htakes.mem_tables_of_add (by rw [hkind]; rfl))
  · obtain ⟨hnear, hentity⟩ := mem_entityEnds_iff.1 he
    exact h.exists_table?_offers hd hs (mem_nodes_of_mem_neighbors hnear) hentity

/-- A person introduces another one to a third one in some town. Persons are identified by a year
and a number in it. -/
def introductions : Diagram where
  nodes := [
    ⟨"p", .entity, "Person", none⟩,
    ⟨"k", .attr .key, "id", none⟩,
    ⟨"y", .attr .plain, "year:INTEGER", none⟩,
    ⟨"c", .attr .plain, "count:INTEGER", none⟩,
    ⟨"t", .entity, "Town", none⟩,
    ⟨"z", .attr .key, "zip:TEXT", none⟩,
    ⟨"i", .relation, "Introduces", none⟩,
    ⟨"o", .attr .plain, "on:DATE", none⟩]
  edges := [
    ⟨"e1", .transition, "p", "k", none⟩,
    ⟨"e2", .transition, "k", "y", none⟩,
    ⟨"e3", .transition, "k", "c", none⟩,
    ⟨"e4", .transition, "t", "z", none⟩,
    ⟨"e5", .weighted, "p", "i", some "(0..N)"⟩,
    ⟨"e6", .weighted, "i", "p", some "(0..N)"⟩,
    ⟨"e7", .weighted, "p", "i", some "(0..N)"⟩,
    ⟨"e8", .weighted, "i", "t", some "(0..N)"⟩,
    ⟨"e9", .optional, "i", "o", none⟩]

/-- Three of the four foreign keys lead to persons, and they have columns of their own. -/
theorem exists_isJunctionTable_introductions :
    introductions.Accepted ∧ introductions.DistinctIds ∧
      ∃ schema t, introductions.synthesize = .ok schema ∧
        schema.table? "Introduces" = some t ∧ t.foreignKeys.length = 4 ∧
        (t.foreignKeys.map (·.columns)).Pairwise List.Disjoint := by
  have haccepted : introductions.Accepted := by decide +kernel
  have hdistinct : introductions.DistinctIds := by decide
  have hsome : introductions.synthesize.toOption.any (fun _ => true) = true := by decide +kernel
  obtain ⟨schema, hs, -⟩ := exists_eq_ok_of_any hsome
  obtain ⟨-, ⟨t, parts, key, groups, ht, hjunction⟩, -⟩ :=
    haccepted.exists_isJunctionTable hdistinct hs (n := ⟨"i", .relation, "Introduces", none⟩)
      (by decide) rfl (by decide +kernel)
  refine ⟨haccepted, hdistinct, schema, t, hs, ht, ?_, ?_⟩
  · rw [hjunction.foreignKeys_eq, List.length_map, ← hjunction.ends.length_eq]
    decide +kernel
  · rw [hjunction.foreignKeys_eq, List.map_map, List.pairwise_map]
    exact hjunction.apart

end Diagram

end EntityRelationship
