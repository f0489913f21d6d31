import EntityRelationship.Proofs.Diagnostic.Acceptance
import EntityRelationship.Proofs.Diagram.Members
import EntityRelationship.Proofs.Relational.FreshName
import EntityRelationship.Proofs.Relational.Run

/-!
# Columns of attributes

The attributes of an entity or relation become groups of columns, one group behind the other and in
the order of the attributes. A plain attribute has a column for each of its leaves, in their order,
and a derived one has a single column; no other attribute has a column among these.

Whether the columns of a plain attribute may be without a value is told by the edge between the
attribute and its owner. The edges to members may be optional too, and this makes no difference: a
leaf that is reached over an optional edge has a column like any other.
-/

namespace EntityRelationship

open Outcome

variable {d : Diagram} {a p : Node} {x : Neighbor} {c : Column} {cs : List Column} {i : Nat}
  {id : String} {schema : Schema}

/-! ## Columns and groups of columns -/

/-- The column of a leaf that comes with an attribute of an owner: it has the type of the leaf and a
name that contains the leaf's, and may be without a value if the edge to the owner is optional or the
columns of the owner may be as a whole. -/
structure ColumnOf (nullable : Prop) (x : Neighbor) (a : Node) (c : Column) : Prop where
  typedName : ∃ b, a.typedName = .ok b ∧ c.type = b.type ∧ b.name.toList <:+: c.name.toList
  nullable_iff : c.nullable = true ↔ nullable ∨ x.edge.kind = .optional

/-- The column of a derived attribute, which is computed by its expression. -/
structure DerivedColumnOf (a : Node) (c : Column) : Prop where
  typedName : ∃ b, a.typedName = .ok b ∧ c.type = b.type ∧ b.name.toList <:+: c.name.toList
  expression : ∃ e, a.expression? = some e ∧ c.expression = some e

/-- The columns of an attribute of some owner. -/
inductive Diagram.IsGroupOf (d : Diagram) (nullable : Prop) (x : Neighbor) : List Column → Prop
  | plain {cs : List Column} (hkind : x.node.kind = .attr .plain)
    (hcs : List.Forall₂ (ColumnOf nullable x) (d.leaves x.node) cs) : IsGroupOf d nullable x cs
  | derived {c : Column} (hkind : x.node.kind = .attr .derived) (hc : DerivedColumnOf x.node c) :
    IsGroupOf d nullable x [c]
  /-- Keys and multi-valued attributes have their columns elsewhere. -/
  | elsewhere (hplain : x.node.kind ≠ .attr .plain) (hderived : x.node.kind ≠ .attr .derived) :
    IsGroupOf d nullable x []

namespace Diagram

theorem IsGroupOf.forall₂_leaves {nullable : Prop} (h : d.IsGroupOf nullable x cs)
    (hkind : x.node.kind = .attr .plain) :
    List.Forall₂ (ColumnOf nullable x) (d.leaves x.node) cs := by
  cases h with
  | plain _ hcs => exact hcs
  | derived hderived _ => simp [hkind] at hderived
  | elsewhere hplain _ => exact absurd hkind hplain

/-- The columns of an attribute are those of its leaves or its expression, under whatever names they
are added. -/
theorem isGroupOf_of_renames {nullable : Bool} {group : List Column}
    (h : d.columnsOf nullable x = .ok group) (hcs : List.Forall₂ Column.Renames group cs) :
    d.IsGroupOf (nullable = true) x cs := by
  unfold columnsOf at h
  split at h
  · next hkind =>
    obtain ⟨leaves, hleaves, h⟩ := bind_eq_ok_iff.1 h
    cases h
    rw [List.forall₂_map_left_iff] at hcs
    refine .plain hkind (forall₂_trans (fun a b c hab hbc => ?_) (mapM_eq_ok_iff.1 hleaves) hcs)
    refine ⟨⟨b, hab, ?_, hbc.name⟩, ?_⟩
    · rw [hbc.eq_with]
      rfl
    · rw [hbc.eq_with]
      simp
  · next hkind =>
    split at h
    · cases h
    · next e he =>
      obtain ⟨b, hb, h⟩ := bind_eq_ok_iff.1 h
      cases h
      obtain ⟨c, _, hc, hnil, rfl⟩ := List.forall₂_cons_left_iff.1 hcs
      cases hnil
      refine .derived hkind ⟨⟨b, hb, ?_, hc.name⟩, e, he, ?_⟩
      · rw [hc.eq_with]
        rfl
      · rw [hc.eq_with]
  · next hplain hderived =>
    cases h
    cases hcs
    exact .elsewhere hplain hderived

/-- The attributes of an owner add their columns to a table, group behind group. -/
theorem exists_groups_pushAll {nullable : Bool} (h : d.attributeColumns id nullable = .ok cs)
    (t : Table) (owner : String) :
    ∃ groups, (t.pushAll owner cs).columns = t.columns ++ groups.flatten ∧
      List.Forall₂ (d.IsGroupOf (nullable = true)) (d.attributes id) groups := by
  obtain ⟨groups, hgroups, h⟩ := bind_eq_ok_iff.1 h
  cases h
  obtain ⟨pushed, hcolumns, hpushed⟩ := t.exists_columns_pushAll owner groups.flatten
  obtain ⟨groups', hrenames, rfl⟩ := exists_flatten_of_forall₂ hpushed
  refine ⟨groups', hcolumns, forall₂_trans ?_ (mapM_eq_ok_iff.1 hgroups) hrenames⟩
  exact fun _ _ _ hgroup hcs => isGroupOf_of_renames hgroup hcs

/-- The table of an entity has the columns of each plain attribute, together and in the order of the
leaves. -/
theorem exists_columns_of_entityTable {t : Table} (h : d.entityTable p = .ok t)
    (hx : x ∈ d.attributes p.id) (hkind : x.node.kind = .attr .plain) :
    ∃ columns, columns <:+: t.columns ∧
      List.Forall₂ (ColumnOf False x) (d.leaves x.node) columns := by
  obtain ⟨identity, alternative, cs, -, -, hcs, rfl⟩ := of_entityTable h
  obtain ⟨groups, hcolumns, hgroups⟩ := exists_groups_pushAll hcs
    (if alternative = [] then identity else identity.addKey .unique alternative) p.safeName
  obtain ⟨group, hgroup, hx⟩ := exists_of_forall₂ hgroups hx
  rw [Bool.false_eq_true] at hx
  refine ⟨group, ?_, hx.forall₂_leaves hkind⟩
  rw [hcolumns]
  exact (List.infix_of_mem_flatten hgroup).trans (List.suffix_append _ _).isInfix

end Diagram

/-! ## Optional edges -/

/-- A value may be missing if the edge to the owner is optional or some edge on the way to the leaf
is. -/
def IsOptionalAlong (x : Neighbor) (es : List Edge) : Prop :=
  x.edge.kind = .optional ∨ ∃ e ∈ es, e.kind = .optional

/-- The column of a leaf does what the edges on the way to it say exactly if the edge to the owner is
optional or none of the others is. -/
theorem ColumnOf.nullable_iff_along (h : ColumnOf False x a c) (es : List Edge) :
    (c.nullable = true ↔ IsOptionalAlong x es) ↔
      x.edge.kind = .optional ∨ ∀ e ∈ es, e.kind ≠ .optional := by
  rw [h.nullable_iff, IsOptionalAlong]
  by_cases howner : x.edge.kind = .optional
  · simp [howner]
  · simp [howner]

namespace Diagram

/-- Every plain attribute of an entity has a column for each of its leaves in the entity's table.
The column may be without a value exactly if the edge to the entity is optional. So it does what the
edges on a way to the leaf say exactly if the edge to the entity is optional or no other edge on the
way is. There is a way to each leaf, and only one if the members form a tree. -/
theorem nullable_iff_owner_optional (hs : d.synthesize = .ok schema)
    (hi : d.entityNodes[i]? = some p) (hx : x ∈ d.attributes p.id)
    (hkind : x.node.kind = .attr .plain) :
    (∃ t columns, schema.tables[i]? = some t ∧ columns <:+: t.columns ∧
      List.Forall₂ (fun a c => ColumnOf False x a c ∧ ∀ es, d.MemberPath x.node.id es a.id →
        ((c.nullable = true ↔ IsOptionalAlong x es) ↔
          x.edge.kind = .optional ∨ ∀ e ∈ es, e.kind ≠ .optional)) (d.leaves x.node) columns) ∧
    ∀ a ∈ d.leaves x.node, (∃ es, d.MemberPath x.node.id es a.id) ∧
      (d.MembersFormTree x.node.id → ∀ es es', d.MemberPath x.node.id es a.id →
        d.MemberPath x.node.id es' a.id → es = es') := by
  constructor
  · obtain ⟨t, t', ht, htable, hgrows⟩ := exists_table_at hs hi
    obtain ⟨columns, hinfix, hcolumns⟩ := exists_columns_of_entityTable ht hx hkind
    exact ⟨t', columns, htable, hinfix.trans hgrows.columns.isInfix,
      hcolumns.imp fun a c hc => ⟨hc, fun es _ => hc.nullable_iff_along es⟩⟩
  · intro a ha
    exact ⟨exists_memberPath (reachesMember_of_mem_leaves ha).1,
      fun htree es es' hes hes' => htree.path_unique hes hes'⟩

/-- People with a name that has two members, one of them over an optional edge. -/
def middleNames : Diagram where
  nodes := [
    ⟨"p", .entity, "Person", none⟩,
    ⟨"k", .attr .key, "id:INTEGER", none⟩,
    ⟨"n", .attr .plain, "name", none⟩,
    ⟨"f", .attr .plain, "first:TEXT", none⟩,
    ⟨"m", .attr .plain, "middle:TEXT", none⟩]
  edges := [
    ⟨"edge-1", .transition, "p", "k", none⟩,
    ⟨"edge-2", .transition, "p", "n", none⟩,
    ⟨"edge-3", .transition, "n", "f", none⟩,
    ⟨"edge-4", .optional, "n", "m", none⟩]

/-- The schema has the columns of both members. -/
theorem exists_columns_middleNames :
    ∃ schema t columns, middleNames.synthesize = .ok schema ∧ schema.tables[0]? = some t ∧
      columns <:+: t.columns ∧ columns.length = 2 ∧ ∀ c ∈ columns, c.nullable = false := by
  have hsome : middleNames.synthesize.toOption.any (fun _ => true) = true := by decide +kernel
  obtain ⟨schema, hs, -⟩ := exists_eq_ok_of_any hsome
  obtain ⟨⟨t, columns, ht, hinfix, hcolumns⟩, -⟩ :=
    nullable_iff_owner_optional (i := 0) hs (p := ⟨"p", .entity, "Person", none⟩)
      (x := ⟨⟨"n", .attr .plain, "name", none⟩, ⟨"edge-2", .transition, "p", "n", none⟩⟩)
      (by decide +kernel) (by decide +kernel) rfl
  refine ⟨schema, t, columns, hs, ht, hinfix, ?_, fun c hc => ?_⟩
  · rw [← hcolumns.length_eq]
    decide +kernel
  · obtain ⟨a, -, hcolumn, -⟩ := exists_of_forall₂ hcolumns.flip hc
    rw [← Bool.not_eq_true, hcolumn.nullable_iff]
    decide

/-- In a diagram about which there is no diagnostic the only way to a leaf can be over an optional
edge, and yet its column must have a value. -/
theorem exists_optional_leaf_with_value :
    middleNames.validate = [] ∧ middleNames.DistinctIds ∧ middleNames.checkReferences = .ok () ∧
      middleNames.MembersFormTree "n" ∧
      middleNames.MemberPath "n" [⟨"edge-4", .optional, "n", "m", none⟩] "m" ∧
      middleNames.synthesize = .ok ⟨[⟨"Person", [
        { name := "id", type := "INTEGER", key := some .primary },
        { name := "first", type := "TEXT" },
        { name := "middle", type := "TEXT", nullable := false }], []⟩]⟩ := by
  refine ⟨by decide +kernel, by decide +kernel, by decide +kernel, by decide +kernel, ?_,
    by decide +kernel⟩
  have hmember : (⟨⟨"m", .attr .plain, "middle:TEXT", none⟩,
      ⟨"edge-4", .optional, "n", "m", none⟩⟩ : Neighbor) ∈ middleNames.members "n" := by
    decide +kernel
  exact .cons hmember (.nil _)

end Diagram

end EntityRelationship
