import EntityRelationship.Proofs.Relational.AttributeColumns
import EntityRelationship.Proofs.Relational.Relisting

/-!
# Where the foreign key of a relation stands

A relation that is not many to many has two ends and becomes one foreign key. One end holds it, and
the other is its target; which is which is told by the class of the relation, by the participations
and, if these do not tell, by the ids. The table of the holder receives the referring columns, the
foreign key and the columns of the relation's attributes, and no other table receives anything.

It makes no difference in which order the two ends are listed. Both could hold the key only if they
are one entity, and then the key and its columns are the same whichever is taken.
-/

namespace EntityRelationship

open Outcome

variable {d d' : Diagram} {n : Node} {a b : Neighbor} {c : Cardinality} {k : RelationKey}
  {t : Table} {s s' : Draft} {refs : List Reference} {schema : Schema}

/-! ## The holder -/

/-- Of the two ends of a relation of a class, the first one may hold the foreign key: one to many, it
is the only one without an upper bound; one to one, it is the only one that must take part, or the
ends do not differ in this and its id is not the greater one. -/
inductive MayHold (a b : Neighbor) : Cardinality → Prop
  | many (ha : isMany a.edge.cardinalityLabel = true) (hb : isMany b.edge.cardinalityLabel = false) :
    MayHold a b .oneToMany
  | mandatory (ha : a.edge.isMandatory = true) (hb : b.edge.isMandatory = false) :
    MayHold a b .oneToOne
  | smaller (hsame : a.edge.isMandatory = b.edge.isMandatory) (hle : a.node.id ≤ b.node.id) :
    MayHold a b .oneToOne

/-- If both ends may hold the key, they belong to one entity. -/
theorem MayHold.id_eq (h : MayHold a b c) (h' : MayHold b a c) : a.node.id = b.node.id := by
  cases h with
  | many ha hb =>
    cases h' with
    | many hb' _ => simp [hb] at hb'
  | mandatory ha hb =>
    cases h' with
    | mandatory hb' _ => simp [hb] at hb'
    | smaller hsame _ => simp [ha, hb] at hsame
  | smaller hsame hle =>
    cases h' with
    | mandatory hb ha => simp [ha, hb] at hsame
    | smaller _ hle' => exact le_antisymm hle hle'

/-- One to one, the end that is taken may hold the key. -/
theorem mayHold_oneToOne (a b : Neighbor) :
    (Cardinality.oneToOne.firstHolds a b = true → MayHold a b .oneToOne) ∧
      (Cardinality.oneToOne.firstHolds a b = false → MayHold b a .oneToOne) := by
  have hne : Cardinality.oneToOne ≠ .oneToMany := by decide
  have hbyId (hsame : a.edge.isMandatory = b.edge.isMandatory) :
      (decide (a.node.id ≤ b.node.id) = true → MayHold a b .oneToOne) ∧
        (decide (a.node.id ≤ b.node.id) = false → MayHold b a .oneToOne) := by
    rw [decide_eq_true_eq, decide_eq_false_iff_not]
    exact ⟨.smaller hsame, fun hle => .smaller hsame.symm (le_of_not_ge hle)⟩
  rw [Cardinality.firstHolds, if_neg hne]
  cases ha : a.edge.isMandatory <;> cases hb : b.edge.isMandatory
  case true.false => exact ⟨fun _ => .mandatory ha hb, nofun⟩
  case false.true => exact ⟨nofun, fun _ => .mandatory hb ha⟩
  case false.false => exact hbyId (ha.trans hb.symm)
  case true.true => exact hbyId (ha.trans hb.symm)

/-- One to many, the end that is taken may hold the key if only one is without an upper bound. -/
theorem mayHold_oneToMany (h : isMany a.edge.cardinalityLabel ≠ isMany b.edge.cardinalityLabel) :
    (Cardinality.oneToMany.firstHolds a b = true → MayHold a b .oneToMany) ∧
      (Cardinality.oneToMany.firstHolds a b = false → MayHold b a .oneToMany) := by
  rw [Cardinality.firstHolds, if_pos rfl]
  cases ha : isMany a.edge.cardinalityLabel <;> cases hb : isMany b.edge.cardinalityLabel
  case true.false => exact ⟨fun _ => .many ha hb, nofun⟩
  case false.true => exact ⟨nofun, fun _ => .many hb ha⟩
  case false.false => exact absurd (ha.trans hb.symm) h
  case true.true => exact absurd (ha.trans hb.symm) h

/-- If the class goes by the labels of the two ends, the end that is taken may hold the key. -/
theorem mayHold_of_firstHolds
    (hc : c = .ofUnbounded ([a, b].countP fun x => isMany x.edge.cardinalityLabel))
    (hbinary : c ≠ .manyToMany) :
    (c.firstHolds a b = true → MayHold a b c) ∧ (c.firstHolds a b = false → MayHold b a c) := by
  rw [List.countP_cons, List.countP_cons, List.countP_nil] at hc
  cases ha : isMany a.edge.cardinalityLabel <;> cases hb : isMany b.edge.cardinalityLabel <;>
    rw [ha, hb] at hc
  case false.false =>
    obtain rfl : c = .oneToOne := hc
    exact mayHold_oneToOne a b
  case true.true => exact absurd hc hbinary
  case true.false =>
    obtain rfl : c = .oneToMany := hc
    exact mayHold_oneToMany (by rw [ha, hb]; decide)
  case false.true =>
    obtain rfl : c = .oneToMany := hc
    exact mayHold_oneToMany (by rw [ha, hb]; decide)

namespace Diagram

/-- A relation that is not many to many is a foreign key between its two ends. -/
theorem Accepted.exists_relationKey_eq (h : d.Accepted) (hd : d.DistinctIds) (hclosed : d.Closed)
    (hn : n ∈ d.nodes) (hkind : n.kind = .relation) (hbinary : d.cardinality n.id ≠ .manyToMany) :
    ∃ a b, (d.entityEnds n.id = [a, b] ∨ d.entityEnds n.id = [b, a]) ∧
      MayHold a b (d.cardinality n.id) ∧
      d.relationKey n = .ok ⟨n, d.cardinality n.id, a, b.node⟩ := by
  have hrelation : n.kind.isRelation = true := by rw [hkind]; rfl
  obtain ⟨a, b, hends⟩ := h.exists_entityEnds_eq hn hkind hbinary
  have hedges := h.map_edge_entityEnds hd hclosed hn hrelation
  rw [hends] at hedges
  have hclass := cardinality_eq_ofUnbounded (h.participations_ne_nil hd hn hrelation)
  rw [← hedges, List.countP_map] at hclass
  obtain ⟨hfirst, hsecond⟩ := mayHold_of_firstHolds hclass hbinary
  cases hholds : (d.cardinality n.id).firstHolds a b with
  | true => exact ⟨a, b, .inl hends, hfirst hholds, by simp [relationKey, hends, hholds]⟩
  | false => exact ⟨b, a, .inr hends, hsecond hholds, by simp [relationKey, hends, hholds]⟩

end Diagram

/-! ## The holder's table -/

/-- The foreign key of a relation may be missing: the relation joins an entity to itself, or the
holder need not take part. -/
def MayMiss (a b : Neighbor) : Prop :=
  a.node.id = b.node.id ∨ ∃ p, a.edge.participation? = some p ∧ p.min = 0

/-- A column refers to one of the target. -/
structure RefersTo (n : Node) (a b : Neighbor) (key : Option KeyKind) (t : Table) (r : Reference)
    (c : Column) : Prop where
  type_eq : c.type = r.column.type
  /-- In a reflexive relation the name is made of the relation's and that of the column referred to. -/
  name_eq : c.name = if a.node.id = b.node.id then t.freshName (n.safeName ++ "_" ++ r.references)
    else t.freeName n.safeName r.column.name
  name_not_mem : c.name ∉ t.columnNames
  nullable_iff : c.nullable = true ↔ MayMiss a b
  key_eq : c.key = key

/-- The second table is the first one with a relation as a foreign key added. Only a one-to-one
relation makes the referring columns a key, which is declared with the column if there is one. -/
structure Diagram.Receives (d : Diagram) (n : Node) (a b : Neighbor) (t t' : Table)
    (refs : List Reference) (referring : List Column) (groups : List (List Column)) : Prop where
  references_eq : d.foreignKeyColumns b.node.id = .ok refs
  refers : List.Forall₂ (RefersTo n a b
    (if d.cardinality n.id = .oneToOne ∧ refs.length = 1 then some .unique else none) t) refs
      referring
  attributes : List.Forall₂ (d.IsGroupOf (MayMiss a b)) (d.attributes n.id) groups
  name_eq : t'.name = t.name
  columns_eq : t'.columns = t.columns ++ referring ++ groups.flatten
  constraints_eq : t'.constraints = t.constraints ++
    (if d.cardinality n.id = .oneToOne ∧ refs.length ≠ 1 then [.key .unique (Column.names referring)]
      else []) ++
    [.foreignKey ⟨Column.names referring, b.node.safeName, refs.map (·.references), false⟩]

namespace RelationKey

/-- The referring columns as they are added to the holder's table. -/
def referring (k : RelationKey) (refs : List Reference) (t : Table) : List Column :=
  refs.map fun r =>
    { name := k.columnName t r
      type := r.column.type
      nullable := k.isNullable
      key := if k.cardinality = .oneToOne ∧ refs.length = 1 then some .unique else none }

/-- What is added to the holder's table, in its order. -/
theorem extend_eq_pushAll (k : RelationKey) (refs : List Reference) (attributes : List Column)
    (t : Table) :
    k.extend refs attributes t =
      (t.extend (k.referring refs t)
        ((if k.cardinality = .oneToOne ∧ refs.length ≠ 1 then
            [.key .unique (Column.names (k.referring refs t))] else []) ++
          [.foreignKey ⟨Column.names (k.referring refs t), k.target.safeName,
            refs.map (·.references), false⟩])).pushAll k.relation.safeName attributes := by
  have hnames : Column.names (k.referring refs t) = refs.map (k.columnName t) := by
    simp [Column.names, referring]
  unfold extend
  rw [hnames]
  by_cases hclass : k.cardinality = .oneToOne
  · by_cases hone : refs.length = 1 <;>
      simp [hclass, hone, Table.addKey_eq_extend, rename, referring, Table.extend, Function.comp_def,
        ForeignKey.ofReferences, Column.ofTypedName, Column.names]
  · simp [hclass, rename, referring, Table.extend, Function.comp_def, ForeignKey.ofReferences,
      Column.ofTypedName]

/-- The key may be missing exactly if the relation is reflexive or the holder need not take part. -/
theorem isNullable_iff (hk : k.holder = a ∧ k.target = b.node)
    (hlabel : a.edge.participation?.isSome = true) : k.isNullable = true ↔ MayMiss a b := by
  obtain ⟨p, hp⟩ := Option.isSome_iff_exists.1 hlabel
  obtain ⟨rfl, htarget⟩ := hk
  rw [isNullable, isReflexive, htarget, Edge.isMandatory, MayMiss, hp]
  simp [Participation.isMandatory]

/-- The holder's table receives the relation. -/
theorem exists_receives_extend (hk : k = ⟨n, d.cardinality n.id, a, b.node⟩)
    (hlabel : a.edge.participation?.isSome = true) {attributes : List Column}
    (hrefs : d.foreignKeyColumns b.node.id = .ok refs)
    (hattributes : d.attributeColumns n.id k.isNullable = .ok attributes) (t : Table) :
    ∃ referring groups, d.Receives n a b t (k.extend refs attributes t) refs referring groups := by
  have hnullable : k.isNullable = true ↔ MayMiss a b := isNullable_iff (by simp [hk]) hlabel
  rw [k.extend_eq_pushAll]
  obtain ⟨groups, hcolumns, hgroups⟩ :=
    Diagram.exists_groups_pushAll hattributes (t.extend (k.referring refs t) _) k.relation.safeName
  rw [propext hnullable] at hgroups
  refine ⟨k.referring refs t, groups, hrefs, ?_, hgroups, Table.name_pushAll _ _ _, hcolumns, ?_⟩
  · rw [referring, List.forall₂_map_right_iff, List.forall₂_same]
    intro r _
    have hname : k.columnName t r = if a.node.id = b.node.id
        then t.freshName (n.safeName ++ "_" ++ r.references)
        else t.freeName n.safeName r.column.name := by
      simp [hk, columnName, isReflexive]
    exact ⟨rfl, hname, k.columnName_not_mem t r, hnullable, by rw [hk]⟩
  · subst hk
    rw [Table.constraints_pushAll, Table.constraints_extend, List.append_assoc]

end RelationKey

namespace Diagram

/-! ## The relation in a run -/

/-- Taking a relation with a foreign key changes the table of the holder. -/
theorem update_of_build_relation (hkind : n.kind = .relation)
    (hclass : d.cardinality n.id ≠ .unrelated) (hbinary : d.cardinality n.id ≠ .manyToMany)
    (hkey : d.relationKey n = .ok k) (h : d.build s n = .ok s') :
    ∃ refs attributes, d.foreignKeyColumns k.target.id = .ok refs ∧
      d.attributeColumns n.id k.isNullable = .ok attributes ∧
      s.update k.holder.node.id (k.extend refs attributes) = .ok s' := by
  cases step_of_build h with
  | entity hentity _ => simp [hkind, NodeKind.isEntity] at hentity
  | junction _ hmany _ => exact absurd hmany hbinary
  | values hvalues _ => simp [hkind] at hvalues
  | exclusive hspecial _ _ _ _ => simp [hkind] at hspecial
  | overlapped hspecial _ _ _ _ => simp [hkind] at hspecial
  | idle _ hrelation _ => exact absurd (hrelation hkind) hclass
  | @foreignKey _ key refs attributes _ _ hkey' hrefs hattributes hs' =>
    obtain rfl := Except.ok.inj (hkey.symm.trans hkey')
    exact ⟨refs, attributes, hrefs, hattributes, hs'⟩

/-- In every synthesis a relation that is not many to many changes one table and no other: that of the
end that holds its key. -/
theorem Accepted.exists_receives (h : d.Accepted) (hd : d.DistinctIds)
    (hs : d.synthesize = .ok schema) (hn : n ∈ d.nodes) (hkind : n.kind = .relation)
    (hbinary : d.cardinality n.id ≠ .manyToMany) (ha : a ∈ d.entityEnds n.id)
    (hkey : d.relationKey n = .ok ⟨n, d.cardinality n.id, a, b.node⟩) :
    ∃ s s' i t t' t'', d.Takes schema n s s' ∧
      s.tables[i]? = some ⟨a.node, t⟩ ∧ s'.tables = s.tables.set i ⟨a.node, t'⟩ ∧
      schema.tables[i]? = some t'' ∧ t'.Extends t'' ∧
      ∃ refs referring groups, d.Receives n a b t t' refs referring groups := by
  have hrelation : n.kind.isRelation = true := by rw [hkind]; rfl
  obtain ⟨s, s', htakes, hunderway⟩ :=
    exists_takes_of_later hs (mem_laterNodes_iff.2 ⟨hn, .inl hkind⟩)
  obtain ⟨refs, attributes, hrefs, hattributes, hupdate⟩ :=
    update_of_build_relation hkind (h.cardinality_ne_unrelated hd hn hrelation) hbinary hkey
      htakes.build_eq
  -- the holder's table is there, in the place of the holder
  obtain ⟨hnear, hentity⟩ := mem_entityEnds_iff.1 ha
  obtain ⟨i, hi⟩ :=
    List.mem_iff_getElem?.1 (mem_entityNodes_iff.2 ⟨mem_nodes_of_mem_neighbors hnear, hentity⟩)
  obtain ⟨-, t, -, ht, -⟩ := hunderway.table i a.node hi
  have hs' := (hunderway.exact hd).tables_update_eq_set ht hentity hupdate
  obtain ⟨s'', hlater, rfl⟩ := htakes.exists_continues
  have hlt : i < s.tables.length := (List.getElem?_eq_some_iff.1 ht).1
  obtain ⟨t'', ht'', -, hgrows⟩ := hlater i _ (by rw [hs', List.getElem?_set_self hlt])
  have hlabel : a.edge.participation?.isSome = true :=
    h.isSome_participation? hn hrelation (edge_mem_edgesTouching hnear)
      ((h.isEntity_iff_weighted hd hn hrelation hnear).1 hentity)
  refine ⟨s, s', i, t, _, t''.table, htakes, ht, hs', ?_, hgrows,
    refs, RelationKey.exists_receives_extend rfl hlabel hrefs hattributes t⟩
  rw [Draft.schema, List.getElem?_map, ht'']
  rfl

/-! ## The ends in another order -/

/-- Two lists of the same two elements are the same or the other way round. -/
theorem pair_of_perm {α : Type} {x y x' y' : α} (h : [x, y].Perm [x', y']) :
    x = x' ∧ y = y' ∨ y = x' ∧ x = y' := by
  have hmem : x' ∈ [x, y] := h.mem_iff.2 List.mem_cons_self
  rcases List.mem_cons.1 hmem with rfl | hmem
  · exact .inl ⟨rfl, List.singleton_perm_singleton.1 h.cons_inv⟩
  · obtain rfl := List.mem_singleton.1 hmem
    have hswap : [x', x].Perm [x', y'] := (List.Perm.swap x x' []).trans h
    exact .inr ⟨rfl, List.singleton_perm_singleton.1 hswap.cons_inv⟩

namespace Relists

variable (h : d.Relists n.id d') (haccepted : d.Accepted) (hd : d.DistinctIds)
  (hclosed : d.Closed) (hn : n ∈ d.nodes) (hkind : n.kind = .relation)
  (hbinary : d.cardinality n.id ≠ .manyToMany)

include h haccepted hd hclosed hn hkind hbinary

/-- The relation becomes a key with the same effect. -/
theorem exists_sameEffect :
    ∃ k k', d.relationKey n = .ok k ∧ d'.relationKey n = .ok k' ∧ k'.SameEffect k := by
  have hredraws := h.redraws hd
  have hclass : d'.cardinality n.id = d.cardinality n.id := (hredraws.cardinality_eq n.id).symm
  obtain ⟨a, b, hends, hholds, hkey⟩ :=
    haccepted.exists_relationKey_eq hd hclosed hn hkind hbinary
  obtain ⟨a', b', hends', hholds', hkey'⟩ :=
    (hredraws.accepted haccepted).exists_relationKey_eq hredraws.symm.distinct
      (hredraws.closed_iff.1 hclosed) (by rwa [h.nodes_eq]) hkind (by rwa [hclass])
  rw [hclass] at hholds' hkey'
  refine ⟨_, _, hkey, hkey', ?_⟩
  have hperm : [a, b].Perm [a', b'] := by
    have hab : (d.entityEnds n.id).Perm [a, b] := by
      rcases hends with hends | hends <;> rw [hends]
      exact .swap a b []
    have hab' : (d'.entityEnds n.id).Perm [a', b'] := by
      rcases hends' with hends | hends <;> rw [hends]
      exact .swap a' b' []
    exact hab.symm.trans ((hredraws.entityEnds_perm n.id).trans hab')
  rcases pair_of_perm hperm with ⟨rfl, rfl⟩ | ⟨rfl, rfl⟩
  · exact .refl _
  · -- both ends may hold the key, so they belong to one entity
    have hid : a.node.id = b.node.id := hholds.id_eq hholds'
    have hfound {x : Neighbor} (hx : x ∈ d.entityEnds n.id) : d.node? x.node.id = some x.node :=
      node?_of_mem_neighbors (mem_entityEnds_iff.1 hx).1
    have hends : a ∈ d.entityEnds n.id ∧ b ∈ d.entityEnds n.id := by
      rcases hends with hends | hends <;> simp [hends]
    have hnode : a.node = b.node := by
      have ha := hfound hends.1
      rw [hid, hfound hends.2] at ha
      exact (Option.some.inj ha).symm
    refine ⟨rfl, rfl, hnode.symm, hnode, ?_⟩
    simp [RelationKey.isNullable, RelationKey.isReflexive, hid]

/-- Every node is the same step. -/
theorem build_eq {m : Node} (hm : m ∈ d.nodes) (s : Draft) : d'.build s m = d.build s m := by
  have hsame := h.sameButEnds haccepted hd hn hkind
  by_cases hne : m = n
  · subst hne
    obtain ⟨k, k', hkey, hkey', heffect⟩ :=
      h.exists_sameEffect haccepted hd hclosed hn hkind hbinary
    have hadd := hsame.addRelationKey_eq hn hkind hkey hkey' heffect s
    have hclass := hsame.cardinality_eq m hn (by rw [hkind]; rfl)
    simp only [build, hkind, addRelation, hclass]
    cases hc : d.cardinality m.id with
    | unrelated => rfl
    | oneToOne | oneToMany => exact hadd
    | manyToMany => exact absurd hc hbinary
  · refine hsame.build_eq (node?_of_mem hd hm) (fun hrelation => ?_) s
    exact h.entityEnds_eq haccepted hd hn hkind hm (by rw [hrelation]; rfl) hne

/-- The schema is the same. -/
theorem synthesize_eq : d'.synthesize = d.synthesize :=
  (h.sameButEnds haccepted hd hn hkind).synthesize_eq_of_build fun _ hm s =>
    h.build_eq haccepted hd hclosed hn hkind hbinary hm s

end Relists

/-- In an accepted diagram every relation that is not many to many has two ends and becomes one
foreign key in the table of one of them, the holder, which leads to the other; so it always has a
class by which it is placed. The holder's table receives the referring columns, the foreign key and
the columns of the relation's attributes, as told, and no other table is changed. If the edges of the
two ends are listed in another order, every step and the schema are the same. -/
theorem Accepted.exists_placement (h : d.Accepted) (hd : d.DistinctIds)
    (hrefs : d.checkReferences = .ok ()) (hs : d.synthesize = .ok schema) (hn : n ∈ d.nodes)
    (hkind : n.kind = .relation) (hbinary : d.cardinality n.id ≠ .manyToMany) :
    (∃ a b, (d.entityEnds n.id = [a, b] ∨ d.entityEnds n.id = [b, a]) ∧
      MayHold a b (d.cardinality n.id) ∧
      ∃ s s' i t t' t'', d.Takes schema n s s' ∧
        s.tables[i]? = some ⟨a.node, t⟩ ∧ s'.tables = s.tables.set i ⟨a.node, t'⟩ ∧
        schema.tables[i]? = some t'' ∧ t'.Extends t'' ∧
        ∃ refs referring groups, d.Receives n a b t t' refs referring groups) ∧
    ∀ d', d.Relists n.id d' →
      (∀ s, d'.build s n = d.build s n) ∧ d'.synthesize = d.synthesize := by
  have hclosed := checkReferences_eq_ok_iff.1 hrefs
  constructor
  · obtain ⟨a, b, hends, hholds, hkey⟩ := h.exists_relationKey_eq hd hclosed hn hkind hbinary
    have ha : a ∈ d.entityEnds n.id := by
      rcases hends with hends | hends <;> simp [hends]
    exact ⟨a, b, hends, hholds, h.exists_receives hd hs hn hkind hbinary ha hkey⟩
  · intro d' hrelists
    exact ⟨hrelists.build_eq h hd hclosed hn hkind hbinary hn,
      hrelists.synthesize_eq h hd hclosed hn hkind hbinary⟩

/-- Employees, of whom some use an office, and offices, each of which is used by one of them. -/
def offices : Diagram where
  nodes := [
    ⟨"e", .entity, "Employee", none⟩,
    ⟨"ek", .attr .key, "id:INTEGER", none⟩,
    ⟨"o", .entity, "Office", none⟩,
    ⟨"ok", .attr .key, "number:INTEGER", none⟩,
    ⟨"u", .relation, "uses", none⟩,
    ⟨"s", .attr .plain, "since:DATE", none⟩]
  edges := [
    ⟨"edge-1", .transition, "e", "ek", none⟩,
    ⟨"edge-2", .transition, "o", "ok", none⟩,
    ⟨"edge-3", .transition, "u", "s", none⟩,
    ⟨"edge-4", .weighted, "e", "u", some "(0..1)"⟩,
    ⟨"edge-5", .weighted, "u", "o", some "(1..1)"⟩]

/-- The same with the two ends of the relation in the other order. -/
def officesTurned : Diagram :=
  { offices with edges := offices.edges.take 3 ++ (offices.edges.drop 3).reverse }

/-- The office holds the key, whichever end is listed first. -/
theorem exists_placement_offices :
    offices.Accepted ∧ offices.DistinctIds ∧ offices.checkReferences = .ok () ∧
      offices.cardinality "u" ≠ .manyToMany ∧ officesTurned ≠ offices ∧
      officesTurned.synthesize = offices.synthesize ∧
      ∃ schema, offices.synthesize = .ok schema ∧
        ∃ a b, MayHold a b (offices.cardinality "u") ∧ a.node.id = "o" ∧ b.node.id = "e" ∧
          ∃ t t' t'', t'' ∈ schema.tables ∧ t'.Extends t'' ∧
            ∃ refs referring groups, offices.Receives ⟨"u", .relation, "uses", none⟩ a b t t' refs
              referring groups := by
  have haccepted : offices.Accepted := by decide +kernel
  have hdistinct : offices.DistinctIds := by decide +kernel
  have hrefs : offices.checkReferences = .ok () := by decide +kernel
  have hclass : offices.cardinality "u" = .oneToOne := by decide +kernel
  have hbinary : offices.cardinality "u" ≠ .manyToMany := by rw [hclass]; decide
  have hsome : offices.synthesize.toOption.any (fun _ => true) = true := by decide +kernel
  obtain ⟨schema, hs, -⟩ := exists_eq_ok_of_any hsome
  obtain ⟨⟨a, b, hends, hholds, s, s', i, t, t', t'', -, -, -, ht'', hgrows, hreceives⟩, hrelists⟩ :=
    haccepted.exists_placement hdistinct hrefs hs (n := ⟨"u", .relation, "uses", none⟩)
      (by decide +kernel) rfl hbinary
  have hturned : offices.Relists "u" officesTurned :=
    @relists_swap "u" _ (offices.edges.take 3) [] [] _ _ rfl rfl
  have hholder : a.node.id = "o" ∧ b.node.id = "e" := by
    have hlisted : offices.entityEnds "u" =
        [⟨⟨"e", .entity, "Employee", none⟩, ⟨"edge-4", .weighted, "e", "u", some "(0..1)"⟩⟩,
          ⟨⟨"o", .entity, "Office", none⟩, ⟨"edge-5", .weighted, "u", "o", some "(1..1)"⟩⟩] := by
      decide +kernel
    rw [hlisted] at hends
    rcases hends with hends | hends <;> cases hends
    · -- an employee need not take part, and an office must
      exfalso
      rw [hclass] at hholds
      cases hholds with
      | mandatory ha _ => exact absurd ha (by decide +kernel)
      | smaller hsame _ => exact absurd hsame (by decide +kernel)
    · exact ⟨rfl, rfl⟩
  exact ⟨haccepted, hdistinct, hrefs, hbinary, by decide +kernel, (hrelists _ hturned).2, schema, hs,
    a, b, hholds, hholder.1, hholder.2, t, t', t'', List.mem_of_getElem? ht'', hgrows, hreceives⟩

end Diagram

end EntityRelationship
