import EntityRelationship.Proofs.Diagram.CopiedIdentity
import EntityRelationship.Proofs.Relational.TableNames

/-!
# Tables of a copy

The tables of a diagram are made again from its copy, without a change: no name, column or
constraint is made from an id. Ids matter where a table is looked up, and there the copy of a node
leads to the table of the copy.

A draft made from the copy may also have tables of other nodes in between. They are left alone, and
nothing is read from them.
-/

namespace EntityRelationship

open Diagram Outcome

variable {ρ : Renaming} {p d : Diagram} {id : String} {n : Node} {x : Neighbor}

/-! ## Attributes and identities -/

namespace Diagram.Copy

theorem carries_columnsOf (h : Copy ρ p d) (hx : p.hasNode x.node.id = true) (nullable : Bool) :
    ρ.Carries Eq (p.columnsOf nullable x) (d.columnsOf nullable (x.renamed ρ)) := by
  simp only [columnsOf, Neighbor.node_renamed, Node.kind_renamed]
  split
  · refine (h.carries_leafColumns hx).bind_eq fun leaves _ => ?_
    exact .ok rfl
  · rw [Node.expression?_renamed]
    split
    · exact .error rfl
    · refine (x.node.carries_typedName ρ).bind_eq fun t _ => ?_
      exact .ok rfl
  · exact .ok rfl

theorem carries_attributeColumns (h : Copy ρ p d) (hid : p.hasNode id = true) (nullable : Bool) :
    ρ.Carries Eq (p.attributeColumns id nullable) (d.attributeColumns (ρ.node id) nullable) := by
  rw [attributeColumns, attributeColumns, h.attributes_eq hid]
  have hgroups : ρ.Carries Eq ((p.attributes id).mapM (p.columnsOf nullable))
      (((p.attributes id).map (·.renamed ρ)).mapM (d.columnsOf nullable)) :=
    Related.mapM fun x hx =>
      h.carries_columnsOf (hasNode_of_mem_neighbors (mem_attributes_iff.1 hx).1) nullable
  refine hgroups.bind_eq fun groups _ => ?_
  exact .ok rfl

theorem carries_identityTable (h : Copy ρ p d) (hn : p.hasNode n.id = true) :
    ρ.Carries Eq (p.identityTable n) (d.identityTable (n.renamed ρ)) := by
  refine (h.carries_identitySource hn).bind fun s s' hs hs' => ?_
  subst hs'
  cases s with
  | ownKey key =>
    have hkey := hasNode_of_primaryKey? (primaryKey?_of_ownKey hs)
    refine (h.carries_leafColumns hkey).bind_eq fun columns _ => ?_
    exact .ok rfl
  | dependent relation owner partialKey =>
    have howner := hasNode_of_node? (of_base? hs rfl).1
    refine (h.carries_foreignKeyColumns howner).bind_eq fun refs _ => ?_
    refine (h.carries_partialColumns hs).bind_eq fun own _ => ?_
    exact .ok rfl
  | subclass specialization parent =>
    refine (h.carries_identityColumns hn).bind_eq fun columns _ => ?_
    exact .ok rfl

theorem carries_alternativeKey (h : Copy ρ p d) (hid : p.hasNode id = true) :
    ρ.Carries Eq (p.alternativeKey id) (d.alternativeKey (ρ.node id)) := by
  rw [alternativeKey, alternativeKey, h.attributes_eq hid, List.filter_map]
  refine Related.mapM fun x _ => ?_
  refine (x.node.carries_typedName ρ).bind_eq fun t _ => ?_
  exact .ok rfl

/-! ## New tables -/

/-- The table of an entity is made again. -/
theorem carries_entityTable (h : Copy ρ p d) (hn : p.hasNode n.id = true) :
    ρ.Carries Eq (p.entityTable n) (d.entityTable (n.renamed ρ)) := by
  refine (h.carries_identityTable hn).bind_eq fun table _ => ?_
  refine (h.carries_alternativeKey hn).bind_eq fun alternative _ => ?_
  refine (h.carries_attributeColumns hn false).bind_eq fun columns _ => ?_
  exact .ok rfl

theorem carries_addEnd (h : Copy ρ p d) (hx : p.hasNode x.node.id = true) (t : Table) :
    ρ.Carries Eq (p.addEnd t x) (d.addEnd t (x.renamed ρ)) := by
  refine (h.carries_foreignKeyColumns hx).bind_eq fun refs _ => ?_
  exact .ok rfl

/-- The table of a relation is made again. -/
theorem carries_junctionTable (h : Copy ρ p d) (hn : p.hasNode n.id = true) :
    ρ.Carries Eq (p.junctionTable n) (d.junctionTable (n.renamed ρ)) := by
  have hends : ρ.Carries Eq ((p.entityEnds n.id).foldlM p.addEnd (.blank n.safeName))
      ((d.entityEnds (n.renamed ρ).id).foldlM d.addEnd (.blank (n.renamed ρ).safeName)) := by
    rw [Node.id_renamed, h.entityEnds_eq hn]
    refine Related.foldlM (fun t _ ht x hx => ht ▸ ?_) rfl
    exact h.carries_addEnd (hasNode_of_mem_neighbors (mem_entityEnds_iff.1 hx).1) t
  refine hends.bind_eq fun ends _ => ?_
  have hfinish (t : Table) : ρ.Carries Eq
      (do let attributes ← p.attributeColumns n.id false; return t.pushAll n.safeName attributes)
      (do let attributes ← d.attributeColumns (ρ.node n.id) false
          return t.pushAll n.safeName attributes) := by
    refine (h.carries_attributeColumns hn false).bind_eq fun columns _ => ?_
    exact .ok rfl
  simp only [Node.id_renamed, h.primaryKey?_eq hn]
  cases hkey : p.primaryKey? n.id with
  | none => exact hfinish _
  | some key =>
    refine (h.carries_leafColumns (hasNode_of_primaryKey? hkey)).bind_eq fun columns _ => ?_
    exact hfinish _

/-- The owner of an attribute is copied. -/
theorem carries_entityOwner (h : Copy ρ p d) (hn : p.hasNode n.id = true) :
    ρ.Carries (fun n m => m = n.renamed ρ) (p.entityOwner n) (d.entityOwner (n.renamed ρ)) := by
  simp only [entityOwner, Node.id_renamed, h.rootOwners_eq hn]
  cases howners : p.rootOwners n.id with
  | nil => exact .error rfl
  | cons owner owners =>
    have howner : p.hasNode owner = true :=
      hasNode_of_mem_rootOwners (howners ▸ List.mem_cons_self)
    simp only [List.map_cons, h.node?_eq owner howner]
    cases p.node? owner with
    | none => exact .error rfl
    | some m =>
      have hkind : (m.renamed ρ).kind.isEntity = m.kind.isEntity := rfl
      simp only [Option.map_some, hkind]
      split
      · exact .ok rfl
      · exact .error rfl

/-- The table of a multi-valued attribute is made again. -/
theorem carries_multiValuedTable (h : Copy ρ p d) (hn : p.hasNode n.id = true) :
    ρ.Carries Eq (p.multiValuedTable n) (d.multiValuedTable (n.renamed ρ)) := by
  refine (h.carries_entityOwner hn).bind fun owner owner' hfound howner => ?_
  subst howner
  have howner := hasNode_of_node? (of_entityOwner hfound).2.1
  refine (h.carries_foreignKeyColumns howner).bind_eq fun refs _ => ?_
  refine (n.carries_typedName ρ).bind_eq fun value _ => ?_
  exact .ok rfl

end Diagram.Copy

/-! ## Changes of tables -/

/-- A relation as a foreign key, under the new ids. -/
def RelationKey.renamed (ρ : Renaming) (k : RelationKey) : RelationKey :=
  ⟨k.relation.renamed ρ, k.cardinality, k.holder.renamed ρ, k.target.renamed ρ⟩

/-- A specialization with its parent and children, under the new ids. -/
def SpecializationTie.renamed (ρ : Renaming) (s : SpecializationTie) : SpecializationTie :=
  ⟨s.specialization.renamed ρ, s.kind, s.parent.renamed ρ, s.children.map (·.renamed ρ),
    s.references⟩

/-- An addition to the table of an entity under its new id. -/
def Addition.renamed (ρ : Renaming) (a : Addition) : Addition :=
  { a with entity := ρ.node a.entity }

/-- The same names are literals and flags of the children. -/
theorem SpecializationTie.exclusiveAdditions_renamed (s : SpecializationTie)
    (discriminator : String) :
    (s.renamed ρ).exclusiveAdditions discriminator =
      (s.exclusiveAdditions discriminator).map (·.renamed ρ) := by
  have hvalues : (s.renamed ρ).values = s.values := by
    simp only [values, renamed, List.map_map]
    rfl
  have htype : (s.renamed ρ).discriminatorType = s.discriminatorType := by
    simp only [discriminatorType, renamed, List.map_map]
    rfl
  simp only [exclusiveAdditions, hvalues, htype, List.map_cons, List.map_map]
  refine congrArg (List.cons _) ?_
  simp only [renamed, List.map_map]
  rfl

theorem SpecializationTie.overlappedAdditions_renamed (s : SpecializationTie)
    (flags : List String) :
    (s.renamed ρ).overlappedAdditions flags =
      (s.overlappedAdditions flags).map (·.renamed ρ) := by
  simp only [overlappedAdditions, List.map_cons, List.map_zipWith]
  refine congrArg (List.cons _) ?_
  simp only [renamed, List.zipWith_map_left]
  rfl

namespace Diagram.Copy

/-- A relation has the same holder and target in the copy. -/
theorem carries_relationKey (h : Copy ρ p d) (hn : p.hasNode n.id = true) :
    ρ.Carries (fun k k' => k' = k.renamed ρ) (p.relationKey n) (d.relationKey (n.renamed ρ)) := by
  simp only [relationKey, Node.id_renamed, h.entityEnds_eq hn, h.cardinality_eq hn]
  match hends : p.entityEnds n.id with
  | [] | [_] => exact .error rfl
  | a :: b :: ends =>
    have hnode {x : Neighbor} (hx : x ∈ p.entityEnds n.id) : p.hasNode x.node.id = true :=
      hasNode_of_mem_neighbors (mem_entityEnds_iff.1 hx).1
    have ha := hnode (x := a) (by simp [hends])
    have hb := hnode (x := b) (by simp [hends])
    -- the ids of the ends are compared only to decide between them
    have hholds : (p.cardinality n.id).firstHolds (a.renamed ρ) (b.renamed ρ) =
        (p.cardinality n.id).firstHolds a b := by
      simp only [Cardinality.firstHolds, Neighbor.edge_renamed, Neighbor.node_renamed,
        Node.id_renamed, Edge.cardinalityLabel_renamed, Edge.isMandatory_renamed, h.le_iff ha hb]
    simp only [List.map_cons, hholds]
    split
    · exact .ok rfl
    · exact .ok rfl

/-- A relation extends the table of its holder by the same columns and constraints. -/
theorem extend_renamed (h : Copy ρ p d) {k : RelationKey}
    (hholder : p.hasNode k.holder.node.id = true) (htarget : p.hasNode k.target.id = true) :
    (k.renamed ρ).isNullable = k.isNullable ∧ (k.renamed ρ).extend = k.extend := by
  have hreflexive : (k.renamed ρ).isReflexive = k.isReflexive := h.beq_eq hholder htarget
  have hnullable : (k.renamed ρ).isNullable = k.isNullable := by
    rw [RelationKey.isNullable, RelationKey.isNullable, hreflexive]
    rfl
  have hname : (k.renamed ρ).columnName = k.columnName := by
    funext t r
    rw [RelationKey.columnName, RelationKey.columnName, hreflexive]
    rfl
  refine ⟨hnullable, ?_⟩
  funext refs attributes t
  simp only [RelationKey.extend, RelationKey.rename, hname, hnullable]
  rfl

/-- A specialization has the same parent and children in the copy. -/
theorem carries_specializationTie (h : Copy ρ p d) (hn : p.hasNode n.id = true)
    (kind : SpecializationKind) :
    ρ.Carries (fun s s' => s' = s.renamed ρ) (p.specializationTie n kind)
      (d.specializationTie (n.renamed ρ) kind) := by
  simp only [specializationTie, Node.id_renamed, h.parent?_eq hn, h.children_eq hn]
  cases hparent : p.parent? n.id with
  | none => exact .error rfl
  | some parent =>
    have hnode := hasNode_of_parent? hparent
    refine (h.carries_foreignKeyColumns hnode).bind_eq fun refs _ => ?_
    exact .ok rfl

end Diagram.Copy

/-! ## Drafts -/

/-- A table for a node under its new id. -/
def NodeTable.renamed (ρ : Renaming) (t : NodeTable) : NodeTable := ⟨t.node.renamed ρ, t.table⟩

@[simp] theorem NodeTable.node_renamed (t : NodeTable) : (t.renamed ρ).node = t.node.renamed ρ :=
  rfl

/-- The second draft holds the tables of the first one, which are those of nodes of the diagram,
for the ids that count as its own, in the same order. Its tables for other ids are given. -/
structure Draft.Holds (ρ : Renaming) (p : Diagram) (own : String → Bool) (others : List NodeTable)
    (s s' : Draft) : Prop where
  own_node : ∀ id, p.hasNode id = true → own (ρ.node id) = true
  hasNode : ∀ t ∈ s.tables, p.hasNode t.node.id = true
  filter_own : s'.tables.filter (own ·.node.id) = s.tables.map (·.renamed ρ)
  filter_others : s'.tables.filter (!own ·.node.id) = others
  indexed : s.Indexed
  indexed_copy : s'.Indexed

section Holds

variable {own : String → Bool} {others : List NodeTable} {s s' : Draft} {t : NodeTable}

theorem NodeTable.isOf_renamed (h : Copy ρ p d) (ht : p.hasNode t.node.id = true)
    (hid : p.hasNode id = true) : (t.renamed ρ).isOf (ρ.node id) = t.isOf id := by
  rw [isOf, isOf, node_renamed, Node.kind_renamed, Node.id_renamed, h.beq_eq ht hid]

/-- The table of a new id is one of the own tables. -/
theorem Draft.Holds.own_of_isOf (hs : Holds ρ p own others s s') (hid : p.hasNode id = true)
    (ht : t.isOf (ρ.node id) = true) : own t.node.id = true := by
  rw [(NodeTable.isOf_iff.1 ht).2]
  exact hs.own_node id hid

/-- Where the tables of an entity and of its copy are noted: nowhere, or in places before which the
same own tables stand, and behind which the same stand. -/
inductive Draft.Placed (ρ : Renaming) (own : String → Bool) (s s' : Draft) (id : String) : Prop
  | nowhere (hplace : s.place? id = none) (hplace' : s'.place? (ρ.node id) = none) :
    Placed ρ own s s' id
  | split {before after before' after' : List NodeTable} {t : NodeTable}
    (htables : s.tables = before ++ t :: after)
    (htables' : s'.tables = before' ++ t.renamed ρ :: after')
    (hplace : s.place? id = some before.length)
    (hplace' : s'.place? (ρ.node id) = some before'.length)
    (hown : own (t.renamed ρ).node.id = true)
    (hbefore : before'.filter (own ·.node.id) = before.map (·.renamed ρ))
    (hafter : after'.filter (own ·.node.id) = after.map (·.renamed ρ)) : Placed ρ own s s' id

/-- An entity without a place has none in the copy. -/
theorem Draft.Holds.place?_eq_none (hs : Holds ρ p own others s s') (h : Copy ρ p d)
    (hid : p.hasNode id = true) (hplace : s'.place? (ρ.node id) = none) : s.place? id = none := by
  refine Option.eq_none_iff_forall_ne_some.2 fun i hi => ?_
  obtain ⟨t, ht, hof⟩ := hs.indexed.exists_isOf id i hi
  have htmem : t ∈ s.tables := List.mem_of_getElem? ht
  have hmem : t.renamed ρ ∈ s'.tables.filter (own ·.node.id) := by
    rw [hs.filter_own]
    exact List.mem_map_of_mem htmem
  rw [← NodeTable.isOf_renamed h (hs.hasNode t htmem) hid] at hof
  obtain ⟨j, hj⟩ := hs.indexed_copy.exists_place (ρ.node id) _ (List.mem_filter.1 hmem).1 hof
  rw [hplace] at hj
  cases hj

/-- Where the tables of the copy are split at an own table, the tables are split as their copies
are. -/
theorem Draft.Holds.exists_split (hs : Holds ρ p own others s s') {before' after' : List NodeTable}
    (htables' : s'.tables = before' ++ t :: after') (hown : own t.node.id = true) :
    ∃ before u after, s.tables = before ++ u :: after ∧ t = u.renamed ρ ∧
      before'.filter (own ·.node.id) = before.map (·.renamed ρ) ∧
      after'.filter (own ·.node.id) = after.map (·.renamed ρ) := by
  have hcons : (t :: after').filter (own ·.node.id) = t :: after'.filter (own ·.node.id) :=
    List.filter_cons_of_pos hown
  have hfilter := hs.filter_own
  rw [htables', List.filter_append, hcons, eq_comm, List.map_eq_append_iff] at hfilter
  obtain ⟨before, rest, htables, hbefore, hrest⟩ := hfilter
  obtain ⟨u, after, rfl, hu, hafter⟩ := List.map_eq_cons_iff.1 hrest
  exact ⟨before, u, after, htables, hu.symm, hbefore.symm, hafter.symm⟩

/-- An entity and its copy have corresponding places. -/
theorem Draft.Holds.placed (hs : Holds ρ p own others s s') (h : Copy ρ p d)
    (hid : p.hasNode id = true) : Placed ρ own s s' id := by
  cases hplace' : s'.place? (ρ.node id) with
  | none => exact .nowhere (hs.place?_eq_none h hid hplace') hplace'
  | some j =>
    obtain ⟨before', t', after', htables', rfl, hof', hlast'⟩ :=
      hs.indexed_copy.place?_eq_some_iff.1 hplace'
    have hown : own t'.node.id = true := hs.own_of_isOf hid hof'
    obtain ⟨before, t, after, htables, rfl, hbefore, hafter⟩ := hs.exists_split htables' hown
    have hnode : ∀ u ∈ t :: after, p.hasNode u.node.id = true := fun u hu =>
      hs.hasNode u (htables ▸ List.mem_append_right _ hu)
    -- no table behind stands for the entity, for its copy would stand for the copy
    have hlast : ∀ u ∈ after, u.isOf id = false := by
      intro u hu
      have hmem : u.renamed ρ ∈ after'.filter (own ·.node.id) := hafter ▸ List.mem_map_of_mem hu
      rw [← NodeTable.isOf_renamed h (hnode u (List.mem_cons_of_mem _ hu)) hid]
      exact hlast' _ (List.mem_filter.1 hmem).1
    rw [NodeTable.isOf_renamed h (hnode t List.mem_cons_self) hid] at hof'
    have hplace : s.place? id = some before.length :=
      hs.indexed.place?_eq_some_iff.2 ⟨before, t, after, htables, rfl, hof', hlast⟩
    exact .split htables htables' hplace hplace' hown hbefore hafter

/-- The table of an entity of the copy is that of the entity. -/
theorem Draft.Holds.table?_eq (hs : Holds ρ p own others s s') (h : Copy ρ p d)
    (hid : p.hasNode id = true) : s'.table? (ρ.node id) = s.table? id := by
  cases hs.placed h hid with
  | nowhere hplace hplace' => simp [table?, hplace, hplace']
  | split htables htables' hplace hplace' _ _ _ =>
    simp [table?, hplace, hplace', htables, htables', NodeTable.renamed]

/-- With a table for a node of the copy the drafts go on to hold the same own tables. -/
theorem Draft.Holds.of_add (hs : Holds ρ p own others s s') (hn : p.hasNode n.id = true) {t : Table}
    {r r' : Draft} (hr : r.tables = (s.add n t).tables)
    (hr' : r'.tables = (s'.add (n.renamed ρ) t).tables) (hindexed : r.Indexed)
    (hindexed' : r'.Indexed) : Holds ρ p own others r r' where
  own_node := hs.own_node
  hasNode := by
    intro u hu
    rw [hr] at hu
    rcases List.mem_append.1 hu with hu | hu
    · exact hs.hasNode u hu
    · rwa [List.mem_singleton.1 hu]
  filter_own := by
    rw [hr, hr', Draft.add, Draft.add, List.filter_append, hs.filter_own, List.map_append]
    simp [hs.own_node n.id hn, NodeTable.renamed]
  filter_others := by
    rw [hr', Draft.add, List.filter_append, hs.filter_others]
    simp [hs.own_node n.id hn]
  indexed := hindexed
  indexed_copy := hindexed'

theorem Draft.Holds.add (hs : Holds ρ p own others s s') (hn : p.hasNode n.id = true)
    (hkind : n.kind.isEntity = false) (t : Table) :
    Holds ρ p own others (s.add n t) (s'.add (n.renamed ρ) t) :=
  hs.of_add hn rfl rfl (hs.indexed.add hkind t)
    (hs.indexed_copy.add (by rwa [Node.kind_renamed]) t)

theorem Draft.Holds.addEntity (hs : Holds ρ p own others s s') (hn : p.hasNode n.id = true)
    (hkind : n.kind.isEntity = true) (t : Table) :
    Holds ρ p own others (s.addEntity n t) (s'.addEntity (n.renamed ρ) t) :=
  hs.of_add hn rfl rfl (hs.indexed.addEntity hkind t)
    (hs.indexed_copy.addEntity (by rwa [Node.kind_renamed]) t)

/-- A change of the table of an entity is made where the tables are split at it. -/
theorem Draft.update_of_split {before after : List NodeTable} (change : Table → Table)
    (htables : s.tables = before ++ t :: after) (hplace : s.place? id = some before.length) :
    s.update id change =
      .ok { s with tables := before ++ ⟨t.node, change t.table⟩ :: after } := by
  have hmodify : s.tables.modify before.length (fun t => { t with table := change t.table }) =
      before ++ ⟨t.node, change t.table⟩ :: after := by
    rw [htables, List.modify_eq_take_cons_drop (by simp)]
    simp
  rw [update, hplace]
  exact congrArg (fun ts => Except.ok { s with tables := ts }) hmodify

/-- Changing the table of an entity of the copy changes an own table and no other. -/
theorem Draft.Holds.carries_update (hs : Holds ρ p own others s s') (h : Copy ρ p d)
    (hid : p.hasNode id = true) {change : Table → Table}
    (hchange : ∀ t : Table, t.Extends (change t)) :
    ρ.Carries (Holds ρ p own others) (s.update id change) (s'.update (ρ.node id) change) := by
  cases hs.placed h hid with
  | nowhere hplace hplace' =>
    rw [update, update, hplace, hplace']
    exact .error rfl
  | @split before after before' after' t htables htables' hplace hplace' hown hbefore hafter =>
    have hupdate := update_of_split change htables hplace
    have hupdate' := update_of_split change htables' hplace'
    have hindexed := (grown_of_update hchange hupdate).indexed hs.indexed
    have hindexed' := (grown_of_update hchange hupdate').indexed hs.indexed_copy
    have hcons (u : Table) : (⟨t.node.renamed ρ, u⟩ :: after').filter (own ·.node.id) =
        ⟨t.node.renamed ρ, u⟩ :: after'.filter (own ·.node.id) :=
      List.filter_cons_of_pos hown
    have hskip (u : Table) : (⟨t.node.renamed ρ, u⟩ :: after').filter (!own ·.node.id) =
        after'.filter (!own ·.node.id) :=
      List.filter_cons_of_neg (by simpa using hown)
    rw [hupdate, hupdate']
    refine .ok ⟨hs.own_node, fun u hu => ?_, ?_, ?_, hindexed, hindexed'⟩
    · rcases List.mem_append.1 hu with hu | hu
      · exact hs.hasNode u (htables ▸ List.mem_append_left _ hu)
      rcases List.mem_cons.1 hu with rfl | hu
      · exact hs.hasNode t (htables ▸ List.mem_append_right _ List.mem_cons_self)
      · exact hs.hasNode u (htables ▸ List.mem_append_right _ (List.mem_cons_of_mem _ hu))
    · rw [List.filter_append, NodeTable.node_renamed, hcons, hbefore, hafter, List.map_append]
      rfl
    · rw [← hs.filter_others, htables', List.filter_append, List.filter_append,
        NodeTable.node_renamed, hskip, NodeTable.renamed, hskip]

theorem Draft.Holds.carries_tableOf (hs : Holds ρ p own others s s') (h : Copy ρ p d)
    (hid : p.hasNode id = true) :
    ρ.Carries Eq (s.tableOf id) (s'.tableOf (ρ.node id)) := by
  rw [Draft.tableOf, Draft.tableOf, hs.table?_eq h hid]
  cases s.table? id with
  | none => exact .error rfl
  | some t => exact .ok rfl

/-- The same name is free in the tables of the same entities. -/
theorem Draft.Holds.carries_sharedName (hs : Holds ρ p own others s s') (h : Copy ρ p d)
    {entities : List String}
    (hentities : ∀ id ∈ entities, p.hasNode id = true) (name : String) :
    ρ.Carries Eq (s.sharedName entities name) (s'.sharedName (entities.map ρ.node) name) := by
  have htables : ρ.Carries Eq (entities.mapM s.tableOf) ((entities.map ρ.node).mapM s'.tableOf) :=
    Related.mapM fun id hid => hs.carries_tableOf h (hentities id hid)
  refine htables.bind_eq fun tables _ => ?_
  exact .ok rfl

/-- Additions to the tables of entities are made to those of their copies. -/
theorem Draft.Holds.carries_foldlM_append (hs : Holds ρ p own others s s') (h : Copy ρ p d)
    {as : List Addition}
    (has : ∀ a ∈ as, p.hasNode a.entity = true) :
    ρ.Carries (Holds ρ p own others) (as.foldlM Draft.append s)
      ((as.map (·.renamed ρ)).foldlM Draft.append s') :=
  Related.foldlM (fun _ _ hst a ha =>
    hst.carries_update h (has a ha) fun t => Table.extends_extend t _ _) hs

/-! ## Steps -/

/-- A relation extends the table of its holder in the copy as in the diagram. -/
theorem Draft.Holds.carries_addRelationKey (hs : Holds ρ p own others s s') (h : Copy ρ p d)
    (hn : p.hasNode n.id = true) :
    ρ.Carries (Holds ρ p own others) (p.addRelationKey s n)
      (d.addRelationKey s' (n.renamed ρ)) := by
  refine (h.carries_relationKey hn).bind fun key key' hkey hkey' => ?_
  subst hkey'
  obtain ⟨e, he, htarget⟩ := target_of_relationKey hkey
  have htarget : p.hasNode key.target.id = true :=
    htarget ▸ hasNode_of_mem_neighbors (mem_entityEnds_iff.1 he).1
  have hholder : p.hasNode key.holder.node.id = true :=
    hasNode_of_mem_neighbors (mem_entityEnds_iff.1 (holder_of_relationKey hkey)).1
  obtain ⟨hnullable, hextend⟩ := h.extend_renamed hholder htarget
  refine (h.carries_foreignKeyColumns htarget).bind_eq fun refs _ => ?_
  rw [hnullable, hextend]
  refine (h.carries_attributeColumns hn key.isNullable).bind_eq fun columns _ => ?_
  exact hs.carries_update h hholder (key.extends_extend refs columns)

theorem Draft.Holds.carries_addRelation (hs : Holds ρ p own others s s') (h : Copy ρ p d)
    (hn : p.hasNode n.id = true) (hkind : n.kind.isEntity = false) :
    ρ.Carries (Holds ρ p own others) (p.addRelation s n) (d.addRelation s' (n.renamed ρ)) := by
  simp only [addRelation, Node.id_renamed, h.cardinality_eq hn]
  split
  · exact .ok hs
  · exact hs.carries_addRelationKey h hn
  · exact hs.carries_addRelationKey h hn
  · refine (h.carries_junctionTable hn).bind_eq fun t _ => ?_
    exact .ok (hs.add hn hkind t)

/-- A specialization extends the tables of its parent and its children in the copy as in the
diagram. -/
theorem Draft.Holds.carries_addSpecialization (hs : Holds ρ p own others s s') (h : Copy ρ p d)
    (hn : p.hasNode n.id = true)
    (kind : SpecializationKind) :
    ρ.Carries (Holds ρ p own others) (p.addSpecialization s n kind)
      (d.addSpecialization s' (n.renamed ρ) kind) := by
  refine (h.carries_specializationTie hn kind).bind fun tie tie' htie htie' => ?_
  subst htie'
  obtain ⟨hparent, hchildren, -⟩ := of_specializationTie htie
  have hmembers : ∀ m ∈ tie.parent :: tie.children, p.hasNode m.id = true := by
    intro m hm
    rcases List.mem_cons.1 hm with rfl | hm
    · exact hasNode_of_parent? hparent
    · rw [hchildren] at hm
      exact hasNode_of_node? (of_mem_children hm).1
  have hadditions {as : List Addition}
      (has : ∀ a ∈ as, ∃ m ∈ tie.parent :: tie.children, a.entity = m.id) :
      ρ.Carries (Holds ρ p own others) (as.foldlM Draft.append s)
        ((as.map (·.renamed ρ)).foldlM Draft.append s') := by
    refine hs.carries_foldlM_append h fun a ha => ?_
    obtain ⟨m, hm, hid⟩ := has a ha
    rw [hid]
    exact hmembers m hm
  dsimp only
  split
  · have hentities : ∀ id ∈ (tie.parent :: tie.children).map (·.id), p.hasNode id = true := by
      intro id hid
      obtain ⟨m, hm, rfl⟩ := List.mem_map.1 hid
      exact hmembers m hm
    have hname := hs.carries_sharedName h hentities tie.discriminatorName
    have hids : ((tie.parent :: tie.children).map (·.id)).map ρ.node =
        (tie.renamed ρ).parent.id :: (tie.renamed ρ).children.map (·.id) := by
      simp only [SpecializationTie.renamed, List.map_cons, List.map_map]
      rfl
    rw [hids] at hname
    refine hname.bind_eq fun discriminator _ => ?_
    rw [tie.exclusiveAdditions_renamed]
    exact hadditions fun a ha => entity_of_mem_exclusiveAdditions ha
  · have hflags : ρ.Carries Eq
        (tie.children.mapM fun c =>
          s.sharedName [tie.parent.id, c.id] (SpecializationTie.flagName c))
        ((tie.renamed ρ).children.mapM fun c =>
          s'.sharedName [(tie.renamed ρ).parent.id, c.id] (SpecializationTie.flagName c)) := by
      refine Related.mapM fun c hc => ?_
      have hentities : ∀ id ∈ [tie.parent.id, c.id], p.hasNode id = true := by
        intro id hid
        rcases List.mem_cons.1 hid with rfl | hid
        · exact hmembers _ List.mem_cons_self
        · rw [List.mem_singleton.1 hid]
          exact hmembers c (List.mem_cons_of_mem _ hc)
      exact hs.carries_sharedName h hentities _
    refine hflags.bind_eq fun flags _ => ?_
    rw [tie.overlappedAdditions_renamed]
    exact hadditions fun a ha => entity_of_mem_overlappedAdditions ha

/-- A step is taken in the copy as in the diagram, and does not touch other tables. -/
theorem Draft.Holds.carries_build (hs : Holds ρ p own others s s') (h : Copy ρ p d)
    (hn : p.hasNode n.id = true) :
    ρ.Carries (Holds ρ p own others) (p.build s n) (d.build s' (n.renamed ρ)) := by
  simp only [build, Node.kind_renamed]
  split
  · next hkind =>
    refine (h.carries_entityTable hn).bind_eq fun t _ => ?_
    exact .ok (hs.addEntity hn (by rw [hkind]; rfl) t)
  · next hkind =>
    refine (h.carries_entityTable hn).bind_eq fun t _ => ?_
    exact .ok (hs.addEntity hn (by rw [hkind]; rfl) t)
  · next hkind => exact hs.carries_addRelation h hn (by rw [hkind]; rfl)
  · next hkind =>
    refine (h.carries_multiValuedTable hn).bind_eq fun t _ => ?_
    exact .ok (hs.add hn (by rw [hkind]; rfl) t)
  · exact hs.carries_addSpecialization h hn _
  · exact .ok hs

end Holds

end EntityRelationship
