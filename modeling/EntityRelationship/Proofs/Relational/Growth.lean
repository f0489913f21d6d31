import EntityRelationship.Proofs.Diagram.Lookup
import EntityRelationship.Proofs.Outcome
import EntityRelationship.Relational.Synthesis

/-!
# Tables only grow

While a schema is built, a table that is there is never renamed and nothing in it is changed or
taken away: columns and constraints are added behind the old ones. So what a table once has, it
keeps.
-/

namespace EntityRelationship

open Outcome

/-! ## Growth of a table -/

/-- The second table is the first one with columns and constraints added behind. -/
structure Table.Extends (t t' : Table) : Prop where
  name_eq : t'.name = t.name
  columns : t.columns <+: t'.columns
  constraints : t.constraints <+: t'.constraints

namespace Table

variable {t t' t'' : Table}

theorem Extends.refl (t : Table) : t.Extends t :=
  ⟨rfl, List.prefix_refl _, List.prefix_refl _⟩

theorem Extends.trans (h : t.Extends t') (h' : t'.Extends t'') : t.Extends t'' where
  name_eq := h'.name_eq.trans h.name_eq
  columns := h.columns.trans h'.columns
  constraints := h.constraints.trans h'.constraints

theorem extends_extend (t : Table) (cs : List Column) (ks : List Constraint) :
    t.Extends (t.extend cs ks) :=
  ⟨rfl, List.prefix_append _ _, List.prefix_append _ _⟩

/-- A key is declared with its column if it has one, and otherwise by a constraint. -/
theorem addKey_eq_extend (t : Table) (kind : KeyKind) (cs : List Column) :
    t.addKey kind cs =
      t.extend (if cs.length = 1 then cs.map ({ · with key := some kind }) else cs)
        (if cs.length = 1 then [] else [.key kind (Column.names cs)]) := by
  rcases cs with _ | ⟨c, _ | ⟨c', cs⟩⟩
  · rfl
  · rfl
  · simp [addKey]

theorem extends_addKey (t : Table) (kind : KeyKind) (cs : List Column) :
    t.Extends (t.addKey kind cs) := by
  rw [addKey_eq_extend]
  exact extends_extend t _ _

theorem extends_pushAll (t : Table) (owner : String) (cs : List Column) :
    t.Extends (t.pushAll owner cs) := by
  induction cs generalizing t with
  | nil => exact .refl t
  | cons c cs ih => exact (extends_extend t _ _).trans (ih (t.push owner c))

/-- The names of the columns stay in front. -/
theorem Extends.columnNames (h : t.Extends t') : t.columnNames <+: t'.columnNames :=
  h.columns.map _

end Table

/-- The table that holds the key of a relation only grows. -/
theorem RelationKey.extends_extend (k : RelationKey) (refs : List Reference)
    (attributes : List Column) (t : Table) : t.Extends (k.extend refs attributes t) := by
  unfold RelationKey.extend
  extract_lets refs' columns table
  have htable : t.Extends table := by
    unfold table
    split
    · exact Table.extends_addKey t .unique columns
    · exact Table.extends_extend t columns []
  exact (htable.trans (Table.extends_extend _ _ _)).trans (Table.extends_pushAll _ _ _)

/-! ## Tables of entities -/

variable {s s' s'' : Draft} {entity id : String} {i j : Nat} {n : Node} {t : NodeTable}

/-- Whether a table stands for the entity of an id. -/
def NodeTable.isOf (entity : String) (t : NodeTable) : Bool :=
  t.node.kind.isEntity && t.node.id == entity

theorem NodeTable.isOf_iff :
    t.isOf entity = true ↔ t.node.kind.isEntity = true ∧ t.node.id = entity := by
  rw [isOf, Bool.and_eq_true, beq_iff_eq]

/-- A table that stands for no entity is not that of an entity. -/
theorem NodeTable.isOf_eq_false (h : t.node.kind.isEntity = false) (entity : String) :
    t.isOf entity = false := by
  rw [isOf, h, Bool.false_and]

namespace Draft

/-- The entities for which a draft has tables, in the order of these. -/
def entityNodes (s : Draft) : List Node :=
  (s.tables.map (·.node)).filter (·.kind.isEntity)

theorem mem_entityNodes_iff :
    n ∈ s.entityNodes ↔ n.kind.isEntity = true ∧ ∃ t ∈ s.tables, t.node = n := by
  rw [entityNodes, List.mem_filter, List.mem_map, and_comm]

@[simp] theorem entityNodes_empty : empty.entityNodes = [] := rfl

@[simp] theorem entityNodes_add (s : Draft) (n : Node) (t : Table) :
    (s.add n t).entityNodes = s.entityNodes ++ [n].filter (·.kind.isEntity) := by
  simp [entityNodes, add]

@[simp] theorem tables_addEntity (s : Draft) (n : Node) (t : Table) :
    (s.addEntity n t).tables = (s.add n t).tables := rfl

end Draft

/-! ## Growth of a draft -/

namespace Draft

/-- The tables of the first draft are in the second one, in their places. They stand for the same
nodes and have at most grown. -/
def Continues (s s' : Draft) : Prop :=
  ∀ (i : Nat) (t : NodeTable), s.tables[i]? = some t →
    ∃ t' : NodeTable, s'.tables[i]? = some t' ∧ t'.node = t.node ∧ t.table.Extends t'.table

theorem Continues.refl (s : Draft) : s.Continues s :=
  fun _ t ht => ⟨t, ht, rfl, .refl t.table⟩

theorem Continues.trans (h : s.Continues s') (h' : s'.Continues s'') : s.Continues s'' := by
  intro i t ht
  obtain ⟨t', ht', hnode, hgrows⟩ := h i t ht
  obtain ⟨t'', ht'', hnode', hgrows'⟩ := h' i t' ht'
  exact ⟨t'', ht'', hnode'.trans hnode, hgrows.trans hgrows'⟩

/-- A table that is added leaves the others in their places. -/
theorem getElem?_tables_add {u : NodeTable} (hu : s.tables[i]? = some u) (n : Node) (t : Table) :
    (s.add n t).tables[i]? = some u := by
  have hlt : i < s.tables.length := (List.getElem?_eq_some_iff.1 hu).1
  rw [add, List.getElem?_append_left hlt, hu]

theorem continues_add (s : Draft) (n : Node) (t : Table) : s.Continues (s.add n t) :=
  fun _ u hu => ⟨u, getElem?_tables_add hu n t, rfl, .refl u.table⟩

/-- What a table has, some table of the later schema has. -/
theorem Continues.exists_table (h : s.Continues s') {r : NodeTable} (hr : r ∈ s.tables) :
    ∃ t ∈ s'.schema.tables, r.table.Extends t := by
  obtain ⟨i, hi⟩ := List.mem_iff_getElem?.1 hr
  obtain ⟨r', hr', -, hgrows⟩ := h i r hi
  exact ⟨r'.table, List.mem_map_of_mem (List.mem_of_getElem? hr'), hgrows⟩

/-- The second draft has the tables of the first one and no others, and the same noted places. The
tables are in their places, stand for the same nodes and have at most grown. -/
structure Grown (s s' : Draft) : Prop where
  byEntity_eq : s'.byEntity = s.byEntity
  length_eq : s'.tables.length = s.tables.length
  continues : s.Continues s'

theorem Grown.refl (s : Draft) : s.Grown s :=
  ⟨rfl, rfl, .refl s⟩

theorem Grown.trans (h : s.Grown s') (h' : s'.Grown s'') : s.Grown s'' where
  byEntity_eq := h'.byEntity_eq.trans h.byEntity_eq
  length_eq := h'.length_eq.trans h.length_eq
  continues := h.continues.trans h'.continues

theorem Grown.place?_eq (h : s.Grown s') (id : String) : s'.place? id = s.place? id := by
  rw [place?, h.byEntity_eq, place?]

/-- A table of a draft that has grown stood in its place before. -/
theorem Grown.exists_of_getElem? (h : s.Grown s') {t' : NodeTable} (hi : s'.tables[i]? = some t') :
    ∃ t, s.tables[i]? = some t ∧ t'.node = t.node ∧ t.table.Extends t'.table := by
  have hlt : i < s.tables.length := h.length_eq ▸ (List.getElem?_eq_some_iff.1 hi).1
  have ht : s.tables[i]? = some s.tables[i] := List.getElem?_eq_getElem hlt
  obtain ⟨t'', hi', hnode, hgrows⟩ := h.continues i _ ht
  obtain rfl : t'' = t' := Option.some.inj (hi'.symm.trans hi)
  exact ⟨_, ht, hnode, hgrows⟩

theorem Grown.map_eq {α : Type} (h : s.Grown s') (f : NodeTable → α)
    (hf : ∀ t t' : NodeTable, t'.node = t.node → t.table.Extends t'.table → f t' = f t) :
    s'.tables.map f = s.tables.map f := by
  refine List.ext_getElem? fun i => ?_
  rw [List.getElem?_map, List.getElem?_map]
  cases hi : s.tables[i]? with
  | none =>
    rw [List.getElem?_eq_none_iff] at hi
    rw [List.getElem?_eq_none (h.length_eq ▸ hi)]
  | some t =>
    obtain ⟨t', ht', hnode, hgrows⟩ := h.continues i t hi
    rw [ht', Option.map_some, Option.map_some, hf t t' hnode hgrows]

/-- A draft that has grown has tables for the same entities. -/
theorem Grown.entityNodes_eq (h : s.Grown s') : s'.entityNodes = s.entityNodes := by
  rw [entityNodes, h.map_eq (·.node) fun _ _ hnode _ => hnode, entityNodes]

/-- A change is made in the place that is noted for the entity. -/
theorem update_eq_ok_iff {change : Table → Table} :
    s.update entity change = .ok s' ↔ ∃ i, s.place? entity = some i ∧
      s' = { s with tables := s.tables.modify i fun t => { t with table := change t.table } } := by
  rw [update]
  cases s.place? entity with
  | none => simp
  | some i => simp [eq_comm]

/-- What holds of every table and is kept by a change holds of every table after it. -/
theorem forall_tables_update {P : Table → Prop} {change : Table → Table}
    (h : s.update entity change = .ok s') (hs : ∀ t ∈ s.tables, P t.table)
    (hchange : ∀ t, P t → P (change t)) : ∀ t ∈ s'.tables, P t.table := by
  obtain ⟨i, -, rfl⟩ := update_eq_ok_iff.1 h
  intro t ht
  obtain ⟨j, hj⟩ := List.mem_iff_getElem?.1 ht
  rw [List.getElem?_modify] at hj
  obtain ⟨u, hu, rfl⟩ := Option.map_eq_some_iff.1 hj
  have hP := hs u (List.mem_of_getElem? hu)
  split
  · exact hchange u.table hP
  · exact hP

theorem forall_tables_foldlM_append {P : Table → Prop} {as : List Addition}
    (h : as.foldlM append s = .ok s') (hs : ∀ t ∈ s.tables, P t.table)
    (hadd : ∀ a ∈ as, ∀ t, P t → P (t.extend a.columns a.constraints)) :
    ∀ t ∈ s'.tables, P t.table :=
  foldlM_induction (I := fun r : Draft => ∀ t ∈ r.tables, P t.table)
    (fun _ a _ ha hr happend => forall_tables_update happend hr (hadd a ha)) h hs

/-- Letting the table of an entity grow lets the draft grow. -/
theorem grown_of_update {change : Table → Table} (hchange : ∀ t : Table, t.Extends (change t))
    (h : s.update entity change = .ok s') : s.Grown s' := by
  obtain ⟨i, -, rfl⟩ := update_eq_ok_iff.1 h
  refine ⟨rfl, List.length_modify _ _ _, fun j t ht => ?_⟩
  by_cases hij : i = j
  · refine ⟨{ t with table := change t.table }, ?_, rfl, hchange t.table⟩
    simp [hij, ht]
  · refine ⟨t, ?_, rfl, .refl t.table⟩
    simp [hij, ht]

/-- Additions let the draft grow. -/
theorem grown_of_append {a : Addition} (h : s.append a = .ok s') : s.Grown s' :=
  grown_of_update (fun t => t.extends_extend a.columns a.constraints) h

theorem grown_of_foldlM_append {as : List Addition} (h : as.foldlM append s = .ok s') :
    s.Grown s' :=
  foldlM_induction (I := fun r => s.Grown r)
    (fun _ _ _ _ hr happend => hr.trans (grown_of_append happend)) h (.refl s)

end Draft

end EntityRelationship
