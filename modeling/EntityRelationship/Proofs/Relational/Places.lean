import EntityRelationship.Proofs.Relational.Growth

/-!
# Noted places

A table is looked up and changed by the place that is noted for its entity. The noted places lead to
tables of the entities, and each entity with a table has one. If no two tables stand for one entity,
they are exact: then a change that is made in the place of an entity changes every table by itself,
that of the entity as told and the others not at all.
-/

namespace EntityRelationship

open Outcome

variable {s s' : Draft} {entity id : String} {i j : Nat} {n : Node} {t : NodeTable}

namespace Draft

/-! ## Noted places -/

/-- The noted places are those of the tables of entities. If several tables stand for one entity, it
is the last of them that is noted. -/
structure Indexed (s : Draft) : Prop where
  exists_isOf : ∀ id i, s.place? id = some i → ∃ t, s.tables[i]? = some t ∧ t.isOf id = true
  le_place : ∀ id i j t, s.place? id = some i → s.tables[j]? = some t → t.isOf id = true → j ≤ i
  exists_place : ∀ id, ∀ t ∈ s.tables, t.isOf id = true → ∃ i, s.place? id = some i

theorem indexed_empty : empty.Indexed where
  exists_isOf _ _ hplace := by cases hplace
  le_place _ _ _ _ hplace := by cases hplace
  exists_place _ _ ht := by cases ht

/-- The table of a node that is no entity is not noted. -/
theorem Indexed.add (h : s.Indexed) (hkind : n.kind.isEntity = false) (t : Table) :
    (s.add n t).Indexed where
  exists_isOf := by
    intro id i hplace
    obtain ⟨u, hu, hof⟩ := h.exists_isOf id i hplace
    exact ⟨u, getElem?_tables_add hu n t, hof⟩
  le_place := by
    intro id i j u hplace hu hof
    rcases Diagram.getElem?_concat_eq_some_iff.1 hu with hu | ⟨-, rfl⟩
    · exact h.le_place id i j u hplace hu hof
    · rw [NodeTable.isOf_eq_false hkind] at hof
      cases hof
  exists_place := by
    intro id u hu hof
    rcases List.mem_append.1 hu with hu | hu
    · exact h.exists_place id u hu hof
    · rw [List.mem_singleton.1 hu, NodeTable.isOf_eq_false hkind] at hof
      cases hof

theorem place?_addEntity (s : Draft) (n : Node) (t : Table) (id : String) :
    (s.addEntity n t).place? id = if n.id = id then some s.tables.length else s.place? id := by
  rw [place?, addEntity, List.lookup_cons]
  by_cases hid : n.id = id
  · simp [hid]
  · rw [if_neg hid, beq_false_of_ne (Ne.symm hid)]
    rfl

/-- The table of an entity is noted in its place. -/
theorem Indexed.addEntity (h : s.Indexed) (hkind : n.kind.isEntity = true) (t : Table) :
    (s.addEntity n t).Indexed where
  exists_isOf := by
    intro id i hplace
    rw [place?_addEntity] at hplace
    split at hplace
    · next hid =>
      obtain rfl := Option.some.inj hplace
      refine ⟨⟨n, t⟩, ?_, NodeTable.isOf_iff.2 ⟨hkind, hid⟩⟩
      rw [tables_addEntity, Draft.add, List.getElem?_concat_length]
    · obtain ⟨u, hu, hof⟩ := h.exists_isOf id i hplace
      exact ⟨u, getElem?_tables_add hu n t, hof⟩
  le_place := by
    intro id i j u hplace hu hof
    rw [place?_addEntity] at hplace
    have hu' := Diagram.getElem?_concat_eq_some_iff.1 hu
    split at hplace
    · -- nothing stands behind the new table
      obtain rfl := Option.some.inj hplace
      rcases hu' with hu' | ⟨rfl, -⟩
      · exact Nat.le_of_lt (List.getElem?_eq_some_iff.1 hu').1
      · exact Nat.le_refl _
    · next hid =>
      rcases hu' with hu' | ⟨-, rfl⟩
      · exact h.le_place id i j u hplace hu' hof
      · exact absurd (NodeTable.isOf_iff.1 hof).2 hid
  exists_place := by
    intro id u hu hof
    rw [place?_addEntity]
    split
    · exact ⟨_, rfl⟩
    · next hid =>
      rcases List.mem_append.1 hu with hu | hu
      · exact h.exists_place id u hu hof
      · rw [List.mem_singleton.1 hu] at hof
        exact absurd (NodeTable.isOf_iff.1 hof).2 hid

/-- Growing leaves the tables in their noted places. -/
theorem Grown.indexed (hs : s.Grown s') (h : s.Indexed) : s'.Indexed where
  exists_isOf := by
    intro id i hplace
    rw [hs.place?_eq] at hplace
    obtain ⟨t, ht, hof⟩ := h.exists_isOf id i hplace
    obtain ⟨t', ht', hnode, -⟩ := hs.continues i t ht
    exact ⟨t', ht', by rwa [NodeTable.isOf, hnode]⟩
  le_place := by
    intro id i j t' hplace ht' hof
    rw [hs.place?_eq] at hplace
    obtain ⟨t, ht, hnode, -⟩ := hs.exists_of_getElem? ht'
    rw [NodeTable.isOf, hnode] at hof
    exact h.le_place id i j t hplace ht hof
  exists_place := by
    intro id t' ht' hof
    obtain ⟨i, hi⟩ := List.mem_iff_getElem?.1 ht'
    obtain ⟨t, ht, hnode, -⟩ := hs.exists_of_getElem? hi
    rw [NodeTable.isOf, hnode] at hof
    rw [hs.place?_eq]
    exact h.exists_place id t (List.mem_of_getElem? ht) hof

/-- The place that is noted for an entity is where the tables split at the last one for it. -/
theorem Indexed.place?_eq_some_iff (h : s.Indexed) :
    s.place? id = some i ↔ ∃ before t after, s.tables = before ++ t :: after ∧
      before.length = i ∧ t.isOf id = true ∧ ∀ u ∈ after, u.isOf id = false := by
  constructor
  · intro hplace
    obtain ⟨t, ht, hof⟩ := h.exists_isOf id i hplace
    obtain ⟨hlt, hget⟩ := List.getElem?_eq_some_iff.1 ht
    refine ⟨s.tables.take i, t, s.tables.drop (i + 1), ?_, ?_, hof, fun u hu => ?_⟩
    · rw [← hget, List.getElem_cons_drop, List.take_append_drop]
    · rw [List.length_take, Nat.min_eq_left (Nat.le_of_lt hlt)]
    · obtain ⟨k, hk⟩ := List.mem_iff_getElem?.1 hu
      rw [List.getElem?_drop] at hk
      rw [← Bool.not_eq_true]
      intro huof
      have hle := h.le_place id i _ u hplace hk huof
      omega
  · rintro ⟨before, t, after, htables, rfl, hof, hafter⟩
    have ht : s.tables[before.length]? = some t := by simp [htables]
    obtain ⟨j, hplace⟩ := h.exists_place id t (List.mem_of_getElem? ht) hof
    obtain ⟨u, hu, huof⟩ := h.exists_isOf id j hplace
    have hle := h.le_place id j _ t hplace ht hof
    rcases Nat.eq_or_lt_of_le hle with heq | hlt
    · rw [hplace, heq]
    · -- a later table would stand for the entity
      have hmem : u ∈ after := by
        rw [htables, List.getElem?_append_right hle, List.getElem?_cons] at hu
        split at hu
        · omega
        · exact List.mem_of_getElem? hu
      rw [hafter u hmem] at huof
      cases huof

/-- A place is noted for each entity that has a table. -/
theorem Indexed.exists_place_of_mem (h : s.Indexed) (hn : n ∈ s.entityNodes) :
    ∃ i t, s.place? n.id = some i ∧ s.tables[i]? = some t := by
  obtain ⟨hkind, t, ht, rfl⟩ := mem_entityNodes_iff.1 hn
  obtain ⟨i, hplace⟩ := h.exists_place _ t ht (NodeTable.isOf_iff.2 ⟨hkind, rfl⟩)
  obtain ⟨u, hu, -⟩ := h.exists_isOf _ i hplace
  exact ⟨i, u, hplace, hu⟩

/-- A change of the table of an entity leaves a table of it as changed. -/
theorem Indexed.exists_mem_of_update (h : s.Indexed) {change : Table → Table}
    (hs' : s.update entity change = .ok s') :
    ∃ t ∈ s.tables, t.isOf entity = true ∧ ⟨t.node, change t.table⟩ ∈ s'.tables := by
  obtain ⟨i, hplace, rfl⟩ := update_eq_ok_iff.1 hs'
  obtain ⟨t, ht, hof⟩ := h.exists_isOf entity i hplace
  refine ⟨t, List.mem_of_getElem? ht, hof, List.mem_of_getElem? (i := i) ?_⟩
  simp [ht]

/-! ## Exact places -/

/-- An entity has one place at most among the tables. -/
theorem index_eq_of_isOf (h : (s.entityNodes.map (·.id)).Nodup) {t u : NodeTable}
    (hi : s.tables[i]? = some t) (hj : s.tables[j]? = some u) (ht : t.isOf id = true)
    (hu : u.isOf id = true) : i = j := by
  rw [entityNodes, List.filter_map, List.map_map, List.Nodup, List.pairwise_map,
    List.pairwise_filter] at h
  rw [NodeTable.isOf_iff] at ht hu
  obtain ⟨hilt, rfl⟩ := List.getElem?_eq_some_iff.1 hi
  obtain ⟨hjlt, rfl⟩ := List.getElem?_eq_some_iff.1 hj
  have hapart := List.pairwise_iff_getElem.1 h
  rcases Nat.lt_trichotomy i j with hij | hij | hij
  · exact absurd (ht.2.trans hu.2.symm) (hapart i j hilt hjlt hij ht.1 hu.1)
  · exact hij
  · exact absurd (hu.2.trans ht.2.symm) (hapart j i hjlt hilt hij hu.1 ht.1)

/-- Each entity with a table has one table, in the place that is noted for it. -/
def Exact (s : Draft) : Prop :=
  ∀ id i, s.place? id = some i ↔ ∃ t, s.tables[i]? = some t ∧ t.isOf id = true

/-- The noted places are exact if no two tables stand for one entity. -/
theorem Indexed.exact (h : s.Indexed) (hs : (s.entityNodes.map (·.id)).Nodup) : s.Exact := by
  refine fun id i => ⟨h.exists_isOf id i, ?_⟩
  rintro ⟨t, ht, hof⟩
  obtain ⟨j, hplace⟩ := h.exists_place id t (List.mem_of_getElem? ht) hof
  obtain ⟨u, hu, huof⟩ := h.exists_isOf id j hplace
  rw [index_eq_of_isOf hs ht hu hof huof, hplace]

/-- A table that stands for an entity is found for it. -/
theorem Exact.table?_of_mem (h : s.Exact) (ht : t ∈ s.tables) (hof : t.isOf entity = true) :
    s.table? entity = some t.table := by
  obtain ⟨i, hi⟩ := List.mem_iff_getElem?.1 ht
  simp [table?, (h entity i).2 ⟨t, hi, hof⟩, hi]

/-- What is found for an entity is a table that stands for it. -/
theorem Exact.exists_of_table? (h : s.Exact) {u : Table} (hu : s.table? entity = some u) :
    ∃ t ∈ s.tables, t.isOf entity = true ∧ t.table = u := by
  simp only [table?, Option.bind_eq_bind, Option.bind_eq_some_iff] at hu
  obtain ⟨i, hplace, t, ht, htable⟩ := hu
  obtain ⟨t', ht', hof⟩ := (h entity i).1 hplace
  obtain rfl : t' = t := Option.some.inj (ht'.symm.trans ht)
  exact ⟨t', List.mem_of_getElem? ht', hof, Option.some.inj htable⟩

/-- A change of the table of an entity changes the tables that stand for it. -/
theorem Exact.tables_update (hs : s.Exact) {change : Table → Table}
    (h : s.update entity change = .ok s') :
    s'.tables = s.tables.map fun t => if t.isOf entity then ⟨t.node, change t.table⟩ else t := by
  obtain ⟨i, hplace, rfl⟩ := update_eq_ok_iff.1 h
  refine List.ext_getElem? fun j => ?_
  rw [List.getElem?_map, List.getElem?_modify]
  cases ht : s.tables[j]? with
  | none => rfl
  | some t =>
    have hof : t.isOf entity = true ↔ i = j := by
      constructor
      · intro hof
        have hj := (hs entity j).2 ⟨t, ht, hof⟩
        exact Option.some.inj (hplace.symm.trans hj)
      · rintro rfl
        obtain ⟨u, hu, hof⟩ := (hs entity i).1 hplace
        rwa [← Option.some.inj (hu.symm.trans ht)]
    by_cases hij : i = j
    · simp [hij, hof.2 hij]
    · simp [hij, mt hof.1 hij]

/-- It sets the table in the place of the entity. -/
theorem Exact.tables_update_eq_set (hs : s.Exact) {t : Table} (hi : s.tables[i]? = some ⟨n, t⟩)
    (hkind : n.kind.isEntity = true) {change : Table → Table}
    (h : s.update n.id change = .ok s') : s'.tables = s.tables.set i ⟨n, change t⟩ := by
  obtain ⟨j, hplace, rfl⟩ := update_eq_ok_iff.1 h
  rw [(hs n.id i).2 ⟨_, hi, NodeTable.isOf_iff.2 ⟨hkind, rfl⟩⟩] at hplace
  obtain rfl := Option.some.inj hplace
  have hlt : i < s.tables.length := (List.getElem?_eq_some_iff.1 hi).1
  refine List.ext_getElem? fun j => ?_
  rw [List.getElem?_modify, List.getElem?_set]
  by_cases hij : i = j
  · subst hij
    rw [hi, if_pos rfl, if_pos hlt]
    simp
  · simp [hij]

/-- Growing keeps the noted places exact. -/
theorem Grown.exact (h : s.Grown s') (hs : s.Exact) : s'.Exact := by
  intro id i
  rw [h.place?_eq, hs id i]
  constructor
  · rintro ⟨t, ht, hof⟩
    obtain ⟨t', ht', hnode, -⟩ := h.continues i t ht
    exact ⟨t', ht', by rwa [NodeTable.isOf, hnode]⟩
  · rintro ⟨t', ht', hof⟩
    obtain ⟨t, ht, hnode, -⟩ := h.exists_of_getElem? ht'
    exact ⟨t, ht, by rwa [NodeTable.isOf, hnode] at hof⟩

end Draft

/-! ## Additions -/

namespace NodeTable

/-- The additions that are meant for the entity of a table. -/
def additions (t : NodeTable) (as : List Addition) : List Addition :=
  as.filter (t.isOf ·.entity)

/-- A table with the additions that are meant for its entity, in their order. -/
def receive (t : NodeTable) (as : List Addition) : NodeTable :=
  ⟨t.node, t.table.extend ((t.additions as).flatMap (·.columns))
    ((t.additions as).flatMap (·.constraints))⟩

@[simp] theorem node_receive (t : NodeTable) (as : List Addition) : (t.receive as).node = t.node :=
  rfl

theorem extends_receive (t : NodeTable) (as : List Addition) :
    t.table.Extends (t.receive as).table :=
  Table.extends_extend _ _ _

/-- A table for which nothing is meant stays as it is. -/
theorem receive_eq_self {as : List Addition} (h : t.additions as = []) : t.receive as = t := by
  simp [receive, h, Table.extend]

theorem receive_nil (t : NodeTable) : t.receive [] = t :=
  receive_eq_self rfl

/-- Receiving the first addition and then the others is receiving them all. -/
theorem receive_cons (t : NodeTable) (a : Addition) (as : List Addition) :
    receive (if t.isOf a.entity then ⟨t.node, t.table.extend a.columns a.constraints⟩ else t) as =
      t.receive (a :: as) := by
  by_cases h : t.isOf a.entity = true
  · have hadd : t.additions (a :: as) = a :: t.additions as := List.filter_cons_of_pos h
    rw [if_pos h]
    simp only [receive, hadd, List.flatMap_cons, Table.extend, List.append_assoc]
    rfl
  · have hadd : t.additions (a :: as) = t.additions as := List.filter_cons_of_neg h
    rw [if_neg h]
    simp only [receive, hadd]

end NodeTable

namespace Draft

/-- A list of additions changes each table by those that are meant for it. -/
theorem Exact.tables_foldlM_append (hs : s.Exact) {as : List Addition}
    (h : as.foldlM append s = .ok s') : s'.tables = s.tables.map (·.receive as) := by
  induction as generalizing s with
  | nil =>
    rw [List.foldlM_nil, pure_eq_ok_iff] at h
    subst h
    simp [NodeTable.receive_nil]
  | cons a as ih =>
    rw [List.foldlM_cons, bind_eq_ok_iff] at h
    obtain ⟨s₁, hs₁, has⟩ := h
    rw [ih ((grown_of_append hs₁).exact hs) has, hs.tables_update hs₁, List.map_map]
    exact List.map_congr_left fun t _ => t.receive_cons a as

/-- The tables of a draft have grown in their places, each as told, and still stand for the same
nodes. -/
structure GrownBy (f : NodeTable → NodeTable) (s s' : Draft) : Prop where
  node_eq : ∀ t, (f t).node = t.node
  grows : ∀ t : NodeTable, t.table.Extends (f t).table
  tables_eq : s'.tables = s.tables.map f

/-- Letting the table of an entity grow lets the draft grow. -/
theorem grownBy_ite {change : Table → Table} (hchange : ∀ t : Table, t.Extends (change t))
    (hs' : s'.tables =
      s.tables.map fun t => if t.isOf entity then ⟨t.node, change t.table⟩ else t) :
    GrownBy (fun t => if t.isOf entity then ⟨t.node, change t.table⟩ else t) s s' where
  node_eq := by
    intro t
    split <;> rfl
  grows := by
    intro t
    split
    · exact hchange t.table
    · exact .refl t.table
  tables_eq := hs'

/-- Additions let the draft grow. -/
theorem grownBy_receive {as : List Addition} (hs' : s'.tables = s.tables.map (·.receive as)) :
    GrownBy (·.receive as) s s' where
  node_eq := fun t => t.node_receive as
  grows := fun t => t.extends_receive as
  tables_eq := hs'

end Draft

end EntityRelationship
