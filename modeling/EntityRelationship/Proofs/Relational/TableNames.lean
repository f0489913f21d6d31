import EntityRelationship.Proofs.Diagnostic.Acceptance
import EntityRelationship.Proofs.Relational.Step
import Mathlib.Data.List.Perm.Lattice

/-!
# Names of the tables of a schema

Validation reserves a name for each node that it expects to have a table, and the synthesis makes
the tables. Here the two are compared. A step adds a table exactly if a name is reserved for its
node, under that very name, and no step renames a table; so the names of a schema are the reserved
ones, in the order in which the nodes are taken.

On an accepted diagram the reserved names are usable, and they differ even if case is ignored.
-/

namespace EntityRelationship

open Outcome

variable {d : Diagram} {n owner : Node} {s s' : Draft} {t : Table}

/-! ## Names of single tables -/

namespace Diagram

theorem name_identityTable (h : d.identityTable n = .ok t) : t.name = n.safeName := by
  obtain ⟨source, -, h⟩ := bind_eq_ok_iff.1 h
  cases source with
  | ownKey key =>
    obtain ⟨columns, -, h⟩ := bind_eq_ok_iff.1 h
    cases h
    rw [Table.name_addKey]
    rfl
  | dependent relation owner partialKey =>
    obtain ⟨refs, -, h⟩ := bind_eq_ok_iff.1 h
    obtain ⟨own, -, h⟩ := bind_eq_ok_iff.1 h
    cases h
    rfl
  | subclass specialization parent =>
    obtain ⟨columns, -, h⟩ := bind_eq_ok_iff.1 h
    cases h
    rfl

/-- The table of an entity is named after it. -/
theorem name_entityTable (h : d.entityTable n = .ok t) : t.name = n.safeName := by
  obtain ⟨identity, alternative, columns, hidentity, -, -, rfl⟩ := of_entityTable h
  rw [Table.name_pushAll]
  split
  · exact name_identityTable hidentity
  · rw [Table.name_addKey, name_identityTable hidentity]

theorem name_addEnd {t' : Table} {e : Neighbor} (h : d.addEnd t e = .ok t') : t'.name = t.name := by
  obtain ⟨refs, -, h⟩ := bind_eq_ok_iff.1 h
  cases h
  rfl

/-- The table of a relation is named after it. -/
theorem name_junctionTable (h : d.junctionTable n = .ok t) : t.name = n.safeName := by
  obtain ⟨ends, keyed, attributes, hends, -, rfl, hkeyed⟩ := of_junctionTable h
  have hname : ends.name = n.safeName :=
    foldlM_induction (I := fun t : Table => t.name = n.safeName)
      (fun t e t' _ ht he => (name_addEnd he).trans ht) hends rfl
  rw [Table.name_pushAll, ← hname]
  rcases hkeyed with ⟨-, rfl⟩ | ⟨key, columns, -, -, rfl⟩
  · rfl
  · exact Table.name_addKey ends _ _

/-- The owner of a multi-valued attribute is the first of its root owners, and an entity. -/
theorem of_entityOwner (h : d.entityOwner n = .ok owner) :
    (d.rootOwners n.id).head? = some owner.id ∧ d.node? owner.id = some owner ∧
      owner.kind.isEntity = true := by
  unfold entityOwner at h
  split at h
  · cases h
  · next id ids hids =>
    split at h
    · cases h
    · next o ho =>
      split at h
      · next hkind =>
        cases h
        refine ⟨?_, node?_id ho, hkind⟩
        rw [hids, (mem_of_node? ho).2]
        rfl
      · cases h

/-- The table of a multi-valued attribute is named after the owner and the attribute. -/
theorem name_multiValuedTable (h : d.multiValuedTable n = .ok t) :
    ∃ owner, d.entityOwner n = .ok owner ∧ t.name = owner.safeName ++ "_" ++ n.attributeName := by
  obtain ⟨owner, howner, h⟩ := bind_eq_ok_iff.1 h
  obtain ⟨refs, -, h⟩ := bind_eq_ok_iff.1 h
  obtain ⟨value, -, h⟩ := bind_eq_ok_iff.1 h
  cases h
  exact ⟨owner, howner, rfl⟩

end Diagram

/-! ## Names of a draft -/

/-- The names of the tables of a draft. -/
def Draft.names (s : Draft) : List String :=
  s.tables.map (·.table.name)

@[simp] theorem Draft.names_empty : Draft.empty.names = [] := rfl

@[simp] theorem Draft.names_add (s : Draft) (n : Node) (t : Table) :
    (s.add n t).names = s.names ++ [t.name] := by
  simp [names, add]

theorem Draft.map_name_schema (s : Draft) : s.schema.tables.map (·.name) = s.names := by
  simp [names, schema]

@[simp] theorem Draft.names_addEntity (s : Draft) (n : Node) (t : Table) :
    (s.addEntity n t).names = s.names ++ [t.name] :=
  s.names_add n t

/-- A draft that has grown has tables of the same names. -/
theorem Draft.Grown.names_eq (h : s.Grown s') : s'.names = s.names :=
  h.map_eq (·.table.name) fun _ _ _ hgrows => hgrows.name_eq

namespace Diagram

/-- A step adds the name that is reserved for its node, if there is one. -/
theorem Step.names (h : d.Step s n s') : s'.names = s.names ++ (d.tableName? n).toList := by
  have hgrown {r : Draft} (hr : s.Grown r) (hnone : d.tableName? n = none) :
      r.names = s.names ++ (d.tableName? n).toList := by
    rw [hr.names_eq, hnone, Option.toList_none, List.append_nil]
  cases h with
  | entity hkind ht =>
    rw [Draft.names_addEntity, name_entityTable ht, tableName?_of_isEntity hkind]
    rfl
  | junction hkind hmany ht =>
    rw [Draft.names_add, name_junctionTable ht, tableName?, hkind]
    simp [hmany]
  | values hkind ht =>
    obtain ⟨owner, howner, hname⟩ := name_multiValuedTable ht
    obtain ⟨hhead, hnode, -⟩ := of_entityOwner howner
    rw [Draft.names_add, hname, tableName?, hkind]
    simp [hhead, hnode]
  | @foreignKey _ key refs attributes hkind hclass hkey hrefs hattributes hs' =>
    refine hgrown (Draft.grown_of_update (key.extends_extend refs attributes) hs') ?_
    rw [tableName?, hkind]
    rcases hclass with hclass | hclass <;> simp [hclass]
  | exclusive hkind _ _ _ hs' =>
    refine hgrown (Draft.grown_of_foldlM_append hs') ?_
    rw [tableName?, hkind]
  | overlapped hkind _ _ _ hs' =>
    refine hgrown (Draft.grown_of_foldlM_append hs') ?_
    rw [tableName?, hkind]
  | idle hname _ _ => rw [hname, Option.toList_none, List.append_nil]

/-- A run adds the names that are reserved for its nodes, in their order. -/
theorem names_foldlM_build {ns : List Node} (h : ns.foldlM d.build s = .ok s') :
    s'.names = s.names ++ ns.filterMap d.tableName? := by
  induction ns generalizing s with
  | nil =>
    rw [List.foldlM_nil, pure_eq_ok_iff] at h
    rw [h, List.filterMap_nil, List.append_nil]
  | cons n ns ih =>
    rw [List.foldlM_cons, bind_eq_ok_iff] at h
    obtain ⟨s₁, hs₁, h⟩ := h
    rw [ih h, (step_of_build hs₁).names, List.append_assoc]
    cases hname : d.tableName? n with
    | none => rw [List.filterMap_cons_none hname, Option.toList_none, List.nil_append]
    | some name =>
      rw [List.filterMap_cons_some hname]
      rfl

/-- The names of a schema are the reserved names in the order in which the nodes are taken. -/
theorem tableNames_eq_filterMap {schema : Schema} (h : d.synthesize = .ok schema) :
    schema.tables.map (·.name) = d.buildOrder.filterMap d.tableName? := by
  obtain ⟨draft, hdraft, h⟩ := bind_eq_ok_iff.1 h
  cases h
  rw [Draft.map_name_schema, names_foldlM_build hdraft, Draft.names_empty, List.nil_append]

/-! ## All tables -/

/-- The nodes that are taken are, up to order, the nodes of the kinds that are taken. -/
theorem buildOrder_perm (d : Diagram) :
    d.buildOrder.Perm (d.nodes.filter fun n => NodeKind.passes.any (· n.kind)) := by
  have hcount (p : Node → Bool) (n : Node) :
      (d.nodes.filter p).count n = if p n then d.nodes.count n else 0 := by
    split
    · next hp => exact List.count_filter hp
    · next hp => exact List.count_eq_zero_of_not_mem fun hn => hp (List.of_mem_filter hn)
  -- every kind is taken in one pass at most
  refine List.perm_iff_count.2 fun n => ?_
  simp only [buildOrder, NodeKind.passes, List.flatMap_cons, List.flatMap_nil, List.count_append,
    List.count_nil, hcount]
  cases n.kind with
  | attr role => cases role <;> simp [NodeKind.isSpecialization]
  | entity | weakEntity | relation | dependency _ | specialization _ =>
    simp [NodeKind.isSpecialization]

/-- A name is reserved only for nodes of the kinds that are taken. -/
theorem tableName?_eq_none_of_not_taken (h : ¬ NodeKind.passes.any (· n.kind)) :
    d.tableName? n = none := by
  unfold tableName?
  split
  · next hkind => simp [NodeKind.passes, hkind] at h
  · next hkind => simp [NodeKind.passes, hkind] at h
  · next hkind => simp [NodeKind.passes, hkind] at h
  · next hkind => simp [NodeKind.passes, hkind] at h
  · rfl

/-- The nodes that are taken have, up to order, the names that are reserved for all nodes. -/
theorem filterMap_buildOrder_perm (d : Diagram) :
    (d.buildOrder.filterMap d.tableName?).Perm (d.nodes.filterMap d.tableName?) := by
  refine ((buildOrder_perm d).filterMap _).trans ?_
  rw [List.filterMap_filter]
  refine List.Perm.of_eq (List.filterMap_congr fun n _ => ?_)
  split
  · rfl
  · next h => exact (tableName?_eq_none_of_not_taken h).symm

/-! ## Names pass by pass -/

/-- The name of the table for the values of an attribute: that of the entity which owns the
attribute, followed by that of the attribute. -/
def IsValuesName (d : Diagram) (a : Node) (name : String) : Prop :=
  ∃ owner, (d.rootOwners a.id).head? = some owner.id ∧ d.node? owner.id = some owner ∧
    owner.kind.isEntity = true ∧ name = owner.safeName ++ "_" ++ a.attributeName

/-- Whether a node is a relation between many and many. -/
def isJunction (d : Diagram) (n : Node) : Bool :=
  n.kind == .relation && d.cardinality n.id == .manyToMany

/-- Multi-valued attributes whose tables can be made have names for them. -/
theorem isValuesName_filterMap {as : List Node}
    (h : ∀ a ∈ as, a.kind = .attr .multiValued ∧ ∃ t, d.multiValuedTable a = .ok t) :
    List.Forall₂ d.IsValuesName as (as.filterMap d.tableName?) := by
  induction as with
  | nil => exact .nil
  | cons a as ih =>
    obtain ⟨hkind, t, ht⟩ := h a List.mem_cons_self
    obtain ⟨owner, howner, -⟩ := name_multiValuedTable ht
    obtain ⟨hhead, hnode, hentity⟩ := of_entityOwner howner
    have hname : d.tableName? a = some (owner.safeName ++ "_" ++ a.attributeName) := by
      rw [tableName?, hkind]
      simp [hhead, hnode]
    rw [List.filterMap_cons_some hname]
    exact .cons ⟨owner, hhead, hnode, hentity, rfl⟩ (ih fun b hb => h b (List.mem_cons_of_mem _ hb))

/-- Nodes whose tables are named after them. -/
theorem filterMap_tableName?_eq_map {ns : List Node}
    (h : ∀ n ∈ ns, d.tableName? n = some n.safeName) :
    ns.filterMap d.tableName? = ns.map (·.safeName) := by
  rw [List.filterMap_congr h]
  exact congrFun List.filterMap_eq_map ns

/-- Of the relations, those between many and many have names reserved. -/
theorem filterMap_relations (d : Diagram) :
    (d.nodes.filter (·.kind == .relation)).filterMap d.tableName? =
      (d.nodes.filter d.isJunction).map (·.safeName) := by
  have hjunction : ∀ n ∈ d.nodes.filter d.isJunction, d.tableName? n = some n.safeName := by
    intro n hn
    have hboth := List.of_mem_filter hn
    rw [isJunction, Bool.and_eq_true, beq_iff_eq, beq_iff_eq] at hboth
    rw [tableName?, hboth.1]
    exact if_pos hboth.2
  rw [← filterMap_tableName?_eq_map hjunction, List.filterMap_filter, List.filterMap_filter]
  refine List.filterMap_congr fun n _ => ?_
  by_cases hkind : n.kind = .relation <;> by_cases hmany : d.cardinality n.id = .manyToMany <;>
    simp [isJunction, tableName?, hkind, hmany]

/-- The reserved names in the order of the passes. -/
theorem filterMap_buildOrder (d : Diagram) :
    d.buildOrder.filterMap d.tableName? =
      (d.nodes.filter (·.kind == .entity)).map (·.safeName) ++
      (d.nodes.filter (·.kind == .weakEntity)).map (·.safeName) ++
      (d.nodes.filter d.isJunction).map (·.safeName) ++
      (d.nodes.filter (·.kind == .attr .multiValued)).filterMap d.tableName? := by
  have hentity : ∀ n ∈ d.nodes.filter (·.kind == .entity), d.tableName? n = some n.safeName := by
    intro n hn
    rw [List.mem_filter, beq_iff_eq] at hn
    rw [tableName?, hn.2]
  have hweak : ∀ n ∈ d.nodes.filter (·.kind == .weakEntity), d.tableName? n = some n.safeName := by
    intro n hn
    rw [List.mem_filter, beq_iff_eq] at hn
    rw [tableName?, hn.2]
  have hspecial : (d.nodes.filter (·.kind.isSpecialization)).filterMap d.tableName? = [] := by
    refine List.filterMap_eq_nil_iff.2 fun n hn => ?_
    have hspecialization := List.of_mem_filter hn
    cases hk : n.kind <;> simp_all [tableName?, NodeKind.isSpecialization]
  rw [buildOrder_eq, entityNodes, laterNodes]
  simp only [List.filterMap_append, filterMap_tableName?_eq_map hentity,
    filterMap_tableName?_eq_map hweak, filterMap_relations, hspecial, List.append_nil,
    List.append_assoc]

/-! ## Usable names -/

/-- Names that are reserved without a clash are not empty, and differ from each other and from the
taken ones up to case. -/
theorem usable_of_among {taken : List (String × Node)} {ns : List Node}
    (h : ∀ x ∈ NameClash.among d taken ns, x.isError = false) :
    (∀ name ∈ ns.filterMap d.tableName?, name ≠ "" ∧ Text.lower name ∉ taken.map (·.1)) ∧
      ((ns.filterMap d.tableName?).map Text.lower).Nodup := by
  -- the names that are taken grow by the name of each node
  induction ns generalizing taken with
  | nil => simp
  | cons n ns ih =>
    unfold NameClash.among at h
    split at h
    · next hname =>
      rw [List.filterMap_cons_none hname]
      exact ih h
    · next name hname =>
      rw [List.filterMap_cons_some hname]
      split at h
      · have herror := h _ List.mem_cons_self
        cases herror
      · next hempty =>
        split at h
        · have herror := h _ List.mem_cons_self
          cases herror
        · next hfree =>
          obtain ⟨hrest, hnodup⟩ := ih h
          have hnew : Text.lower name ∉ taken.map (·.1) := by
            rw [List.find?_eq_none] at hfree
            intro hmem
            obtain ⟨x, hx, hsame⟩ := List.mem_map.1 hmem
            exact hfree x hx (by simpa using hsame)
          constructor
          · intro other hother
            rcases List.mem_cons.1 hother with rfl | hother
            · exact ⟨hempty, hnew⟩
            · obtain ⟨hother, hlower⟩ := hrest other hother
              rw [List.map_cons, List.mem_cons, not_or] at hlower
              exact ⟨hother, hlower.2⟩
          · rw [List.map_cons, List.nodup_cons]
            refine ⟨fun hmem => ?_, hnodup⟩
            obtain ⟨other, hother, hsame⟩ := List.mem_map.1 hmem
            have hlower := (hrest other hother).2
            rw [List.map_cons, List.mem_cons, not_or] at hlower
            exact hlower.1 hsame

/-- In an accepted diagram the reserved names are not empty and differ up to case. -/
theorem Accepted.usable (h : d.Accepted) :
    (∀ name ∈ d.nodes.filterMap d.tableName?, name ≠ "") ∧
      ((d.nodes.filterMap d.tableName?).map Text.lower).Nodup := by
  have hclashes : ∀ x ∈ NameClash.among d [] d.nodes, x.isError = false := by
    intro x hx
    exact h x (List.mem_append_right _ hx)
  obtain ⟨hnames, hnodup⟩ := usable_of_among hclashes
  exact ⟨fun name hname => (hnames name hname).1, hnodup⟩

/-- In an accepted diagram different entities have different names. -/
theorem Accepted.eq_of_safeName_eq {m : Node} (h : d.Accepted) (hm : m ∈ d.nodes)
    (hmkind : m.kind.isEntity = true) (hn : n ∈ d.nodes) (hnkind : n.kind.isEntity = true)
    (hname : m.safeName = n.safeName) : m = n := by
  have hnodup : ((d.nodes.filter (·.kind.isEntity)).map (·.safeName)).Nodup := by
    have hreserved : ∀ k ∈ d.nodes.filter (·.kind.isEntity), d.tableName? k = some k.safeName :=
      fun k hk => tableName?_of_isEntity (List.mem_filter.1 hk).2
    rw [← filterMap_tableName?_eq_map hreserved]
    exact h.usable.2.of_map.sublist (List.filter_sublist.filterMap _)
  exact List.inj_on_of_nodup_map hnodup (List.mem_filter.2 ⟨hm, hmkind⟩)
    (List.mem_filter.2 ⟨hn, hnkind⟩) hname

/-! ## The names of a schema -/

/-- The tables of the schema of an accepted diagram have different names. -/
theorem Accepted.nodup_names (h : d.Accepted) {schema : Schema} (hs : d.synthesize = .ok schema) :
    (schema.tables.map (·.name)).Nodup := by
  rw [tableNames_eq_filterMap hs, (filterMap_buildOrder_perm d).nodup_iff]
  exact h.usable.2.of_map

/-- A table is found under its name. -/
theorem Accepted.table?_of_mem (h : d.Accepted) {schema : Schema} (hs : d.synthesize = .ok schema)
    {t : Table} (ht : t ∈ schema.tables) : schema.table? t.name = some t := by
  have hfound : (schema.table? t.name).isSome :=
    List.find?_isSome.2 ⟨t, ht, beq_self_eq_true t.name⟩
  obtain ⟨u, hu⟩ := Option.isSome_iff_exists.1 hfound
  have hname : u.name = t.name := by simpa using List.find?_some hu
  rw [hu, List.inj_on_of_nodup_map (h.nodup_names hs) (List.mem_of_find?_eq_some hu) ht hname]

/-- The tables of a schema are those for which names are reserved. Their names are, in this order,
those of the entities, of the weak entities, of the relations between many and many, and of the
multi-valued attributes; if the diagram is accepted, they are usable and differ up to case. -/
theorem tableNames_of_synthesize {schema : Schema} (h : d.synthesize = .ok schema) :
    (∃ valuesNames,
      schema.tables.map (·.name) =
        (d.nodes.filter (·.kind == .entity)).map (·.safeName) ++
        (d.nodes.filter (·.kind == .weakEntity)).map (·.safeName) ++
        (d.nodes.filter d.isJunction).map (·.safeName) ++ valuesNames ∧
      List.Forall₂ d.IsValuesName (d.nodes.filter (·.kind == .attr .multiValued)) valuesNames) ∧
    (schema.tables.map (·.name)).Perm (d.nodes.filterMap d.tableName?) ∧
    (d.Accepted → (∀ name ∈ schema.tables.map (·.name), name ≠ "") ∧
      ((schema.tables.map (·.name)).map Text.lower).Nodup) := by
  have hnames := tableNames_eq_filterMap h
  have hperm : (schema.tables.map (·.name)).Perm (d.nodes.filterMap d.tableName?) := by
    rw [hnames]
    exact filterMap_buildOrder_perm d
  refine ⟨⟨_, hnames.trans (filterMap_buildOrder d), isValuesName_filterMap fun a ha => ?_⟩, hperm,
    fun haccepted => ?_⟩
  · -- the attribute has been taken in the run, so its table has been made
    obtain ⟨hmem, hkind⟩ := List.mem_filter.1 ha
    rw [beq_iff_eq] at hkind
    obtain ⟨draft, hdraft, -⟩ := bind_eq_ok_iff.1 h
    have htaken : a ∈ d.buildOrder :=
      List.mem_flatMap.2 ⟨(· == .attr .multiValued), by simp [NodeKind.passes], ha⟩
    obtain ⟨r, r', hstep⟩ := exists_step_of_foldlM hdraft a htaken
    rw [build, hkind] at hstep
    obtain ⟨t, ht, -⟩ := bind_eq_ok_iff.1 hstep
    exact ⟨hkind, t, ht⟩
  · obtain ⟨hnonempty, hnodup⟩ := haccepted.usable
    refine ⟨fun name hname => hnonempty name (hperm.mem_iff.1 hname), ?_⟩
    exact (hperm.map Text.lower).nodup_iff.2 hnodup

/-- A diagram in which each way of making and joining tables occurs: a weak entity, a reflexive
relation, a relation between many and many, a multi-valued attribute and a specialization. -/
def university : Diagram where
  nodes := [
    ⟨"student", .entity, "Student", none⟩,
    ⟨"id", .attr .key, "id:INTEGER", none⟩,
    ⟨"phone", .attr .multiValued, "phone:TEXT", none⟩,
    ⟨"level", .specialization ⟨false, true⟩, "level", none⟩,
    ⟨"graduate", .entity, "Graduate", none⟩,
    ⟨"course", .entity, "Course", none⟩,
    ⟨"code", .attr .key, "code:TEXT", none⟩,
    ⟨"takes", .relation, "Takes", none⟩,
    ⟨"requires", .relation, "Requires", none⟩,
    ⟨"exam", .weakEntity, "Exam", none⟩,
    ⟨"nr", .attr .key, "nr:INTEGER", none⟩,
    ⟨"concludes", .dependency .existence, "Concludes", none⟩]
  edges := [
    ⟨"e1", .transition, "student", "id", none⟩,
    ⟨"e2", .transition, "student", "phone", none⟩,
    ⟨"e3", .transition, "student", "level", none⟩,
    ⟨"e4", .transition, "level", "graduate", none⟩,
    ⟨"e5", .transition, "course", "code", none⟩,
    ⟨"e6", .weighted, "student", "takes", some "(0..N)"⟩,
    ⟨"e7", .weighted, "takes", "course", some "(0..N)"⟩,
    ⟨"e8", .weighted, "course", "requires", some "(0..N)"⟩,
    ⟨"e9", .weighted, "requires", "course", some "(0..1)"⟩,
    ⟨"e10", .transition, "exam", "nr", none⟩,
    ⟨"e11", .weighted, "course", "concludes", some "(1..1)"⟩,
    ⟨"e12", .weighted, "concludes", "exam", some "(0..N)"⟩]

theorem accepted_university : university.Accepted := by decide +kernel

theorem exists_synthesize_university : ∃ schema, university.synthesize = .ok schema := by
  have hsome : university.synthesize.toOption.any (fun _ => true) = true := by decide +kernel
  obtain ⟨schema, h, -⟩ := exists_eq_ok_of_any hsome
  exact ⟨schema, h⟩

theorem tableNames_university :
    ∃ schema, university.synthesize = .ok schema ∧
      (schema.tables.map (·.name)).Perm
        ["Student", "Student_phone", "Graduate", "Course", "Takes", "Exam"] ∧
      ((schema.tables.map (·.name)).map Text.lower).Nodup := by
  obtain ⟨schema, h⟩ := exists_synthesize_university
  have hreserved : university.nodes.filterMap university.tableName? =
      ["Student", "Student_phone", "Graduate", "Course", "Takes", "Exam"] := by decide +kernel
  obtain ⟨-, hperm, husable⟩ := tableNames_of_synthesize h
  rw [hreserved] at hperm
  exact ⟨schema, h, hperm, (husable accepted_university).2⟩

end Diagram

end EntityRelationship
