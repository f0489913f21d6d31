import EntityRelationship.Proofs.Relational.Run
import EntityRelationship.Proofs.Relational.TableNames

/-!
# A synthesis only appends

A node that is taken adds one table at the end or lets tables grow that are there, and it is told
from the node which ones: a relation lets the table of its holder grow, and a specialization those
of its parent and its children. All other tables stay as they are, and those that stand for no
entity stay so to the end.

A table is looked up and changed by the place that is noted for its entity. The place is noted when
the table is added, and is the number of tables before it. Since tables keep their places, it is
that of the same table ever after.
-/

namespace EntityRelationship

open Outcome

variable {d : Diagram} {n m : Node} {s s' s'' : Draft} {id : String}

/-! ## Changes in noted places -/

namespace Draft

/-- Of the tables at most those in the places of some entities have changed. -/
structure ChangesOnly (entities : List String) (s s' : Draft) : Prop where
  length_eq : s'.tables.length = s.tables.length
  getElem?_eq : ∀ i, (∀ id ∈ entities, s.place? id ≠ some i) → s'.tables[i]? = s.tables[i]?

theorem ChangesOnly.refl (entities : List String) (s : Draft) : ChangesOnly entities s s where
  length_eq := rfl
  getElem?_eq _ _ := rfl

/-- One change after the other, where the first one leaves the places as they are noted. -/
theorem ChangesOnly.trans {entities : List String} (h : ChangesOnly entities s s')
    (h' : ChangesOnly entities s' s'') (hplace : ∀ id, s'.place? id = s.place? id) :
    ChangesOnly entities s s'' where
  length_eq := h'.length_eq.trans h.length_eq
  getElem?_eq := by
    intro i hi
    rw [h'.getElem?_eq i fun id hid => hplace id ▸ hi id hid, h.getElem?_eq i hi]

theorem changesOnly_of_update {entities : List String} (hid : id ∈ entities)
    {change : Table → Table} (h : s.update id change = .ok s') : ChangesOnly entities s s' := by
  obtain ⟨j, hplace, rfl⟩ := update_eq_ok_iff.1 h
  refine ⟨List.length_modify _ _ _, fun i hi => ?_⟩
  have hji : j ≠ i := by
    rintro rfl
    exact hi id hid hplace
  exact List.getElem?_modify_ne _ _ hji

/-- Additions change only the tables of the entities for which they are meant. -/
theorem changesOnly_of_foldlM_append {entities : List String} {as : List Addition}
    (has : ∀ a ∈ as, a.entity ∈ entities) (h : as.foldlM append s = .ok s') :
    ChangesOnly entities s s' := by
  refine (foldlM_induction (I := fun r => s.Grown r ∧ ChangesOnly entities s r) ?_ h
    ⟨.refl s, .refl entities s⟩).2
  rintro r a r' ha ⟨hgrown, hr⟩ happend
  exact ⟨hgrown.trans (grown_of_append happend),
    hr.trans (changesOnly_of_update (has a ha) happend) hgrown.place?_eq⟩

/-- The tables of the first draft that stand for no entity are in the second one as they were. -/
def KeepsOthers (s s' : Draft) : Prop :=
  ∀ (i : Nat) (t : NodeTable), s.tables[i]? = some t → t.node.kind.isEntity = false →
    s'.tables[i]? = some t

end Draft

/-! ## One step -/

namespace Diagram

/-- What taking a node does to the tables: it adds one at the end, or it changes those of the holder
of a relation or of the members of a specialization, or it does nothing. -/
def Effect (d : Diagram) (s : Draft) (n : Node) (s' : Draft) : Prop :=
  match n.kind with
  | .entity | .weakEntity => ∃ t, d.entityTable n = .ok t ∧ s' = s.addEntity n t
  | .relation =>
    match d.cardinality n.id with
    | .unrelated => s' = s
    | .oneToOne | .oneToMany =>
      ∃ key, d.relationKey n = .ok key ∧ s.ChangesOnly [key.holder.node.id] s'
    | .manyToMany => ∃ t, d.junctionTable n = .ok t ∧ s' = s.add n t
  | .attr .multiValued => ∃ t, d.multiValuedTable n = .ok t ∧ s' = s.add n t
  | .specialization _ =>
    ∃ parent, d.parent? n.id = some parent ∧
      s.ChangesOnly (parent.id :: (d.children n.id).map (·.id)) s'
  | _ => s' = s

/-- A relation that is a foreign key changes the table of its holder. -/
theorem changesOnly_of_addRelationKey (h : d.addRelationKey s n = .ok s') :
    ∃ key, d.relationKey n = .ok key ∧ s.ChangesOnly [key.holder.node.id] s' := by
  obtain ⟨key, hkey, h⟩ := bind_eq_ok_iff.1 h
  obtain ⟨refs, -, h⟩ := bind_eq_ok_iff.1 h
  obtain ⟨attributes, -, h⟩ := bind_eq_ok_iff.1 h
  exact ⟨key, hkey, Draft.changesOnly_of_update List.mem_cons_self h⟩

/-- A specialization changes the tables of its parent and its children. -/
theorem changesOnly_of_addSpecialization {kind : SpecializationKind}
    (h : d.addSpecialization s n kind = .ok s') :
    ∃ parent, d.parent? n.id = some parent ∧
      s.ChangesOnly (parent.id :: (d.children n.id).map (·.id)) s' := by
  obtain ⟨tie, htie, h⟩ := bind_eq_ok_iff.1 h
  obtain ⟨hparent, hchildren, -⟩ := of_specializationTie htie
  extract_lets addAll at h
  have hmember {m : Node} (hm : m ∈ tie.parent :: tie.children) :
      m.id ∈ tie.parent.id :: (d.children n.id).map (·.id) := by
    rw [hchildren] at hm
    exact List.mem_map_of_mem (f := fun m : Node => m.id) hm
  refine ⟨tie.parent, hparent, ?_⟩
  split at h
  · obtain ⟨discriminator, -, h⟩ := bind_eq_ok_iff.1 h
    refine Draft.changesOnly_of_foldlM_append (fun a ha => ?_) h
    obtain ⟨m, hm, hentity⟩ := entity_of_mem_exclusiveAdditions ha
    exact hentity ▸ hmember hm
  · obtain ⟨flags, -, h⟩ := bind_eq_ok_iff.1 h
    refine Draft.changesOnly_of_foldlM_append (fun a ha => ?_) h
    obtain ⟨m, hm, hentity⟩ := entity_of_mem_overlappedAdditions ha
    exact hentity ▸ hmember hm

theorem effect_of_addRelation (hkind : n.kind = .relation) (h : d.addRelation s n = .ok s') :
    d.Effect s n s' := by
  unfold addRelation at h
  unfold Effect
  rw [hkind]
  cases hcard : d.cardinality n.id with
  | unrelated =>
    rw [hcard] at h
    exact (Except.ok.inj h).symm
  | oneToOne | oneToMany =>
    rw [hcard] at h
    exact changesOnly_of_addRelationKey h
  | manyToMany =>
    rw [hcard] at h
    obtain ⟨t, ht, h⟩ := bind_eq_ok_iff.1 h
    exact ⟨t, ht, (Except.ok.inj h).symm⟩

/-- Every successful step has the effect that its node is to have. -/
theorem effect_of_build (h : d.build s n = .ok s') : d.Effect s n s' := by
  cases hkind : n.kind with
  | relation =>
    refine effect_of_addRelation hkind ?_
    rwa [build, hkind] at h
  | entity | weakEntity =>
    rw [build, hkind] at h
    obtain ⟨t, ht, h⟩ := bind_eq_ok_iff.1 h
    rw [Effect, hkind]
    exact ⟨t, ht, (Except.ok.inj h).symm⟩
  | specialization kind =>
    rw [build, hkind] at h
    rw [Effect, hkind]
    exact changesOnly_of_addSpecialization h
  | dependency kind =>
    rw [build, hkind] at h
    rw [Effect, hkind]
    exact (Except.ok.inj h).symm
  | attr kind =>
    cases kind with
    | multiValued =>
      rw [build, hkind] at h
      obtain ⟨t, ht, h⟩ := bind_eq_ok_iff.1 h
      rw [Effect, hkind]
      exact ⟨t, ht, (Except.ok.inj h).symm⟩
    | plain | key | alternativeKey | derived =>
      rw [build, hkind] at h
      rw [Effect, hkind]
      exact (Except.ok.inj h).symm

/-- For an entity the place at the end is noted, and no other node changes a noted place. -/
theorem Step.place?_eq (h : d.Step s n s') (id : String) :
    s'.place? id =
      if n.kind.isEntity = true ∧ n.id = id then some s.tables.length else s.place? id := by
  rcases h.grown_or_add with ⟨-, hkind, hs⟩ | ⟨hkind, t, rfl⟩ | ⟨hkind, t, rfl⟩
  · simp [hkind, hs.place?_eq]
  · simp [hkind, Draft.place?_addEntity]
  · rw [if_neg (by simp [hkind])]
    rfl

/-! ## Noted places -/

/-- The places are noted for the entities among the nodes that are taken. Each of them is that of
the table that was built for the entity, with what was added to it since. -/
structure Notes (d : Diagram) (taken : List Node) (s : Draft) : Prop where
  exists_place? : ∀ m ∈ taken, m.kind.isEntity = true → ∃ (i : Nat) (t t' : Table),
    s.place? m.id = some i ∧ d.entityTable m = .ok t ∧ s.tables[i]? = some ⟨m, t'⟩ ∧ t.Extends t'
  exists_of_place? : ∀ id i, s.place? id = some i →
    ∃ m ∈ taken, m.kind.isEntity = true ∧ m.id = id

theorem notes_empty (d : Diagram) : d.Notes [] .empty where
  exists_place? _ hm := by cases hm
  exists_of_place? _ _ hplace := by cases hplace

/-- A step notes the place of the table that it builds, and leaves the others where they are noted,
if it does not take an entity again. -/
theorem Notes.build {taken : List Node} (h : d.Notes taken s)
    (hfresh : n.kind.isEntity = true → ∀ m ∈ taken, m.kind.isEntity = true → m.id ≠ n.id)
    (hbuild : d.build s n = .ok s') : d.Notes (taken ++ [n]) s' where
  exists_place? := by
    intro m hm hkind
    have hstep := step_of_build hbuild
    rcases List.mem_append.1 hm with hm | hm
    · obtain ⟨i, t, t', hplace, ht, htable, hgrows⟩ := h.exists_place? m hm hkind
      obtain ⟨⟨m', t''⟩, htable', hnode, hgrows'⟩ := hstep.continues i _ htable
      obtain rfl : m' = m := hnode
      refine ⟨i, t, t'', ?_, ht, htable', hgrows.trans hgrows'⟩
      rw [hstep.place?_eq, if_neg fun hn => hfresh hn.1 m' hm hkind hn.2.symm, hplace]
    · obtain rfl := List.mem_singleton.1 hm
      obtain ⟨t, ht, rfl⟩ := entityTable_of_build hkind hbuild
      refine ⟨s.tables.length, t, t, ?_, ht, ?_, .refl t⟩
      · rw [hstep.place?_eq, if_pos ⟨hkind, rfl⟩]
      · rw [Draft.tables_addEntity, Draft.add, List.getElem?_concat_length]
  exists_of_place? := by
    intro id i hplace
    rw [(step_of_build hbuild).place?_eq] at hplace
    split at hplace
    · next hn => exact ⟨n, List.mem_append_right _ List.mem_cons_self, hn⟩
    · obtain ⟨m, hm, hm'⟩ := h.exists_of_place? id i hplace
      exact ⟨m, List.mem_append_left _ hm, hm'⟩

/-! ## Runs -/

/-- The entities among the nodes that are taken are the entities of the diagram. -/
theorem filter_isEntity_buildOrder (d : Diagram) :
    d.buildOrder.filter (·.kind.isEntity) = d.entityNodes := by
  have hentities : d.entityNodes.filter (·.kind.isEntity) = d.entityNodes :=
    List.filter_eq_self.2 fun n hn => (mem_entityNodes_iff.1 hn).2
  have hlater : d.laterNodes.filter (·.kind.isEntity) = [] := by
    rw [List.filter_eq_nil_iff]
    intro n hn
    rw [isEntity_of_mem_laterNodes hn]
    exact Bool.false_ne_true
  rw [buildOrder_eq, List.filter_append, hentities, hlater, List.append_nil]

/-- In a run no entity is taken twice. -/
theorem id_ne_of_run (hd : d.DistinctIds) {taken rest : List Node}
    (horder : d.buildOrder = taken ++ n :: rest) (hkind : n.kind.isEntity = true) :
    ∀ m ∈ taken, m.kind.isEntity = true → m.id ≠ n.id := by
  have hnodup := nodup_ids_entityNodes hd
  have hcons : (n :: rest).filter (·.kind.isEntity) = n :: rest.filter (·.kind.isEntity) :=
    List.filter_cons_of_pos hkind
  rw [← filter_isEntity_buildOrder, horder, List.filter_append, hcons, List.map_append,
    List.nodup_append] at hnodup
  intro m hm hentity
  have hmem : m ∈ taken.filter (·.kind.isEntity) := List.mem_filter.2 ⟨hm, hentity⟩
  exact hnodup.2.2 m.id (List.mem_map_of_mem hmem) n.id List.mem_cons_self

/-- Further steps note the places of the tables that they build. -/
theorem Notes.foldlM_build (hd : d.DistinctIds) {taken ns rest : List Node}
    (horder : d.buildOrder = taken ++ (ns ++ rest)) (h : d.Notes taken s)
    (hrun : ns.foldlM d.build s = .ok s') : d.Notes (taken ++ ns) s' := by
  induction ns generalizing taken s with
  | nil =>
    rw [List.foldlM_nil, pure_eq_ok_iff] at hrun
    rw [List.append_nil]
    exact hrun ▸ h
  | cons n ns ih =>
    rw [List.foldlM_cons, bind_eq_ok_iff] at hrun
    obtain ⟨s₁, hbuild, hrun⟩ := hrun
    have hn : d.Notes (taken ++ [n]) s₁ := h.build (id_ne_of_run hd horder) hbuild
    rw [List.append_cons]
    refine ih ?_ hn hrun
    rw [horder, List.cons_append, List.append_cons]

/-- At any time in a run the places are noted for the entities that have been taken. -/
theorem notes_of_run (hd : d.DistinctIds) {taken rest : List Node}
    (horder : d.buildOrder = taken ++ rest) (hs : taken.foldlM d.build .empty = .ok s) :
    d.Notes taken s :=
  (notes_empty d).foldlM_build hd horder hs

/-- No table but the one in the noted place stands for an entity. -/
theorem exact_of_run (hd : d.DistinctIds) {taken rest : List Node}
    (horder : d.buildOrder = taken ++ rest) (hs : taken.foldlM d.build .empty = .ok s) :
    s.Exact := by
  refine (indexed_foldlM_build hs Draft.indexed_empty).exact ?_
  have hnodup := nodup_ids_entityNodes hd
  rw [← filter_isEntity_buildOrder, horder, List.filter_append, List.map_append] at hnodup
  rw [entityNodes_foldlM_build hs, Draft.entityNodes_empty, List.nil_append]
  exact hnodup.of_append_left

/-- A node that is no entity is taken after all entities. -/
theorem mem_taken_of_run {taken rest : List Node} (horder : d.buildOrder = taken ++ n :: rest)
    (hn : n.kind.isEntity = false) (hm : m ∈ d.nodes) (hentity : m.kind.isEntity = true) :
    m ∈ taken := by
  have hm' := mem_entityNodes_iff.2 ⟨hm, hentity⟩
  rw [buildOrder_eq, List.append_eq_append_iff] at horder
  rcases horder with ⟨more, htaken, -⟩ | ⟨more, hentities, hrest⟩
  · rw [htaken]
    exact List.mem_append_left _ hm'
  · cases more with
    | nil => rwa [hentities, List.append_nil] at hm'
    | cons n' more =>
      -- the node would be an entity
      obtain ⟨rfl, -⟩ := List.cons_eq_cons.1 hrest
      have hn' : n ∈ d.entityNodes := hentities ▸ List.mem_append_right _ List.mem_cons_self
      rw [(mem_entityNodes_iff.1 hn').2] at hn
      cases hn

/-- What a step does to the tables and to the places that are noted for them. -/
structure Appends (d : Diagram) (s : Draft) (n : Node) (s' : Draft) : Prop where
  /-- Each table keeps its place, its name and what it has. -/
  continues : s.Continues s'
  effect : d.Effect s n s'
  /-- For an entity the place at the end is noted, and no other node changes a noted place. -/
  place?_eq : ∀ id, s'.place? id =
    if n.kind.isEntity = true ∧ n.id = id then some s.tables.length else s.place? id
  /-- What is no entity finds the tables of all entities in the places noted for them. -/
  exists_place? : n.kind.isEntity = false → ∀ m ∈ d.nodes, m.kind.isEntity = true →
    ∃ i t, s.place? m.id = some i ∧ s.tables[i]? = some ⟨m, t⟩
  keepsOthers : s.KeepsOthers s'

/-- A step of a run only appends. -/
theorem appends_of_run (hd : d.DistinctIds) {taken rest : List Node}
    (horder : d.buildOrder = taken ++ n :: rest) (hs : taken.foldlM d.build .empty = .ok s)
    (hbuild : d.build s n = .ok s') : d.Appends s n s' where
  continues := (step_of_build hbuild).continues
  effect := effect_of_build hbuild
  place?_eq := (step_of_build hbuild).place?_eq
  exists_place? := by
    intro hn m hm hentity
    obtain ⟨i, -, t', hplace, -, htable, -⟩ := (notes_of_run hd horder hs).exists_place? m
      (mem_taken_of_run horder hn hm hentity) hentity
    exact ⟨i, t', hplace, htable⟩
  keepsOthers := fun i t ht hkind =>
    (step_of_build hbuild).getElem?_eq (indexed_foldlM_build hs Draft.indexed_empty) ht hkind

/-- A synthesis only appends. In each step the tables that are there keep their places and names,
and columns and constraints are added behind the old ones; an entity gets the place at the end; a
relation that is a foreign key changes no table but that of its holder, and a specialization none
but those of its parent and its children. After any number of further steps the place at which the
table of an entity was added is still noted for it, and what was added there stays in front; and a
table that stands for no entity, as that of a relation or of a multi-valued attribute, is as it was
when it was added. At any time the noted places are those of the tables that were built for the
entities taken so far, and no other table stands for an entity. -/
theorem synthesis_appends (hd : d.DistinctIds) {before after rest : List Node}
    (horder : d.buildOrder = before ++ n :: (after ++ rest))
    (hs : before.foldlM d.build .empty = .ok s) (hstep : d.build s n = .ok s')
    (hrun : after.foldlM d.build s' = .ok s'') :
    d.Appends s n s' ∧ s'.Continues s'' ∧
      (n.kind.isEntity = true → ∃ t t', d.entityTable n = .ok t ∧
        s''.place? n.id = some s.tables.length ∧
        s''.tables[s.tables.length]? = some ⟨n, t'⟩ ∧ t.Extends t') ∧
      s'.KeepsOthers s'' ∧ d.Notes (before ++ n :: after) s'' ∧ s''.Exact := by
  have hcontinues := continues_foldlM_build hrun
  -- the run up to here, as one run from the start
  have hwhole : (before ++ n :: after).foldlM d.build .empty = .ok s'' := by
    rw [List.foldlM_append, hs, ok_bind, List.foldlM_cons, hstep, ok_bind, hrun]
  have horder' : d.buildOrder = before ++ n :: after ++ rest := by
    rw [horder, List.append_assoc, List.cons_append]
  have hexact := exact_of_run hd horder' hwhole
  have hindexed : s'.Indexed :=
    (step_of_build hstep).indexed (indexed_foldlM_build hs Draft.indexed_empty)
  refine ⟨appends_of_run hd horder hs hstep, hcontinues, fun hkind => ?_,
    fun i t ht hentity => getElem?_of_foldlM_build hrun hindexed ht hentity,
    notes_of_run hd horder' hwhole, hexact⟩
  obtain ⟨t, ht, rfl⟩ := entityTable_of_build hkind hstep
  have hlast : (s.addEntity n t).tables[s.tables.length]? = some ⟨n, t⟩ := by
    rw [Draft.tables_addEntity, Draft.add, List.getElem?_concat_length]
  obtain ⟨⟨n', t'⟩, ht', hnode, hgrows⟩ := hcontinues _ _ hlast
  obtain rfl : n' = n := hnode
  refine ⟨t, t', ht, (hexact n'.id _).2 ⟨_, ht', ?_⟩, ht', hgrows⟩
  exact NodeTable.isOf_iff.2 ⟨hkind, rfl⟩

/-- Each node is taken in a run, if the synthesis succeeds. -/
theorem exists_run_of_synthesize {schema : Schema} (h : d.synthesize = .ok schema)
    {before after : List Node} (horder : d.buildOrder = before ++ n :: after) :
    ∃ s s' s'', before.foldlM d.build .empty = .ok s ∧ d.build s n = .ok s' ∧
      after.foldlM d.build s' = .ok s'' ∧ schema = s''.schema := by
  obtain ⟨s'', hrun, h⟩ := bind_eq_ok_iff.1 h
  cases h
  rw [horder, List.foldlM_append, bind_eq_ok_iff] at hrun
  obtain ⟨s, hs, hrun⟩ := hrun
  rw [List.foldlM_cons, bind_eq_ok_iff] at hrun
  obtain ⟨s', hstep, hrun⟩ := hrun
  exact ⟨s, s', s'', hs, hstep, hrun, rfl⟩

/-- The third entity gets the place after the first two and has it in the end, and the table of the
relation `Takes` is at the end as it was when it was added. -/
theorem synthesis_appends_university :
    university.DistinctIds ∧
      (∃ s s' s'', university.Appends s ⟨"course", .entity, "Course", none⟩ s' ∧
        s'.Continues s'' ∧ s''.place? "course" = some 2) ∧
      ∃ (s s' s'' : Draft) (t : Table),
        university.Appends s ⟨"takes", .relation, "Takes", none⟩ s' ∧
        university.junctionTable ⟨"takes", .relation, "Takes", none⟩ = .ok t ∧
        s''.tables[s.tables.length]? = some ⟨⟨"takes", .relation, "Takes", none⟩, t⟩ := by
  have hd : university.DistinctIds := by decide +kernel
  obtain ⟨schema, h⟩ := exists_synthesize_university
  let student : Node := ⟨"student", .entity, "Student", none⟩
  let graduate : Node := ⟨"graduate", .entity, "Graduate", none⟩
  let course : Node := ⟨"course", .entity, "Course", none⟩
  let exam : Node := ⟨"exam", .weakEntity, "Exam", none⟩
  let takes : Node := ⟨"takes", .relation, "Takes", none⟩
  let requires : Node := ⟨"requires", .relation, "Requires", none⟩
  let phone : Node := ⟨"phone", .attr .multiValued, "phone:TEXT", none⟩
  let level : Node := ⟨"level", .specialization ⟨false, true⟩, "level", none⟩
  refine ⟨hd, ?_, ?_⟩
  · have horder : university.buildOrder =
        [student, graduate] ++ course :: ([exam, takes, requires, phone, level] ++ []) := by
      decide +kernel
    have htwo : ([student, graduate].foldlM university.build .empty).toOption.any
        (·.tables.length == 2) = true := by decide +kernel
    obtain ⟨s₂, hs₂, hlength⟩ := exists_eq_ok_of_any htwo
    obtain ⟨s, s', s'', hs, hstep, hrun, -⟩ := exists_run_of_synthesize h horder
    obtain rfl : s₂ = s := Except.ok.inj (hs₂.symm.trans hs)
    obtain ⟨happends, hcontinues, hplaced, -⟩ := synthesis_appends hd horder hs hstep hrun
    obtain ⟨t, t', -, hplace, -, -⟩ := hplaced rfl
    rw [beq_iff_eq.1 hlength] at hplace
    exact ⟨s₂, s', s'', happends, hcontinues, hplace⟩
  · have horder : university.buildOrder =
        [student, graduate, course, exam] ++ takes :: ([requires, phone, level] ++ []) := by
      decide +kernel
    have hmany : university.cardinality "takes" = .manyToMany := by decide +kernel
    obtain ⟨s, s', s'', hs, hstep, hrun, -⟩ := exists_run_of_synthesize h horder
    obtain ⟨happends, -, -, hothers, -⟩ := synthesis_appends hd horder hs hstep hrun
    have heffect : ∃ t, university.junctionTable takes = .ok t ∧ s' = s.add takes t := by
      have := happends.effect
      rwa [Effect, hmany] at this
    obtain ⟨t, ht, rfl⟩ := heffect
    refine ⟨s, s.add takes t, s'', t, happends, ht, hothers _ _ ?_ rfl⟩
    rw [Draft.add, List.getElem?_concat_length]

end Diagram

end EntityRelationship
