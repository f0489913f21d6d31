import EntityRelationship.Document
import EntityRelationship.Proofs.Diagnostic.Redrawing
import EntityRelationship.Proofs.Diagram.Orientation
import EntityRelationship.Proofs.Relational.Sufficiency

/-!
# Acceptance does not depend on the drawing

A redrawn diagram is compiled exactly if the first one is, and then its tables have the same names.
For the diagnostics this was seen node by node; the names of tables clash or do not clash whatever
their order. What is left is synthesis, and there it counts only on which entities each entity is
built. Where several could be meant, the drawing decides, but in an accepted diagram no two are.
-/

namespace EntityRelationship

open Diagram Outcome Relation

variable {d d' : Diagram} {n m : Node} {s s' : IdentitySource}

/-! ## Diagnostics of the whole diagram -/

namespace Diagram

/-- There are findings about names exactly if some name is empty or two agree up to case. -/
theorem nameClashes_eq_nil_iff :
    d.nameClashes = [] ↔ (∀ name ∈ d.nodes.filterMap d.tableName?, name ≠ "") ∧
      ((d.nodes.filterMap d.tableName?).map Text.lower).Nodup := by
  constructor
  · intro hnone
    have hharmless : ∀ x ∈ NameClash.among d [] d.nodes, x.isError = false := by
      intro x hx
      rw [nameClashes] at hnone
      rw [hnone] at hx
      cases hx
    obtain ⟨hnames, hnodup⟩ := usable_of_among hharmless
    exact ⟨fun name hname => (hnames name hname).1, hnodup⟩
  · rintro ⟨hnonempty, hnodup⟩
    exact NameClash.among_eq_nil (fun name hname => ⟨hnonempty name hname, List.not_mem_nil⟩) hnodup

/-- Something is found of a severity if it is found about a single node, or if it is an error about
the names. -/
theorem exists_mem_validate_iff (d : Diagram) (s : Severity) :
    (∃ x ∈ d.validate, x.severity = s) ↔
      (∃ n ∈ d.nodes, (d.validateNode n).map (·.severity) = some s) ∨
        (s = .error ∧ d.nameClashes ≠ []) := by
  simp only [validate, List.mem_append, or_and_right, exists_or, List.mem_filterMap]
  refine or_congr ?_ ?_
  · constructor
    · rintro ⟨x, ⟨n, hn, hx⟩, rfl⟩
      exact ⟨n, hn, by rw [hx]; rfl⟩
    · rintro ⟨n, hn, hs⟩
      obtain ⟨x, hx, rfl⟩ := Option.map_eq_some_iff.1 hs
      exact ⟨x, ⟨n, hn, hx⟩, rfl⟩
  · have herror : ∀ x ∈ d.nameClashes, x.severity = .error := fun x hx => by
      have hx := NameClash.isError_of_mem_among hx
      rwa [Diagnostic.isError, beq_iff_eq] at hx
    constructor
    · rintro ⟨x, hx, rfl⟩
      exact ⟨herror x hx, List.ne_nil_of_mem hx⟩
    · rintro ⟨rfl, hne⟩
      obtain ⟨x, hx⟩ := List.exists_mem_of_ne_nil _ hne
      exact ⟨x, hx, herror x hx⟩

namespace Redraws

theorem tableNames_perm (h : d.Redraws d') :
    (d.nodes.filterMap d.tableName?).Perm (d'.nodes.filterMap d'.tableName?) := by
  rw [funext h.tableName?_eq]
  exact h.nodes_perm.filterMap _

theorem nameClashes_eq_nil_iff (h : d.Redraws d') : d.nameClashes = [] ↔ d'.nameClashes = [] := by
  rw [Diagram.nameClashes_eq_nil_iff, Diagram.nameClashes_eq_nil_iff,
    (h.tableNames_perm.map Text.lower).nodup_iff]
  simp only [h.tableNames_perm.mem_iff]

/-- A redrawn diagram has a finding of each severity that the first one has. -/
theorem exists_mem_validate_iff (h : d.Redraws d') (s : Severity) :
    (∃ x ∈ d.validate, x.severity = s) ↔ ∃ x ∈ d'.validate, x.severity = s := by
  have hnode (n : Node) : (d.validateNode n).map (·.severity) =
      (d'.validateNode n).map (·.severity) := h.sameSeverity_validateNode n
  simp only [Diagram.exists_mem_validate_iff, h.nodes_perm.mem_iff, hnode, ne_eq,
    h.nameClashes_eq_nil_iff]

/-- What keeps a diagram from being compiled is the severity of a finding. -/
theorem any_blocks_eq (h : d.Redraws d') (denyWarnings : Bool) :
    d.validate.any (·.blocks denyWarnings) = d'.validate.any (·.blocks denyWarnings) := by
  have hhalf {c c' : Diagram} (hc : c.Redraws c') (hany : c.validate.any (·.blocks denyWarnings)) :
      c'.validate.any (·.blocks denyWarnings) := by
    obtain ⟨x, hx, hblocks⟩ := List.any_eq_true.1 hany
    obtain ⟨x', hx', hsame⟩ := (hc.exists_mem_validate_iff x.severity).1 ⟨x, hx, rfl⟩
    refine List.any_eq_true.2 ⟨x', hx', ?_⟩
    rw [Diagnostic.blocks, Diagnostic.isError] at hblocks ⊢
    rwa [hsame]
  exact Bool.eq_iff_iff.2 ⟨hhalf h, hhalf h.symm⟩

theorem accepted (h : d.Redraws d') (ha : d.Accepted) : d'.Accepted := by
  intro x hx
  rw [← Bool.not_eq_true]
  intro herror
  obtain ⟨y, hy, hsame⟩ := (h.exists_mem_validate_iff x.severity).2 ⟨x, hx, rfl⟩
  have hy := ha y hy
  rw [Diagnostic.isError] at hy herror
  rw [hsame, herror] at hy
  cases hy

end Redraws

/-! ## Chains of a redrawn diagram -/

/-- Lists of the same elements, one at most, begin with the same. -/
theorem head?_eq_of_perm {α : Type} {xs ys : List α} (h : xs.Perm ys) (hlength : xs.length ≤ 1) :
    xs.head? = ys.head? := by
  match xs, hlength with
  | [], _ => rw [h.nil_eq]
  | [x], _ => rw [h.singleton_eq]

/-- A weak entity is built on the entity at the other end of its dependency. -/
theorem base?_of_weakEntity {r owner : Node} (hkind : n.kind = .weakEntity)
    (hr : d.dependency? n.id = some r) (howner : d.otherEntity r.id n.id = .ok owner)
    (hs : d.identitySource n = .ok s) : s.base? = some owner := by
  obtain ⟨partialKey, rfl⟩ := exists_of_identitySource_weak hkind hr howner hs
  rfl

/-- A redrawn entity is built on the same entity, if on any. -/
theorem Accepted.base?_eq (h : d.Accepted) (hr : d.Redraws d') (hn : n ∈ d.nodes)
    (hs : d.identitySource n = .ok s) (hs' : d'.identitySource n = .ok s') :
    s.base? = s'.base? := by
  cases hk : n.kind with
  | entity =>
    have habove : d.specializationAbove? n.id = d'.specializationAbove? n.id :=
      head?_eq_of_perm (hr.specializationsAbove_perm n.id) (h.length_specializationsAbove_le hn hk)
    simp only [identitySource, hk, ← habove] at hs hs'
    cases ho : d.specializationAbove? n.id with
    | none =>
      simp only [ho] at hs hs'
      split at hs <;> cases hs
      split at hs' <;> cases hs'
      rfl
    | some specialization =>
      obtain ⟨hfound, hspecial⟩ := of_mem_specializationsAbove (List.mem_of_mem_head? ho)
      obtain ⟨⟨parent, hparents⟩, -⟩ := h.parents_and_children (mem_of_node? hfound).1 hspecial
      have hparent : d.parent? specialization.id = d'.parent? specialization.id :=
        head?_eq_of_perm (hr.parents_perm specialization.id) (by simp [hparents])
      simp only [ho, ← hparent] at hs hs'
      split at hs <;> cases hs
      next hp =>
      rw [hp] at hs'
      cases hs'
      rfl
  | weakEntity =>
    obtain ⟨r, hdeps, -⟩ := h.dependencies_eq hn hk
    have hdep : d.dependency? n.id = some r := by rw [dependency?, hdeps]; rfl
    have hdep' : d'.dependency? n.id = some r := by
      rw [← hdep]
      exact (head?_eq_of_perm (hr.dependencies_perm n.id) (by simp [hdeps])).symm
    -- the entity is the dependent, so the other end is the owner
    have hmem : r ∈ d.dependencies n.id := by simp [hdeps]
    obtain ⟨ends, hends, hid⟩ := exists_dependencyEnds_of_mem hmem
    have howner := otherEntity_of_dependencyEnds? hends
    rw [hr.dependencyEnds?_eq] at hends
    have howner' := otherEntity_of_dependencyEnds? hends
    rw [hid] at howner howner'
    rw [base?_of_weakEntity hk hdep howner hs, base?_of_weakEntity hk hdep' howner' hs']
  | relation | dependency _ | specialization _ | attr _ =>
    simp only [identitySource, hk] at hs
    cases hs

/-- A chain that ends in one drawing ends in the other. -/
theorem Accepted.endsAtKey_of_redraws (h : d.Accepted) (hr : d.Redraws d') (hn : n ∈ d.nodes)
    (hkind : n.kind.isEntity = true) (hends : d.EndsAtKey n) : d'.EndsAtKey n := by
  have h' := hr.accepted h
  obtain ⟨r, key, hchain, hkey⟩ := hends
  -- along the chain each entity has a source in both drawings, with the same base
  induction hchain using ReflTransGen.head_induction_on with
  | refl =>
    obtain ⟨s', hs'⟩ := h'.exists_identitySource (hr.nodes_perm.mem_iff.1 hn) hkind
    have hbase := h.base?_eq hr hn hkey hs'
    cases s' with
    | ownKey key' => exact ⟨r, key', .refl, hs'⟩
    | dependent _ _ _ | subclass _ _ => cases hbase
  | @head n m hstep _ ih =>
    obtain ⟨s, hs, hm⟩ := hstep
    obtain ⟨s', hs'⟩ := h'.exists_identitySource (hr.nodes_perm.mem_iff.1 hn) hkind
    obtain ⟨hfound, hentity⟩ := of_base? hs hm
    obtain ⟨r', key', hrest, hkey'⟩ := ih (mem_of_node? hfound).1 hentity
    have hstep' : d'.BuiltOn n m := ⟨s', hs', (h.base?_eq hr hn hs hs').symm.trans hm⟩
    exact ⟨r', key', .head hstep' hrest, hkey'⟩

/-! ## Compilation -/

/-- An accepted diagram has a schema exactly if every chain ends. -/
theorem Accepted.exists_synthesize_iff (h : d.Accepted) (hd : d.DistinctIds) :
    (∃ schema, d.synthesize = .ok schema) ↔
      ∀ n ∈ d.nodes, n.kind.isEntity = true → d.EndsAtKey n := by
  constructor
  · rintro ⟨schema, hschema⟩ n hn hkind
    exact endsAtKey_of_synthesize hd hschema hn hkind
  · intro hends
    rcases (h.faultsIn_synthesize hd).ok_or_error with hok | ⟨f, -, -, n, hn, hkind, hrevisits⟩
    · exact hok
    · exact absurd hrevisits (hends n hn hkind).not_revisits

theorem Accepted.exists_synthesize_of_redraws (h : d.Accepted) (hr : d.Redraws d')
    (hok : ∃ schema, d.synthesize = .ok schema) : ∃ schema, d'.synthesize = .ok schema := by
  rw [h.exists_synthesize_iff hr.distinct] at hok
  rw [(hr.accepted h).exists_synthesize_iff hr.symm.distinct]
  intro n hn hkind
  have hn := hr.nodes_perm.mem_iff.2 hn
  exact h.endsAtKey_of_redraws hr hn hkind (hok n hn hkind)

/-- A diagram is compiled if its edges end at nodes, nothing that is found blocks, and it has a
schema. -/
theorem exists_compile_iff (d : Diagram) (options : CompileOptions) :
    (∃ sql, d.compile options = .ok sql) ↔
      d.Closed ∧ d.validate.any (·.blocks options.denyWarnings) = false ∧
        ∃ schema, d.synthesize = .ok schema := by
  constructor
  · rintro ⟨sql, h⟩
    obtain ⟨schema, h, -⟩ := bind_eq_ok_iff.1 h
    obtain ⟨⟨⟩, hreferences, h⟩ := bind_eq_ok_iff.1 h
    rw [mapError_eq_ok_iff] at hreferences
    split at h
    · cases h
    · next hblocks =>
      rw [Bool.not_eq_true] at hblocks
      exact ⟨checkReferences_eq_ok_iff.1 hreferences, hblocks, schema, mapError_eq_ok_iff.1 h⟩
  · rintro ⟨hclosed, hblocks, schema, hschema⟩
    refine ⟨schema.ddl options.header, ?_⟩
    rw [compile, compileSchema, checkReferences_eq_ok_iff.2 hclosed, hblocks, hschema]
    rfl

/-- What is compiled is accepted. -/
theorem accepted_of_any_blocks {denyWarnings : Bool}
    (h : d.validate.any (·.blocks denyWarnings) = false) : d.Accepted := by
  intro x hx
  have hblocks := List.any_eq_false.1 h x hx
  rw [Diagnostic.blocks, Bool.or_eq_true, not_or, Bool.not_eq_true] at hblocks
  exact hblocks.1

theorem Redraws.exists_compile (h : d.Redraws d') {options : CompileOptions}
    (hok : ∃ sql, d.compile options = .ok sql) : ∃ sql, d'.compile options = .ok sql := by
  obtain ⟨hclosed, hblocks, hschema⟩ := (exists_compile_iff d options).1 hok
  refine (exists_compile_iff d' options).2 ⟨h.closed_iff.1 hclosed, ?_, ?_⟩
  · rw [← h.any_blocks_eq, hblocks]
  · exact (accepted_of_any_blocks hblocks).exists_synthesize_of_redraws h hschema

/-- A redrawn diagram is as acceptable as the first one. About each node either nothing is found in
both or something of one severity; findings of each severity are in both or in neither; and for all
options both are compiled or neither is, into tables of the same names. -/
theorem Redraws.same_acceptance (h : d.Redraws d') :
    (∀ n ∈ d.nodes,
      (d.validateNode n).map (·.severity) = (d'.validateNode n).map (·.severity)) ∧
    (∀ s, (∃ x ∈ d.validate, x.severity = s) ↔ ∃ x ∈ d'.validate, x.severity = s) ∧
    (∀ options, (∃ sql, d.compile options = .ok sql) ↔ ∃ sql, d'.compile options = .ok sql) ∧
    ∀ schema schema', d.synthesize = .ok schema → d'.synthesize = .ok schema' →
      (schema.tables.map (·.name)).Perm (schema'.tables.map (·.name)) := by
  refine ⟨fun n _ => h.sameSeverity_validateNode n, h.exists_mem_validate_iff,
    fun options => ⟨h.exists_compile, h.symm.exists_compile⟩, ?_⟩
  intro schema schema' hschema hschema'
  rw [tableNames_eq_filterMap hschema, tableNames_eq_filterMap hschema']
  exact (filterMap_buildOrder_perm d).trans
    (h.tableNames_perm.trans (filterMap_buildOrder_perm d').symm)

theorem exists_compile_university : ∃ sql, university.compile {} = .ok sql :=
  (exists_compile_iff _ _).2 ⟨by decide, by decide +kernel, exists_synthesize_university⟩

theorem same_acceptance_university :
    university.Redraws university.turned ∧ university.turned ≠ university ∧
      ∃ sql, university.turned.compile {} = .ok sql := by
  have hredraws : university.Redraws university.turned := redraws_turned (by decide)
  exact ⟨hredraws, by decide, (hredraws.same_acceptance.2.2.1 {}).1 exists_compile_university⟩

end Diagram

end EntityRelationship
