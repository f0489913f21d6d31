import EntityRelationship.Proofs.Diagnostic.Copy
import EntityRelationship.Proofs.Relational.Copy
import EntityRelationship.Proofs.Relational.Redrawing

/-!
# Ids do not matter

The ids of a diagram tell its elements apart, and where several elements are on a par they decide
by their order: which end of a relation holds the foreign key, and which owner of an attribute
comes first. Otherwise they are not used. If all ids are exchanged for others in the same order,
the diagram is compiled into the same text, or fails with the same fault in terms of the new ids.
-/

namespace EntityRelationship

open Diagram Outcome

variable {ρ : Renaming} {d : Diagram} {a b id : String} {n : Node}

/-! ## Renamed diagrams -/

namespace Diagram

/-- The diagram under new ids. -/
def renamed (ρ : Renaming) (d : Diagram) : Diagram :=
  ⟨d.nodes.map (·.renamed ρ), d.edges.map (·.renamed ρ)⟩

/-- The ids that nodes have and that edges name as their ends, whether or not there are such
nodes. -/
def ids (d : Diagram) : List String :=
  d.nodes.map (·.id) ++ d.edges.flatMap fun e => [e.source, e.target]

theorem mem_ids_of_hasNode (h : d.hasNode id = true) : id ∈ d.ids := by
  obtain ⟨n, hn, rfl⟩ := hasNode_iff.1 h
  exact List.mem_append_left _ (List.mem_map_of_mem hn)

theorem mem_ids_of_mem_edges {e : Edge} (he : e ∈ d.edges) :
    e.source ∈ d.ids ∧ e.target ∈ d.ids :=
  ⟨List.mem_append_right _ (List.mem_flatMap.2 ⟨e, he, by simp⟩),
    List.mem_append_right _ (List.mem_flatMap.2 ⟨e, he, by simp⟩)⟩

end Diagram

/-- Some ids have the same order under their new names. -/
def Renaming.MonotoneOn (ρ : Renaming) (ids : List String) : Prop :=
  ∀ a ∈ ids, ∀ b ∈ ids, a < b → ρ.node a < ρ.node b

instance (ρ : Renaming) (ids : List String) : Decidable (ρ.MonotoneOn ids) :=
  inferInstanceAs (Decidable (∀ a ∈ ids, ∀ b ∈ ids, a < b → ρ.node a < ρ.node b))

namespace Renaming.MonotoneOn

theorem id_eq_iff {ids : List String} (h : ρ.MonotoneOn ids) (ha : a ∈ ids) (hb : b ∈ ids) :
    ρ.node a = ρ.node b ↔ a = b := by
  refine ⟨fun heq => ?_, congrArg ρ.node⟩
  rcases lt_trichotomy a b with hab | hab | hba
  · exact absurd heq (h a ha b hb hab).ne
  · exact hab
  · exact absurd heq (h b hb a ha hba).ne'

theorem beq_eq {ids : List String} (h : ρ.MonotoneOn ids) (ha : a ∈ ids) (hb : b ∈ ids) :
    (ρ.node a == ρ.node b) = (a == b) := by
  rw [Bool.eq_iff_iff, beq_iff_eq, beq_iff_eq, h.id_eq_iff ha hb]

theorem node?_eq (h : ρ.MonotoneOn d.ids) (hid : id ∈ d.ids) :
    (d.renamed ρ).node? (ρ.node id) = (d.node? id).map (·.renamed ρ) :=
  find?_map_eq fun _ hn => h.beq_eq (List.mem_append_left _ (List.mem_map_of_mem hn)) hid

theorem hasNode_eq (h : ρ.MonotoneOn d.ids) (hid : id ∈ d.ids) :
    (d.renamed ρ).hasNode (ρ.node id) = d.hasNode id := by
  rw [hasNode, hasNode, h.node?_eq hid, Option.isSome_map]

/-- The same ends of edges are no nodes. -/
theorem danglingEnds_eq (h : ρ.MonotoneOn d.ids) :
    (d.renamed ρ).danglingEnds = d.danglingEnds.map fun x => (ρ.edge x.1, ρ.node x.2) := by
  rw [danglingEnds, danglingEnds, Diagram.renamed, List.flatMap_map, List.map_flatMap]
  refine List.flatMap_congr fun e he => ?_
  obtain ⟨hs, ht⟩ := mem_ids_of_mem_edges he
  have hs := h.hasNode_eq hs
  have ht := h.hasNode_eq ht
  simp only [Diagram.renamed] at hs ht
  simp only [Edge.source_renamed, Edge.target_renamed, List.filter_cons, List.filter_nil, hs, ht]
  cases d.hasNode e.source <;> cases d.hasNode e.target <;> rfl

theorem carries_checkReferences (h : ρ.MonotoneOn d.ids) :
    ρ.Carries Eq d.checkReferences (d.renamed ρ).checkReferences := by
  rw [checkReferences, checkReferences, h.danglingEnds_eq]
  cases d.danglingEnds with
  | nil => exact .ok rfl
  | cons x xs => exact .error rfl

/-- A closed diagram has a copy under the new ids. -/
theorem copy (h : ρ.MonotoneOn d.ids) (hd : d.Closed) : Copy ρ d (d.renamed ρ) where
  closed := hd
  strictMono := fun a b ha hb => h a (mem_ids_of_hasNode ha) b (mem_ids_of_hasNode hb)
  node?_eq := fun _ hid => h.node?_eq (mem_ids_of_hasNode hid)
  edgesTouching_eq := by
    intro id hid
    have hid := mem_ids_of_hasNode hid
    rw [edgesTouching, Diagram.renamed, List.filter_map]
    refine congrArg _ (List.filter_congr fun e he => ?_)
    obtain ⟨hs, ht⟩ := mem_ids_of_mem_edges he
    rw [Function.comp_apply, Edge.touches, Edge.touches, Edge.source_renamed, Edge.target_renamed,
      h.beq_eq hs hid, h.beq_eq ht hid]

end Renaming.MonotoneOn

/-! ## Diagnostics -/

/-- Findings about elements one by one. -/
theorem Renaming.Finds.filterMap {α β : Type} {f : α → Option Diagnostic}
    {g : β → Option Diagnostic} {i : α → β} {xs : List α} (h : ∀ x ∈ xs, ρ.Finds (f x) (g (i x))) :
    List.Forall₂ (Diagnostic.Copied ρ) (xs.filterMap f) ((xs.map i).filterMap g) := by
  induction xs with
  | nil => exact .nil
  | cons x xs ih =>
    have hx := h x List.mem_cons_self
    have hxs := ih fun y hy => h y (List.mem_cons_of_mem _ hy)
    rw [List.map_cons, List.filterMap_cons, List.filterMap_cons]
    generalize f x = o, g (i x) = o' at hx ⊢
    cases hx with
    | none => exact hxs
    | some hx => exact .cons hx hxs

namespace Diagram.Copy

variable {p : Diagram}

/-- The names of the tables of nodes and of their copies clash in the same places. -/
theorem copied_among (h : Copy ρ p d) {taken : List (String × Node)} {ns : List Node}
    (hns : ∀ n ∈ ns, p.hasNode n.id = true) :
    List.Forall₂ (Diagnostic.Copied ρ) (NameClash.among p taken ns)
      (NameClash.among d (taken.map fun x => (x.1, x.2.renamed ρ)) (ns.map (·.renamed ρ))) := by
  induction ns generalizing taken with
  | nil => exact .nil
  | cons n ns ih =>
    have hrest : ∀ m ∈ ns, p.hasNode m.id = true := fun m hm => hns m (List.mem_cons_of_mem _ hm)
    rw [List.map_cons, NameClash.among, NameClash.among, h.tableName?_eq (hns n List.mem_cons_self)]
    split
    · exact ih hrest
    · next name _ =>
      split
      · refine .cons ⟨rfl, rfl, rfl, fun hρ => ?_⟩ (ih hrest)
        subst hρ
        rfl
      · have hfind : (taken.map fun x => (x.1, x.2.renamed ρ)).find? (·.1 == Text.lower name) =
            (taken.find? (·.1 == Text.lower name)).map fun x => (x.1, x.2.renamed ρ) :=
          find?_map_eq fun _ _ => rfl
        rw [hfind]
        cases taken.find? (·.1 == Text.lower name) with
        | none => exact ih hrest
        | some first => exact .cons copied_same (ih hrest)

end Diagram.Copy

/-- Everything that is found is found under the new ids too, in the same order. -/
theorem Renaming.MonotoneOn.copied_validate (h : ρ.MonotoneOn d.ids) (hd : d.Closed) :
    List.Forall₂ (Diagnostic.Copied ρ) d.validate (d.renamed ρ).validate := by
  have hcopy := h.copy hd
  have hnode : ∀ n ∈ d.nodes, d.hasNode n.id = true := fun n hn => hasNode_iff.2 ⟨n, hn, rfl⟩
  rw [validate, validate, nameClashes, nameClashes]
  refine List.rel_append ?_ ?_
  · exact Renaming.Finds.filterMap fun n hn => hcopy.finds_validateNode (hnode n hn)
  · exact hcopy.copied_among hnode

theorem Diagnostic.Copied.blocks_eq {x y : Diagnostic} (h : Copied ρ x y) (denyWarnings : Bool) :
    y.blocks denyWarnings = x.blocks denyWarnings := by
  rw [blocks, blocks, isError, isError, h.severity]

theorem any_blocks_eq_of_copied {xs ys : List Diagnostic}
    (h : List.Forall₂ (Diagnostic.Copied ρ) xs ys) (denyWarnings : Bool) :
    ys.any (·.blocks denyWarnings) = xs.any (·.blocks denyWarnings) := by
  induction h with
  | nil => rfl
  | cons hxy _ ih => rw [List.any_cons, List.any_cons, hxy.blocks_eq, ih]

/-! ## Compilation -/

/-- A fault of the same sort, in terms of the new ids. -/
inductive CompileFault.Copied (ρ : Renaming) : CompileFault → CompileFault → Prop
  | invalid {xs ys : List Diagnostic} :
    List.Forall₂ (Diagnostic.Copied ρ) xs ys → Copied ρ (.invalid xs) (.invalid ys)
  | synthesis (f : SynthesisFault) : Copied ρ (.synthesis f) (.synthesis (f.renamed ρ))

theorem Diagram.buildOrder_renamed (ρ : Renaming) (d : Diagram) :
    (d.renamed ρ).buildOrder = d.buildOrder.map (·.renamed ρ) := by
  rw [buildOrder, buildOrder, List.map_flatMap]
  refine List.flatMap_congr fun pass _ => ?_
  rw [renamed, List.filter_map]
  rfl

namespace Renaming.MonotoneOn

/-- The same tables are made. -/
theorem carries_synthesize (h : ρ.MonotoneOn d.ids) (hd : d.Closed) :
    ρ.Carries Eq d.synthesize (d.renamed ρ).synthesize := by
  rw [synthesize, synthesize, buildOrder_renamed]
  have hstart : Draft.Holds ρ d (fun _ => true) [] .empty .empty :=
    ⟨fun _ _ => rfl, by simp [Draft.empty], rfl, rfl, Draft.indexed_empty, Draft.indexed_empty⟩
  have hrun : ρ.Carries (Draft.Holds ρ d (fun _ => true) []) (d.buildOrder.foldlM d.build .empty)
      ((d.buildOrder.map (·.renamed ρ)).foldlM (d.renamed ρ).build .empty) :=
    Related.foldlM (fun s s' hs n hn => hs.carries_build (h.copy hd)
      (hasNode_iff.2 ⟨n, mem_nodes_of_mem_buildOrder hn, rfl⟩)) hstart
  refine hrun.bind fun s s' _ hs => .ok ?_
  have htables : s'.tables = s.tables.map (·.renamed ρ) := by
    rw [← hs.filter_own, List.filter_true]
  rw [Draft.schema, Draft.schema, htables, List.map_map]
  rfl

theorem related_compile (h : ρ.MonotoneOn d.ids) (options : CompileOptions) :
    Related (CompileFault.Copied ρ) Eq (d.compile options) ((d.renamed ρ).compile options) := by
  have hfault (f f' : SynthesisFault) (hf : f' = f.renamed ρ) :
      CompileFault.Copied ρ (.synthesis f) (.synthesis f') := hf ▸ .synthesis f
  have hschema : Related (CompileFault.Copied ρ) Eq (d.compileSchema options.denyWarnings)
      ((d.renamed ρ).compileSchema options.denyWarnings) := by
    refine (h.carries_checkReferences.mapError hfault).bind fun _ _ hreferences _ => ?_
    have hd : d.Closed := checkReferences_eq_ok_iff.1 (mapError_eq_ok_iff.1 hreferences)
    have hvalidate := h.copied_validate hd
    rw [any_blocks_eq_of_copied hvalidate]
    split
    · exact .error (.invalid hvalidate)
    · exact (h.carries_synthesize hd).mapError hfault
  exact hschema.bind_eq fun schema _ => .ok rfl

end Renaming.MonotoneOn

/-- Ids count only by their order. If the ids of nodes and of the ends of edges are exchanged for
others in the same order, and the ids of edges for any others, a diagram is compiled into the same
text, and a fault stays one of the same sort. -/
theorem Diagram.compile_renamed (h : ρ.MonotoneOn d.ids) (options : CompileOptions) :
    (∀ sql, (d.renamed ρ).compile options = .ok sql ↔ d.compile options = .ok sql) ∧
    ∀ f, d.compile options = .error f →
      ∃ f', (d.renamed ρ).compile options = .error f' ∧ CompileFault.Copied ρ f f' := by
  have hrelated := h.related_compile options
  generalize d.compile options = x, (d.renamed ρ).compile options = y at hrelated ⊢
  cases hrelated with
  | ok hsame =>
    subst hsame
    exact ⟨fun _ => Iff.rfl, by rintro _ ⟨⟩⟩
  | @error f f' hf =>
    refine ⟨fun sql => ⟨by rintro ⟨⟩, by rintro ⟨⟩⟩, ?_⟩
    rintro _ ⟨⟩
    exact ⟨f', rfl, hf⟩

/-- Ids with a letter in front, one for nodes and another one for edges. -/
def lettered : Renaming := ⟨("n" ++ ·), ("e" ++ ·)⟩

theorem compile_lettered_university :
    lettered.MonotoneOn university.ids ∧ university.renamed lettered ≠ university ∧
      ∃ sql, university.compile {} = .ok sql ∧
        (university.renamed lettered).compile {} = .ok sql := by
  have hmonotone : lettered.MonotoneOn university.ids := by decide +kernel
  obtain ⟨sql, hsql⟩ := exists_compile_university
  exact ⟨hmonotone, by decide, sql, hsql, ((compile_renamed hmonotone {}).1 sql).2 hsql⟩

end EntityRelationship
