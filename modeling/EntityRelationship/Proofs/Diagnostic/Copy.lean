import EntityRelationship.Diagnostic.Validation
import EntityRelationship.Proofs.Diagram.CopiedIdentity

/-!
# Diagnostics of a copy

The rules look at a node of a copy as they look at the node. Every check has the same answer, so
the first one that finds something is the same, and what it finds is equally severe and the same
problem. The words differ only where they mention an id.
-/

namespace EntityRelationship

open Diagram Outcome

variable {ρ : Renaming} {p d : Diagram} {n r : Node} {x : Neighbor} {e : Edge}

/-! ## Findings about a copy -/

/-- The second finding says of the copy what the first one says of a node. -/
structure Diagnostic.Copied (ρ : Renaming) (x y : Diagnostic) : Prop where
  severity : y.severity = x.severity
  problem : y.problem = x.problem
  element : y.element = ρ.node x.element
  /-- If no id is changed, neither are the words. -/
  description : ρ = .refl → y.description = x.description

/-- Of a copy under the same ids the very same is said. -/
theorem Diagnostic.Copied.eq_of_refl {x y : Diagnostic} (h : Copied .refl x y) : y = x := by
  obtain ⟨hseverity, hproblem, helement, hdescription⟩ := h
  cases x
  cases y
  cases hseverity
  cases hproblem
  cases helement
  cases hdescription rfl
  rfl

/-- Either nothing is found, or the same of the copy. -/
abbrev Renaming.Finds (ρ : Renaming) : Option Diagnostic → Option Diagnostic → Prop :=
  Option.Rel (Diagnostic.Copied ρ)

/-- A finding in the same words. -/
theorem copied_same {s : Severity} {problem : Problem} {id text : String} :
    Diagnostic.Copied ρ ⟨s, problem, id, text⟩ ⟨s, problem, ρ.node id, text⟩ :=
  ⟨rfl, rfl, rfl, fun _ => rfl⟩

namespace Renaming.Finds

theorem or {a a' b b' : Option Diagnostic} (ha : ρ.Finds a a') (hb : ρ.Finds b b') :
    ρ.Finds (a.or b) (a'.or b') := by
  cases ha with
  | some h => exact .some h
  | none => exact hb

theorem onlyIf {c c' : Bool} {x y : Diagnostic} (hc : c' = c) (h : Diagnostic.Copied ρ x y) :
    ρ.Finds (Rule.onlyIf c x) (Rule.onlyIf c' y) := by
  rw [hc]
  cases c with
  | false => exact .none
  | true => exact .some h

theorem ite {c c' : Prop} [Decidable c] [Decidable c'] {a a' b b' : Option Diagnostic}
    (hc : c' ↔ c) (ha : ρ.Finds a a') (hb : ρ.Finds b b') :
    ρ.Finds (if c then a else b) (if c' then a' else b') := by
  by_cases h : c
  · rwa [if_pos h, if_pos (hc.2 h)]
  · rwa [if_neg h, if_neg (hc.not.2 h)]

theorem findSome? {α β : Type} {f : α → Option Diagnostic} {g : β → Option Diagnostic} {i : α → β}
    {xs : List α} (h : ∀ x ∈ xs, ρ.Finds (f x) (g (i x))) :
    ρ.Finds (xs.findSome? f) ((xs.map i).findSome? g) := by
  induction xs with
  | nil => exact .none
  | cons x xs ih =>
    have hx := h x List.mem_cons_self
    have hxs := ih fun y hy => h y (List.mem_cons_of_mem _ hy)
    rw [List.map_cons, List.findSome?_cons, List.findSome?_cons]
    generalize f x = o, g (i x) = o' at hx ⊢
    cases hx with
    | none => exact hxs
    | some hx => exact .some hx

/-- A finding about the first element that passes a test. -/
theorem map_find? {α β : Type} {q : α → Bool} {q' : β → Bool} {f : α → Diagnostic}
    {g : β → Diagnostic} {i : α → β} {xs : List α} (hq : ∀ x ∈ xs, q' (i x) = q x)
    (h : ∀ x, Diagnostic.Copied ρ (f x) (g (i x))) :
    ρ.Finds ((xs.find? q).map f) (((xs.map i).find? q').map g) := by
  rw [find?_map_eq hq]
  cases xs.find? q with
  | none => exact .none
  | some x => exact .some (h x)

end Renaming.Finds

namespace Diagram.Copy

/-! ## Entities -/

theorem finds_notIsolated (h : Copy ρ p d) (hn : p.hasNode n.id = true) :
    ρ.Finds (Rule.notIsolated p n) (Rule.notIsolated d (n.renamed ρ)) := by
  refine .onlyIf ?_ copied_same
  rw [Node.id_renamed, h.edgesTouching_eq _ hn, List.isEmpty_map]

theorem finds_entityLinks (h : Copy ρ p d) (hn : p.hasNode n.id = true) :
    ρ.Finds (Rule.entityLinks p n) (Rule.entityLinks d (n.renamed ρ)) := by
  rw [Rule.entityLinks, Rule.entityLinks, Node.id_renamed, h.neighbors_eq hn]
  refine .findSome? fun x _ => ?_
  exact .ite Iff.rfl (.some copied_same) (.onlyIf rfl copied_same)

theorem finds_strongIdentity (h : Copy ρ p d) (hn : p.hasNode n.id = true) :
    ρ.Finds (Rule.strongIdentity p n) (Rule.strongIdentity d (n.renamed ρ)) := by
  simp only [Rule.strongIdentity, Node.id_renamed, h.specializationsAbove_eq hn, h.keys_eq hn,
    List.length_map, List.isEmpty_map]
  match p.specializationsAbove n.id with
  | _ :: _ :: _ => exact .some copied_same
  | [_] => exact .onlyIf rfl copied_same
  | [] =>
    simp only [List.map_nil]
    split
    · exact .some copied_same
    · exact .none
    · exact .some copied_same

theorem finds_dependentKey (h : Copy ρ p d) (hn : p.hasNode n.id = true) :
    ρ.Finds (Rule.dependentKey r p n) (Rule.dependentKey (r.renamed ρ) d (n.renamed ρ)) := by
  simp only [Rule.dependentKey, Node.id_renamed, Node.kind_renamed, h.keys_eq hn, List.isEmpty_map]
  split
  · exact .onlyIf rfl copied_same
  · exact .onlyIf rfl copied_same
  · exact .none

theorem finds_weakIdentity (h : Copy ρ p d) (hr : p.hasNode r.id = true)
    (hn : p.hasNode n.id = true) :
    ρ.Finds (Rule.weakIdentity r p n) (Rule.weakIdentity (r.renamed ρ) d (n.renamed ρ)) := by
  refine (h.finds_dependentKey hn).or ?_
  simp only [Node.id_renamed, h.keys_eq hn, h.cardinality_eq hr, List.length_map]
  split
  · exact .some copied_same
  · exact .onlyIf rfl copied_same

theorem finds_oneDependency (h : Copy ρ p d) (hn : p.hasNode n.id = true) :
    ρ.Finds (Rule.oneDependency p n) (Rule.oneDependency d (n.renamed ρ)) := by
  simp only [Rule.oneDependency, Node.id_renamed, h.dependencies_eq hn]
  match hdependencies : p.dependencies n.id with
  | [] => exact .some copied_same
  | [r] =>
    have hmem : r ∈ p.dependencies n.id := hdependencies ▸ List.mem_cons_self
    have hr : p.hasNode r.id = true := hasNode_iff.2 ⟨r, (of_mem_dependencies hmem).1, rfl⟩
    exact h.finds_weakIdentity hr hn
  | _ :: _ :: _ =>
    refine .some ?_
    simp only [List.length_map, List.length_cons]
    exact copied_same

/-! ## Relations -/

theorem finds_anyRelation (h : Copy ρ p d) (hn : p.hasNode n.id = true) :
    ρ.Finds (Rule.anyRelation p n) (Rule.anyRelation d (n.renamed ρ)) := by
  refine (h.finds_notIsolated hn).or (Renaming.Finds.or ?_ (Renaming.Finds.or ?_ ?_))
  · rw [Node.id_renamed, h.neighbors_eq hn]
    refine .findSome? fun x _ => ?_
    exact .ite Iff.rfl (.some copied_same) (.onlyIf rfl copied_same)
  · simp only [Rule.relationEnds, Node.id_renamed, h.entityEnds_eq hn, List.length_map,
      List.countP_map]
    exact .ite Iff.rfl (.some copied_same) (.onlyIf rfl copied_same)
  · rw [Node.id_renamed, h.edgesTouching_eq _ hn]
    refine .findSome? fun e _ => .onlyIf rfl ⟨rfl, rfl, rfl, fun hρ => ?_⟩
    subst hρ
    rfl

theorem finds_relationForm (h : Copy ρ p d) (hn : p.hasNode n.id = true) :
    ρ.Finds (Rule.relationForm p n) (Rule.relationForm d (n.renamed ρ)) := by
  simp only [Rule.relationForm, Node.id_renamed, h.cardinality_eq hn, h.entityEnds_eq hn,
    h.keys_eq hn, List.length_map, List.isEmpty_map]
  refine .ite Iff.rfl .none (.ite Iff.rfl (.some copied_same) ?_)
  exact .onlyIf rfl copied_same

theorem finds_dependencyKey (h : Copy ρ p d) (hn : p.hasNode n.id = true) :
    ρ.Finds (Rule.dependencyKey p n) (Rule.dependencyKey d (n.renamed ρ)) := by
  simp only [Rule.dependencyKey, Node.id_renamed, h.keys_eq hn, List.length_map,
    List.isEmpty_map, List.countP_map]
  exact .ite Iff.rfl (.onlyIf rfl copied_same) (.onlyIf rfl copied_same)

theorem finds_dependency (h : Copy ρ p d) (hn : p.hasNode n.id = true) :
    ρ.Finds (Rule.dependency p n) (Rule.dependency d (n.renamed ρ)) := by
  refine (h.finds_anyRelation hn).or ?_
  refine .ite ?_ (.some copied_same) (h.finds_dependencyKey hn)
  rw [Node.id_renamed, h.dependencyEnds?_eq hn, Option.isNone_map]

/-! ## Attributes -/

theorem finds_oneOwner (h : Copy ρ p d) (hn : p.hasNode n.id = true) :
    ρ.Finds (Rule.oneOwner p n) (Rule.oneOwner d (n.renamed ρ)) := by
  simp only [Rule.oneOwner, Node.id_renamed, h.rootOwners_eq hn]
  match p.rootOwners n.id with
  | [] => exact .some copied_same
  | [_] => exact .none
  | a :: b :: owners =>
    refine .some ⟨rfl, rfl, rfl, fun hρ => ?_⟩
    subst hρ
    have hid : owners.map Renaming.refl.node = owners := List.map_id _
    rw [List.map_cons, hid]
    rfl

theorem finds_attributePlace (h : Copy ρ p d) (role : AttributeKind) (hn : p.hasNode n.id = true) :
    ρ.Finds (Rule.attributePlace role p n) (Rule.attributePlace role d (n.renamed ρ)) := by
  refine (h.finds_notIsolated hn).or ?_
  rw [Node.id_renamed, h.neighbors_eq hn]
  refine Renaming.Finds.or (.findSome? fun x _ => .onlyIf rfl copied_same) ?_
  refine Renaming.Finds.or (.findSome? fun x _ => .onlyIf rfl ⟨rfl, rfl, rfl, fun hρ => ?_⟩) ?_
  · subst hρ
    rfl
  · refine Renaming.Finds.or (.onlyIf ?_ copied_same) (h.finds_oneOwner hn)
    rw [Node.id_renamed, h.members_eq hn, List.isEmpty_map]

theorem finds_leafLabel (h : Copy ρ p d) (hn : p.hasNode n.id = true) :
    ρ.Finds (Rule.leafLabel p n) (Rule.leafLabel d (n.renamed ρ)) := by
  refine .ite ?_ .none ?_
  · rw [Node.id_renamed, h.members_eq hn, List.isEmpty_map]
  · have htyped := n.carries_typedName ρ
    generalize n.typedName = t, (n.renamed ρ).typedName = t' at htyped ⊢
    cases htyped with
    | ok _ => exact .none
    | error hf =>
      refine .some ⟨rfl, rfl, rfl, fun hρ => ?_⟩
      subst hρ
      rw [hf, SynthesisFault.renamed_refl]
      rfl

theorem finds_attr (h : Copy ρ p d) (role : AttributeKind) (hn : p.hasNode n.id = true) :
    ρ.Finds (Rule.attr role p n) (Rule.attr role d (n.renamed ρ)) := by
  refine (h.finds_attributePlace role hn).or ?_
  cases role with
  | plain | alternativeKey | multiValued => exact h.finds_leafLabel hn
  | key =>
    refine Renaming.Finds.or ?_ (h.finds_leafLabel hn)
    rw [Node.id_renamed, h.neighbors_eq hn]
    refine .findSome? fun x hx => ?_
    refine .ite Iff.rfl (.some copied_same) (.onlyIf ?_ copied_same)
    have htarget := h.hasNode_target (edge_mem_edgesTouching hx)
    exact congrArg (· && _) (h.beq_eq htarget hn)
  | derived =>
    refine Renaming.Finds.or ?_ (Renaming.Finds.or (.onlyIf rfl copied_same)
      (h.finds_leafLabel hn))
    rw [Rule.derivedIsLeaf, Rule.derivedIsLeaf, Node.id_renamed, h.edgesTouching_eq _ hn]
    refine .map_find? (fun e he => h.beq_eq (h.hasNode_source he) hn) fun e =>
      ⟨rfl, rfl, rfl, fun hρ => ?_⟩
    subst hρ
    rfl

/-! ## Specializations -/

theorem finds_specializationLinks (h : Copy ρ p d) (hn : p.hasNode n.id = true) :
    ρ.Finds (Rule.specializationLinks p n) (Rule.specializationLinks d (n.renamed ρ)) := by
  have hlinked : Rule.linked d (n.renamed ρ) = (Rule.linked p n).map (·.renamed ρ) := by
    rw [Rule.linked, Rule.linked, Node.id_renamed, h.neighbors_eq hn, List.filter_map,
      List.map_map, List.map_map]
    rfl
  have hfind : ((Rule.linked p n).map (·.renamed ρ)).find? (!·.kind.isEntity) =
      ((Rule.linked p n).find? (!·.kind.isEntity)).map (·.renamed ρ) :=
    find?_map_eq fun _ _ => rfl
  unfold Rule.specializationLinks
  rw [hlinked, hfind, List.length_map]
  cases (Rule.linked p n).find? (!·.kind.isEntity) with
  | none => exact .onlyIf rfl copied_same
  | some _ => exact .some copied_same

theorem finds_oneParent (h : Copy ρ p d) (hn : p.hasNode n.id = true) :
    ρ.Finds (Rule.oneParent p n) (Rule.oneParent d (n.renamed ρ)) := by
  unfold Rule.oneParent
  rw [Node.id_renamed, h.parents_eq hn, List.length_map]
  split
  · exact .some copied_same
  · exact .none
  · exact .some copied_same

theorem finds_constraintsFit (h : Copy ρ p d) (hn : p.hasNode n.id = true) :
    ρ.Finds (Rule.constraintsFit p n) (Rule.constraintsFit d (n.renamed ρ)) := by
  unfold Rule.constraintsFit
  rw [Node.kind_renamed]
  split
  · rw [Node.id_renamed, h.edgesTouching_eq _ hn]
    refine .map_find? (fun _ _ => rfl) fun e => ⟨rfl, rfl, rfl, fun hρ => ?_⟩
    subst hρ
    rfl
  · exact .none

theorem finds_specialization (h : Copy ρ p d) (hn : p.hasNode n.id = true) :
    ρ.Finds (Rule.specialization p n) (Rule.specialization d (n.renamed ρ)) := by
  refine (h.finds_notIsolated hn).or (Renaming.Finds.or ?_ ((h.finds_specializationLinks hn).or
    ((h.finds_oneParent hn).or (Renaming.Finds.or ?_ (h.finds_constraintsFit hn)))))
  · rw [Rule.specializationEdges, Rule.specializationEdges, Node.id_renamed,
      h.edgesTouching_eq _ hn]
    refine .map_find? (fun _ _ => rfl) fun e => ⟨rfl, rfl, rfl, fun hρ => ?_⟩
    subst hρ
    rfl
  · rw [Rule.strongChildren, Rule.strongChildren, Node.id_renamed, h.children_eq hn]
    exact .map_find? (fun _ _ => rfl) fun c => copied_same

/-! ## Single nodes -/

/-- The rule of its kind finds the same about a node and about its copy. -/
theorem finds_validateNode (h : Copy ρ p d) (hn : p.hasNode n.id = true) :
    ρ.Finds (p.validateNode n) (d.validateNode (n.renamed ρ)) := by
  rw [validateNode, validateNode, Node.kind_renamed]
  cases n.kind with
  | entity =>
    exact (h.finds_notIsolated hn).or ((h.finds_entityLinks hn).or (h.finds_strongIdentity hn))
  | weakEntity =>
    exact (h.finds_notIsolated hn).or ((h.finds_entityLinks hn).or (h.finds_oneDependency hn))
  | relation => exact (h.finds_anyRelation hn).or (h.finds_relationForm hn)
  | dependency _ => exact h.finds_dependency hn
  | specialization _ => exact h.finds_specialization hn
  | attr role => exact h.finds_attr role hn

/-! ## Names of tables -/

/-- A table for a node and one for its copy have the same name. -/
theorem tableName?_eq (h : Copy ρ p d) (hn : p.hasNode n.id = true) :
    d.tableName? (n.renamed ρ) = p.tableName? n := by
  unfold tableName?
  rw [Node.kind_renamed]
  split
  · rfl
  · rfl
  · rw [Node.id_renamed, h.cardinality_eq hn]
    rfl
  · rw [Node.id_renamed, h.rootOwners_eq hn, List.head?_map]
    cases howner : (p.rootOwners n.id).head? with
    | none => rfl
    | some owner =>
      have hnode : p.hasNode owner = true :=
        hasNode_of_mem_rootOwners (List.mem_of_mem_head? howner)
      simp only [Option.map_some, Option.bind_eq_bind, Option.bind_some, h.node?_eq owner hnode]
      cases p.node? owner with
      | none => rfl
      | some m => rfl
  · rfl

end Diagram.Copy

end EntityRelationship
