import EntityRelationship.Proofs.Diagnostic.Acceptance
import EntityRelationship.Proofs.Diagram.Redrawing

/-!
# Diagnostics of a redrawn diagram

A rule that goes through the neighbors of a node reports the first one that breaks it, and which
one is the first depends on the drawing. So the findings of a redrawn diagram may name other
neighbors and other problems. Their severities stay: each check either computes something that has
no order or looks for something of which it does not matter where it stands, and all that one check
can find is equally severe.
-/

namespace EntityRelationship

open Diagram

variable {d d' : Diagram} {n : Node}

/-! ## Severities of findings -/

/-- Two checks find nothing, or findings of one severity. -/
def SameSeverity (o o' : Option Diagnostic) : Prop :=
  o.map (·.severity) = o'.map (·.severity)

theorem sameSeverity_of_eq {o o' : Option Diagnostic} (h : o = o') : SameSeverity o o' := by
  rw [h]
  rfl

theorem SameSeverity.or {a a' b b' : Option Diagnostic} (ha : SameSeverity a a')
    (hb : SameSeverity b b') : SameSeverity (a.or b) (a'.or b') := by
  rw [SameSeverity, Option.map_or, Option.map_or, ha, hb]

/-- Checks that find only errors agree if they find something in the same cases. -/
theorem sameSeverity_of_errorsOnly {o o' : Option Diagnostic} (ho : ErrorsOnly o)
    (ho' : ErrorsOnly o') (h : o.isSome = o'.isSome) : SameSeverity o o' := by
  cases o with
  | none => cases o' with
    | none => rfl
    | some x => cases h
  | some x => cases o' with
    | none => cases h
    | some x' =>
      have hx := ho x rfl
      have hx' := ho' x' rfl
      rw [Diagnostic.isError, beq_iff_eq] at hx hx'
      exact congrArg some (hx.trans hx'.symm)

/-- The first error that some elements give: the order does not matter. -/
theorem sameSeverity_findSome? {α : Type} {f : α → Option Diagnostic} (hf : ∀ a, ErrorsOnly (f a))
    {as as' : List α} (h : as.Perm as') : SameSeverity (as.findSome? f) (as'.findSome? f) := by
  refine sameSeverity_of_errorsOnly (errorsOnly_findSome? hf as) (errorsOnly_findSome? hf as') ?_
  rw [Bool.eq_iff_iff, List.findSome?_isSome_iff, List.findSome?_isSome_iff]
  simp only [h.mem_iff]

/-- A finding about the first element that passes a test: the order does not matter if the
severity is fixed. -/
theorem sameSeverity_map_find? {α : Type} {p : α → Bool} {f : α → Diagnostic} {s : Severity}
    (hf : ∀ a, (f a).severity = s) {as as' : List α} (h : as.Perm as') :
    SameSeverity ((as.find? p).map f) ((as'.find? p).map f) := by
  have hconst : (fun x : Diagnostic => x.severity) ∘ f = fun _ => s := funext hf
  have hsome : (as.find? p).isSome = (as'.find? p).isSome := by
    rw [Bool.eq_iff_iff, List.find?_isSome, List.find?_isSome]
    simp only [h.mem_iff]
  rw [SameSeverity, Option.map_map, Option.map_map, hconst]
  cases ho : as.find? p <;> cases ho' : as'.find? p <;> simp_all

namespace Diagram.Redraws

/-! ## Entities -/

theorem notIsolated_eq (h : d.Redraws d') (n : Node) :
    Rule.notIsolated d n = Rule.notIsolated d' n := by
  rw [Rule.notIsolated, Rule.notIsolated, (h.edgesTouching_perm n.id).isEmpty_eq]

theorem sameSeverity_entityLinks (h : d.Redraws d') (n : Node) :
    SameSeverity (Rule.entityLinks d n) (Rule.entityLinks d' n) :=
  sameSeverity_findSome? (errorsOnly_entityLink n) (h.neighbors_perm n.id)

/-- Which two of several specializations are named depends on the order. -/
theorem sameSeverity_strongIdentity (h : d.Redraws d') (n : Node) :
    SameSeverity (Rule.strongIdentity d n) (Rule.strongIdentity d' n) := by
  have habove := h.specializationsAbove_perm n.id
  simp only [Rule.strongIdentity, (h.keys_perm n.id).isEmpty_eq, (h.keys_perm n.id).length_eq]
  match hl : d.specializationsAbove n.id, hl' : d'.specializationsAbove n.id with
  | [], [] => rfl
  | [s], [s'] =>
    rw [hl, hl', List.singleton_perm, List.cons.injEq] at habove
    rw [habove.1]
    rfl
  | _ :: _ :: _, _ :: _ :: _ => rfl
  | [], _ :: _ | _ :: _, [] | [_], _ :: _ :: _ | _ :: _ :: _, [_] =>
    simpa [hl, hl'] using habove.length_eq

theorem weakIdentity_eq (h : d.Redraws d') (r n : Node) :
    Rule.weakIdentity r d n = Rule.weakIdentity r d' n := by
  simp only [Rule.weakIdentity, Rule.dependentKey, (h.keys_perm n.id).isEmpty_eq,
    (h.keys_perm n.id).length_eq, h.cardinality_eq]

theorem oneDependency_eq (h : d.Redraws d') (n : Node) :
    Rule.oneDependency d n = Rule.oneDependency d' n := by
  have hperm := h.dependencies_perm n.id
  unfold Rule.oneDependency
  match hl : d.dependencies n.id, hl' : d'.dependencies n.id with
  | [], [] => rfl
  | [r], [r'] =>
    rw [hl, hl', List.singleton_perm, List.cons.injEq] at hperm
    rw [hperm.1]
    exact h.weakIdentity_eq r' n
  | _ :: _ :: _, _ :: _ :: _ =>
    rw [hl, hl'] at hperm
    simp only [hperm.length_eq]
  | [], _ :: _ | _ :: _, [] | [_], _ :: _ :: _ | _ :: _ :: _, [_] =>
    simpa [hl, hl'] using hperm.length_eq

/-! ## Relations -/

theorem sameSeverity_anyRelation (h : d.Redraws d') (n : Node) :
    SameSeverity (Rule.anyRelation d n) (Rule.anyRelation d' n) := by
  have hends : Rule.relationEnds d n = Rule.relationEnds d' n := by
    simp only [Rule.relationEnds, (h.entityEnds_perm n.id).length_eq,
      (h.entityEnds_perm n.id).countP_eq]
  refine (sameSeverity_of_eq (h.notIsolated_eq n)).or ?_
  refine (sameSeverity_findSome? (errorsOnly_relationLink n) (h.neighbors_perm n.id)).or ?_
  refine (sameSeverity_of_eq hends).or ?_
  exact sameSeverity_findSome? (errorsOnly_edgeCardinality n) (h.edgesTouching_perm n.id)

theorem relationForm_eq (h : d.Redraws d') (n : Node) :
    Rule.relationForm d n = Rule.relationForm d' n := by
  simp only [Rule.relationForm, h.cardinality_eq, (h.entityEnds_perm n.id).length_eq,
    (h.keys_perm n.id).isEmpty_eq]

theorem dependencyKey_eq (h : d.Redraws d') (n : Node) :
    Rule.dependencyKey d n = Rule.dependencyKey d' n := by
  simp only [Rule.dependencyKey, (h.keys_perm n.id).length_eq, (h.keys_perm n.id).countP_eq,
    (h.keys_perm n.id).isEmpty_eq]

/-! ## Attributes -/

theorem sameSeverity_attributePlace (h : d.Redraws d') (role : AttributeKind) (n : Node) :
    SameSeverity (Rule.attributePlace role d n) (Rule.attributePlace role d' n) := by
  have hmembers : Rule.attributeMembers role d n = Rule.attributeMembers role d' n := by
    rw [Rule.attributeMembers, Rule.attributeMembers, (h.members_perm n.id).isEmpty_eq]
  have howner : Rule.oneOwner d n = Rule.oneOwner d' n := by
    simp only [Rule.oneOwner, h.rootOwners_eq]
  refine (sameSeverity_of_eq (h.notIsolated_eq n)).or ?_
  have hneighbors := h.neighbors_perm n.id
  refine (sameSeverity_findSome? (errorsOnly_attributeNeighbor role n) hneighbors).or ?_
  refine (sameSeverity_findSome? (errorsOnly_attributeEdge role n) hneighbors).or ?_
  exact (sameSeverity_of_eq hmembers).or (sameSeverity_of_eq howner)

theorem leafLabel_eq (h : d.Redraws d') (n : Node) : Rule.leafLabel d n = Rule.leafLabel d' n := by
  unfold Rule.leafLabel
  rw [(h.members_perm n.id).isEmpty_eq]

theorem sameSeverity_attr (h : d.Redraws d') (role : AttributeKind) (n : Node) :
    SameSeverity (Rule.attr role d n) (Rule.attr role d' n) := by
  have hleaf := sameSeverity_of_eq (h.leafLabel_eq n)
  refine (h.sameSeverity_attributePlace role n).or ?_
  cases role with
  | plain | alternativeKey | multiValued => exact hleaf
  | key =>
    exact (sameSeverity_findSome? (errorsOnly_keyNeighbor n) (h.neighbors_perm n.id)).or hleaf
  | derived =>
    refine SameSeverity.or ?_ ((sameSeverity_of_eq rfl).or hleaf)
    exact sameSeverity_map_find? (s := .error) (fun _ => rfl) (h.edgesTouching_perm n.id)

/-! ## Specializations -/

theorem sameSeverity_specializationLinks (h : d.Redraws d') (n : Node) :
    SameSeverity (Rule.specializationLinks d n) (Rule.specializationLinks d' n) := by
  have hlinked : (Rule.linked d n).Perm (Rule.linked d' n) :=
    ((h.neighbors_perm n.id).filter _).map _
  have hsame : ((Rule.linked d n).find? (!·.kind.isEntity)).isSome =
      ((Rule.linked d' n).find? (!·.kind.isEntity)).isSome := by
    rw [Bool.eq_iff_iff, List.find?_isSome, List.find?_isSome]
    simp only [hlinked.mem_iff]
  unfold Rule.specializationLinks
  rw [hlinked.length_eq]
  split <;> split
  · rfl
  · simp_all
  · simp_all
  · rfl

theorem sameSeverity_constraintsFit (h : d.Redraws d') (n : Node) :
    SameSeverity (Rule.constraintsFit d n) (Rule.constraintsFit d' n) := by
  unfold Rule.constraintsFit
  split
  · exact sameSeverity_map_find? (s := .warning) (fun _ => rfl) (h.edgesTouching_perm n.id)
  · rfl

theorem sameSeverity_specialization (h : d.Redraws d') (n : Node) :
    SameSeverity (Rule.specialization d n) (Rule.specialization d' n) := by
  have hparent : Rule.oneParent d n = Rule.oneParent d' n := by
    unfold Rule.oneParent
    rw [(h.parents_perm n.id).length_eq]
  refine (sameSeverity_of_eq (h.notIsolated_eq n)).or (SameSeverity.or ?_ ?_)
  · exact sameSeverity_map_find? (s := .error) (fun _ => rfl) (h.edgesTouching_perm n.id)
  refine (h.sameSeverity_specializationLinks n).or ((sameSeverity_of_eq hparent).or ?_)
  refine SameSeverity.or ?_ (h.sameSeverity_constraintsFit n)
  exact sameSeverity_map_find? (s := .error) (fun _ => rfl) (h.children_perm n.id)

/-! ## Single nodes -/

/-- The rule of its kind finds something of the same severity about each node, or nothing. -/
theorem sameSeverity_validateNode (h : d.Redraws d') (n : Node) :
    SameSeverity (d.validateNode n) (d'.validateNode n) := by
  have hends : (d.dependencyEnds? n.id).isNone = (d'.dependencyEnds? n.id).isNone := by
    rw [h.dependencyEnds?_eq]
  have hentity {a a' : Option Diagnostic} (ha : SameSeverity a a') :
      SameSeverity ((Rule.notIsolated d n).or ((Rule.entityLinks d n).or a))
        ((Rule.notIsolated d' n).or ((Rule.entityLinks d' n).or a')) :=
    (sameSeverity_of_eq (h.notIsolated_eq n)).or ((h.sameSeverity_entityLinks n).or ha)
  unfold validateNode
  cases n.kind with
  | entity => exact hentity (h.sameSeverity_strongIdentity n)
  | weakEntity => exact hentity (sameSeverity_of_eq (h.oneDependency_eq n))
  | relation =>
    exact (h.sameSeverity_anyRelation n).or (sameSeverity_of_eq (h.relationForm_eq n))
  | dependency k =>
    refine (h.sameSeverity_anyRelation n).or (sameSeverity_of_eq ?_)
    rw [hends, h.dependencyKey_eq]
  | specialization k => exact h.sameSeverity_specialization n
  | attr role => exact h.sameSeverity_attr role n

/-! ## Names of tables -/

theorem tableName?_eq (h : d.Redraws d') (n : Node) : d.tableName? n = d'.tableName? n := by
  unfold tableName?
  rw [h.cardinality_eq, h.rootOwners_eq]
  simp only [h.node?_eq]

end Diagram.Redraws

/-- The findings about names are errors. -/
theorem NameClash.isError_of_mem_among {taken : List (String × Node)} {ns : List Node}
    {x : Diagnostic} (hx : x ∈ among d taken ns) : x.isError = true := by
  induction ns generalizing taken with
  | nil => cases hx
  | cons n ns ih =>
    unfold among at hx
    split at hx
    · exact ih hx
    · split at hx
      · rcases List.mem_cons.1 hx with rfl | hx
        · rfl
        · exact ih hx
      · split at hx
        · rcases List.mem_cons.1 hx with rfl | hx
          · rfl
          · exact ih hx
        · exact ih hx

/-- There is nothing to find about names that are not empty and differ, up to case, from each other
and from the taken ones. -/
theorem NameClash.among_eq_nil {taken : List (String × Node)} {ns : List Node}
    (hfree : ∀ name ∈ ns.filterMap d.tableName?, name ≠ "" ∧ Text.lower name ∉ taken.map (·.1))
    (hnodup : ((ns.filterMap d.tableName?).map Text.lower).Nodup) : among d taken ns = [] := by
  induction ns generalizing taken with
  | nil => rfl
  | cons n ns ih =>
    unfold among
    split
    · next hname =>
      rw [List.filterMap_cons_none hname] at hfree hnodup
      exact ih hfree hnodup
    · next name hname =>
      rw [List.filterMap_cons_some hname] at hfree hnodup
      rw [List.map_cons, List.nodup_cons] at hnodup
      obtain ⟨hnonempty, hnew⟩ := hfree name List.mem_cons_self
      have hnone : taken.find? (·.1 == Text.lower name) = none := by
        rw [List.find?_eq_none]
        intro x hx hsame
        exact hnew (List.mem_map.2 ⟨x, hx, by simpa using hsame⟩)
      rw [if_neg hnonempty, hnone]
      refine ih (fun other hother => ?_) hnodup.2
      obtain ⟨hother', hlower⟩ := hfree other (List.mem_cons_of_mem _ hother)
      refine ⟨hother', ?_⟩
      rw [List.map_cons, List.mem_cons, not_or]
      exact ⟨fun hsame => hnodup.1 (List.mem_map.2 ⟨other, hother, hsame⟩), hlower⟩

end EntityRelationship
