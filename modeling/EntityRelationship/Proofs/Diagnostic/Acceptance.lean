import EntityRelationship.Diagnostic.Validation
import EntityRelationship.Proofs.Diagram.Lookup

/-!
# What acceptance says

A diagram is accepted if no diagnostic of it is an error. This file opens the rules once and says,
kind by kind, what holds of a node that its rule lets pass. Whatever is proved about accepted
diagrams goes back to these statements, and no other proof looks into a rule.
-/

namespace EntityRelationship

open Diagram

variable {d : Diagram} {m n : Node} {x : Neighbor}

instance (d : Diagram) : Decidable d.Accepted :=
  inferInstanceAs (Decidable (∀ x ∈ d.validate, x.isError = false))

/-! ## Findings -/

/-- There is no finding, or one that is no error. -/
def Harmless (o : Option Diagnostic) : Prop :=
  ∀ x, o = some x → x.isError = false

/-- There is no finding, or one that is an error. -/
def ErrorsOnly (o : Option Diagnostic) : Prop :=
  ∀ x, o = some x → x.isError = true

theorem errorsOnly_none : ErrorsOnly none := by
  intro x hx
  cases hx

theorem errorsOnly_error (n : Node) (p : Problem) (s : String) :
    ErrorsOnly (some (n.error p s)) := by
  intro x hx
  cases hx
  rfl

theorem errorsOnly_onlyIf (c : Bool) (n : Node) (p : Problem) (s : String) :
    ErrorsOnly (Rule.onlyIf c (n.error p s)) := by
  cases c
  · exact errorsOnly_none
  · exact errorsOnly_error n p s

theorem errorsOnly_findSome? {α : Type} {f : α → Option Diagnostic} (hf : ∀ a, ErrorsOnly (f a))
    (as : List α) : ErrorsOnly (as.findSome? f) := by
  intro x hx
  obtain ⟨a, -, ha⟩ := List.exists_of_findSome?_eq_some hx
  exact hf a x ha

theorem errorsOnly_map_error {α : Type} (o : Option α) (p : Problem) (s : α → String) :
    ErrorsOnly (o.map fun a => n.error p (s a)) := by
  cases o with
  | none => exact errorsOnly_none
  | some a => exact errorsOnly_error n p (s a)

theorem ErrorsOnly.or {a b : Option Diagnostic} (ha : ErrorsOnly a) (hb : ErrorsOnly b) :
    ErrorsOnly (a.or b) := by
  cases a with
  | none => exact hb
  | some x => exact ha

/-- A check that finds only errors and nothing harmful finds nothing. -/
theorem Harmless.eq_none {o : Option Diagnostic} (h : Harmless o) (ho : ErrorsOnly o) :
    o = none := by
  cases o with
  | none => rfl
  | some x =>
    have herror := ho x rfl
    rw [h x rfl] at herror
    cases herror

/-- Where one check that finds only errors stands before others, it finds nothing in what passes,
and the others are harmless too. -/
theorem Harmless.of_or {a b : Option Diagnostic} (h : Harmless (a.or b)) (ha : ErrorsOnly a) :
    a = none ∧ Harmless b := by
  cases a with
  | none => exact ⟨rfl, h⟩
  | some x =>
    have herror := ha x rfl
    rw [h x rfl] at herror
    cases herror

theorem not_harmless_error {p : Problem} {s : String} : ¬ Harmless (some (n.error p s)) := by
  intro h
  have herror := h _ rfl
  cases herror

/-- The rule of its kind lets each node of an accepted diagram pass. -/
theorem Diagram.Accepted.harmless (h : d.Accepted) (hn : n ∈ d.nodes) :
    Harmless (n.kind.rule d n) :=
  fun _ hx => h.validateNode_ne_error hn hx

/-! ## Entities -/

theorem errorsOnly_notIsolated (d : Diagram) (n : Node) : ErrorsOnly (Rule.notIsolated d n) :=
  errorsOnly_onlyIf _ n _ _

theorem errorsOnly_entityLink (n : Node) (x : Neighbor) : ErrorsOnly (Rule.entityLink n x) := by
  unfold Rule.entityLink
  split
  · exact errorsOnly_error n _ _
  · exact errorsOnly_onlyIf _ n _ _

theorem errorsOnly_entityLinks (d : Diagram) (n : Node) : ErrorsOnly (Rule.entityLinks d n) :=
  errorsOnly_findSome? (errorsOnly_entityLink n) _

/-- No neighbor of an entity is an entity, and weighted edges lead to its relations. -/
theorem Diagram.Accepted.of_mem_neighbors_entity (h : d.Accepted) (hn : n ∈ d.nodes)
    (hkind : n.kind.isEntity = true) (hx : x ∈ d.neighbors n.id) :
    x.node.kind.isEntity = false ∧ (x.node.kind.isRelation = true → x.edge.kind = .weighted) := by
  have hrule := h.harmless hn
  have hlinks : Rule.entityLinks d n = none := by
    cases hk : n.kind with
    | entity | weakEntity =>
      rw [hk] at hrule
      exact ((hrule.of_or (errorsOnly_notIsolated d n)).2.of_or (errorsOnly_entityLinks d n)).1
    | relation | dependency _ | specialization _ | attr _ => simp [hk, NodeKind.isEntity] at hkind
  have hlink := List.findSome?_eq_none_iff.1 hlinks x hx
  unfold Rule.entityLink at hlink
  split at hlink
  · cases hlink
  · next hentity =>
    rw [Rule.onlyIf_eq_none_iff, Bool.and_eq_false_iff, bne_eq_false_iff_eq] at hlink
    refine ⟨by simpa using hentity, fun hrelation => ?_⟩
    rcases hlink with hlink | hlink
    · rw [hrelation] at hlink
      cases hlink
    · exact hlink

theorem Diagram.Accepted.strongIdentity (h : d.Accepted) (hn : n ∈ d.nodes)
    (hkind : n.kind = .entity) : Harmless (Rule.strongIdentity d n) := by
  have hrule := h.harmless hn
  rw [hkind] at hrule
  exact ((hrule.of_or (errorsOnly_notIsolated d n)).2.of_or (errorsOnly_entityLinks d n)).2

/-- A strong entity is a child of one specialization at most. -/
theorem Diagram.Accepted.length_specializationsAbove_le (h : d.Accepted) (hn : n ∈ d.nodes)
    (hkind : n.kind = .entity) : (d.specializationsAbove n.id).length ≤ 1 := by
  have hrule := h.strongIdentity hn hkind
  unfold Rule.strongIdentity at hrule
  split at hrule
  · exact absurd hrule not_harmless_error
  · next habove => simp [habove]
  · next habove => simp [habove]

/-- A strong entity that is no child has a key. -/
theorem Diagram.Accepted.keys_ne_nil (h : d.Accepted) (hn : n ∈ d.nodes) (hkind : n.kind = .entity)
    (habove : d.specializationsAbove n.id = []) : d.keys n.id ≠ [] := by
  intro hkeys
  have hrule := h.strongIdentity hn hkind
  unfold Rule.strongIdentity at hrule
  simp only [habove, hkeys, List.length_nil] at hrule
  exact not_harmless_error hrule

/-- A weak entity has one dependency, and a key of its own if that is an existence dependency. -/
theorem Diagram.Accepted.dependencies_eq (h : d.Accepted) (hn : n ∈ d.nodes)
    (hkind : n.kind = .weakEntity) :
    ∃ r, d.dependencies n.id = [r] ∧ (r.kind = .dependency .existence → d.keys n.id ≠ []) := by
  have hrule := h.harmless hn
  rw [hkind] at hrule
  have hone : Harmless (Rule.oneDependency d n) :=
    ((hrule.of_or (errorsOnly_notIsolated d n)).2.of_or (errorsOnly_entityLinks d n)).2
  unfold Rule.oneDependency at hone
  split at hone
  · exact absurd hone not_harmless_error
  · next r hr =>
    refine ⟨r, hr, ?_⟩
    intro hexistence hkeys
    unfold Rule.weakIdentity Rule.dependentKey at hone
    simp only [hexistence, hkeys] at hone
    exact not_harmless_error hone
  · exact absurd hone not_harmless_error

/-! ## Relations -/

theorem errorsOnly_relationLink (n : Node) (x : Neighbor) : ErrorsOnly (Rule.relationLink n x) := by
  unfold Rule.relationLink
  split
  · exact errorsOnly_error n _ _
  · exact errorsOnly_onlyIf _ n _ _

theorem errorsOnly_relationEnds (d : Diagram) (n : Node) : ErrorsOnly (Rule.relationEnds d n) := by
  unfold Rule.relationEnds
  extract_lets ends weighted
  split
  · exact errorsOnly_error n _ _
  · exact errorsOnly_onlyIf _ n _ _

theorem errorsOnly_edgeCardinality (n : Node) (e : Edge) : ErrorsOnly (Rule.edgeCardinality n e) :=
  errorsOnly_onlyIf _ n _ _

theorem errorsOnly_anyRelation (d : Diagram) (n : Node) : ErrorsOnly (Rule.anyRelation d n) :=
  (errorsOnly_notIsolated d n).or <|
    (errorsOnly_findSome? (errorsOnly_relationLink n) _).or <|
      (errorsOnly_relationEnds d n).or (errorsOnly_findSome? (errorsOnly_edgeCardinality n) _)

/-- The rule for relations of every form finds nothing wrong with a relation. -/
theorem Diagram.Accepted.anyRelation (h : d.Accepted) (hn : n ∈ d.nodes)
    (hkind : n.kind.isRelation = true) : Rule.anyRelation d n = none := by
  have hrule := h.harmless hn
  cases hk : n.kind with
  | relation =>
    rw [hk] at hrule
    exact (hrule.of_or (errorsOnly_anyRelation d n)).1
  | dependency k =>
    rw [hk] at hrule
    exact (hrule.of_or (errorsOnly_anyRelation d n)).1
  | entity | weakEntity | specialization k | attr k => simp [hk, NodeKind.isRelation] at hkind

/-- No neighbor of a relation is a relation or a specialization. -/
theorem Diagram.Accepted.of_mem_neighbors_relation (h : d.Accepted) (hn : n ∈ d.nodes)
    (hkind : n.kind.isRelation = true) (hx : x ∈ d.neighbors n.id) :
    x.node.kind.isRelation = false ∧ x.node.kind.isSpecialization = false := by
  have hrule := h.anyRelation hn hkind
  unfold Rule.anyRelation at hrule
  simp only [Option.or_eq_none_iff, List.findSome?_eq_none_iff] at hrule
  have hlink := hrule.2.1 x hx
  unfold Rule.relationLink at hlink
  split at hlink
  · cases hlink
  · next hrelation => exact ⟨by simpa using hrelation, Rule.onlyIf_eq_none_iff.1 hlink⟩

/-- The weighted edges of a relation have readable cardinalities. -/
theorem Diagram.Accepted.isSome_participation? (h : d.Accepted) (hn : n ∈ d.nodes)
    (hkind : n.kind.isRelation = true) {e : Edge} (he : e ∈ d.edgesTouching n.id)
    (hweighted : e.kind = .weighted) : e.participation?.isSome = true := by
  have hrule := h.anyRelation hn hkind
  unfold Rule.anyRelation at hrule
  simp only [Option.or_eq_none_iff, List.findSome?_eq_none_iff] at hrule
  have hlabel := hrule.2.2.2 e he
  rw [Rule.edgeCardinality, Rule.onlyIf_eq_none_iff, hweighted] at hlabel
  simpa [Option.isSome_iff_ne_none] using hlabel

/-- A relation has two ends at least. -/
theorem Diagram.Accepted.two_le_length_entityEnds (h : d.Accepted) (hn : n ∈ d.nodes)
    (hkind : n.kind.isRelation = true) : 2 ≤ (d.entityEnds n.id).length := by
  have hrule := h.anyRelation hn hkind
  unfold Rule.anyRelation at hrule
  simp only [Option.or_eq_none_iff] at hrule
  have hends := hrule.2.2.1
  unfold Rule.relationEnds at hends
  extract_lets ends weighted at hends
  split at hends
  · cases hends
  · rw [Rule.onlyIf_eq_none_iff, decide_eq_false_iff_not] at hends
    exact Nat.not_lt.1 hends

/-- A relation that is not many to many has two ends. -/
theorem Diagram.Accepted.exists_entityEnds_eq (h : d.Accepted) (hn : n ∈ d.nodes)
    (hkind : n.kind = .relation) (hbinary : d.cardinality n.id ≠ .manyToMany) :
    ∃ a b, d.entityEnds n.id = [a, b] := by
  have hrule := h.harmless hn
  rw [hkind] at hrule
  have hform : Harmless (Rule.relationForm d n) := (hrule.of_or (errorsOnly_anyRelation d n)).2
  unfold Rule.relationForm at hform
  extract_lets cardinality ends at hform
  split at hform
  · contradiction
  · split at hform
    · exact absurd hform not_harmless_error
    · next hends => exact List.length_eq_two.1 (not_not.1 hends)

/-- The keys of a dependency fit its form. -/
theorem Diagram.Accepted.dependencyKey (h : d.Accepted) (hn : n ∈ d.nodes) {k : DependencyKind}
    (hkind : n.kind = .dependency k) : Rule.dependencyKey d n = none := by
  have hrule := h.harmless hn
  rw [hkind] at hrule
  have hends := (hrule.of_or (errorsOnly_anyRelation d n)).2
  split at hends
  · exact absurd hends not_harmless_error
  · refine hends.eq_none ?_
    unfold Rule.dependencyKey
    extract_lets keys
    split
    · exact errorsOnly_onlyIf _ n _ _
    · exact errorsOnly_onlyIf _ n _ _

/-- An existence dependency has no key. -/
theorem Diagram.Accepted.keys_eq_nil_of_existence (h : d.Accepted) (hn : n ∈ d.nodes)
    (hkind : n.kind = .dependency .existence) : d.keys n.id = [] := by
  have hkey := h.dependencyKey hn hkind
  unfold Rule.dependencyKey at hkey
  simp only [hkind, NodeKind.dependency.injEq, reduceCtorEq, if_false,
    Rule.onlyIf_eq_none_iff] at hkey
  simpa using hkey

/-- An identifying dependency has one key, to which a plain link leads. -/
theorem Diagram.Accepted.keys_eq_of_identifying (h : d.Accepted) (hn : n ∈ d.nodes)
    (hkind : n.kind = .dependency .identifying) :
    ∃ x, d.keys n.id = [x] ∧ x.edge.kind = .transition := by
  have hkey := h.dependencyKey hn hkind
  unfold Rule.dependencyKey at hkey
  simp only [hkind, if_true, Rule.onlyIf_eq_none_iff, Bool.or_eq_false_iff,
    bne_eq_false_iff_eq] at hkey
  obtain ⟨x, hx⟩ := List.length_eq_one_iff.1 hkey.1
  refine ⟨x, hx, ?_⟩
  simpa [hx] using hkey.2

/-- An identifying dependency has a key. -/
theorem Diagram.Accepted.keys_ne_nil_of_identifying (h : d.Accepted) (hn : n ∈ d.nodes)
    (hkind : n.kind = .dependency .identifying) : d.keys n.id ≠ [] := by
  obtain ⟨x, hx, -⟩ := h.keys_eq_of_identifying hn hkind
  rw [hx]
  exact List.cons_ne_nil x []

/-! ## Attributes -/

theorem errorsOnly_attributeNeighbor (role : AttributeKind) (n : Node) (x : Neighbor) :
    ErrorsOnly (Rule.attributeNeighbor role n x) :=
  errorsOnly_onlyIf _ n _ _

theorem errorsOnly_attributeEdge (role : AttributeKind) (n : Node) (x : Neighbor) :
    ErrorsOnly (Rule.attributeEdge role n x) :=
  errorsOnly_onlyIf _ n _ _

theorem errorsOnly_oneOwner (d : Diagram) (n : Node) : ErrorsOnly (Rule.oneOwner d n) := by
  unfold Rule.oneOwner
  split
  · exact errorsOnly_error n _ _
  · exact errorsOnly_none
  · exact errorsOnly_error n _ _

theorem errorsOnly_attributePlace (role : AttributeKind) (d : Diagram) (n : Node) :
    ErrorsOnly (Rule.attributePlace role d n) :=
  (errorsOnly_notIsolated d n).or <|
    (errorsOnly_findSome? (errorsOnly_attributeNeighbor role n) _).or <|
      (errorsOnly_findSome? (errorsOnly_attributeEdge role n) _).or <|
        (errorsOnly_onlyIf _ n _ _).or (errorsOnly_oneOwner d n)

theorem errorsOnly_leafLabel (d : Diagram) (n : Node) : ErrorsOnly (Rule.leafLabel d n) := by
  unfold Rule.leafLabel
  split
  · exact errorsOnly_none
  · split
    · exact errorsOnly_none
    · exact errorsOnly_error n _ _

theorem errorsOnly_keyNeighbor (n : Node) (x : Neighbor) : ErrorsOnly (Rule.keyNeighbor n x) := by
  unfold Rule.keyNeighbor
  split
  · exact errorsOnly_error n _ _
  · exact errorsOnly_onlyIf _ n _ _

variable {role : AttributeKind}

/-- The rule for the place of an attribute finds nothing wrong. -/
theorem Diagram.Accepted.attributePlace (h : d.Accepted) (hn : n ∈ d.nodes)
    (hkind : n.kind = .attr role) : Rule.attributePlace role d n = none := by
  have hrule := h.harmless hn
  rw [hkind] at hrule
  exact (hrule.of_or (errorsOnly_attributePlace role d n)).1

/-- An attribute is attached only to what its role allows. -/
theorem Diagram.Accepted.mayTouch (h : d.Accepted) (hn : n ∈ d.nodes) (hkind : n.kind = .attr role)
    (hx : x ∈ d.neighbors n.id) : role.mayTouch x.node.kind = true := by
  have hplace := h.attributePlace hn hkind
  unfold Rule.attributePlace at hplace
  simp only [Option.or_eq_none_iff, List.findSome?_eq_none_iff] at hplace
  have hnear := hplace.2.1 x hx
  rw [Rule.attributeNeighbor, Rule.onlyIf_eq_none_iff] at hnear
  simpa using hnear

/-- An attribute has only edges that its role allows. -/
theorem Diagram.Accepted.mayUse (h : d.Accepted) (hn : n ∈ d.nodes) (hkind : n.kind = .attr role)
    (hx : x ∈ d.neighbors n.id) : role.mayUse x.edge.kind = true := by
  have hplace := h.attributePlace hn hkind
  unfold Rule.attributePlace at hplace
  simp only [Option.or_eq_none_iff, List.findSome?_eq_none_iff] at hplace
  have hedge := hplace.2.2.1 x hx
  rw [Rule.attributeEdge, Rule.onlyIf_eq_none_iff] at hedge
  simpa using hedge

/-- A key is not optional, and no attribute has it as a member. -/
theorem Diagram.Accepted.of_mem_neighbors_key (h : d.Accepted) (hn : n ∈ d.nodes)
    (hkind : n.kind = .attr .key) (hx : x ∈ d.neighbors n.id) :
    (x.node.kind.isRoot = true → x.edge.kind ≠ .optional) ∧
      (x.node.kind.isAttribute = true → x.edge.target ≠ n.id) := by
  have hrule := h.harmless hn
  rw [hkind] at hrule
  have hrest := (hrule.of_or (errorsOnly_attributePlace .key d n)).2
  have hneighbors := (hrest.of_or (errorsOnly_findSome? (errorsOnly_keyNeighbor n) _)).1
  have hkey := List.findSome?_eq_none_iff.1 hneighbors x hx
  unfold Rule.keyNeighbor at hkey
  split at hkey
  · cases hkey
  · next hoptional =>
    rw [Rule.onlyIf_eq_none_iff, Bool.and_eq_false_iff, beq_eq_false_iff_ne] at hkey
    constructor
    · intro hroot hkind
      exact hoptional ⟨hkind, hroot⟩
    · intro hattribute
      rcases hkey with hkey | hkey
      · exact hkey
      · rw [hattribute] at hkey
        cases hkey

/-- An attribute has members only if its role allows them. -/
theorem Diagram.Accepted.members_eq_nil (h : d.Accepted) (hn : n ∈ d.nodes)
    (hkind : n.kind = .attr role) (hrole : role.mayBeComposite = false) : d.members n.id = [] := by
  have hplace := h.attributePlace hn hkind
  unfold Rule.attributePlace at hplace
  simp only [Option.or_eq_none_iff] at hplace
  have hmembers := hplace.2.2.2.1
  rw [Rule.attributeMembers, Rule.onlyIf_eq_none_iff, hrole] at hmembers
  simpa using hmembers

/-- An attribute belongs to one entity or relation. -/
theorem Diagram.Accepted.rootOwners_eq (h : d.Accepted) (hn : n ∈ d.nodes)
    (hkind : n.kind = .attr role) : ∃ id, d.rootOwners n.id = [id] := by
  have hplace := h.attributePlace hn hkind
  unfold Rule.attributePlace at hplace
  simp only [Option.or_eq_none_iff] at hplace
  have howner := hplace.2.2.2.2
  unfold Rule.oneOwner at howner
  split at howner
  · cases howner
  · next id hid => exact ⟨id, hid⟩
  · cases howner

/-- An attribute without members has a label with a name and a type. -/
theorem Diagram.Accepted.exists_typedName (h : d.Accepted) (hn : n ∈ d.nodes)
    (hkind : n.kind = .attr role) (hmembers : d.members n.id = []) : ∃ t, n.typedName = .ok t := by
  have hrule := h.harmless hn
  rw [hkind] at hrule
  have hrest := (hrule.of_or (errorsOnly_attributePlace role d n)).2
  have hleaf : Rule.leafLabel d n = none := by
    cases role with
    | plain | alternativeKey | multiValued => exact hrest.eq_none (errorsOnly_leafLabel d n)
    | key =>
      have hlast := (hrest.of_or (errorsOnly_findSome? (errorsOnly_keyNeighbor n) _)).2
      exact hlast.eq_none (errorsOnly_leafLabel d n)
    | derived =>
      have hnext := (hrest.of_or (errorsOnly_map_error _ _ _)).2
      have hlast := (hnext.of_or (errorsOnly_onlyIf _ n _ _)).2
      exact hlast.eq_none (errorsOnly_leafLabel d n)
  unfold Rule.leafLabel at hleaf
  simp only [hmembers, List.isEmpty_nil, Bool.not_true, Bool.false_eq_true, if_false] at hleaf
  split at hleaf
  · next t ht => exact ⟨t, ht⟩
  · cases hleaf

/-- A derived attribute has an expression. -/
theorem Diagram.Accepted.exists_expression (h : d.Accepted) (hn : n ∈ d.nodes)
    (hkind : n.kind = .attr .derived) : ∃ e, n.expression? = some e := by
  have hrule := h.harmless hn
  rw [hkind] at hrule
  have hrest := (hrule.of_or (errorsOnly_attributePlace .derived d n)).2
  have hnext := (hrest.of_or (errorsOnly_map_error _ _ _)).2
  have hexpression := (hnext.of_or (errorsOnly_onlyIf _ n _ _)).1
  rw [Rule.hasExpression, Rule.onlyIf_eq_none_iff] at hexpression
  cases he : n.expression? with
  | none => simp [he] at hexpression
  | some e => exact ⟨e, rfl⟩

/-! ## Specializations -/

theorem errorsOnly_specializationEdges (d : Diagram) (n : Node) :
    ErrorsOnly (Rule.specializationEdges d n) :=
  errorsOnly_map_error _ _ _

theorem errorsOnly_specializationLinks (d : Diagram) (n : Node) :
    ErrorsOnly (Rule.specializationLinks d n) := by
  unfold Rule.specializationLinks
  split
  · exact errorsOnly_error n _ _
  · exact errorsOnly_onlyIf _ n _ _

theorem errorsOnly_oneParent (d : Diagram) (n : Node) : ErrorsOnly (Rule.oneParent d n) := by
  unfold Rule.oneParent
  split
  · exact errorsOnly_error n _ _
  · exact errorsOnly_none
  · exact errorsOnly_error n _ _

/-- The edges of a specialization are plain links and constraints. -/
theorem Diagram.Accepted.edge_of_specialization (h : d.Accepted) (hn : n ∈ d.nodes)
    (hkind : n.kind.isSpecialization = true) {e : Edge} (he : e ∈ d.edgesTouching n.id) :
    e.kind = .transition ∨ e.kind.isConstraint = true := by
  have hrule := h.harmless hn
  obtain ⟨form, hk⟩ := exists_form hkind
  rw [hk] at hrule
  have hedges := ((hrule.of_or (errorsOnly_notIsolated d n)).2.of_or
    (errorsOnly_specializationEdges d n)).1
  rw [Rule.specializationEdges, Option.map_eq_none_iff, List.find?_eq_none] at hedges
  have hedge := hedges e he
  rw [Bool.and_eq_true, bne_iff_ne, Bool.not_eq_true', not_and, Bool.not_eq_false] at hedge
  exact Decidable.or_iff_not_imp_left.2 hedge

/-- The plain links of a specialization lead to entities. -/
theorem Diagram.Accepted.isEntity_of_linked (h : d.Accepted) (hn : n ∈ d.nodes)
    (hkind : n.kind.isSpecialization = true) (hx : x ∈ d.neighbors n.id)
    (hlink : x.edge.kind = .transition) : x.node.kind.isEntity = true := by
  have hrule := h.harmless hn
  obtain ⟨form, hk⟩ := exists_form hkind
  rw [hk] at hrule
  have hrest := ((hrule.of_or (errorsOnly_notIsolated d n)).2.of_or
    (errorsOnly_specializationEdges d n)).2
  have hlinks := (hrest.of_or (errorsOnly_specializationLinks d n)).1
  unfold Rule.specializationLinks at hlinks
  split at hlinks
  · cases hlinks
  · next hnone =>
    have hmem : x.node ∈ Rule.linked d n :=
      List.mem_map.2 ⟨x, List.mem_filter.2 ⟨hx, by simp [hlink]⟩, rfl⟩
    simpa using List.find?_eq_none.1 hnone x.node hmem

/-- A specialization has one parent, and no child of it is weak. -/
theorem Diagram.Accepted.parents_and_children (h : d.Accepted) (hn : n ∈ d.nodes)
    (hkind : n.kind.isSpecialization = true) :
    (∃ p, d.parents n.id = [p]) ∧ ∀ c ∈ d.children n.id, c.kind ≠ .weakEntity := by
  have hrule := h.harmless hn
  obtain ⟨form, hk⟩ := exists_form hkind
  rw [hk] at hrule
  have hlinks := ((hrule.of_or (errorsOnly_notIsolated d n)).2.of_or
    (errorsOnly_specializationEdges d n)).2
  obtain ⟨hparent, hrest⟩ :=
    (hlinks.of_or (errorsOnly_specializationLinks d n)).2.of_or (errorsOnly_oneParent d n)
  have hchildren := (hrest.of_or (errorsOnly_map_error _ _ _)).1
  constructor
  · unfold Rule.oneParent at hparent
    split at hparent
    · cases hparent
    · next hlength => exact List.length_eq_one_iff.1 hlength
    · cases hparent
  · rw [Rule.strongChildren, Option.map_eq_none_iff, List.find?_eq_none] at hchildren
    intro c hc
    simpa using hchildren c hc

end EntityRelationship
