import EntityRelationship.Proofs.Diagram.Chain
import EntityRelationship.Proofs.Diagram.Copy

/-!
# Identities in a copy

What is computed from a diagram with the possibility of a fault is computed from its copy with the
same result, under the new ids. If the one fails, so does the other, and the faults differ only in
the ids that they name. Identity columns name no ids, so in a copy they are the same columns.
-/

namespace EntityRelationship

open Diagram Outcome

/-! ## Renamed results -/

section Renamed

variable (ρ : Renaming)

/-- A fault under the new ids. -/
def SynthesisFault.renamed : SynthesisFault → SynthesisFault
  | danglingEdge edge node => danglingEdge (ρ.edge edge) (ρ.node node)
  | unknownNode id => unknownNode (ρ.node id)
  | notAnEntity id => notAnEntity (ρ.node id)
  | missingPrimaryKey entity => missingPrimaryKey (ρ.node entity)
  | malformedLabel node label => malformedLabel (ρ.node node) label
  | missingParent specialization => missingParent (ρ.node specialization)
  | missingDependency entity => missingDependency (ρ.node entity)
  | identityCycle entity => identityCycle (ρ.node entity)
  | missingEquation node => missingEquation (ρ.node node)
  | tooFewEntities relation => tooFewEntities (ρ.node relation)

/-- The source of an identity under the new ids. -/
def IdentitySource.renamed : IdentitySource → IdentitySource
  | ownKey key => ownKey (key.renamed ρ)
  | dependent relation owner partialKey =>
    dependent (relation.renamed ρ) (owner.renamed ρ) (partialKey.map (·.renamed ρ))
  | subclass specialization parent => subclass (specialization.renamed ρ) (parent.renamed ρ)

/-- A lineage under the new ids. -/
def Lineage.renamed : Lineage → Lineage
  | root entity key => root (entity.renamed ρ) (key.renamed ρ)
  | weak entity partialKey owner =>
    weak (entity.renamed ρ) (partialKey.map (·.renamed ρ)) owner.renamed
  | subclass entity parent => subclass (entity.renamed ρ) parent.renamed

/-- A column is named abroad after the label of its entity. -/
@[simp] theorem Lineage.abroad_renamed (l : Lineage) : (l.renamed ρ).abroad = l.abroad := by
  cases l <;> rfl

/-- Two computations have related values, or one fails with the fault of the other under the new
ids. -/
abbrev Renaming.Carries {α β : Type} (R : α → β → Prop) :
    Except SynthesisFault α → Except SynthesisFault β → Prop :=
  Related (fun e f => f = e.renamed ρ) R

/-- The name and type in a label have nothing to do with ids. -/
theorem Node.carries_typedName (n : Node) : ρ.Carries Eq n.typedName (n.renamed ρ).typedName := by
  simp only [typedName, label_renamed, id_renamed]
  cases Text.cut ":" n.label with
  | none => exact .error rfl
  | some parts =>
    obtain ⟨before, after⟩ := parts
    dsimp only
    split
    · exact .error rfl
    · exact .ok rfl

end Renamed

theorem SynthesisFault.renamed_refl (f : SynthesisFault) : f.renamed .refl = f := by
  cases f <;> rfl

namespace Diagram

variable {ρ : Renaming} {p d : Diagram} {id known : String} {n r : Node} {l : Lineage}

theorem hasNode_of_primaryKey? (hn : p.primaryKey? id = some n) : p.hasNode n.id = true :=
  hasNode_of_node? (of_primaryKey? hn).1

theorem hasNode_of_parent? (hn : p.parent? id = some n) : p.hasNode n.id = true :=
  hasNode_of_node? (of_parent? hn).1

theorem hasNode_of_specializationAbove? (hn : p.specializationAbove? id = some n) :
    p.hasNode n.id = true :=
  hasNode_of_node? (of_mem_specializationsAbove (List.mem_of_mem_head? hn)).1

theorem hasNode_of_dependency? (hr : p.dependency? id = some r) : p.hasNode r.id = true :=
  hasNode_iff.2 ⟨r, (of_mem_dependencies (List.mem_of_mem_head? hr)).1, rfl⟩

namespace Copy

/-! ## Sources of identity -/

theorem carries_leafColumns (h : Copy ρ p d) (hn : p.hasNode n.id = true) :
    ρ.Carries Eq (p.leafColumns n) (d.leafColumns (n.renamed ρ)) := by
  rw [leafColumns, leafColumns, h.leaves_eq hn]
  exact Related.mapM fun leaf _ => leaf.carries_typedName ρ

theorem carries_otherEntity (h : Copy ρ p d) (hid : p.hasNode id = true)
    (hknown : p.hasNode known = true) :
    ρ.Carries (fun n m => m = n.renamed ρ) (p.otherEntity id known)
      (d.otherEntity (ρ.node id) (ρ.node known)) := by
  have hends : ((p.entityEnds id).map (·.renamed ρ)).map (·.node) =
      ((p.entityEnds id).map (·.node)).map (·.renamed ρ) := by
    simp only [List.map_map]
    rfl
  have hnodes : ∀ n ∈ (p.entityEnds id).map (·.node), p.hasNode n.id = true := by
    intro n hn
    obtain ⟨x, hx, rfl⟩ := List.mem_map.1 hn
    exact hasNode_of_mem_neighbors (mem_entityEnds_iff.1 hx).1
  simp only [otherEntity, h.entityEnds_eq hid, hends, List.length_map]
  split
  · exact .error rfl
  · have hother := find?_map_eq (i := (·.renamed ρ)) (f := (·.id != known))
      (g := (·.id != ρ.node known)) fun n hn => h.bne_eq (hnodes n hn) hknown
    have hself := find?_map_eq (i := (·.renamed ρ)) (f := (·.id == known))
      (g := (·.id == ρ.node known)) fun n hn => h.beq_eq (hnodes n hn) hknown
    rw [hother, hself, ← Option.map_or]
    split
    · next n hfound =>
      rw [hfound]
      exact .ok rfl
    · next hnone =>
      rw [hnone]
      exact .error rfl

theorem dependency?_eq (h : Copy ρ p d) (hid : p.hasNode id = true) :
    d.dependency? (ρ.node id) = (p.dependency? id).map (·.renamed ρ) := by
  rw [dependency?, dependency?, h.dependencies_eq hid, List.head?_map]

theorem partialKey?_eq (h : Copy ρ p d) (hr : p.hasNode r.id = true) (hid : p.hasNode id = true) :
    d.partialKey? (r.renamed ρ) (ρ.node id) = (p.partialKey? r id).map (·.renamed ρ) := by
  have hkind : (r.renamed ρ).kind = r.kind := rfl
  rw [partialKey?, partialKey?, hkind]
  split
  · exact h.primaryKey?_eq hr
  · exact h.primaryKey?_eq hid

/-- The identity of an entity has the same source in the copy. -/
theorem carries_identitySource (h : Copy ρ p d) (hn : p.hasNode n.id = true) :
    ρ.Carries (fun s s' => s' = s.renamed ρ) (p.identitySource n)
      (d.identitySource (n.renamed ρ)) := by
  simp only [identitySource, Node.kind_renamed, Node.id_renamed]
  cases n.kind with
  | entity =>
    simp only [h.specializationAbove?_eq hn]
    cases habove : p.specializationAbove? n.id with
    | none =>
      simp only [Option.map_none, h.primaryKey?_eq hn]
      cases p.primaryKey? n.id with
      | none => exact .error rfl
      | some key => exact .ok rfl
    | some specialization =>
      simp only [Option.map_some, Node.id_renamed,
        h.parent?_eq (hasNode_of_specializationAbove? habove)]
      cases p.parent? specialization.id with
      | none => exact .error rfl
      | some parent => exact .ok rfl
  | weakEntity =>
    simp only [h.dependency?_eq hn]
    cases hdependency : p.dependency? n.id with
    | none => exact .error rfl
    | some relation =>
      have hr := hasNode_of_dependency? hdependency
      have hcardinality : d.cardinality (relation.renamed ρ).id = p.cardinality relation.id :=
        h.cardinality_eq hr
      simp only [Option.map_some, hcardinality]
      refine (h.carries_otherEntity hr hn).bind fun owner owner' _ howner => ?_
      subst howner
      split
      · exact .ok rfl
      · rw [h.partialKey?_eq hr hn]
        cases p.partialKey? relation n.id with
        | none => exact .error rfl
        | some key => exact .ok rfl
  | relation | dependency _ | specialization _ | attr _ => exact .error rfl

/-! ## Lineages -/

/-- The lineage of an entity is copied. -/
theorem carries_lineageFrom (h : Copy ρ p d) {visited : List String} (hid : p.hasNode id = true)
    (hvisited : ∀ v ∈ visited, p.hasNode v = true) :
    ρ.Carries (fun l l' => l' = l.renamed ρ) (p.lineageFrom visited id)
      (d.lineageFrom (visited.map ρ.node) (ρ.node id)) := by
  induction visited, id using lineageFrom.induct p with
  | case1 visited id hnone =>
    rw [hasNode, hnone] at hid
    cases hid
  | case2 visited id n hn hv =>
    rw [lineageFrom_of_mem hn hv,
      lineageFrom_of_mem (h.node?_renamed hn) (List.mem_map_of_mem hv)]
    exact .error rfl
  | case3 visited id n hn hv ih =>
    have hvisited' : ∀ v ∈ id :: visited, p.hasNode v = true := by
      intro v hmem
      rcases List.mem_cons.1 hmem with rfl | hmem
      · exact hid
      · exact hvisited v hmem
    rw [lineageFrom_of_not_mem hn hv, lineageFrom_of_not_mem (h.node?_renamed hn)
      ((h.mem_map_iff hid hvisited).not.2 hv)]
    refine (h.carries_identitySource (hasNode_of_node? hn)).bind fun s s' hs hs' => ?_
    subst hs'
    cases s with
    | ownKey key => exact .ok rfl
    | dependent relation owner partialKey =>
      have howner := hasNode_of_node? (of_base? hs rfl).1
      refine (ih owner howner hvisited').bind fun l l' _ hl => ?_
      exact .ok (by rw [hl]; rfl)
    | subclass specialization parent =>
      have hparent := hasNode_of_node? (of_base? hs rfl).1
      refine (ih parent hparent hvisited').bind fun l l' _ hl => ?_
      exact .ok (by rw [hl]; rfl)

theorem carries_lineage (h : Copy ρ p d) (hid : p.hasNode id = true) :
    ρ.Carries (fun l l' => l' = l.renamed ρ) (p.lineage id) (d.lineage (ρ.node id)) := by
  have hvisited : ∀ v ∈ ([] : List String), p.hasNode v = true :=
    fun _ hv => absurd hv List.not_mem_nil
  exact h.carries_lineageFrom hid hvisited

/-! ## Identity columns -/

theorem carries_partialColumns (h : Copy ρ p d) {relation owner : Node} {partialKey : Option Node}
    (hs : p.identitySource n = .ok (.dependent relation owner partialKey)) :
    ρ.Carries Eq (partialKey.elim (.ok []) p.leafColumns)
      ((partialKey.map (·.renamed ρ)).elim (.ok []) d.leafColumns) := by
  cases partialKey with
  | none => exact .ok rfl
  | some key => exact h.carries_leafColumns (hasNode_of_primaryKey? (partialKey?_of_dependent hs))

/-- Lineages give the same identity columns. -/
theorem carries_identityOf (h : Copy ρ p d) (hl : p.Descends n l) :
    ρ.Carries Eq (p.identityOf l) (d.identityOf (l.renamed ρ)) := by
  induction hl with
  | root hs => exact h.carries_leafColumns (hasNode_of_primaryKey? (primaryKey?_of_ownKey hs))
  | weak hs _ ih =>
    refine ih.bind_eq fun inherited _ => ?_
    refine (h.carries_partialColumns hs).bind_eq fun own _ => ?_
    rw [Lineage.abroad_renamed]
    exact .ok rfl
  | subclass hs _ ih =>
    refine ih.bind_eq fun inherited _ => ?_
    rw [Lineage.abroad_renamed]
    exact .ok rfl

theorem carries_identityColumns (h : Copy ρ p d) (hid : p.hasNode id = true) :
    ρ.Carries Eq (p.identityColumns id) (d.identityColumns (ρ.node id)) := by
  obtain ⟨n, hn⟩ := Option.isSome_iff_exists.1 hid
  refine (h.carries_lineage hid).bind fun l l' hl hl' => ?_
  subst hl'
  exact h.carries_identityOf (descends_of_lineageFrom hn hl)

/-- Other tables refer to an entity by the same columns. -/
theorem carries_foreignKeyColumns (h : Copy ρ p d) (hid : p.hasNode id = true) :
    ρ.Carries Eq (p.foreignKeyColumns id) (d.foreignKeyColumns (ρ.node id)) := by
  obtain ⟨n, hn⟩ := Option.isSome_iff_exists.1 hid
  refine (h.carries_lineage hid).bind fun l l' hl hl' => ?_
  subst hl'
  refine (h.carries_identityOf (descends_of_lineageFrom hn hl)).bind_eq fun columns _ => ?_
  rw [Lineage.abroad_renamed]
  exact .ok rfl

end Copy

end Diagram

end EntityRelationship
