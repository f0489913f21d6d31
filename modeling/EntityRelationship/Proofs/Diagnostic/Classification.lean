import EntityRelationship.Proofs.Diagnostic.EdgeForm
import EntityRelationship.Proofs.Diagram.CardinalityLabel

/-!
# The class of a relation

A cardinality label is read twice. The rules read its two bounds, and allow blanks between the
parts. The class of a relation is told from whether the text `..N` stands in its labels. The two
readings agree on every label that has a participation, unless blanks stand between the dots and
an upper bound `N`: such a label has no upper bound for the rules, and one for the class.

So an accepted relation is classified by the number of its ends that have no upper bound, where
ends with such a blank do not count.
-/

namespace EntityRelationship

/-! ## Two readings of a label -/

/-- Whether a blank follows the dots of a label. -/
def isSpaced (label : String) : Bool :=
  (Text.cut ".." label).any fun parts => parts.2.toList.head?.any Text.isBlank

namespace Participation

variable {label : String} {p : Participation}

/-- An upper bound starts with a character that is not blank, and with an `N` if it is one. -/
theorem IsUpperBound.exists_head {s : String} {m : Option Nat} (h : IsUpperBound s m) :
    ∃ c cs, s.toList = c :: cs ∧ Text.isBlank c = false ∧ (c = 'N' ↔ m = none) := by
  obtain ⟨c, cs, hcs⟩ := List.exists_cons_of_ne_nil h.isBoundText.ne_nil
  have hmem : c ∈ s.toList := hcs ▸ List.mem_cons_self
  refine ⟨c, cs, hcs, isBlank_of_isBoundChar (h.isBoundText.chars c hmem), ?_⟩
  cases m with
  | none =>
    obtain rfl : s = "N" := h
    exact iff_of_true (List.head_eq_of_cons_eq hcs).symm rfl
  | some m =>
    have hnumeral : Text.IsNumeral s m := h
    exact iff_of_false (fun hN => hnumeral.N_not_mem (hN ▸ hmem)) (Option.some_ne_none m)

/-- The text `..N` stands in a label exactly if an `N` follows its dots. -/
theorem isMany_iff_of_dots {low after : List Char}
    (h : label.toList = low ++ ['.', '.'] ++ after) (hlow : '.' ∉ low) (hafter : '.' ∉ after) :
    isMany label = true ↔ after.head? = some 'N' := by
  have hnone : Text.cutList ['.', '.', 'N'] ('.' :: after) = none := by
    have hprefix : ['.', '.', 'N'].isPrefixOf ('.' :: after) = false := by
      cases after with
      | nil => rfl
      | cons c after =>
        have hc : '.' ≠ c := fun hc => hafter (hc ▸ List.mem_cons_self)
        simp [List.isPrefixOf, beq_false_of_ne hc]
    rw [Text.cutList, hprefix, if_neg Bool.false_ne_true, Text.cutList_eq_none_of_not_mem hafter]
    rfl
  have hseparator : "..N".toList = ['.', '.', 'N'] := rfl
  rw [isMany, Text.occurs, h, hseparator, List.append_assoc, Text.cutList_append_of_not_mem hlow,
    Option.isSome_map, List.cons_append, List.cons_append, List.nil_append, Text.cutList, hnone]
  cases after with
  | nil => simp
  | cons c after =>
    by_cases hc : c = 'N'
    · simp [List.isPrefixOf, hc]
    · simp [List.isPrefixOf, hc, beq_false_of_ne (Ne.symm hc)]

/-- Text with blanks behind the dots is told by the first character there. -/
theorem isSpaced_of_dots {low after : List Char}
    (h : label.toList = low ++ ['.', '.'] ++ after) (hlow : '.' ∉ low) :
    isSpaced label = after.head?.any Text.isBlank := by
  have hseparator : "..".toList = ['.', '.'] := rfl
  rw [isSpaced, Text.cut, h, hseparator, Text.cutList_of_not_mem hlow]
  simp

/-- A label with a participation counts as unbounded for the class of a relation if its
participation has no upper bound and no blank follows its dots. -/
theorem isMany_iff_of_parse? (h : parse? label = some p) :
    isMany label = true ↔ p.max = none ∧ isSpaced label = false := by
  obtain ⟨-, low, high, hgives, hlow, hhigh⟩ := parse?_eq_some_iff.1 h
  obtain ⟨front, blanks, rest, hlabel, hfront, hback, hblanks⟩ := hgives.exists_dots
  have hbefore : '.' ∉ front :=
    hfront.not_mem (by decide) ((isBoundText_of_isNumeral hlow).not_mem (by decide))
  have hafter : '.' ∉ blanks ++ high.toList ++ rest :=
    hback.not_mem (by decide) (hhigh.isBoundText.not_mem (by decide))
  obtain ⟨c, cs, hcs, hblank, hc⟩ := hhigh.exists_head
  rw [isMany_iff_of_dots hlabel hbefore hafter, isSpaced_of_dots hlabel hbefore, ← hc, hcs]
  cases blanks with
  | nil => simp [hblank]
  | cons b blanks =>
    have hb : Text.isBlank b = true := hblanks b List.mem_cons_self
    have hN : b ≠ 'N' := by
      rintro rfl
      revert hb
      decide
    simp [hb, hN]

end Participation

/-! ## Ends without an upper bound -/

/-- Whether the participation of an edge has no upper bound. -/
def Edge.isUnbounded (e : Edge) : Bool :=
  e.participation?.any (·.max.isNone)

/-- The class of a relation by the number of its ends without an upper bound. -/
def Cardinality.ofUnbounded : Nat → Cardinality
  | 0 => oneToOne
  | 1 => oneToMany
  | _ => manyToMany

namespace Diagram

variable {d : Diagram} {n : Node}

/-- The edges by which entities take part in a relation. -/
def participations (d : Diagram) (relation : String) : List Edge :=
  (d.edgesTouching relation).filter (·.kind == .weighted)

/-- The class of a relation with weighted edges goes by the number of labels that count as
unbounded. -/
theorem cardinality_eq_ofUnbounded (h : d.participations n.id ≠ []) :
    d.cardinality n.id =
      .ofUnbounded ((d.participations n.id).countP fun e => isMany e.cardinalityLabel) := by
  have hlabels : (d.participations n.id).map (·.cardinalityLabel) ≠ [] := by
    rwa [Ne, List.map_eq_nil_iff]
  have hcount : ((d.participations n.id).map (·.cardinalityLabel)).countP isMany =
      (d.participations n.id).countP fun e => isMany e.cardinalityLabel := by
    rw [List.countP_map]
    rfl
  rw [cardinality, Cardinality.ofLabels, ← participations, if_neg hlabels, hcount]
  rfl

/-- In an accepted diagram the ends of a relation are what its weighted edges lead to. -/
theorem Accepted.isEntity_iff_weighted (h : d.Accepted) (hd : d.DistinctIds) (hn : n ∈ d.nodes)
    (hkind : n.kind.isRelation = true) {x : Neighbor} (hx : x ∈ d.neighbors n.id) :
    x.node.kind.isEntity = true ↔ x.edge.kind = .weighted := by
  have hfound := node?_of_mem hd hn
  constructor
  · intro hentity
    have hback := neighbor_symm hfound hx
    exact (h.of_mem_neighbors_entity (mem_nodes_of_mem_neighbors hx) hentity hback).2 hkind
  · intro hweighted
    rcases h.joins_of_neighbor hfound hx with hjoins | hjoins
    · have hentity := (hjoins.of_weighted hweighted).1
      cases hk : n.kind <;> simp_all [NodeKind.isEntity, NodeKind.isRelation]
    · exact (hjoins.of_weighted hweighted).1

/-- A relation has weighted edges. -/
theorem Accepted.participations_ne_nil (h : d.Accepted) (hd : d.DistinctIds) (hn : n ∈ d.nodes)
    (hkind : n.kind.isRelation = true) : d.participations n.id ≠ [] := by
  have hends := h.two_le_length_entityEnds hn hkind
  obtain ⟨x, hx⟩ := List.exists_mem_of_length_pos (Nat.lt_of_lt_of_le Nat.zero_lt_two hends)
  obtain ⟨hnear, hentity⟩ := mem_entityEnds_iff.1 hx
  have hweighted := (h.isEntity_iff_weighted hd hn hkind hnear).1 hentity
  exact List.ne_nil_of_mem
    (List.mem_filter.2 ⟨edge_mem_edgesTouching hnear, beq_iff_eq.2 hweighted⟩)

/-- A relation takes part in the schema: it has a class. -/
theorem Accepted.cardinality_ne_unrelated (h : d.Accepted) (hd : d.DistinctIds) (hn : n ∈ d.nodes)
    (hkind : n.kind.isRelation = true) : d.cardinality n.id ≠ .unrelated := by
  rw [cardinality_eq_ofUnbounded (h.participations_ne_nil hd hn hkind)]
  unfold Cardinality.ofUnbounded
  split <;> simp

/-- In a closed diagram an id has a neighbor along each of its edges. -/
theorem map_edge_neighbors (hclosed : d.Closed) (id : String) :
    (d.neighbors id).map (·.edge) = d.edgesTouching id := by
  have halong : ∀ e ∈ d.edgesTouching id,
      (d.neighborAlong? id e).map (·.edge) = some e := by
    intro e he
    obtain ⟨hmem, htouches⟩ := List.mem_filter.1 he
    obtain ⟨hsource, htarget⟩ := hclosed e hmem
    rw [← Edge.isSome_otherEnd?, Option.isSome_iff_exists] at htouches
    obtain ⟨other, hother⟩ := htouches
    have hnode : (d.node? other).isSome = true := by
      rcases otherEnd?_eq hother with rfl | rfl
      · exact htarget
      · exact hsource
    obtain ⟨m, hm⟩ := Option.isSome_iff_exists.1 hnode
    simp [neighborAlong?, hother, hm]
  rw [neighbors, List.map_filterMap, List.filterMap_congr halong, List.filterMap_some]

/-- The ends of a relation are reached by its weighted edges, all of them and in their order. -/
theorem Accepted.map_edge_entityEnds (h : d.Accepted) (hd : d.DistinctIds) (hclosed : d.Closed)
    (hn : n ∈ d.nodes) (hkind : n.kind.isRelation = true) :
    (d.entityEnds n.id).map (·.edge) = d.participations n.id := by
  have hsame : d.entityEnds n.id = (d.neighbors n.id).filter (·.edge.kind == .weighted) := by
    refine List.filter_congr fun x hx => ?_
    rw [Bool.eq_iff_iff, h.isEntity_iff_weighted hd hn hkind hx, beq_iff_eq]
  rw [hsame, participations, ← map_edge_neighbors hclosed, List.filter_map]
  rfl

/-- What a label counts for in the class of an accepted relation is told from its participation. -/
theorem Accepted.isMany_eq (h : d.Accepted) (hn : n ∈ d.nodes) (hkind : n.kind.isRelation = true)
    {e : Edge} (he : e ∈ d.participations n.id) :
    isMany e.cardinalityLabel = (e.isUnbounded && !isSpaced e.cardinalityLabel) := by
  obtain ⟨hmem, hweighted⟩ := List.mem_filter.1 he
  obtain ⟨p, hp⟩ := Option.isSome_iff_exists.1
    (h.isSome_participation? hn hkind hmem (beq_iff_eq.1 hweighted))
  rw [Bool.eq_iff_iff, Participation.isMany_iff_of_parse? hp, Edge.isUnbounded, hp]
  simp

/-- The class of an accepted relation is told from the participations of its weighted edges. -/
theorem Accepted.cardinality_eq (h : d.Accepted) (hd : d.DistinctIds) (hn : n ∈ d.nodes)
    (hkind : n.kind.isRelation = true) :
    d.cardinality n.id = .ofUnbounded ((d.participations n.id).countP fun e =>
      e.isUnbounded && !isSpaced e.cardinalityLabel) := by
  rw [cardinality_eq_ofUnbounded (h.participations_ne_nil hd hn hkind)]
  refine congrArg _ (List.countP_congr fun e he => ?_)
  rw [h.isMany_eq hn hkind he]

/-- A label that has a participation counts as unbounded if the participation has no upper bound
and no blank follows the dots, and an accepted relation is `N:M`, `1:N` or `1:1` if at least two,
one or none of its weighted edges count so. Without such blanks it is the number of edges whose
participation has no upper bound. In a closed diagram these edges are those to the ends of the
relation. -/
theorem isMany_and_cardinality_of_participations (d : Diagram) :
    (∀ label p, Participation.parse? label = some p →
      (isMany label = true ↔ p.max = none ∧ isSpaced label = false)) ∧
    (d.Accepted → d.DistinctIds → ∀ n ∈ d.nodes, n.kind.isRelation = true →
      d.cardinality n.id = .ofUnbounded ((d.participations n.id).countP fun e =>
        e.isUnbounded && !isSpaced e.cardinalityLabel) ∧
      ((∀ e ∈ d.participations n.id, e.isUnbounded = true → isSpaced e.cardinalityLabel = false) →
        d.cardinality n.id = .ofUnbounded ((d.participations n.id).countP (·.isUnbounded))) ∧
      (d.Closed → (d.entityEnds n.id).map (·.edge) = d.participations n.id)) := by
  refine ⟨fun label p hp => Participation.isMany_iff_of_parse? hp, ?_⟩
  intro h hd n hn hkind
  have hcardinality := h.cardinality_eq hd hn hkind
  refine ⟨hcardinality, fun hspaced => ?_, fun hclosed =>
    h.map_edge_entityEnds hd hclosed hn hkind⟩
  rw [hcardinality]
  refine congrArg _ (List.countP_congr fun e he => ?_)
  cases hunbounded : e.isUnbounded with
  | false => simp
  | true => simp [hspaced e he hunbounded]

theorem isMany_and_cardinality_clinic :
    Participation.parse? " ( 2 ..N ) " = some ⟨2, none⟩ ∧ isMany " ( 2 ..N ) " = true ∧
      clinic.Accepted ∧ clinic.DistinctIds ∧ clinic.Closed ∧
      clinic.cardinality "refers" = .ofUnbounded 2 ∧
      (clinic.entityEnds "refers").map (·.edge) = clinic.participations "refers" := by
  have hparse : Participation.parse? " ( 2 ..N ) " = some ⟨2, none⟩ := by decide +kernel
  have hdistinct : clinic.DistinctIds := by decide +kernel
  have hclosed : clinic.Closed := by decide +kernel
  obtain ⟨hmany, hclass⟩ := isMany_and_cardinality_of_participations clinic
  obtain ⟨-, hcardinality, hends⟩ := hclass accepted_clinic hdistinct
    ⟨"refers", .relation, "refers", none⟩ (by decide +kernel) rfl
  exact ⟨hparse, (hmany _ _ hparse).2 ⟨rfl, by decide +kernel⟩, accepted_clinic, hdistinct, hclosed,
    hcardinality (by decide +kernel), hends hclosed⟩

/-- Authors and the books that they write, each by one author. In the label that lets an author
write any number of books a blank follows the dots. -/
def authorship : Diagram where
  nodes := [
    ⟨"a", .entity, "Author", none⟩,
    ⟨"ak", .attr .key, "id:INTEGER", none⟩,
    ⟨"b", .entity, "Book", none⟩,
    ⟨"bk", .attr .key, "isbn:TEXT", none⟩,
    ⟨"w", .relation, "writes", none⟩]
  edges := [
    ⟨"edge-1", .transition, "a", "ak", none⟩,
    ⟨"edge-2", .transition, "b", "bk", none⟩,
    ⟨"edge-3", .weighted, "a", "w", some "(0.. N)"⟩,
    ⟨"edge-4", .weighted, "w", "b", some "(1..1)"⟩]

/-- The two readings of a label can disagree in a diagram about which there is no diagnostic. One
end of the relation has no upper bound, and still the relation is not `1:N`. -/
theorem cardinality_authorship :
    Participation.parse? "(0.. N)" = some ⟨0, none⟩ ∧ isMany "(0.. N)" = false ∧
      authorship.validate = [] ∧ authorship.DistinctIds ∧ authorship.checkReferences = .ok () ∧
      (authorship.entityEnds "w").countP (·.edge.isUnbounded) = 1 ∧
      authorship.cardinality "w" = .oneToOne := by
  decide +kernel

end Diagram

end EntityRelationship
