import EntityRelationship.Diagram.Identity
import EntityRelationship.Proofs.Diagram.Redrawing
import EntityRelationship.Proofs.Outcome

/-!
# The orientation of dependencies

Two entities at the ends of a dependency do not look alike: one of them depends on the other. It is
weak, and if the other one is weak as well, its edge is the only one that leaves the relation. This
cannot hold in both directions, and so it does not matter which end is listed first.

The owner is reached in two ways, as the end that is not the dependent one and as the entity beside
a known one. From the dependent both lead to the same entity.
-/

namespace EntityRelationship.Diagram

open Outcome

variable {d : Diagram} {id id' relation : String} {a b : Neighbor} {ends : DependencyEnds}
  {n r owner : Node}

/-! ## Dependence -/

/-- Of two ends of a relation the first depends on the second. -/
structure DependsOn (relation : String) (a b : Neighbor) : Prop where
  ne : a.node.id ≠ b.node.id
  weak : a.node.kind = .weakEntity
  outward : b.node.kind = .weakEntity → a.edge.source = relation ∧ b.edge.source ≠ relation

/-- Of two ends the dependent one is the one that depends on the other. -/
theorem pairEnds_eq_some_iff :
    Redraws.pairEnds relation a b = some ends ↔
      DependsOn relation a b ∧ ends = ⟨b.node, a.node⟩ ∨
        DependsOn relation b a ∧ ends = ⟨a.node, b.node⟩ := by
  simp only [Redraws.pairEnds, Bool.and_eq_true, Bool.not_eq_true', beq_iff_eq, beq_eq_false_iff_ne]
  constructor
  · intro h
    -- the first two sides are told apart by the edges, the others by the kinds
    split_ifs at h with hid hout hout' hweak hweak'
    · obtain ⟨⟨ha, hb⟩, hweak⟩ := hout
      exact .inl ⟨⟨hid, hweak, fun _ => ⟨ha, hb⟩⟩, (Option.some.inj h).symm⟩
    · obtain ⟨⟨hb, ha⟩, hweak⟩ := hout'
      exact .inr ⟨⟨Ne.symm hid, hweak, fun _ => ⟨hb, ha⟩⟩, (Option.some.inj h).symm⟩
    · exact .inl ⟨⟨hid, hweak.1, fun hb => absurd hb hweak.2⟩, (Option.some.inj h).symm⟩
    · exact .inr ⟨⟨Ne.symm hid, hweak'.1, fun ha => absurd ha hweak'.2⟩, (Option.some.inj h).symm⟩
  · rintro (⟨⟨hne, hweak, houtward⟩, rfl⟩ | ⟨⟨hne, hweak, houtward⟩, rfl⟩)
    · by_cases hb : b.node.kind = .weakEntity
      · simp [hne, hweak, houtward hb]
      · simp [hne, hweak, hb]
    · by_cases ha : a.node.kind = .weakEntity
      · simp [hne.symm, hweak, houtward ha]
      · simp [hne.symm, hweak, ha]

/-- A relation has a dependent exactly if its ends are two, in either order, of which one depends on
the other. -/
theorem dependencyEnds?_eq_some_iff :
    d.dependencyEnds? relation = some ends ↔
      ∃ a b, (d.entityEnds relation = [a, b] ∨ d.entityEnds relation = [b, a]) ∧
        DependsOn relation a b ∧ ends = ⟨b.node, a.node⟩ := by
  constructor
  · intro h
    obtain ⟨a, b, hab, -, -⟩ := of_dependencyEnds? h
    rw [Redraws.dependencyEnds?_of_pair hab, pairEnds_eq_some_iff] at h
    rcases h with ⟨h, hends⟩ | ⟨h, hends⟩
    · exact ⟨a, b, .inl hab, h, hends⟩
    · exact ⟨b, a, .inr hab, h, hends⟩
  · rintro ⟨a, b, hab | hab, h, hends⟩
    · rw [Redraws.dependencyEnds?_of_pair hab, pairEnds_eq_some_iff]
      exact .inl ⟨h, hends⟩
    · rw [Redraws.dependencyEnds?_of_pair hab, pairEnds_eq_some_iff]
      exact .inr ⟨h, hends⟩

/-! ## Dependents and owners -/

/-- A dependency has one dependent. -/
theorem eq_of_mem_dependencies (h : r ∈ d.dependencies id) (h' : r ∈ d.dependencies id') :
    id = id' := by
  obtain ⟨ends, hends, rfl⟩ := exists_dependencyEnds_of_mem h
  obtain ⟨ends', hends', rfl⟩ := exists_dependencyEnds_of_mem h'
  rw [hends, Option.some.injEq] at hends'
  rw [hends']

/-- An entity that has a dependency is weak, and it is the dependent. -/
theorem exists_owner_of_mem_dependencies (hd : d.DistinctIds) (hn : n ∈ d.nodes)
    (h : r ∈ d.dependencies n.id) :
    n.kind = .weakEntity ∧ ∃ owner, d.dependencyEnds? r.id = some ⟨owner, n⟩ := by
  obtain ⟨⟨owner, dependent⟩, hends, hid⟩ := exists_dependencyEnds_of_mem h
  obtain ⟨hr, hkind, -⟩ := of_mem_dependencies h
  obtain ⟨hdependent, hweak, -⟩ := dependent_of_dependencyEnds? hd hr hkind hends
  obtain rfl : dependent = n := eq_of_id_eq hd hdependent hn hid
  exact ⟨hweak, owner, hends⟩

/-- The identity of a weak entity is built on the entity beside it in its dependency. -/
theorem exists_of_identitySource_weak (hkind : n.kind = .weakEntity)
    (hr : d.dependency? n.id = some r) (howner : d.otherEntity r.id n.id = .ok owner)
    {source : IdentitySource} (hs : d.identitySource n = .ok source) :
    ∃ partialKey, source = .dependent r owner partialKey := by
  simp only [identitySource, hkind, hr, howner, ok_bind] at hs
  split at hs
  · cases hs
    exact ⟨none, rfl⟩
  · split at hs <;> cases hs
    next key hkey => exact ⟨some key, rfl⟩

/-- A relation that has a dependent has two entity ends and no more, the owner and the dependent,
which differ, and the dependent is weak. The order of the nodes and edges makes no difference to the
two. An entity that has a dependency is weak and the dependent of it; the entity beside it is the
owner, and so is the one on which its identity is built, if it has an identity. No two entities have
the same dependency. -/
theorem dependencyEnds?_oriented (hd : d.DistinctIds) :
    (∀ relation ends, d.dependencyEnds? relation = some ends →
      ∃ a b, (d.entityEnds relation = [a, b] ∨ d.entityEnds relation = [b, a]) ∧
        ends.dependent = a.node ∧ ends.owner = b.node ∧ ends.owner.id ≠ ends.dependent.id ∧
          ends.dependent.kind = .weakEntity) ∧
    (∀ d', d.Redraws d' → ∀ relation, d'.dependencyEnds? relation = d.dependencyEnds? relation) ∧
    (∀ w ∈ d.nodes, ∀ r, d.dependency? w.id = some r →
      w.kind = .weakEntity ∧ ∃ owner, d.dependencyEnds? r.id = some ⟨owner, w⟩ ∧
        d.otherEntity r.id w.id = .ok owner ∧
          ∀ source, d.identitySource w = .ok source →
            ∃ partialKey, source = .dependent r owner partialKey) ∧
    ∀ r, ∀ w ∈ d.nodes, ∀ w' ∈ d.nodes, r ∈ d.dependencies w.id → r ∈ d.dependencies w'.id →
      w = w' := by
  refine ⟨?_, ?_, ?_, ?_⟩
  · intro relation ends hends
    obtain ⟨a, b, hab, hdepends, rfl⟩ := dependencyEnds?_eq_some_iff.1 hends
    exact ⟨a, b, hab, rfl, rfl, hdepends.ne.symm, hdepends.weak⟩
  · intro d' hredraws relation
    exact (hredraws.dependencyEnds?_eq relation).symm
  · intro w hw r hr
    obtain ⟨hweak, owner, hends⟩ :=
      exists_owner_of_mem_dependencies hd hw (List.mem_of_mem_head? hr)
    have howner := otherEntity_of_dependencyEnds? hends
    refine ⟨hweak, owner, hends, howner, fun source hsource => ?_⟩
    exact exists_of_identitySource_weak hweak hr howner hsource
  · intro r w hw w' hw' hr hr'
    exact eq_of_id_eq hd hw hw' (eq_of_mem_dependencies hr hr')

/-- A building has floors, and a floor has rooms. A room and its floor are both weak, and of the two
only the edge to the room leaves the dependency. -/
def rooms : Diagram where
  nodes := [
    ⟨"b", .entity, "Building", none⟩,
    ⟨"bk", .attr .key, "street:TEXT", none⟩,
    ⟨"has", .dependency .identifying, "has", none⟩,
    ⟨"hk", .attr .key, "level:INTEGER", none⟩,
    ⟨"f", .weakEntity, "Floor", none⟩,
    ⟨"of", .dependency .identifying, "of", none⟩,
    ⟨"ok", .attr .key, "door:INTEGER", none⟩,
    ⟨"r", .weakEntity, "Room", none⟩]
  edges := [
    ⟨"e1", .transition, "b", "bk", none⟩,
    ⟨"e2", .weighted, "b", "has", some "(1..1)"⟩,
    ⟨"e3", .weighted, "has", "f", some "(0..N)"⟩,
    ⟨"e4", .transition, "has", "hk", none⟩,
    ⟨"e5", .weighted, "of", "r", some "(0..N)"⟩,
    ⟨"e6", .weighted, "f", "of", some "(1..1)"⟩,
    ⟨"e7", .transition, "of", "ok", none⟩]

/-- A room depends on its floor, and the floor on the building, in whatever order they are drawn. -/
theorem dependencyEnds?_rooms :
    rooms.DistinctIds ∧
      rooms.turned.dependencyEnds? "of" =
        some ⟨⟨"f", .weakEntity, "Floor", none⟩, ⟨"r", .weakEntity, "Room", none⟩⟩ ∧
      ∃ owner, rooms.dependencyEnds? "has" = some ⟨owner, ⟨"f", .weakEntity, "Floor", none⟩⟩ ∧
        rooms.otherEntity "has" "f" = .ok owner := by
  have hdistinct : rooms.DistinctIds := by decide
  obtain ⟨-, hturned, hweak, -⟩ := dependencyEnds?_oriented hdistinct
  refine ⟨hdistinct, ?_, ?_⟩
  · rw [hturned rooms.turned (redraws_turned hdistinct)]
    decide +kernel
  · obtain ⟨-, owner, hends, howner, -⟩ := hweak ⟨"f", .weakEntity, "Floor", none⟩ (by decide)
      ⟨"has", .dependency .identifying, "has", none⟩ (by decide +kernel)
    exact ⟨owner, hends, howner⟩

end EntityRelationship.Diagram
