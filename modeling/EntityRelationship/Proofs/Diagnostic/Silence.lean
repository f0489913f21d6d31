import EntityRelationship.Proofs.Diagnostic.Resolution

/-!
# What silence says

A diagram about which there is no diagnostic at all is accepted, and more: nothing in it is ignored
that the rules warn about. Here this is said of keys. The primary key of an entity or relation is
always part of an identity: its own, that of the weak entity which depends on its owner through the
relation, or that of the rows in the relation's table.
-/

namespace EntityRelationship

open Outcome Diagram

variable {d : Diagram} {k n r : Node}

/-- No rule has anything to say about a node. -/
theorem Diagram.rule_eq_none (h : d.validate = []) (hn : n ∈ d.nodes) : n.kind.rule d n = none := by
  rw [validate, List.append_eq_nil_iff, List.filterMap_eq_nil_iff] at h
  exact h.1 n hn

theorem Diagram.accepted_of_validate_eq_nil (h : d.validate = []) : d.Accepted := by
  rw [Accepted, h]
  exact fun x hx => absurd hx List.not_mem_nil

namespace Diagram

/-- A primary key is one of the keys. -/
theorem keys_ne_nil_of_primaryKey? {id : String} (hk : d.primaryKey? id = some k) :
    d.keys id ≠ [] := by
  rw [ne_eq, ← primaryKey?_eq_none_iff, hk]
  exact Option.some_ne_none k

/-! ## Strong entities -/

/-- A strong entity with a key is a member of no parent. -/
theorem specializationsAbove_eq_nil (h : d.validate = []) (hn : n ∈ d.nodes)
    (hkind : n.kind = .entity) (hkeys : d.keys n.id ≠ []) : d.specializationsAbove n.id = [] := by
  have hrule := rule_eq_none h hn
  rw [hkind] at hrule
  have hidentity : Rule.strongIdentity d n = none :=
    (Option.or_eq_none_iff.1 (Option.or_eq_none_iff.1 hrule).2).2
  unfold Rule.strongIdentity at hidentity
  split at hidentity
  · cases hidentity
  · rw [Rule.onlyIf_eq_none_iff] at hidentity
    exact absurd (by simpa using hidentity) hkeys
  · assumption

/-- A strong entity with a key is identified by it. -/
theorem identitySource_of_strong (h : d.validate = []) (hn : n ∈ d.nodes)
    (hkind : n.kind = .entity) (hk : d.primaryKey? n.id = some k) :
    d.identitySource n = .ok (.ownKey k) := by
  have habove : d.specializationAbove? n.id = none := by
    rw [specializationAbove?,
      specializationsAbove_eq_nil h hn hkind (keys_ne_nil_of_primaryKey? hk)]
    rfl
  simp only [identitySource, hkind, habove, hk]

/-! ## Weak entities -/

/-- A weak entity has one dependency and does not share the identity of its owner. If it has a key,
its dependency is not identifying. -/
theorem of_weakEntity (h : d.validate = []) (hn : n ∈ d.nodes) (hkind : n.kind = .weakEntity) :
    ∃ r, d.dependencies n.id = [r] ∧ d.cardinality r.id ≠ .oneToOne ∧
      (d.keys n.id ≠ [] → r.kind ≠ .dependency .identifying) := by
  have hrule := rule_eq_none h hn
  rw [hkind] at hrule
  have hone : Rule.oneDependency d n = none :=
    (Option.or_eq_none_iff.1 (Option.or_eq_none_iff.1 hrule).2).2
  unfold Rule.oneDependency at hone
  split at hone
  · cases hone
  · next r hr =>
    obtain ⟨hkey, hrest⟩ := Option.or_eq_none_iff.1 hone
    refine ⟨r, hr, ?_, fun hkeys hidentifying => hkeys ?_⟩
    · split at hrest
      · cases hrest
      · simpa [Rule.onlyIf_eq_none_iff] using hrest
    · rw [Rule.dependentKey, hidentifying, Rule.onlyIf_eq_none_iff] at hkey
      simpa using hkey
  · cases hone

/-- A weak entity is identified by the partial key that its dependency asks for. -/
theorem exists_identitySource_of_partialKey? (h : d.validate = []) (hn : n ∈ d.nodes)
    (hkind : n.kind = .weakEntity) (hr : d.dependencies n.id = [r])
    (hk : d.partialKey? r n.id = some k) :
    ∃ owner, d.identitySource n = .ok (.dependent r owner (some k)) := by
  have hmem : r ∈ d.dependencies n.id := by simp [hr]
  obtain ⟨ends, hends, hid⟩ := exists_dependencyEnds_of_mem hmem
  have howner := otherEntity_of_dependencyEnds? hends
  rw [hid] at howner
  obtain ⟨r', hr', hcardinality, -⟩ := of_weakEntity h hn hkind
  obtain rfl : r = r' := by simpa [hr] using hr'
  exact ⟨ends.owner, by
    simp only [identitySource, hkind, dependency?, hr, List.head?_cons, howner, ok_bind,
      if_neg hcardinality, hk]⟩

/-- The key of a weak entity is its partial key. -/
theorem exists_identitySource_of_weak (h : d.validate = []) (hn : n ∈ d.nodes)
    (hkind : n.kind = .weakEntity) (hk : d.primaryKey? n.id = some k) :
    ∃ r owner, d.identitySource n = .ok (.dependent r owner (some k)) := by
  obtain ⟨r, hr, -, hexistence⟩ := of_weakEntity h hn hkind
  have hpartial : d.partialKey? r n.id = some k := by
    rw [partialKey?, if_neg (hexistence (keys_ne_nil_of_primaryKey? hk)), hk]
  exact ⟨r, exists_identitySource_of_partialKey? h hn hkind hr hpartial⟩

/-! ## Relations -/

/-- A dependency has an owner and a dependent. -/
theorem exists_dependencyEnds (h : d.validate = []) (hr : r ∈ d.nodes) {form : DependencyKind}
    (hkind : r.kind = .dependency form) : ∃ ends, d.dependencyEnds? r.id = some ends := by
  have hrule := rule_eq_none h hr
  rw [hkind] at hrule
  have hends := (Option.or_eq_none_iff.1 hrule).2
  split at hends
  · cases hends
  · next hsome => exact Option.ne_none_iff_exists'.1 fun hnone => hsome (by rw [hnone]; rfl)

/-- The key of a dependency is the partial key of a weak entity. -/
theorem exists_identitySource_of_dependency (h : d.validate = []) (hd : d.DistinctIds)
    (hr : r ∈ d.nodes) (hkind : r.kind.isDependency = true) (hk : d.primaryKey? r.id = some k) :
    ∃ n ∈ d.nodes, n.kind.isEntity = true ∧
      ∃ owner, d.identitySource n = .ok (.dependent r owner (some k)) := by
  have haccepted := accepted_of_validate_eq_nil h
  have hidentifying : r.kind = .dependency .identifying := by
    cases hrk : r.kind with
    | dependency form =>
      cases form with
      | identifying => rfl
      | existence =>
        exact absurd (haccepted.keys_eq_nil_of_existence hr hrk) (keys_ne_nil_of_primaryKey? hk)
    | entity | weakEntity | relation | specialization _ | attr _ =>
      simp [hrk, NodeKind.isDependency] at hkind
  obtain ⟨ends, hends⟩ := exists_dependencyEnds h hr hidentifying
  obtain ⟨hmem, hweak, hdependency⟩ := dependent_of_dependencyEnds? hd hr hkind hends
  obtain ⟨r', hr', -⟩ := of_weakEntity h hmem hweak
  obtain rfl : r = r' := by simpa [hr'] using hdependency
  have hpartial : d.partialKey? r ends.dependent.id = some k := by
    rw [partialKey?, if_pos hidentifying, hk]
  exact ⟨ends.dependent, hmem, by rw [hweak]; rfl,
    exists_identitySource_of_partialKey? h hmem hweak hr' hpartial⟩

/-- A relation with a key is one between many and many. -/
theorem cardinality_eq_of_keys (h : d.validate = []) (hn : n ∈ d.nodes) (hkind : n.kind = .relation)
    (hkeys : d.keys n.id ≠ []) : d.cardinality n.id = .manyToMany := by
  have hrule := rule_eq_none h hn
  rw [hkind] at hrule
  have hform : Rule.relationForm d n = none := (Option.or_eq_none_iff.1 hrule).2
  unfold Rule.relationForm at hform
  extract_lets cardinality ends at hform
  split at hform
  · assumption
  · split at hform
    · cases hform
    · rw [Rule.onlyIf_eq_none_iff] at hform
      exact absurd (by simpa using hform) hkeys

end Diagram

end EntityRelationship
