import EntityRelationship.Diagram.Identity
import EntityRelationship.Proofs.Diagram.Lookup
import EntityRelationship.Proofs.Outcome
import Mathlib.Logic.Relation

/-!
# Chains of identities

The identity of an entity is built on that of its owner or of its parent, and so on up. This chain
either ends at an entity with a key of its own or comes back to an entity that it has passed. It
never does both, because an entity has one source of identity at most.

Reading the lineage of an entity off a diagram is exact: there is a lineage if and only if the
chain ends, and a chain all of whose entities have a source can fail only by coming back.
-/

open Relation

namespace EntityRelationship

/-- A column keeps its type abroad. -/
@[simp] theorem Lineage.type_abroad (l : Lineage) (c : TypedName) : (l.abroad c).type = c.type := by
  cases l <;> rfl

namespace Diagram

open Outcome

variable {d : Diagram} {id : String} {k m n : Node} {l : Lineage} {s : IdentitySource}

/-! ## One step of a chain -/

/-- The identity of the first entity is built on that of the second, its owner or its parent. -/
def BuiltOn (d : Diagram) (n m : Node) : Prop :=
  ∃ s, d.identitySource n = .ok s ∧ s.base? = some m

/-- An entity is built on one entity at most. -/
theorem builtOn_rightUnique (d : Diagram) : Relator.RightUnique d.BuiltOn := by
  rintro n m k ⟨s, hs, hm⟩ ⟨s', hs', hk⟩
  obtain rfl := Except.ok.inj (hs.symm.trans hs')
  exact Option.some.inj (hm.symm.trans hk)

/-- An entity with a key of its own is built on no other. -/
theorem not_builtOn_of_ownKey {key : Node} (h : d.identitySource n = .ok (.ownKey key)) :
    ¬ d.BuiltOn n m := by
  rintro ⟨s, hs, hm⟩
  rw [h] at hs
  cases hs
  cases hm

/-- The source of an identity lies in an entity of the diagram. -/
theorem of_base? (hs : d.identitySource n = .ok s) (hm : s.base? = some m) :
    d.node? m.id = some m ∧ m.kind.isEntity = true := by
  unfold identitySource at hs
  split at hs
  · -- a strong entity is built on its parent
    split at hs
    · split at hs
      · next hparent =>
        cases hs
        cases hm
        exact of_parent? hparent
      · cases hs
    · split at hs <;> cases hs
      cases hm
  · -- a weak entity is built on its owner
    split at hs
    · cases hs
    · obtain ⟨owner, howner, hs⟩ := bind_eq_ok_iff.1 hs
      have hbase : s.base? = some owner := by
        split at hs
        · cases hs
          rfl
        · split at hs <;> cases hs
          rfl
      rw [hm] at hbase
      cases hbase
      exact of_otherEntity howner
  · cases hs

theorem BuiltOn.base (h : d.BuiltOn n m) : d.node? m.id = some m ∧ m.kind.isEntity = true := by
  obtain ⟨s, hs, hm⟩ := h
  exact of_base? hs hm

/-- Only a strong entity without a parent has a key of its own. -/
theorem of_identitySource_ownKey {key : Node} (h : d.identitySource n = .ok (.ownKey key)) :
    n.kind = .entity ∧ d.specializationsAbove n.id = [] := by
  unfold identitySource at h
  split at h
  · next hkind =>
    split at h
    · split at h <;> cases h
    · next habove => exact ⟨hkind, List.head?_eq_none_iff.1 habove⟩
  · split at h
    · cases h
    · obtain ⟨owner, -, h⟩ := bind_eq_ok_iff.1 h
      split at h
      · cases h
      · split at h <;> cases h
  · cases h

/-- A key of its own is the primary key of the entity. -/
theorem primaryKey?_of_ownKey (h : d.identitySource n = .ok (.ownKey k)) :
    d.primaryKey? n.id = some k := by
  unfold identitySource at h
  split at h
  · split at h
    · split at h <;> cases h
    · split at h
      · next hkey =>
        cases h
        exact hkey
      · cases h
  · split at h
    · cases h
    · obtain ⟨owner, -, h⟩ := bind_eq_ok_iff.1 h
      split at h
      · cases h
      · split at h <;> cases h
  · cases h

/-- A partial key is a primary key, of the entity or of its dependency. -/
theorem partialKey?_of_dependent {relation owner : Node}
    (h : d.identitySource n = .ok (.dependent relation owner (some k))) :
    d.partialKey? relation n.id = some k := by
  unfold identitySource at h
  split at h
  · split at h
    · split at h <;> cases h
    · split at h <;> cases h
  · split at h
    · cases h
    · obtain ⟨owner, -, h⟩ := bind_eq_ok_iff.1 h
      split at h
      · cases h
      · split at h
        · next hkey =>
          cases h
          exact hkey
        · cases h
  · cases h

/-! ## How a chain goes on -/

/-- The chain of an entity ends at an entity with a key of its own. -/
def EndsAtKey (d : Diagram) (n : Node) : Prop :=
  ∃ m key, ReflTransGen d.BuiltOn n m ∧ d.identitySource m = .ok (.ownKey key)

/-- The chain of an entity comes back to an entity that it has passed. -/
def Revisits (d : Diagram) (n : Node) : Prop :=
  ∃ m, ReflTransGen d.BuiltOn n m ∧ TransGen d.BuiltOn m m

/-- A chain that ends is the chain of the next entity, which ends too. -/
theorem EndsAtKey.of_builtOn (h : d.EndsAtKey n) (hm : d.BuiltOn n m) : d.EndsAtKey m := by
  obtain ⟨r, key, hchain, hkey⟩ := h
  rcases hchain.cases_head with rfl | ⟨m', hm', hrest⟩
  · exact absurd hm (not_builtOn_of_ownKey hkey)
  · rw [builtOn_rightUnique d hm hm']
    exact ⟨r, key, hrest, hkey⟩

theorem EndsAtKey.of_reflTransGen (h : d.EndsAtKey n) (hm : ReflTransGen d.BuiltOn n m) :
    d.EndsAtKey m := by
  induction hm with
  | refl => exact h
  | tail _ hstep ih => exact ih.of_builtOn hstep

/-- An entity whose chain ends is not on its own chain. -/
theorem EndsAtKey.not_transGen (h : d.EndsAtKey n) : ¬ TransGen d.BuiltOn n n := by
  obtain ⟨r, key, hchain, hkey⟩ := h
  -- induction from the end of the chain: a cycle through an entity takes the only step there is,
  -- and so goes through the next entity too
  induction hchain using ReflTransGen.head_induction_on with
  | refl =>
    intro hcycle
    obtain ⟨m, hm, -⟩ := TransGen.head'_iff.1 hcycle
    exact not_builtOn_of_ownKey hkey hm
  | head hstep _ ih =>
    intro hcycle
    obtain ⟨m, hm, hrest⟩ := TransGen.head'_iff.1 hcycle
    obtain rfl := builtOn_rightUnique d hstep hm
    exact ih (TransGen.tail' hrest hstep)

/-- A chain that ends comes back to no entity. -/
theorem EndsAtKey.not_revisits (h : d.EndsAtKey n) : ¬ d.Revisits n := by
  rintro ⟨m, hchain, hcycle⟩
  exact (h.of_reflTransGen hchain).not_transGen hcycle

theorem Revisits.of_builtOn (hn : d.BuiltOn n m) (h : d.Revisits m) : d.Revisits n := by
  obtain ⟨k, hchain, hcycle⟩ := h
  exact ⟨k, .head hn hchain, hcycle⟩

/-! ## Lineages -/

/-- A lineage is that of an entity: the entity stands at its bottom, and above it stands the
lineage of the entity on which it is built. -/
inductive Descends (d : Diagram) : Node → Lineage → Prop
  | root {n key : Node} : d.identitySource n = .ok (.ownKey key) → Descends d n (.root n key)
  | weak {n relation owner : Node} {partialKey : Option Node} {l : Lineage} :
    d.identitySource n = .ok (.dependent relation owner partialKey) → Descends d owner l →
      Descends d n (.weak n partialKey l)
  | subclass {n specialization parent : Node} {l : Lineage} :
    d.identitySource n = .ok (.subclass specialization parent) → Descends d parent l →
      Descends d n (.subclass n l)

/-- An entity with a lineage has a chain that ends. -/
theorem Descends.endsAtKey (h : d.Descends n l) : d.EndsAtKey n := by
  induction h with
  | root hs => exact ⟨_, _, .refl, hs⟩
  | weak hs _ ih =>
    obtain ⟨r, key, hchain, hkey⟩ := ih
    exact ⟨r, key, .head ⟨_, hs, rfl⟩ hchain, hkey⟩
  | subclass hs _ ih =>
    obtain ⟨r, key, hchain, hkey⟩ := ih
    exact ⟨r, key, .head ⟨_, hs, rfl⟩ hchain, hkey⟩

/-! ## Reading a lineage -/

theorem lineageFrom_of_mem {visited : List String} (hn : d.node? id = some n)
    (hv : id ∈ visited) : d.lineageFrom visited id = .error (.identityCycle id) := by
  rw [lineageFrom]
  split
  · next h => simp [h] at hn
  · rw [dif_pos hv]

/-- A lineage that is read goes on to the entity on which the first one is built, which must not
be an entity that was passed. -/
theorem lineageFrom_of_not_mem {visited : List String} (hn : d.node? id = some n)
    (hv : id ∉ visited) :
    d.lineageFrom visited id = (do
      match ← d.identitySource n with
      | .ownKey key => return .root n key
      | .dependent _ owner partialKey =>
        return .weak n partialKey (← d.lineageFrom (id :: visited) owner.id)
      | .subclass _ parent =>
        return .subclass n (← d.lineageFrom (id :: visited) parent.id)) := by
  rw [lineageFrom]
  split
  · next h => simp [h] at hn
  · next h =>
    rw [dif_neg hv]
    rw [hn] at h
    cases h
    rfl

/-- What is read is a lineage. -/
theorem descends_of_lineageFrom {visited : List String} (hn : d.node? id = some n)
    (h : d.lineageFrom visited id = .ok l) : d.Descends n l := by
  induction visited, id using lineageFrom.induct d generalizing n l with
  | case1 visited id hnone => simp [hnone] at hn
  | case2 visited id n' hn' hv =>
    rw [lineageFrom_of_mem hn hv] at h
    cases h
  | case3 visited id n' hn' hv ih =>
    rw [lineageFrom_of_not_mem hn hv, bind_eq_ok_iff] at h
    obtain ⟨s, hs, h⟩ := h
    cases s with
    | ownKey key =>
      cases h
      exact .root hs
    | dependent relation owner partialKey =>
      obtain ⟨l', hl', h⟩ := bind_eq_ok_iff.1 h
      cases h
      exact .weak hs (ih owner (of_base? hs rfl).1 hl')
    | subclass specialization parent =>
      obtain ⟨l', hl', h⟩ := bind_eq_ok_iff.1 h
      cases h
      exact .subclass hs (ih parent (of_base? hs rfl).1 hl')

/-- The chain above an entity meets neither that entity, if it ends, nor what the whole chain does
not meet. -/
theorem not_mem_cons_of_builtOn {visited : List String} (hn : d.node? n.id = some n)
    (hends : d.EndsAtKey n) (hstep : d.BuiltOn n m)
    (hv : ∀ k, ReflTransGen d.BuiltOn n k → k.id ∉ visited) :
    ∀ k, ReflTransGen d.BuiltOn m k → k.id ∉ n.id :: visited := by
  intro k hk
  rw [List.mem_cons, not_or]
  refine ⟨fun hid => ?_, hv k (.head hstep hk)⟩
  have hfound : d.node? k.id = some k := by
    rcases hk.cases_tail with rfl | ⟨_, _, hlast⟩
    · exact hstep.base.1
    · exact hlast.base.1
  rw [hid, hn] at hfound
  cases hfound
  exact hends.not_transGen (.head' hstep hk)

/-- A lineage is read, unless it meets an entity that was passed. -/
theorem lineageFrom_of_descends {visited : List String} (hn : d.node? n.id = some n)
    (hv : ∀ m, ReflTransGen d.BuiltOn n m → m.id ∉ visited) (h : d.Descends n l) :
    d.lineageFrom visited n.id = .ok l := by
  -- the visited ids grow by those of the lineage, which the rest of the chain does not meet
  induction h generalizing visited with
  | root hs =>
    rw [lineageFrom_of_not_mem hn (hv _ .refl), hs]
    rfl
  | @weak n relation owner partialKey l hs hl ih =>
    have hstep : d.BuiltOn n owner := ⟨_, hs, rfl⟩
    have hends : d.EndsAtKey n := (Descends.weak hs hl).endsAtKey
    rw [lineageFrom_of_not_mem hn (hv _ .refl), hs, ok_bind]
    show (d.lineageFrom (n.id :: visited) owner.id >>= _) = _
    rw [ih hstep.base.1 (not_mem_cons_of_builtOn hn hends hstep hv)]
    rfl
  | @subclass n specialization parent l hs hl ih =>
    have hstep : d.BuiltOn n parent := ⟨_, hs, rfl⟩
    have hends : d.EndsAtKey n := (Descends.subclass hs hl).endsAtKey
    rw [lineageFrom_of_not_mem hn (hv _ .refl), hs, ok_bind]
    show (d.lineageFrom (n.id :: visited) parent.id >>= _) = _
    rw [ih hstep.base.1 (not_mem_cons_of_builtOn hn hends hstep hv)]
    rfl

/-- Reading finds exactly the lineages that there are. -/
theorem lineage_eq_ok_iff (hn : d.node? n.id = some n) :
    d.lineage n.id = .ok l ↔ d.Descends n l := by
  constructor
  · exact descends_of_lineageFrom hn
  · exact lineageFrom_of_descends hn fun m _ => List.not_mem_nil

/-- Where every entity has a source of identity, reading a lineage fails only on a chain that comes
back. The visited entities are those from which the chain has led here. -/
theorem faultsIn_lineageFrom
    (hsource : ∀ m ∈ d.nodes, m.kind.isEntity = true → ∃ s, d.identitySource m = .ok s)
    {visited : List String} (hn : d.node? id = some n) (hkind : n.kind.isEntity = true)
    (hv : ∀ v ∈ visited, ∃ m, d.node? v = some m ∧ TransGen d.BuiltOn m n) :
    FaultsIn (fun f => (∃ i, f = .identityCycle i) ∧ d.Revisits n) (d.lineageFrom visited id) := by
  induction visited, id using lineageFrom.induct d generalizing n with
  | case1 visited id hnone => simp [hnone] at hn
  | case2 visited id n' hn' hmem =>
    rw [lineageFrom_of_mem hn hmem]
    obtain ⟨m, hm, hcycle⟩ := hv id hmem
    rw [hn] at hm
    cases hm
    exact faultsIn_error ⟨⟨id, rfl⟩, n, .refl, hcycle⟩
  | case3 visited id n' hn' hmem ih =>
    rw [lineageFrom_of_not_mem hn hmem]
    -- the chain goes on from the base with one more visited entity; what comes back there comes
    -- back here
    have hbase : ∀ m, d.BuiltOn n m →
        FaultsIn (fun f => (∃ i, f = .identityCycle i) ∧ d.Revisits n)
          (d.lineageFrom (id :: visited) m.id) := by
      intro m hstep f hf
      have hvisited : ∀ v ∈ id :: visited, ∃ k, d.node? v = some k ∧ TransGen d.BuiltOn k m := by
        intro v hvmem
        rcases List.mem_cons.1 hvmem with rfl | hvmem
        · exact ⟨n, hn, .single hstep⟩
        · obtain ⟨k, hk, hchain⟩ := hv v hvmem
          exact ⟨k, hk, hchain.tail hstep⟩
      obtain ⟨hcycle, hrevisits⟩ := ih m hstep.base.1 hstep.base.2 hvisited f hf
      exact ⟨hcycle, hrevisits.of_builtOn hstep⟩
    refine (faultsIn_of_exists (hsource n (mem_of_node? hn).1 hkind)).bind fun s hs => ?_
    cases s with
    | ownKey key => exact faultsIn_ok _ _
    | dependent relation owner partialKey =>
      exact (hbase owner ⟨_, hs, rfl⟩).bind fun l _ => faultsIn_ok _ _
    | subclass specialization parent =>
      exact (hbase parent ⟨_, hs, rfl⟩).bind fun l _ => faultsIn_ok _ _

end Diagram

end EntityRelationship
