import EntityRelationship.Proofs.Diagram.Chain

/-!
# Identity columns along a chain

The identity columns of an entity can be read off its chain of owners and parents, whatever the
diagram. A chain goes up until it meets an entity that it has passed, or one without a source of
identity, or one with a key of its own, and one of the three happens. In the first two cases there
are no columns, and the fault names the entity that was met or is that of its missing source. In
the third case the columns are those of the key at the top, and below it each entity adds its
partial key.

A chain is followed by climbing, with the entities that were passed on the way.
-/

namespace EntityRelationship.Diagram

open Outcome

variable {d : Diagram} {below : List Node} {k key m n : Node} {l : Lineage}

/-! ## Climbing a chain -/

/-- The chain of an entity leads up past the entities `below`, the highest of them first, to a
further one. No entity is passed twice, but the one that is met last may be among those passed. -/
inductive Climb (d : Diagram) (n : Node) : List Node → Node → Prop
  | start : Climb d n [] n
  | up {below : List Node} {m k : Node} :
    Climb d n below m → m ∉ below → d.BuiltOn m k → Climb d n (m :: below) k

/-- The entities of a climb are nodes of the diagram, found under their ids. -/
theorem Climb.node? (hn : d.node? n.id = some n) (h : d.Climb n below m) :
    d.node? m.id = some m ∧ ∀ k ∈ below, d.node? k.id = some k := by
  induction h with
  | start => exact ⟨hn, fun k hk => absurd hk List.not_mem_nil⟩
  | up _ _ hstep ih => exact ⟨hstep.base.1, List.forall_mem_cons.2 ih⟩

/-- An entity has been passed if its id has. -/
theorem Climb.mem_ids_iff (hn : d.node? n.id = some n) (h : d.Climb n below m) :
    m.id ∈ below.map (·.id) ↔ m ∈ below := by
  obtain ⟨hm, hbelow⟩ := h.node? hn
  constructor
  · intro hid
    obtain ⟨k, hk, heq⟩ := List.mem_map.1 hid
    have hsame := hbelow k hk
    rw [heq, hm] at hsame
    exact Option.some.inj hsame ▸ hk
  · exact List.mem_map_of_mem

/-- An entity that was passed is built on another. -/
theorem Climb.exists_builtOn (h : d.Climb n below m) (hk : k ∈ below) : ∃ b, d.BuiltOn k b := by
  induction h with
  | start => cases hk
  | up _ _ hstep ih =>
    rcases List.mem_cons.1 hk with rfl | hk
    · exact ⟨_, hstep⟩
    · exact ih hk

/-- Every climb goes on until it comes back to an entity that it has passed, or meets one that has
no source of identity or a key of its own. -/
theorem Climb.exists_end (hn : d.node? n.id = some n) (h : d.Climb n below m) :
    ∃ below m, d.Climb n below m ∧
      (m ∈ below ∨ (∃ f, d.identitySource m = .error f) ∨
        ∃ key, d.identitySource m = .ok (.ownKey key)) := by
  -- each step leaves fewer nodes that were not passed
  induction hleft : d.unvisited (below.map (·.id)) using Nat.strongRecOn generalizing below m with
  | _ left ih =>
    by_cases hback : m ∈ below
    · exact ⟨below, m, h, .inl hback⟩
    · cases hs : d.identitySource m with
      | error f => exact ⟨below, m, h, .inr (.inl ⟨f, hs⟩)⟩
      | ok s =>
        cases hbase : s.base? with
        | none =>
          cases s with
          | ownKey key => exact ⟨below, m, h, .inr (.inr ⟨key, hs⟩)⟩
          | dependent relation owner partialKey => cases hbase
          | subclass specialization parent => cases hbase
        | some k =>
          have hnew : m.id ∉ below.map (·.id) := fun hid => hback ((h.mem_ids_iff hn).1 hid)
          have hfewer := unvisited_cons_lt (h.node? hn).1 hnew
          exact ih _ (hleft ▸ hfewer) (h.up hback ⟨s, hs, hbase⟩) rfl

/-! ## The lineage of a climb -/

/-- The lineage of an entity, given that of the entity on which it is built. -/
def heir (d : Diagram) (n : Node) (l : Lineage) : Lineage :=
  match d.identitySource n with
  | .ok (.dependent _ _ partialKey) => .weak n partialKey l
  | _ => .subclass n l

/-- The lineage of an entity that is built on another is read off that of the other. -/
theorem lineageFrom_of_builtOn {visited : List String} (hm : d.node? m.id = some m)
    (hv : m.id ∉ visited) (h : d.BuiltOn m k) :
    d.lineageFrom visited m.id = (d.lineageFrom (m.id :: visited) k.id).map (d.heir m) := by
  obtain ⟨s, hs, hk⟩ := h
  rw [lineageFrom_of_not_mem hm hv, hs, ok_bind]
  cases s with
  | ownKey key => cases hk
  | dependent relation owner partialKey =>
    cases hk
    have hheir : d.heir m = .weak m partialKey := by
      funext l
      rw [heir, hs]
    rw [hheir]
    rfl
  | subclass specialization parent =>
    cases hk
    have hheir : d.heir m = .subclass m := by
      funext l
      rw [heir, hs]
    rw [hheir]
    rfl

/-- The lineage of an entity is read where a climb has led, and the entities passed follow below. -/
theorem Climb.lineage_eq (hn : d.node? n.id = some n) (h : d.Climb n below m) :
    d.lineage n.id =
      (d.lineageFrom (below.map (·.id)) m.id).map fun l =>
        below.foldl (fun l k => d.heir k l) l := by
  induction h with
  | start =>
    rw [lineage, List.map_nil]
    cases d.lineageFrom [] n.id <;> rfl
  | @up below m k hclimb hnew hstep ih =>
    have hv : m.id ∉ below.map (·.id) := fun hid => hnew ((hclimb.mem_ids_iff hn).1 hid)
    rw [ih, lineageFrom_of_builtOn (hclimb.node? hn).1 hv hstep, List.map_cons]
    cases d.lineageFrom (m.id :: below.map (·.id)) k.id <;> rfl

/-! ## The columns of a climb -/

/-- The partial key of a weak entity. An entity with another source of identity has none. -/
def partialKeyOf? (d : Diagram) (n : Node) : Option Node :=
  match d.identitySource n with
  | .ok (.dependent _ _ partialKey) => partialKey
  | _ => none

/-- The columns that an entity adds to the identity of its owner or parent: its partial key, if it
has one, with its own name in front. -/
def addedColumns (d : Diagram) (n : Node) : Except SynthesisFault (List TypedName) := do
  let own ← (d.partialKeyOf? n).elim (.ok []) d.leafColumns
  return own.map (·.qualify n.safeName)

theorem identityOf_heir (d : Diagram) (n : Node) (l : Lineage) :
    d.identityOf (d.heir n l) = do
      let inherited ← d.identityOf l
      let added ← d.addedColumns n
      return inherited.map l.abroad ++ added := by
  have hsubclass (hnone : d.partialKeyOf? n = none) : d.identityOf (.subclass n l) = do
      let inherited ← d.identityOf l
      let added ← d.addedColumns n
      return inherited.map l.abroad ++ added := by
    rw [identityOf, addedColumns, hnone]
    cases d.identityOf l with
    | error f => rfl
    | ok inherited => exact congrArg Except.ok (List.append_nil _).symm
  have hweak {partialKey : Option Node} (hsome : d.partialKeyOf? n = partialKey) :
      d.identityOf (.weak n partialKey l) = do
        let inherited ← d.identityOf l
        let added ← d.addedColumns n
        return inherited.map l.abroad ++ added := by
    rw [identityOf, addedColumns, hsome]
    cases d.identityOf l with
    | error f => rfl
    | ok inherited => cases partialKey.elim (.ok []) d.leafColumns <;> rfl
  cases hs : d.identitySource n with
  | error f =>
    rw [heir, hs]
    exact hsubclass (by rw [partialKeyOf?, hs])
  | ok s =>
    rw [heir, hs]
    cases s with
    | ownKey key => exact hsubclass (by rw [partialKeyOf?, hs])
    | dependent relation owner partialKey => exact hweak (by rw [partialKeyOf?, hs])
    | subclass specialization parent => exact hsubclass (by rw [partialKeyOf?, hs])

theorem abroad_heir (d : Diagram) (n : Node) (l : Lineage) : (d.heir n l).abroad = id := by
  unfold heir
  split <;> rfl

/-- Below an entity whose columns keep their names abroad, each entity adds its own. -/
theorem identityOf_foldl_heir (hl : l.abroad = id) (below : List Node) :
    d.identityOf (below.foldl (fun l k => d.heir k l) l) = do
      let inherited ← d.identityOf l
      let added ← below.mapM d.addedColumns
      return inherited ++ added.flatten := by
  induction below generalizing l with
  | nil =>
    rw [List.foldl_nil, List.mapM_nil]
    cases d.identityOf l with
    | error f => rfl
    | ok inherited => exact congrArg Except.ok (List.append_nil _).symm
  | cons k below ih =>
    rw [List.foldl_cons, ih (d.abroad_heir k l), identityOf_heir, hl, List.mapM_cons]
    simp only [List.map_id]
    cases d.identityOf l with
    | error f => rfl
    | ok inherited =>
      cases d.addedColumns k with
      | error f => rfl
      | ok added =>
        cases below.mapM d.addedColumns with
        | error f => rfl
        | ok rest => exact congrArg Except.ok (List.append_assoc _ _ _)

/-- Below an entity with a key of its own, the columns of the key stand first and have its name in
front. -/
theorem identityOf_foldl_heir_root (d : Diagram) (m key : Node) (below : List Node) :
    d.identityOf (below.foldl (fun l k => d.heir k l) (.root m key)) = do
      let own ← d.leafColumns key
      let added ← below.mapM d.addedColumns
      return if below = [] then own else own.map (·.qualify m.safeName) ++ added.flatten := by
  cases below with
  | nil =>
    rw [List.foldl_nil, List.mapM_nil, identityOf]
    cases d.leafColumns key <;> rfl
  | cons k below =>
    rw [List.foldl_cons, identityOf_foldl_heir (d.abroad_heir k _), identityOf_heir, identityOf,
      List.mapM_cons]
    cases d.leafColumns key with
    | error f => rfl
    | ok own =>
      cases d.addedColumns k with
      | error f => rfl
      | ok added =>
        cases below.mapM d.addedColumns with
        | error f => rfl
        | ok rest => exact congrArg Except.ok (List.append_assoc _ _ _)

/-! ## What an entity is identified by -/

/-- An entity has a key of its own. -/
def OwnsKey (d : Diagram) (n : Node) : Prop :=
  ∃ key, d.identitySource n = .ok (.ownKey key)

/-- Columns keep their names abroad exactly if the entity has no key of its own. -/
theorem Descends.abroad_eq (h : d.Descends n l) :
    (d.OwnsKey n → l.abroad = TypedName.qualify n.safeName) ∧ (¬ d.OwnsKey n → l.abroad = id) := by
  cases h with
  | root hs => exact ⟨fun _ => rfl, fun hno => absurd ⟨_, hs⟩ hno⟩
  | weak hs _ =>
    refine ⟨fun ⟨key, hkey⟩ => ?_, fun _ => rfl⟩
    rw [hs] at hkey
    cases hkey
  | subclass hs _ =>
    refine ⟨fun ⟨key, hkey⟩ => ?_, fun _ => rfl⟩
    rw [hs] at hkey
    cases hkey

theorem foreignKeyColumns_of_error {id : String} {f : SynthesisFault}
    (h : d.identityColumns id = .error f) : d.foreignKeyColumns id = .error f := by
  rw [identityColumns] at h
  rw [foreignKeyColumns]
  cases hl : d.lineage id with
  | error f' =>
    rw [hl] at h
    obtain rfl := Except.error.inj h
    rfl
  | ok l =>
    rw [hl, ok_bind] at h
    rw [ok_bind, h]
    rfl

/-- The references to an entity are made of its identity columns. -/
theorem exists_foreignKeyColumns {columns : List TypedName} (hn : d.node? n.id = some n)
    (h : d.identityColumns n.id = .ok columns) :
    ∃ l, d.Descends n l ∧
      d.foreignKeyColumns n.id = .ok (columns.map fun c => ⟨l.abroad c, c.name⟩) := by
  obtain ⟨l, hl, hcolumns⟩ := bind_eq_ok_iff.1 h
  refine ⟨l, (lineage_eq_ok_iff hn).1 hl, ?_⟩
  rw [foreignKeyColumns, hl, ok_bind, hcolumns]
  rfl

/-- The chain above an entity comes back to an entity that it has passed, or meets one without a
source of identity, or ends at one with a key of its own. Accordingly the identity columns are a
fault that names the entity met again, or the fault of the missing source, or the columns of the
key at the top, followed by those that the entities below add, from the highest down; the columns
of the key have the name of their entity in front unless nothing stands below it.

Columns that refer to the entity refer to its identity columns, in their order and with their
types. They have the same names if the entity has no key of its own, and otherwise the entity's name
in front. -/
theorem identityColumns_of_climb (hn : d.node? n.id = some n) :
    (∃ below m, d.Climb n below m ∧
      (m ∈ below ∨ (∃ f, d.identitySource m = .error f) ∨
        ∃ key, d.identitySource m = .ok (.ownKey key))) ∧
    (∀ below m, d.Climb n below m →
      (m ∈ below → d.identityColumns n.id = .error (.identityCycle m.id)) ∧
      (∀ f, d.identitySource m = .error f → d.identityColumns n.id = .error f) ∧
      ∀ key, d.identitySource m = .ok (.ownKey key) →
        d.identityColumns n.id = do
          let own ← d.leafColumns key
          let added ← below.mapM d.addedColumns
          return if below = [] then own else own.map (·.qualify m.safeName) ++ added.flatten) ∧
    (∀ f, d.identityColumns n.id = .error f → d.foreignKeyColumns n.id = .error f) ∧
    ∀ columns, d.identityColumns n.id = .ok columns →
      ∃ refs, d.foreignKeyColumns n.id = .ok refs ∧
        refs.map (·.references) = columns.map (·.name) ∧
        refs.map (·.column.type) = columns.map (·.type) ∧
        (d.OwnsKey n →
          refs.map (·.column.name) = columns.map fun c => n.safeName ++ "_" ++ c.name) ∧
        (¬ d.OwnsKey n → refs.map (·.column.name) = columns.map (·.name)) := by
  refine ⟨Climb.start.exists_end hn, fun below m h => ⟨?_, ?_, ?_⟩,
    fun f => foreignKeyColumns_of_error, ?_⟩
  · intro hback
    have hcycle := lineageFrom_of_mem (h.node? hn).1 (List.mem_map_of_mem hback)
    rw [identityColumns, h.lineage_eq hn, hcycle]
    rfl
  · intro f hf
    have hnew : m.id ∉ below.map (·.id) := by
      intro hid
      obtain ⟨b, s, hs, -⟩ := h.exists_builtOn ((h.mem_ids_iff hn).1 hid)
      rw [hf] at hs
      cases hs
    rw [identityColumns, h.lineage_eq hn, lineageFrom_of_not_mem (h.node? hn).1 hnew, hf]
    rfl
  · intro key hkey
    have hnew : m.id ∉ below.map (·.id) := by
      intro hid
      obtain ⟨b, hb⟩ := h.exists_builtOn ((h.mem_ids_iff hn).1 hid)
      exact not_builtOn_of_ownKey hkey hb
    rw [identityColumns, h.lineage_eq hn, lineageFrom_of_not_mem (h.node? hn).1 hnew, hkey]
    exact d.identityOf_foldl_heir_root m key below
  · intro columns hcolumns
    obtain ⟨l, hl, hrefs⟩ := exists_foreignKeyColumns hn hcolumns
    obtain ⟨hyes, hno⟩ := hl.abroad_eq
    refine ⟨_, hrefs, ?_, ?_, fun hown => ?_, fun hown => ?_⟩ <;> rw [List.map_map]
    · rfl
    · exact List.map_congr_left fun c _ => l.type_abroad c
    · rw [hyes hown]
      rfl
    · rw [hno hown]
      rfl

/-- A vault of a head office, which is a branch of a company. -/
def ladder : Diagram where
  nodes := [
    ⟨"company", .entity, "Company", none⟩,
    ⟨"id", .attr .key, "id:INTEGER", none⟩,
    ⟨"branch", .weakEntity, "Branch", none⟩,
    ⟨"nr", .attr .key, "nr:INTEGER", none⟩,
    ⟨"opens", .dependency .existence, "Opens", none⟩,
    ⟨"form", .specialization ⟨false, true⟩, "form", none⟩,
    ⟨"office", .entity, "Head office", none⟩,
    ⟨"vault", .weakEntity, "Vault", none⟩,
    ⟨"holds", .dependency .identifying, "Holds", none⟩,
    ⟨"code", .attr .key, "code:TEXT", none⟩]
  edges := [
    ⟨"e1", .transition, "company", "id", none⟩,
    ⟨"e2", .transition, "branch", "nr", none⟩,
    ⟨"e3", .weighted, "company", "opens", some "(1..1)"⟩,
    ⟨"e4", .weighted, "opens", "branch", some "(0..N)"⟩,
    ⟨"e5", .transition, "branch", "form", none⟩,
    ⟨"e6", .transition, "form", "office", none⟩,
    ⟨"e7", .weighted, "office", "holds", some "(1..1)"⟩,
    ⟨"e8", .weighted, "holds", "vault", some "(0..N)"⟩,
    ⟨"e9", .transition, "holds", "code", none⟩]

theorem identityColumns_ladder :
    ∃ refs, ladder.identityColumns "vault" =
        .ok [⟨"Company_id", "INTEGER"⟩, ⟨"Branch_nr", "INTEGER"⟩, ⟨"Vault_code", "TEXT"⟩] ∧
      ladder.foreignKeyColumns "vault" = .ok refs ∧
      refs.map (·.references) = ["Company_id", "Branch_nr", "Vault_code"] := by
  have hvault : ladder.node? "vault" = some ⟨"vault", .weakEntity, "Vault", none⟩ := by decide
  have hoffice : ladder.BuiltOn ⟨"vault", .weakEntity, "Vault", none⟩
      ⟨"office", .entity, "Head office", none⟩ :=
    ⟨.dependent ⟨"holds", .dependency .identifying, "Holds", none⟩ _
      (some ⟨"code", .attr .key, "code:TEXT", none⟩), by decide +kernel, rfl⟩
  have hbranch : ladder.BuiltOn ⟨"office", .entity, "Head office", none⟩
      ⟨"branch", .weakEntity, "Branch", none⟩ :=
    ⟨.subclass ⟨"form", .specialization ⟨false, true⟩, "form", none⟩ _, by decide +kernel, rfl⟩
  have hcompany : ladder.BuiltOn ⟨"branch", .weakEntity, "Branch", none⟩
      ⟨"company", .entity, "Company", none⟩ :=
    ⟨.dependent ⟨"opens", .dependency .existence, "Opens", none⟩ _
      (some ⟨"nr", .attr .key, "nr:INTEGER", none⟩), by decide +kernel, rfl⟩
  have hclimb := ((Climb.start.up (by decide) hoffice).up (by decide) hbranch).up
    (by decide) hcompany
  have hkey : ladder.identitySource ⟨"company", .entity, "Company", none⟩ =
      .ok (.ownKey ⟨"id", .attr .key, "id:INTEGER", none⟩) := by decide +kernel
  obtain ⟨-, htop, -, hrefs⟩ :=
    identityColumns_of_climb (n := ⟨"vault", .weakEntity, "Vault", none⟩) hvault
  have hcolumns := (htop _ _ hclimb).2.2 _ hkey
  have hvalue : ladder.identityColumns "vault" =
      .ok [⟨"Company_id", "INTEGER"⟩, ⟨"Branch_nr", "INTEGER"⟩, ⟨"Vault_code", "TEXT"⟩] :=
    hcolumns.trans (by decide +kernel)
  obtain ⟨refs, hok, hnames, -⟩ := hrefs _ hvalue
  exact ⟨refs, hvalue, hok, hnames⟩

end EntityRelationship.Diagram
