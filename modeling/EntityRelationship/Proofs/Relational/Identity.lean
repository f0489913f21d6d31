import EntityRelationship.Proofs.Relational.TableNames
import EntityRelationship.Proofs.Diagram.Chain

/-!
# Identities in tables

The identity of an entity is worked out twice: when the entity's own table is made, and whenever
another table refers to it. Both agree. The table of an entity has the identity columns, with
their types, and declares them as a key; and the columns referred to from elsewhere are just these.
-/

namespace EntityRelationship

open Outcome

variable {d : Diagram} {n owner parent : Node} {s : Draft} {t t' : Table} {refs : List Reference}

/-! ## Columns with their types -/

/-- The name and the type of a column. -/
def Column.typedName (c : Column) : TypedName := ⟨c.name, c.type⟩

@[simp] theorem Column.typedName_ofTypedName (c : TypedName) : (ofTypedName c).typedName = c := rfl

@[simp] theorem Column.map_typedName_ofTypedName (cs : List TypedName) :
    (cs.map ofTypedName).map typedName = cs := by
  rw [List.map_map]
  exact List.map_id cs

theorem Column.names_ofTypedName (cs : List TypedName) :
    names (cs.map ofTypedName) = cs.map (·.name) := by
  rw [names, List.map_map]
  rfl

namespace Table

/-- The names and types of a table's columns. -/
def typedNames (t : Table) : List TypedName :=
  t.columns.map (·.typedName)

@[simp] theorem typedNames_extend (t : Table) (cs : List Column) (ks : List Constraint) :
    (t.extend cs ks).typedNames = t.typedNames ++ cs.map (·.typedName) := by
  simp [typedNames]

@[simp] theorem typedNames_addKey (t : Table) (kind : KeyKind) (cs : List Column) :
    (t.addKey kind cs).typedNames = t.typedNames ++ cs.map (·.typedName) := by
  rcases cs with _ | ⟨c, _ | ⟨c', cs⟩⟩ <;> simp [addKey, typedNames, Column.typedName]

theorem map_name_typedNames (t : Table) : t.typedNames.map (·.name) = t.columnNames := by
  rw [typedNames, List.map_map]
  rfl

theorem Extends.typedNames (h : t.Extends t') : t.typedNames <+: t'.typedNames :=
  h.columns.map _

theorem Extends.mem_typedNames (h : t.Extends t') {c : TypedName} (hc : c ∈ t.typedNames) :
    c ∈ t'.typedNames :=
  h.typedNames.subset hc

/-! ## Declared keys -/

/-- A list of names is declared as a key, by a constraint of the table or by the one column that it
names. -/
def Declares (t : Table) (names : List String) : Prop :=
  (∃ kind, .key kind names ∈ t.constraints) ∨
    ∃ c ∈ t.columns, c.key.isSome = true ∧ names = [c.name]

theorem Extends.declares (h : t.Extends t') {names : List String} (ht : t.Declares names) :
    t'.Declares names := by
  rcases ht with ⟨kind, hkind⟩ | ⟨c, hc, hkey⟩
  · exact .inl ⟨kind, h.constraints.subset hkind⟩
  · exact .inr ⟨c, h.columns.subset hc, hkey⟩

theorem declares_extend_of_mem {names : List String} {kind : KeyKind} {ks : List Constraint}
    (t : Table) (cs : List Column) (h : .key kind names ∈ ks) : (t.extend cs ks).Declares names :=
  .inl ⟨kind, List.mem_append_right _ h⟩

/-- A key that is added is declared, whichever way. -/
theorem declares_addKey (t : Table) (kind : KeyKind) (cs : List Column) :
    (t.addKey kind cs).Declares (Column.names cs) := by
  rcases cs with _ | ⟨c, _ | ⟨c', cs⟩⟩
  · exact declares_extend_of_mem t _ List.mem_cons_self
  · exact .inr ⟨{ c with key := some kind }, by simp [addKey], rfl, rfl⟩
  · exact declares_extend_of_mem t _ List.mem_cons_self

end Table

/-! ## Identity columns -/

/-- The column to which a reference leads. -/
def Reference.target (r : Reference) : TypedName := ⟨r.references, r.column.type⟩

namespace Diagram

/-- The references to an entity lead to its identity columns. -/
theorem identityColumns_of_foreignKeyColumns {id : String} (h : d.foreignKeyColumns id = .ok refs) :
    d.identityColumns id = .ok (refs.map (·.target)) := by
  obtain ⟨l, hl, h⟩ := bind_eq_ok_iff.1 h
  obtain ⟨columns, hcolumns, h⟩ := bind_eq_ok_iff.1 h
  cases h
  have htargets : (columns.map fun c => (⟨l.abroad c, c.name⟩ : Reference)).map (·.target) =
      columns := by
    rw [List.map_map]
    refine List.map_id'' (fun c => ?_) columns
    simp [Reference.target]
  rw [htargets, identityColumns, hl]
  exact hcolumns

theorem identityColumns_of_ownKey {key : Node} (hn : d.node? n.id = some n)
    (hs : d.identitySource n = .ok (.ownKey key)) :
    d.identityColumns n.id = d.leafColumns key := by
  rw [identityColumns, (lineage_eq_ok_iff hn).2 (.root hs)]
  rfl

/-- A weak entity is identified by what refers to its owner, together with its partial key. -/
theorem identityColumns_of_dependent {relation : Node} {partialKey : Option Node}
    {own : List TypedName} (hn : d.node? n.id = some n)
    (hs : d.identitySource n = .ok (.dependent relation owner partialKey))
    (hrefs : d.foreignKeyColumns owner.id = .ok refs)
    (hown : partialKey.elim (.ok []) d.leafColumns = .ok own) :
    d.identityColumns n.id = .ok (refs.map (·.column) ++ own.map (·.qualify n.safeName)) := by
  obtain ⟨l, hl, hrefs⟩ := bind_eq_ok_iff.1 hrefs
  obtain ⟨columns, hcolumns, hrefs⟩ := bind_eq_ok_iff.1 hrefs
  cases hrefs
  have hlineage : d.lineage n.id = .ok (.weak n partialKey l) :=
    (lineage_eq_ok_iff hn).2 (.weak hs ((lineage_eq_ok_iff (of_base? hs rfl).1).1 hl))
  rw [identityColumns, hlineage, ok_bind, identityOf, hcolumns, hown, List.map_map]
  rfl

/-- A member of a parent is identified by what refers to the parent. -/
theorem identityColumns_of_subclass {specialization : Node} (hn : d.node? n.id = some n)
    (hs : d.identitySource n = .ok (.subclass specialization parent))
    (hrefs : d.foreignKeyColumns parent.id = .ok refs) :
    d.identityColumns n.id = .ok (refs.map (·.column)) := by
  obtain ⟨l, hl, hrefs⟩ := bind_eq_ok_iff.1 hrefs
  obtain ⟨columns, hcolumns, hrefs⟩ := bind_eq_ok_iff.1 hrefs
  cases hrefs
  have hlineage : d.lineage n.id = .ok (.subclass n l) :=
    (lineage_eq_ok_iff hn).2 (.subclass hs ((lineage_eq_ok_iff (of_base? hs rfl).1).1 hl))
  rw [identityColumns, hlineage, ok_bind, identityOf, hcolumns, List.map_map]
  rfl

/-! ## Tables of entities -/

/-- The first part of an entity's table consists of the identity columns and declares them as a
key. -/
theorem identityColumns_of_identityTable (hn : d.node? n.id = some n)
    (h : d.identityTable n = .ok t) :
    d.identityColumns n.id = .ok t.typedNames ∧ t.Declares t.columnNames := by
  have hextend (cs : List TypedName) (ks : List Constraint) :
      ((Table.blank n.safeName).extend (cs.map .ofTypedName) ks).typedNames = cs := by
    rw [Table.typedNames_extend, Column.map_typedName_ofTypedName]
    rfl
  obtain ⟨source, hs, h⟩ := bind_eq_ok_iff.1 h
  cases source with
  | ownKey key =>
    obtain ⟨columns, hcolumns, h⟩ := bind_eq_ok_iff.1 h
    cases h
    constructor
    · rw [Table.typedNames_addKey, Column.map_typedName_ofTypedName]
      exact (identityColumns_of_ownKey hn hs).trans hcolumns
    · rw [Table.columnNames_addKey]
      exact Table.declares_addKey _ _ _
  | dependent relation owner partialKey =>
    obtain ⟨refs, hrefs, h⟩ := bind_eq_ok_iff.1 h
    obtain ⟨own, hown, h⟩ := bind_eq_ok_iff.1 h
    cases h
    rw [hextend]
    refine ⟨identityColumns_of_dependent hn hs hrefs hown, ?_⟩
    exact Table.declares_extend_of_mem _ _ List.mem_cons_self
  | subclass specialization parent =>
    obtain ⟨columns, hcolumns, h⟩ := bind_eq_ok_iff.1 h
    cases h
    rw [hextend]
    exact ⟨hcolumns, Table.declares_extend_of_mem _ _ List.mem_cons_self⟩

/-- A table offers the identity of an entity if it has the entity's name, begins with the identity
columns and declares these as a key. -/
structure Offers (d : Diagram) (n : Node) (t : Table) : Prop where
  name_eq : t.name = n.safeName
  identity : ∃ cs, d.identityColumns n.id = .ok cs ∧ cs <+: t.typedNames ∧
    t.Declares (cs.map (·.name))

/-- What a table offers it goes on to offer while it grows. -/
theorem Offers.mono (h : d.Offers n t) (ht : t.Extends t') : d.Offers n t' where
  name_eq := ht.name_eq.trans h.name_eq
  identity := by
    obtain ⟨cs, hcs, hbegin, hkey⟩ := h.identity
    exact ⟨cs, hcs, hbegin.trans ht.typedNames, ht.declares hkey⟩

theorem offers_identityTable (hn : d.node? n.id = some n) (h : d.identityTable n = .ok t) :
    d.Offers n t where
  name_eq := name_identityTable h
  identity := by
    obtain ⟨hcolumns, hkey⟩ := identityColumns_of_identityTable hn h
    refine ⟨t.typedNames, hcolumns, List.prefix_rfl, ?_⟩
    rw [Table.map_name_typedNames]
    exact hkey

/-- An entity's table only adds to its identity. -/
theorem extends_entityTable {identity : Table} (hidentity : d.identityTable n = .ok identity)
    (h : d.entityTable n = .ok t) : identity.Extends t := by
  obtain ⟨identity', alternative, columns, hidentity', -, -, rfl⟩ := of_entityTable h
  obtain rfl := Except.ok.inj (hidentity.symm.trans hidentity')
  refine Table.Extends.trans ?_ (Table.extends_pushAll _ _ _)
  split
  · exact .refl identity
  · exact Table.extends_addKey identity _ _

/-- The table of an entity offers its identity. -/
theorem offers_entityTable (hn : d.node? n.id = some n) (h : d.entityTable n = .ok t) :
    d.Offers n t := by
  obtain ⟨identity, -, -, hidentity, -⟩ := of_entityTable h
  exact (offers_identityTable hn hidentity).mono (extends_entityTable hidentity h)

end Diagram

end EntityRelationship
