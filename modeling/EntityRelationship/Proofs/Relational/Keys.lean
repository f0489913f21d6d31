import EntityRelationship.Proofs.Relational.Integrity
import EntityRelationship.Proofs.Relational.Run

/-!
# Keys of tables

Every table has one primary key, and it is declared once: with its only column, or else with the
table. The columns that it names are there, they have a value in every row and are not computed.
The primary key of an entity's table is the identity of the entity, column by column.

A table gets its primary key when it is made. What is added to it later may be a further key, whose
columns are there too, but never a primary one. So the proof has two parts: which key each sort of
new table has, and that no step touches the primary key of a table that is there.
-/

namespace EntityRelationship

open Outcome

variable {d : Diagram} {m n : Node} {s s' : Draft} {t t' t'' : Table} {kind : KeyKind}
  {cs : List Column} {ks : List Constraint} {names : List String}

/-! ## Declared keys -/

/-- The names of a key of some kind, if a constraint is such a key. -/
def Constraint.keyNames? (kind : KeyKind) : Constraint → Option (List String)
  | key k names => if k = kind then some names else none
  | _ => none

namespace Table

/-- The keys of one column each that are declared with the column. -/
def inlineKeys (t : Table) (kind : KeyKind) : List (List String) :=
  (t.columns.filter (·.key == some kind)).map fun c => [c.name]

/-- The keys that are declared with the table. -/
def listedKeys (t : Table) (kind : KeyKind) : List (List String) :=
  t.constraints.filterMap (·.keyNames? kind)

/-- All keys of a kind that a table declares. -/
def keys (t : Table) (kind : KeyKind) : List (List String) :=
  t.inlineKeys kind ++ t.listedKeys kind

theorem mem_inlineKeys_iff :
    names ∈ t.inlineKeys kind ↔ ∃ c ∈ t.columns, c.key = some kind ∧ names = [c.name] := by
  simp only [inlineKeys, List.mem_map, List.mem_filter, beq_iff_eq, and_assoc]
  exact exists_congr fun c => and_congr_right fun _ => and_congr_right fun _ => eq_comm

theorem mem_listedKeys_iff : names ∈ t.listedKeys kind ↔ .key kind names ∈ t.constraints := by
  rw [listedKeys, List.mem_filterMap]
  constructor
  · rintro ⟨c, hc, hkey⟩
    cases c with
    | key k names' =>
      simp only [Constraint.keyNames?, Option.ite_none_right_eq_some, Option.some.injEq] at hkey
      obtain ⟨rfl, rfl⟩ := hkey
      exact hc
    | foreignKey _ => cases hkey
    | check _ => cases hkey
  · intro hc
    exact ⟨_, hc, if_pos rfl⟩

theorem inlineKeys_extend_of_ne (h : ∀ c ∈ cs, c.key ≠ some kind) (t : Table)
    (ks : List Constraint) : (t.extend cs ks).inlineKeys kind = t.inlineKeys kind := by
  have hnone : cs.filter (·.key == some kind) = [] := by
    rw [List.filter_eq_nil_iff]
    exact fun c hc => by simpa using h c hc
  rw [inlineKeys, columns_extend, List.filter_append, hnone, List.append_nil, inlineKeys]

theorem listedKeys_extend (t : Table) (cs : List Column) (ks : List Constraint) :
    (t.extend cs ks).listedKeys kind = t.listedKeys kind ++ ks.filterMap (·.keyNames? kind) := by
  rw [listedKeys, constraints_extend, List.filterMap_append, listedKeys]

/-- The columns of a declared key are columns of the table if the listed ones are. -/
theorem mem_columnNames_of_mem_keys (hnames : names ∈ t.keys kind)
    (hlisted : .key kind names ∈ t.constraints → ∀ name ∈ names, name ∈ t.columnNames) :
    ∀ name ∈ names, name ∈ t.columnNames := by
  rcases List.mem_append.1 hnames with hinline | hnames
  · obtain ⟨c, hc, -, rfl⟩ := mem_inlineKeys_iff.1 hinline
    intro name hname
    rw [List.mem_singleton.1 hname]
    exact List.mem_map_of_mem hc
  · exact hlisted (mem_listedKeys_iff.1 hnames)

/-! ## Primary keys -/

/-- Some names are the primary key of a table, and it has no other. The first column of each of them
has a value in every row and is not computed. Further keys name columns of the table. -/
structure KeyedBy (t : Table) (names : List String) : Prop where
  primary : t.keys .primary = [names]
  plain : ∀ name ∈ names, ∃ c, t.column? name = some c ∧ c.nullable = false ∧ c.expression = none
  unique : ∀ key ∈ t.keys .unique, ∀ name ∈ key, name ∈ t.columnNames

/-- The second table is the first one with columns and constraints added. Its primary key is the
same, and what it has of further keys names columns that are there. -/
structure KeepsKey (t t' : Table) : Prop where
  grows : t.Extends t'
  inline_eq : t'.inlineKeys .primary = t.inlineKeys .primary
  listed_eq : t'.listedKeys .primary = t.listedKeys .primary
  unique : ∀ names ∈ t'.keys .unique,
    names ∈ t.keys .unique ∨ ∀ name ∈ names, name ∈ t'.columnNames

theorem KeepsKey.refl (t : Table) : t.KeepsKey t :=
  ⟨.refl t, rfl, rfl, fun _ h => .inl h⟩

theorem KeepsKey.trans (h : t.KeepsKey t') (h' : t'.KeepsKey t'') : t.KeepsKey t'' where
  grows := h.grows.trans h'.grows
  inline_eq := h'.inline_eq.trans h.inline_eq
  listed_eq := h'.listed_eq.trans h.listed_eq
  unique := by
    intro names hnames
    rcases h'.unique names hnames with hnames | hall
    · refine (h.unique names hnames).imp_right fun hall name hname => ?_
      exact h'.grows.columnNames.subset (hall name hname)
    · exact .inr hall

theorem KeepsKey.keys_eq (h : t.KeepsKey t') : t'.keys .primary = t.keys .primary := by
  rw [keys, h.inline_eq, h.listed_eq, keys]

/-- The first column of a name stays the first while a table grows. -/
theorem Extends.column? (h : t.Extends t') {name : String} {c : Column}
    (hc : t.column? name = some c) : t'.column? name = some c := by
  obtain ⟨added, hadded⟩ := h.columns
  rw [Table.column?, ← hadded, List.find?_append]
  rw [Table.column?] at hc
  rw [hc]
  rfl

theorem KeyedBy.mono (h : t.KeyedBy names) (ht : t.KeepsKey t') : t'.KeyedBy names where
  primary := ht.keys_eq.trans h.primary
  plain := by
    intro name hname
    obtain ⟨c, hc, hplain⟩ := h.plain name hname
    exact ⟨c, ht.grows.column? hc, hplain⟩
  unique := by
    intro key hkey
    rcases ht.unique key hkey with hkey | hall
    · exact fun name hname => ht.grows.columnNames.subset (h.unique key hkey name hname)
    · exact hall

/-- Additions that declare no primary key, and further keys only of columns that are there then,
keep the key. -/
theorem keepsKey_extend (t : Table) (hcs : ∀ c ∈ cs, c.key ≠ some .primary)
    (hks : ∀ names, .key .primary names ∉ ks)
    (hunique : ∀ names, .key .unique names ∈ ks →
      ∀ name ∈ names, name ∈ (t.extend cs ks).columnNames) : t.KeepsKey (t.extend cs ks) where
  grows := extends_extend t cs ks
  inline_eq := inlineKeys_extend_of_ne hcs t ks
  listed_eq := by
    have hnone : ks.filterMap (·.keyNames? .primary) = [] := by
      rw [List.eq_nil_iff_forall_not_mem]
      intro names hnames
      exact hks names (mem_listedKeys_iff (t := ⟨"", [], ks⟩).1 hnames)
    rw [listedKeys_extend, hnone, List.append_nil]
  unique := by
    intro names hnames
    by_cases hold : .key .unique names ∈ t.constraints
    · exact .inl (List.mem_append_right _ (mem_listedKeys_iff.2 hold))
    · refine .inr (mem_columnNames_of_mem_keys hnames fun hlisted => ?_)
      exact hunique names ((List.mem_append.1 hlisted).resolve_left hold)

/-- A further key is no primary one. -/
theorem keepsKey_addKey (t : Table) (hcs : ∀ c ∈ cs, c.key = none) :
    t.KeepsKey (t.addKey .unique cs) := by
  have hne : ∀ c ∈ cs, c.key ≠ some .primary := fun c hc => by simp [hcs c hc]
  have hall : t.KeepsKey (t.extend cs [.key .unique (Column.names cs)]) := by
    refine t.keepsKey_extend hne (by simp) fun names hnames name hname => ?_
    obtain rfl : names = Column.names cs := by simpa using hnames
    rw [columnNames, columns_extend, Column.names_append]
    exact List.mem_append_right _ hname
  rcases cs with _ | ⟨c, _ | ⟨c', cs⟩⟩
  · exact hall
  · refine t.keepsKey_extend (fun c' hc' => ?_) (by simp) (by simp)
    rw [List.mem_singleton.1 hc']
    simp
  · exact hall

theorem keepsKey_pushAll (t : Table) (owner : String) (hcs : ∀ c ∈ cs, c.key = none) :
    t.KeepsKey (t.pushAll owner cs) := by
  induction cs generalizing t with
  | nil => exact .refl t
  | cons c cs ih =>
    have hpush : t.KeepsKey (t.push owner c) := by
      refine t.keepsKey_extend (fun c' hc' => ?_) (by simp) (by simp)
      rw [List.mem_singleton.1 hc']
      simp [hcs c List.mem_cons_self]
    exact hpush.trans (ih _ fun c' hc' => hcs c' (List.mem_cons_of_mem _ hc'))

end Table

/-- The columns of typed names are no keys by themselves. -/
theorem Column.key_of_mem_ofTypedName {ts : List TypedName} :
    ∀ c ∈ ts.map Column.ofTypedName, c.key = none := by
  intro c hc
  obtain ⟨x, -, rfl⟩ := List.mem_map.1 hc
  rfl

namespace Table

/-! ## Tables without keys -/

/-- A table without keys all of whose columns have a value in every row and are not computed. Every
new table is like this until its primary key is declared. -/
structure Keyless (t : Table) : Prop where
  plain : ∀ c ∈ t.columns, c.nullable = false ∧ c.expression = none
  inline_eq : ∀ kind, t.inlineKeys kind = []
  listed : ∀ kind names, .key kind names ∉ t.constraints

theorem keyless_blank (name : String) : (blank name).Keyless where
  plain := fun _ hc => absurd hc List.not_mem_nil
  inline_eq := fun _ => rfl
  listed := fun _ _ h => absurd h List.not_mem_nil

theorem plain_extend (h : t.Keyless) (ts : List TypedName) (ks : List Constraint) :
    ∀ c ∈ (t.extend (ts.map .ofTypedName) ks).columns,
      c.nullable = false ∧ c.expression = none := by
  intro c hc
  rcases List.mem_append.1 hc with hc | hc
  · exact h.plain c hc
  · obtain ⟨x, -, rfl⟩ := List.mem_map.1 hc
    exact ⟨rfl, rfl⟩

theorem inlineKeys_extend_ofTypedName (h : t.Keyless) (ts : List TypedName)
    (ks : List Constraint) (kind : KeyKind) :
    (t.extend (ts.map .ofTypedName) ks).inlineKeys kind = [] := by
  rw [inlineKeys_extend_of_ne fun c hc => by simp [Column.key_of_mem_ofTypedName c hc]]
  exact h.inline_eq kind

/-- Foreign keys are no keys. -/
theorem Keyless.extend (h : t.Keyless) (ts : List TypedName) (fs : List ForeignKey) :
    (t.extend (ts.map .ofTypedName) (fs.map .foreignKey)).Keyless where
  plain := plain_extend h ts _
  inline_eq := inlineKeys_extend_ofTypedName h ts _
  listed := by
    intro kind names hnames
    rcases List.mem_append.1 hnames with hnames | hnames
    · exact h.listed kind names hnames
    · obtain ⟨f, -, hf⟩ := List.mem_map.1 hnames
      cases hf

/-- A table of plain columns is keyed by what is its only key. -/
theorem keyedBy_of_plain (hplain : ∀ c ∈ t.columns, c.nullable = false ∧ c.expression = none)
    (hprimary : t.keys .primary = [names]) (hunique : t.keys .unique = [])
    (hnames : ∀ name ∈ names, name ∈ t.columnNames) : t.KeyedBy names where
  primary := hprimary
  plain := by
    intro name hname
    obtain ⟨c, hc⟩ := Option.isSome_iff_exists.1 (hasColumn_iff.2 (hnames name hname))
    exact ⟨c, hc, hplain c (List.mem_of_find?_eq_some hc)⟩
  unique := by
    rw [hunique]
    exact fun key hkey => absurd hkey List.not_mem_nil

theorem Keyless.listedKeys_eq (h : t.Keyless) (kind : KeyKind) : t.listedKeys kind = [] :=
  List.eq_nil_iff_forall_not_mem.2 fun names hnames =>
    h.listed kind names (mem_listedKeys_iff.1 hnames)

/-- A primary key that is listed together with some columns and foreign keys. -/
theorem Keyless.keyedBy_extend (h : t.Keyless) (ts : List TypedName) (fs : List ForeignKey)
    (hnames : ∀ name ∈ names, name ∈ t.columnNames ++ ts.map (·.name)) :
    (t.extend (ts.map .ofTypedName) (.key .primary names :: fs.map .foreignKey)).KeyedBy names := by
  have hkeys (kind : KeyKind) :
      (t.extend (ts.map .ofTypedName) (.key .primary names :: fs.map .foreignKey)).keys kind =
        ((Constraint.key .primary names).keyNames? kind).toList := by
    have hforeign : (fs.map Constraint.foreignKey).filterMap (·.keyNames? kind) = [] := by
      rw [List.filterMap_map]
      exact List.filterMap_eq_nil_iff.2 fun f _ => rfl
    rw [keys, inlineKeys_extend_ofTypedName h, listedKeys_extend, h.listedKeys_eq,
      List.filterMap_cons, hforeign]
    cases (Constraint.key .primary names).keyNames? kind <;> rfl
  refine keyedBy_of_plain (plain_extend h ts _) (hkeys .primary) (hkeys .unique) ?_
  rw [columnNames, columns_extend, Column.names_append, Column.names_ofTypedName]
  exact hnames

/-- A primary key that consists of all columns. -/
theorem Keyless.keyedBy_all (h : t.Keyless) :
    (t.extend [] [.key .primary t.columnNames]).KeyedBy t.columnNames :=
  h.keyedBy_extend [] [] fun _ hname => List.mem_append_left _ hname

/-- A primary key of one column, which is marked as the key. -/
theorem Keyless.keyedBy_marked (h : t.Keyless) (x : TypedName) :
    (t.extend [{ Column.ofTypedName x with key := some .primary }] []).KeyedBy [x.name] := by
  have hkeys (kind : KeyKind) :
      (t.extend [{ Column.ofTypedName x with key := some .primary }] []).keys kind =
        if kind = .primary then [[x.name]] else [] := by
    have hinline := h.inline_eq kind
    rw [inlineKeys, List.map_eq_nil_iff] at hinline
    rw [keys, inlineKeys, columns_extend, List.filter_append, hinline, listedKeys_extend,
      h.listedKeys_eq]
    cases kind <;> rfl
  refine keyedBy_of_plain (fun c hc => ?_) (hkeys .primary) (hkeys .unique) fun name hname => ?_
  · rcases List.mem_append.1 hc with hc | hc
    · exact h.plain c hc
    · rw [List.mem_singleton.1 hc]
      exact ⟨rfl, rfl⟩
  · rw [columnNames, columns_extend, Column.names_append]
    exact List.mem_append_right _ hname

/-- A primary key that consists of the columns added with it. -/
theorem Keyless.keyedBy_addKey (h : t.Keyless) (ts : List TypedName) :
    (t.addKey .primary (ts.map .ofTypedName)).KeyedBy (ts.map (·.name)) := by
  have hlisted : (t.extend (ts.map .ofTypedName) [.key .primary (ts.map (·.name))]).KeyedBy
      (ts.map (·.name)) :=
    h.keyedBy_extend ts [] fun name hname => List.mem_append_right _ hname
  rw [← Column.names_ofTypedName] at hlisted ⊢
  match ts, hlisted with
  | [], hlisted => exact hlisted
  | [x], _ => exact h.keyedBy_marked x
  | x :: y :: ts, hlisted => exact hlisted

end Table

namespace Diagram

/-! ## Columns of attributes -/

theorem key_of_mem_columnsOf {nullable : Bool} {x : Neighbor}
    (h : d.columnsOf nullable x = .ok cs) : ∀ c ∈ cs, c.key = none := by
  unfold columnsOf at h
  split at h
  · obtain ⟨ts, -, h⟩ := bind_eq_ok_iff.1 h
    cases h
    intro c hc
    obtain ⟨x, -, rfl⟩ := List.mem_map.1 hc
    rfl
  · split at h
    · cases h
    · obtain ⟨x, -, h⟩ := bind_eq_ok_iff.1 h
      cases h
      intro c hc
      rw [List.mem_singleton.1 hc]
      rfl
  · cases h
    exact fun c hc => absurd hc List.not_mem_nil

/-- The columns of attributes are no keys by themselves. -/
theorem key_of_mem_attributeColumns {id : String} {nullable : Bool}
    (h : d.attributeColumns id nullable = .ok cs) : ∀ c ∈ cs, c.key = none := by
  obtain ⟨groups, hgroups, h⟩ := bind_eq_ok_iff.1 h
  cases h
  intro c hc
  obtain ⟨group, hgroup, hc⟩ := List.mem_flatten.1 hc
  obtain ⟨x, -, hx⟩ := exists_of_mem_of_mapM hgroups hgroup
  exact key_of_mem_columnsOf hx c hc

/-- The columns of alternative keys are no keys one by one. -/
theorem key_of_mem_alternativeKey {id : String} (h : d.alternativeKey id = .ok cs) :
    ∀ c ∈ cs, c.key = none := by
  intro c hc
  obtain ⟨x, -, hx⟩ := exists_of_mem_of_mapM h hc
  obtain ⟨y, -, hx⟩ := bind_eq_ok_iff.1 hx
  cases hx
  rfl

/-! ## Keys of new tables -/

/-- The identity part of a table is keyed by all its columns. The key is listed if the entity is
built on another. -/
theorem keyedBy_identityTable (h : d.identityTable n = .ok t) :
    t.KeyedBy t.columnNames ∧
      (n.kind = .weakEntity ∨ d.specializationsAbove n.id ≠ [] → t.inlineKeys .primary = []) := by
  have hblank := Table.keyless_blank n.safeName
  have hlist (ts : List TypedName) (fs : List ForeignKey) :
      let t := (Table.blank n.safeName).extend (ts.map .ofTypedName)
        (.key .primary (Column.names (ts.map .ofTypedName)) :: fs.map .foreignKey)
      t.KeyedBy t.columnNames ∧ t.inlineKeys .primary = [] := by
    refine ⟨hblank.keyedBy_extend ts fs fun name hname => ?_,
      Table.inlineKeys_extend_ofTypedName hblank ts _ _⟩
    rw [← Column.names_ofTypedName]
    exact hname
  obtain ⟨source, hs, h⟩ := bind_eq_ok_iff.1 h
  cases source with
  | ownKey key =>
    obtain ⟨hkind, habove⟩ := of_identitySource_ownKey hs
    obtain ⟨columns, -, h⟩ := bind_eq_ok_iff.1 h
    cases h
    constructor
    · rw [Table.columnNames_addKey, Column.names_ofTypedName]
      exact hblank.keyedBy_addKey columns
    · rintro (hweak | hne)
      · rw [hkind] at hweak
        cases hweak
      · exact absurd habove hne
  | dependent relation owner partialKey =>
    obtain ⟨refs, -, h⟩ := bind_eq_ok_iff.1 h
    obtain ⟨own, -, h⟩ := bind_eq_ok_iff.1 h
    cases h
    obtain ⟨hkeyed, hinline⟩ := hlist (refs.map (·.column) ++ own.map (·.qualify n.safeName))
      [.ofReferences refs [] owner true]
    exact ⟨hkeyed, fun _ => hinline⟩
  | subclass specialization parent =>
    obtain ⟨columns, -, h⟩ := bind_eq_ok_iff.1 h
    cases h
    obtain ⟨hkeyed, hinline⟩ := hlist columns []
    exact ⟨hkeyed, fun _ => hinline⟩

/-- The table of an entity keeps the key of its identity. -/
theorem keepsKey_entityTable {identity : Table} (hidentity : d.identityTable n = .ok identity)
    (h : d.entityTable n = .ok t) : identity.KeepsKey t := by
  obtain ⟨identity', alternative, columns, hidentity', halternative, hcolumns, rfl⟩ :=
    of_entityTable h
  obtain rfl := Except.ok.inj (hidentity.symm.trans hidentity')
  refine Table.KeepsKey.trans ?_ (Table.keepsKey_pushAll _ _ (key_of_mem_attributeColumns hcolumns))
  split
  · exact .refl identity
  · exact Table.keepsKey_addKey identity (key_of_mem_alternativeKey halternative)

/-- The table of an entity is keyed by the names of its identity columns, with which it begins. -/
theorem keyedBy_entityTable (hn : d.node? n.id = some n) (h : d.entityTable n = .ok t) :
    ∃ cs, d.identityColumns n.id = .ok cs ∧ cs <+: t.typedNames ∧ t.KeyedBy (cs.map (·.name)) ∧
      (n.kind = .weakEntity ∨ d.specializationsAbove n.id ≠ [] → t.inlineKeys .primary = []) := by
  obtain ⟨identity, -, -, hidentity, -⟩ := of_entityTable h
  obtain ⟨hkeyed, hinline⟩ := keyedBy_identityTable hidentity
  have hkeeps := keepsKey_entityTable hidentity h
  refine ⟨identity.typedNames, (identityColumns_of_identityTable hn hidentity).1,
    hkeeps.grows.typedNames, ?_, fun hbuilt => hkeeps.inline_eq.trans (hinline hbuilt)⟩
  rw [Table.map_name_typedNames]
  exact hkeyed.mono hkeeps

/-- Referring columns are no keys. -/
theorem keyless_references (ht : t.Keyless) (refs : List Reference) (fs : List ForeignKey) :
    (t.extend (refs.map fun r => .ofTypedName r.column) (fs.map .foreignKey)).Keyless := by
  have hextend := ht.extend (refs.map (·.column)) fs
  rwa [List.map_map] at hextend

/-- The ends of a relation add no key to its table. -/
theorem keyless_ends {es : List Neighbor} {name : String}
    (h : es.foldlM d.addEnd (.blank name) = .ok t) : t.Keyless := by
  refine foldlM_induction (fun t e t' _ ht hstep => ?_) h (Table.keyless_blank name)
  obtain ⟨refs, -, hstep⟩ := bind_eq_ok_iff.1 hstep
  cases hstep
  exact keyless_references ht _ [_]

/-- The table of a relation has a primary key. -/
theorem keyedBy_junctionTable (h : d.junctionTable n = .ok t) : ∃ names, t.KeyedBy names := by
  obtain ⟨ends, keyed, attributes, hends, hattributes, rfl, hkeyed⟩ := of_junctionTable h
  have hkeyless := keyless_ends hends
  have hpush := Table.keepsKey_pushAll keyed n.safeName (key_of_mem_attributeColumns hattributes)
  rcases hkeyed with ⟨-, rfl⟩ | ⟨key, columns, -, -, rfl⟩
  · exact ⟨_, hkeyless.keyedBy_all.mono hpush⟩
  · exact ⟨_, (hkeyless.keyedBy_addKey columns).mono hpush⟩

/-- The table of a multi-valued attribute is keyed by the owner's identity and the value. -/
theorem keyedBy_multiValuedTable (h : d.multiValuedTable n = .ok t) : ∃ names, t.KeyedBy names := by
  obtain ⟨owner, -, h⟩ := bind_eq_ok_iff.1 h
  obtain ⟨refs, -, h⟩ := bind_eq_ok_iff.1 h
  obtain ⟨value, -, h⟩ := bind_eq_ok_iff.1 h
  extract_lets table name at h
  cases h
  have htable : table.Keyless := keyless_references (Table.keyless_blank _) refs []
  refine ⟨_, htable.keyedBy_extend [{ value with name }] [.ofReferences refs [] owner true] ?_⟩
  intro x hx
  refine (List.mem_append.1 hx).elim (fun hx => List.mem_append_left _ ?_) (List.mem_append_right _)
  obtain ⟨r, hr, rfl⟩ := List.mem_map.1 hx
  exact List.mem_map.2 ⟨.ofTypedName r.column, List.mem_map_of_mem hr, rfl⟩

/-! ## Steps after the entities -/

/-- The key of a relation adds no primary key to the table of its holder. -/
theorem keepsKey_relationKey (k : RelationKey) (refs : List Reference) {attributes : List Column}
    (hattributes : ∀ c ∈ attributes, c.key = none) (t : Table) :
    t.KeepsKey (k.extend refs attributes t) := by
  unfold RelationKey.extend
  extract_lets refs' columns table
  have hcolumns : ∀ c ∈ columns, c.key = none := by
    intro c hc
    obtain ⟨r, -, rfl⟩ := List.mem_map.1 hc
    rfl
  have htable : t.KeepsKey table := by
    unfold table
    split
    · exact t.keepsKey_addKey hcolumns
    · exact t.keepsKey_extend (fun c hc => by simp [hcolumns c hc]) (by simp) (by simp)
  have hforeign : table.KeepsKey
      (table.extend [] [.foreignKey (.ofReferences refs' [] k.target false)]) :=
    table.keepsKey_extend (by simp) (by simp) (by simp)
  exact (htable.trans hforeign).trans (Table.keepsKey_pushAll _ _ hattributes)

end Diagram

/-- Additions fit the parent of a specialization if no column of them is a key by itself and each
key that they list is a further key of the parent, which consists of the columns referred to and one
that is added with it. -/
def SpecializationTie.Fits (tie : SpecializationTie) (as : List Addition) : Prop :=
  ∀ a ∈ as, (∀ c ∈ a.columns, c.key = none) ∧
    ∀ kind names, .key kind names ∈ a.constraints → kind = .unique ∧ a.entity = tie.parent.id ∧
      ∃ shared ∈ Column.names a.columns, names = tie.references.map (·.references) ++ [shared]

namespace SpecializationTie

theorem fits_exclusiveAdditions (tie : SpecializationTie) (discriminator : String) :
    tie.Fits (tie.exclusiveAdditions discriminator) := by
  intro a ha
  rcases List.mem_cons.1 ha with rfl | ha
  · refine ⟨by simp, fun kind names hnames => ?_⟩
    simp only [parentKey, List.mem_cons, List.not_mem_nil, or_false, reduceCtorEq, false_or,
      Constraint.key.injEq] at hnames
    exact ⟨hnames.1, rfl, discriminator, List.mem_singleton_self _, hnames.2⟩
  · obtain ⟨c, -, rfl⟩ := List.mem_map.1 ha
    exact ⟨by simp, by simp [childKey]⟩

theorem fits_overlappedAdditions (tie : SpecializationTie) (flags : List String) :
    tie.Fits (tie.overlappedAdditions flags) := by
  intro a ha
  rcases List.mem_cons.1 ha with rfl | ha
  · refine ⟨by simp, fun kind names hnames => ?_⟩
    -- the condition that some flag is set is no key
    have hkeys : .key kind names ∈ flags.map tie.parentKey := by
      refine (List.mem_append.1 hnames).resolve_right fun hcover => ?_
      split at hcover <;> simp at hcover
    obtain ⟨flag, hflag, hkey⟩ := List.mem_map.1 hkeys
    cases hkey
    refine ⟨rfl, rfl, flag, ?_, rfl⟩
    rw [Column.names, List.map_map]
    exact List.mem_map.2 ⟨flag, hflag, rfl⟩
  · rw [← List.map_uncurry_zip_eq_zipWith] at ha
    obtain ⟨⟨c, flag⟩, -, rfl⟩ := List.mem_map.1 ha
    exact ⟨by simp, by simp [childKey]⟩

end SpecializationTie

namespace Diagram

/-- Additions that fit keep the primary key of each table. The parent's table has the columns of the
further keys: it offers the parent's identity. -/
theorem keepsKey_receive (hd : d.DistinctIds) (hs : s.OffersAll d) {form : SpecializationKind}
    {tie : SpecializationTie} (htie : d.specializationTie n form = .ok tie) {as : List Addition}
    (has : tie.Fits as) {t : NodeTable} (ht : t ∈ s.tables) :
    t.table.KeepsKey (t.receive as).table := by
  refine t.table.keepsKey_extend ?_ ?_ ?_
  · intro c hc
    obtain ⟨a, ha, hc⟩ := List.mem_flatMap.1 hc
    simp [(has a (NodeTable.mem_additions_iff.1 ha).1).1 c hc]
  · intro names hnames
    obtain ⟨a, ha, hnames⟩ := List.mem_flatMap.1 hnames
    cases ((has a (NodeTable.mem_additions_iff.1 ha).1).2 _ _ hnames).1
  · intro names hnames name hname
    obtain ⟨a, ha, hnames⟩ := List.mem_flatMap.1 hnames
    obtain ⟨hmem, hof⟩ := NodeTable.mem_additions_iff.1 ha
    obtain ⟨-, hentity, shared, hshared, rfl⟩ := (has a hmem).2 _ _ hnames
    rw [Table.columnNames, Table.columns_extend, Column.names_append]
    rcases List.mem_append.1 hname with hname | hname
    · -- the columns referred to are the identity of the parent
      obtain ⟨hparent, -, hrefs⟩ := of_specializationTie htie
      have hfound := (mem_of_node? (of_parent? hparent).1).1
      rw [hentity] at hof
      obtain ⟨cs, hcs, hbegin, -⟩ := (hs.offers_of_isOf hd hfound ht hof).identity
      rw [identityColumns_of_foreignKeyColumns hrefs] at hcs
      cases hcs
      obtain ⟨r, hr, rfl⟩ := List.mem_map.1 hname
      have hcolumn : r.target ∈ t.table.typedNames := hbegin.subset (List.mem_map_of_mem hr)
      refine List.mem_append_left _ ?_
      rw [← Table.columnNames, ← Table.map_name_typedNames]
      exact List.mem_map.2 ⟨r.target, hcolumn, rfl⟩
    · refine List.mem_append_right _ ?_
      rw [List.mem_singleton.1 hname]
      obtain ⟨c, hc, rfl⟩ := List.mem_map.1 hshared
      exact List.mem_map_of_mem (List.mem_flatMap.2 ⟨a, ha, hc⟩)

end Diagram

/-! ## Drafts -/

/-- The tables of the first draft are in the second one, in their places and with their primary
keys, and the tables that come after them have primary keys. -/
structure Draft.KeepsKeys (s s' : Draft) : Prop where
  kept : ∀ (i : Nat) (t : NodeTable), s.tables[i]? = some t →
    ∃ t' : NodeTable, s'.tables[i]? = some t' ∧ t'.node = t.node ∧ t.table.KeepsKey t'.table
  added : ∀ (i : Nat) (t' : NodeTable), s'.tables[i]? = some t' → s.tables[i]? = none →
    ∃ names, t'.table.KeyedBy names

namespace Draft

theorem KeepsKeys.refl (s : Draft) : s.KeepsKeys s where
  kept := fun _ t ht => ⟨t, ht, rfl, .refl t.table⟩
  added := fun _ _ ht hnone => by simp [ht] at hnone

theorem KeepsKeys.trans {s'' : Draft} (h : s.KeepsKeys s') (h' : s'.KeepsKeys s'') :
    s.KeepsKeys s'' where
  kept := by
    intro i t ht
    obtain ⟨t', ht', hnode, hkeeps⟩ := h.kept i t ht
    obtain ⟨t'', ht'', hnode', hkeeps'⟩ := h'.kept i t' ht'
    exact ⟨t'', ht'', hnode'.trans hnode, hkeeps.trans hkeeps'⟩
  added := by
    intro i t'' ht'' hnone
    cases hmid : s'.tables[i]? with
    | none => exact h'.added i t'' ht'' hmid
    | some t' =>
      obtain ⟨names, hnames⟩ := h.added i t' hmid hnone
      obtain ⟨u, hu, -, hkeeps⟩ := h'.kept i t' hmid
      rw [ht''] at hu
      cases hu
      exact ⟨names, hnames.mono hkeeps⟩

/-- Adding a table that has a primary key. -/
theorem keepsKeys_add (s : Draft) (n : Node) (ht : ∃ names, t.KeyedBy names) :
    s.KeepsKeys (s.add n t) where
  kept := by
    intro i u hu
    exact ⟨u, getElem?_tables_add hu n t, rfl, .refl u.table⟩
  added := by
    intro i u hu hnone
    rw [List.getElem?_eq_none_iff] at hnone
    rw [add, List.getElem?_append_right hnone] at hu
    rw [List.mem_singleton.1 (List.mem_of_getElem? hu)]
    exact ht

/-- Letting each table grow without a primary key. -/
theorem GrownBy.keepsKeys {f : NodeTable → NodeTable} (hf : Draft.GrownBy f s s')
    (h : ∀ t ∈ s.tables, t.table.KeepsKey (f t).table) : s.KeepsKeys s' where
  kept := by
    intro i t ht
    refine ⟨f t, ?_, hf.node_eq t, h t (List.mem_of_getElem? ht)⟩
    rw [hf.tables_eq, List.getElem?_map, ht]
    rfl
  added := by
    intro i t' ht' hnone
    rw [hf.tables_eq, List.getElem?_map, hnone] at ht'
    cases ht'

end Draft

namespace Diagram

/-- No step after the entities touches a primary key, and each table that is added has one. -/
theorem Step.keepsKeys (h : d.Step s n s') (hd : d.DistinctIds) (hn : n ∈ d.laterNodes)
    (hs : s.OffersAll d) : s.KeepsKeys s' := by
  cases h with
  | entity hkind _ =>
    rw [isEntity_of_mem_laterNodes hn] at hkind
    cases hkind
  | junction _ _ ht => exact s.keepsKeys_add n (keyedBy_junctionTable ht)
  | values _ ht => exact s.keepsKeys_add n (keyedBy_multiValuedTable ht)
  | @foreignKey _ key refs attributes _ _ _ _ hattributes hs' =>
    have hgrown := Draft.grownBy_ite (key.extends_extend refs attributes)
      ((hs.exact hd).tables_update hs')
    refine hgrown.keepsKeys fun t _ => ?_
    split
    · exact keepsKey_relationKey key refs (key_of_mem_attributeColumns hattributes) t.table
    · exact .refl t.table
  | exclusive _ _ htie _ hs' =>
    exact (Draft.grownBy_receive ((hs.exact hd).tables_foldlM_append hs')).keepsKeys fun t ht =>
      keepsKey_receive hd hs htie (SpecializationTie.fits_exclusiveAdditions _ _) ht
  | overlapped _ _ htie _ hs' =>
    exact (Draft.grownBy_receive ((hs.exact hd).tables_foldlM_append hs')).keepsKeys fun t ht =>
      keepsKey_receive hd hs htie (SpecializationTie.fits_overlappedAdditions _ _) ht
  | idle _ _ _ => exact .refl s

/-- A run after the entities keeps all primary keys. -/
theorem keepsKeys_foldlM_laterNodes (hd : d.DistinctIds) (hs : s.OffersAll d)
    (h : d.laterNodes.foldlM d.build s = .ok s') : s.KeepsKeys s' := by
  have hend : s'.OffersAll d ∧ s.KeepsKeys s' := by
    refine foldlM_induction (I := fun r => r.OffersAll d ∧ s.KeepsKeys r) ?_ h ⟨hs, .refl s⟩
    rintro r n r' hn ⟨hr, hkeeps⟩ hbuild
    have hstep := step_of_build hbuild
    exact ⟨hstep.offersAll hn hr, hkeeps.trans (hstep.keepsKeys hd hn hr)⟩
  exact hend.2

/-- Under the name of a column that a table begins with, the table and these columns have a column
of one type. -/
theorem typedName_column? {ts : List TypedName} (h : ts <+: t.typedNames) {name : String}
    (hname : name ∈ ts.map (·.name)) :
    (t.column? name).map (·.typedName) = ts.find? (·.name == name) := by
  obtain ⟨rest, hrest⟩ := h
  have hsome : (ts.find? (·.name == name)).isSome := by
    rw [List.find?_isSome]
    obtain ⟨x, hx, rfl⟩ := List.mem_map.1 hname
    exact ⟨x, hx, beq_self_eq_true x.name⟩
  have hfind : (t.column? name).map (·.typedName) = t.typedNames.find? (·.name == name) := by
    rw [Table.column?, Table.typedNames, List.find?_map]
    rfl
  rw [hfind, ← hrest, List.find?_append, Option.or_of_isSome hsome]

/-- Every table of a schema has one primary key, declared with a column or with the table, and all
its keys name columns that it has; those of the primary key have a value in every row and are not
computed. The tables of the entities come first, in order, and each is keyed by the identity of its
entity: the table begins with the identity columns, the key lists their names, and under each of
these names the table and the identity have a column of one type. If the entity is weak or a member
of a parent, the key is declared with the table. -/
theorem keyedBy_of_synthesize (hd : d.DistinctIds) {schema : Schema}
    (h : d.synthesize = .ok schema) :
    (∀ t ∈ schema.tables, ∃ names, t.KeyedBy names) ∧
    ∀ (i : Nat) (n : Node), d.entityNodes[i]? = some n →
      ∃ (t : Table) (cs : List TypedName), schema.tables[i]? = some t ∧ t.name = n.safeName ∧
        d.identityColumns n.id = .ok cs ∧ cs <+: t.typedNames ∧ t.KeyedBy (cs.map (·.name)) ∧
        (∀ name ∈ cs.map (·.name),
          (t.column? name).map (·.typedName) = cs.find? (·.name == name)) ∧
        (n.kind = .weakEntity ∨ d.specializationsAbove n.id ≠ [] →
          t.inlineKeys .primary = []) := by
  obtain ⟨s₁, s₂, hs₁, hs₂, rfl⟩ := exists_drafts_of_synthesize h
  have hkeeps := keepsKeys_foldlM_laterNodes hd (offersAll_of_foldlM_entityNodes hd hs₁) hs₂
  constructor
  · intro u hu
    obtain ⟨t', ht', rfl⟩ := List.mem_map.1 hu
    obtain ⟨i, hi⟩ := List.mem_iff_getElem?.1 ht'
    cases hold : s₁.tables[i]? with
    | none => exact hkeeps.added i t' hi hold
    | some t =>
      -- the table is that of an entity
      obtain ⟨u, hu, -, hkeep⟩ := hkeeps.kept i t hold
      rw [hi] at hu
      cases hu
      obtain ⟨hmem, htable⟩ := entityTable_of_mem_tables hs₁ t (List.mem_of_getElem? hold)
      obtain ⟨cs, -, -, hkeyed, -⟩ :=
        keyedBy_entityTable (node?_of_mem hd (mem_entityNodes_iff.1 hmem).1) htable
      exact ⟨_, hkeyed.mono hkeep⟩
  · intro i n hi
    rw [← map_node_of_foldlM_entityNodes hs₁, List.getElem?_map] at hi
    obtain ⟨t, ht, rfl⟩ := Option.map_eq_some_iff.1 hi
    obtain ⟨hmem, htable⟩ := entityTable_of_mem_tables hs₁ t (List.mem_of_getElem? ht)
    obtain ⟨cs, hcs, hbegin, hkeyed, hinline⟩ :=
      keyedBy_entityTable (node?_of_mem hd (mem_entityNodes_iff.1 hmem).1) htable
    obtain ⟨t', ht', -, hkeep⟩ := hkeeps.kept i t ht
    have hbegin' := hbegin.trans hkeep.grows.typedNames
    refine ⟨t'.table, cs, ?_, ?_, hcs, hbegin', hkeyed.mono hkeep,
      fun name hname => typedName_column? hbegin' hname,
      fun hbuilt => hkeep.inline_eq.trans (hinline hbuilt)⟩
    · rw [Draft.schema, List.getElem?_map, ht']
      rfl
    · rw [hkeep.grows.name_eq, name_entityTable htable]

theorem keyedBy_university :
    ∃ schema, university.synthesize = .ok schema ∧
      (∀ t ∈ schema.tables, ∃ names, t.KeyedBy names) ∧
      ∃ t, schema.tables[3]? = some t ∧ t.name = "Exam" ∧
        t.KeyedBy ["Course_code", "Exam_nr"] ∧ t.inlineKeys .primary = [] := by
  obtain ⟨schema, h⟩ := exists_synthesize_university
  obtain ⟨hall, hentities⟩ := keyedBy_of_synthesize (by decide) h
  obtain ⟨t, cs, ht, hname, hcs, -, hkeyed, -, hinline⟩ :=
    hentities 3 ⟨"exam", .weakEntity, "Exam", none⟩ (by decide)
  have hidentity : university.identityColumns "exam" =
      .ok [⟨"Course_code", "TEXT"⟩, ⟨"Exam_nr", "INTEGER"⟩] := by decide +kernel
  obtain rfl := Except.ok.inj (hidentity.symm.trans hcs)
  exact ⟨schema, h, hall, t, ht, hname, hkeyed, hinline (.inl rfl)⟩

end Diagram

end EntityRelationship
