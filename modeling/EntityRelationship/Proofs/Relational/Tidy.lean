import EntityRelationship.Proofs.Relational.Step
import EntityRelationship.Proofs.Text.Word

/-!
# Names in a schema are tidy

Labels are free texts, but the statements that declare a schema separate its names by spaces. So no
name in a schema has a blank in it, be it the name of a table, of a column, or of a column or table
in a constraint. Besides, every column has a name and a type, and a generated one has an expression,
without blanks around it.

All names come from labels by stripping them, and are put together from stripped labels, numbers and
fixed words. A column gets its name and type from a label that must give both, and every other column
has a fixed word in its name.
-/

namespace EntityRelationship

open Outcome Text

variable {d : Diagram} {a n : Node} {l : Lineage} {s s' : Draft} {t : Table} {b : TypedName}
  {c : Column} {cs : List Column} {ks : List Constraint} {refs : List Reference}
  {columns : List TypedName} {name owner id : String}

/-! ## Tidy parts of a schema -/

/-- A name is a word, and its type is not empty. -/
structure TypedName.Tidy (b : TypedName) : Prop where
  name : IsWord b.name
  type : b.type ≠ ""

/-- A column has a word for a name and some type, and its expression, if it has one, is not empty and
has no blanks around it. -/
structure Column.Tidy (c : Column) : Prop where
  name : IsWord c.name
  type : c.type ≠ ""
  expression : ∀ e ∈ c.expression, e ≠ "" ∧ IsTrimmed e

/-- The column that refers and the one referred to have words for names. -/
structure Reference.Tidy (r : Reference) : Prop where
  column : r.column.Tidy
  references : IsWord r.references

/-- The names of columns and tables in a constraint. -/
def Constraint.names : Constraint → List String
  | key _ columns => columns
  | foreignKey k => k.columns ++ k.table :: k.references
  | check _ => []

/-- No name in a constraint has a blank in it. -/
def Constraint.Tidy (k : Constraint) : Prop :=
  ∀ name ∈ k.names, Unblank name

/-- No name in a table has a blank in it, and all of its columns are tidy. -/
structure Table.Tidy (t : Table) : Prop where
  name : Unblank t.name
  columns : ∀ c ∈ t.columns, c.Tidy
  constraints : ∀ k ∈ t.constraints, k.Tidy

/-- What is added to a table is tidy. -/
structure Addition.Tidy (a : Addition) : Prop where
  columns : ∀ c ∈ a.columns, c.Tidy
  constraints : ∀ k ∈ a.constraints, k.Tidy

/-! ## Names that are chosen -/

theorem isWord_freshName (taken : List String) (h : IsWord name) :
    IsWord (freshName taken name) := by
  rcases freshName_mem taken name with heq | hmem
  · rwa [heq]
  · obtain ⟨i, -, hi⟩ := List.mem_map.1 hmem
    rw [← hi, numbered]
    exact (h.append_right unblank_underscore).append_right (unblank_toString i)

theorem isWord_sharedName (tables : List Table) (h : IsWord name) :
    IsWord (sharedName tables name) :=
  isWord_freshName _ h

theorem Table.isWord_freeName (t : Table) (howner : Unblank owner) (h : IsWord name) :
    IsWord (t.freeName owner name) := by
  rw [freeName]
  split
  · exact isWord_freshName _ (h.append_left (howner.append unblank_underscore))
  · exact h

theorem unblank_safeName (n : Node) : Unblank n.safeName :=
  unblank_strip n.label

theorem unblank_attributeName (n : Node) : Unblank n.attributeName := by
  rw [Node.attributeName]
  split
  · exact unblank_strip _
  · exact unblank_safeName n

/-! ## Columns and constraints -/

theorem TypedName.Tidy.qualify (h : b.Tidy) (howner : Unblank owner) : (b.qualify owner).Tidy where
  name := h.name.append_left (howner.append unblank_underscore)
  type := h.type

namespace Column

/-- A column that is not generated is tidy if its name is a word and it has a type. -/
theorem tidy_of_expression_eq_none (hname : IsWord c.name) (htype : c.type ≠ "")
    (h : c.expression = none) : c.Tidy where
  name := hname
  type := htype
  expression := by
    rw [h]
    exact fun _ he => absurd he (Option.not_mem_none _)

theorem tidy_ofTypedName (h : b.Tidy) : (ofTypedName b).Tidy :=
  tidy_of_expression_eq_none h.name h.type rfl

theorem tidy_map_ofTypedName (h : ∀ b ∈ columns, b.Tidy) : ∀ c ∈ columns.map ofTypedName, c.Tidy :=
  List.forall_mem_map.2 fun b hb => tidy_ofTypedName (h b hb)

end Column

namespace Constraint

/-- A key of tidy columns is tidy. -/
theorem tidy_key {kind : KeyKind} (h : ∀ c ∈ cs, c.Tidy) : (key kind (Column.names cs)).Tidy := by
  intro name hname
  obtain ⟨c, hc, rfl⟩ := List.mem_map.1 hname
  exact (h c hc).name.unblank

/-- No names are told apart in a condition. -/
theorem tidy_check (condition : String) : (check condition).Tidy :=
  fun _ hname => absurd hname List.not_mem_nil

/-- A foreign key that is made from tidy references is tidy. -/
theorem tidy_ofReferences {shared : List String} {cascade : Bool} (hrefs : ∀ r ∈ refs, r.Tidy)
    (hshared : ∀ name ∈ shared, Unblank name) :
    (foreignKey (.ofReferences refs shared n cascade)).Tidy := by
  intro name hname
  simp only [names, ForeignKey.ofReferences, List.mem_append, List.mem_cons, List.mem_map] at hname
  rcases hname with (⟨r, hr, rfl⟩ | hname) | rfl | ⟨r, hr, rfl⟩ | hname
  · exact (hrefs r hr).column.name.unblank
  · exact hshared name hname
  · exact unblank_safeName n
  · exact (hrefs r hr).references.unblank
  · exact hshared name hname

end Constraint

namespace Table

theorem tidy_blank (h : Unblank name) : (blank name).Tidy where
  name := h
  columns := fun _ hc => absurd hc List.not_mem_nil
  constraints := fun _ hk => absurd hk List.not_mem_nil

theorem Tidy.extend (h : t.Tidy) (hcs : ∀ c ∈ cs, c.Tidy) (hks : ∀ k ∈ ks, k.Tidy) :
    (t.extend cs ks).Tidy where
  name := h.name
  columns := List.forall_mem_append.2 ⟨h.columns, hcs⟩
  constraints := List.forall_mem_append.2 ⟨h.constraints, hks⟩

theorem Tidy.addKey (h : t.Tidy) (kind : KeyKind) (hcs : ∀ c ∈ cs, c.Tidy) :
    (t.addKey kind cs).Tidy := by
  have hlisted : (t.extend cs [.key kind (Column.names cs)]).Tidy :=
    h.extend hcs (List.forall_mem_singleton.2 (Constraint.tidy_key hcs))
  rcases cs with _ | ⟨c, _ | ⟨c', cs⟩⟩
  · exact hlisted
  · have hc := hcs c List.mem_cons_self
    exact h.extend (List.forall_mem_singleton.2 ⟨hc.name, hc.type, hc.expression⟩) (by simp)
  · exact hlisted

theorem Tidy.pushAll (h : t.Tidy) (howner : Unblank owner) (hcs : ∀ c ∈ cs, c.Tidy) :
    (t.pushAll owner cs).Tidy := by
  induction cs generalizing t with
  | nil => exact h
  | cons c cs ih =>
    obtain ⟨hc, hcs⟩ := List.forall_mem_cons.1 hcs
    rw [pushAll_cons]
    refine ih (h.extend (List.forall_mem_singleton.2 ?_) (by simp)) hcs
    exact ⟨t.isWord_freeName howner hc.name, hc.type, hc.expression⟩

end Table

/-! ## Labels and identities -/

namespace Diagram

theorem tidy_of_typedName (h : n.typedName = .ok b) : b.Tidy := by
  simp only [Node.typedName] at h
  split at h
  · cases h
  · split at h
    · cases h
    · next hne =>
      cases h
      rw [not_or] at hne
      exact ⟨⟨hne.1, unblank_strip _⟩, hne.2⟩

theorem tidy_of_leafColumns (h : d.leafColumns a = .ok columns) : ∀ b ∈ columns, b.Tidy := by
  intro b hb
  obtain ⟨n, -, hn⟩ := exists_of_mem_of_mapM h hb
  exact tidy_of_typedName hn

theorem tidy_of_partialColumns {partialKey : Option Node}
    (h : partialKey.elim (.ok []) d.leafColumns = .ok columns) : ∀ b ∈ columns, b.Tidy := by
  cases partialKey with
  | none =>
    cases h
    simp
  | some key => exact tidy_of_leafColumns h

theorem tidy_abroad (l : Lineage) (h : b.Tidy) : (l.abroad b).Tidy := by
  cases l with
  | root entity key => exact h.qualify (unblank_safeName entity)
  | weak entity partialKey owner => exact h
  | subclass entity parent => exact h

/-- From ancestor to ancestor an identity is handed on in tidy columns. -/
theorem tidy_of_identityOf (h : d.identityOf l = .ok columns) : ∀ b ∈ columns, b.Tidy := by
  induction l generalizing columns with
  | root entity key => exact tidy_of_leafColumns h
  | weak entity partialKey owner ih =>
    obtain ⟨inherited, hinherited, h⟩ := bind_eq_ok_iff.1 h
    obtain ⟨own, hown, h⟩ := bind_eq_ok_iff.1 h
    cases h
    refine List.forall_mem_append.2 ⟨?_, ?_⟩
    · exact List.forall_mem_map.2 fun b hb => tidy_abroad owner (ih hinherited b hb)
    · refine List.forall_mem_map.2 fun b hb => ?_
      exact (tidy_of_partialColumns hown b hb).qualify (unblank_safeName entity)
  | subclass entity parent ih =>
    obtain ⟨inherited, hinherited, h⟩ := bind_eq_ok_iff.1 h
    cases h
    exact List.forall_mem_map.2 fun b hb => tidy_abroad parent (ih hinherited b hb)

theorem tidy_of_identityColumns (h : d.identityColumns id = .ok columns) :
    ∀ b ∈ columns, b.Tidy := by
  obtain ⟨l, -, h⟩ := bind_eq_ok_iff.1 h
  exact tidy_of_identityOf h

theorem tidy_of_foreignKeyColumns (h : d.foreignKeyColumns id = .ok refs) :
    ∀ r ∈ refs, r.Tidy := by
  obtain ⟨l, -, h⟩ := bind_eq_ok_iff.1 h
  obtain ⟨columns, hcolumns, h⟩ := bind_eq_ok_iff.1 h
  cases h
  refine List.forall_mem_map.2 fun b hb => ?_
  have hb := tidy_of_identityOf hcolumns b hb
  exact ⟨tidy_abroad l hb, hb.name⟩

/-! ## Columns of attributes -/

theorem tidy_of_columnsOf {nullable : Bool} {x : Neighbor} (h : d.columnsOf nullable x = .ok cs) :
    ∀ c ∈ cs, c.Tidy := by
  unfold columnsOf at h
  split at h
  · obtain ⟨leaves, hleaves, h⟩ := bind_eq_ok_iff.1 h
    cases h
    refine List.forall_mem_map.2 fun b hb => ?_
    have hb := tidy_of_leafColumns hleaves b hb
    exact Column.tidy_of_expression_eq_none hb.name hb.type rfl
  · split at h
    · cases h
    · next expression hexpression =>
      obtain ⟨b, hb, h⟩ := bind_eq_ok_iff.1 h
      cases h
      have hb := tidy_of_typedName hb
      refine List.forall_mem_singleton.2 ⟨hb.name, hb.type, fun e he => ?_⟩
      -- the expression is a trimmed equation that is not empty
      obtain rfl := Option.some.inj he
      obtain ⟨htrim, hne⟩ := Option.filter_eq_some_iff.1 hexpression
      obtain ⟨equation, -, rfl⟩ := Option.map_eq_some_iff.1 htrim
      exact ⟨by simpa using hne, isTrimmed_trim equation⟩
  · cases h
    simp

theorem tidy_of_attributeColumns {nullable : Bool} (h : d.attributeColumns id nullable = .ok cs) :
    ∀ c ∈ cs, c.Tidy := by
  obtain ⟨groups, hgroups, h⟩ := bind_eq_ok_iff.1 h
  cases h
  intro c hc
  obtain ⟨group, hgroup, hc⟩ := List.mem_flatten.1 hc
  obtain ⟨x, -, hx⟩ := exists_of_mem_of_mapM hgroups hgroup
  exact tidy_of_columnsOf hx c hc

theorem tidy_of_alternativeKey (h : d.alternativeKey id = .ok cs) : ∀ c ∈ cs, c.Tidy := by
  intro c hc
  obtain ⟨x, -, hx⟩ := exists_of_mem_of_mapM h hc
  obtain ⟨b, hb, hx⟩ := bind_eq_ok_iff.1 hx
  cases hx
  have hb := tidy_of_typedName hb
  exact Column.tidy_of_expression_eq_none hb.name hb.type rfl

/-! ## New tables -/

theorem tidy_identityTable (h : d.identityTable n = .ok t) : t.Tidy := by
  have hblank : (Table.blank n.safeName).Tidy := Table.tidy_blank (unblank_safeName n)
  obtain ⟨source, -, h⟩ := bind_eq_ok_iff.1 h
  cases source with
  | ownKey key =>
    obtain ⟨columns, hcolumns, h⟩ := bind_eq_ok_iff.1 h
    cases h
    exact hblank.addKey .primary (Column.tidy_map_ofTypedName (tidy_of_leafColumns hcolumns))
  | dependent relation owner partialKey =>
    obtain ⟨refs, hrefs, h⟩ := bind_eq_ok_iff.1 h
    obtain ⟨own, hown, h⟩ := bind_eq_ok_iff.1 h
    cases h
    have hrefs := tidy_of_foreignKeyColumns hrefs
    have hcolumns : ∀ b ∈ refs.map (·.column) ++ own.map (·.qualify n.safeName), b.Tidy := by
      refine List.forall_mem_append.2 ⟨?_, ?_⟩
      · exact List.forall_mem_map.2 fun r hr => (hrefs r hr).column
      · refine List.forall_mem_map.2 fun b hb => ?_
        exact (tidy_of_partialColumns hown b hb).qualify (unblank_safeName n)
    have hkey := Column.tidy_map_ofTypedName hcolumns
    refine hblank.extend hkey ?_
    rw [List.forall_mem_cons, List.forall_mem_singleton]
    exact ⟨Constraint.tidy_key hkey, Constraint.tidy_ofReferences hrefs (by simp)⟩
  | subclass specialization parent =>
    obtain ⟨columns, hcolumns, h⟩ := bind_eq_ok_iff.1 h
    cases h
    have hkey := Column.tidy_map_ofTypedName (tidy_of_identityColumns hcolumns)
    exact hblank.extend hkey (List.forall_mem_singleton.2 (Constraint.tidy_key hkey))

theorem tidy_entityTable (h : d.entityTable n = .ok t) : t.Tidy := by
  obtain ⟨identity, alternative, columns, hidentity, halternative, hcolumns, rfl⟩ :=
    of_entityTable h
  have hidentity := tidy_identityTable hidentity
  refine Table.Tidy.pushAll ?_ (unblank_safeName n) (tidy_of_attributeColumns hcolumns)
  split
  · exact hidentity
  · exact hidentity.addKey .unique (tidy_of_alternativeKey halternative)

theorem tidy_addEnd {e : Neighbor} {t' : Table} (ht : t.Tidy) (h : d.addEnd t e = .ok t') :
    t'.Tidy := by
  obtain ⟨refs, hrefs, h⟩ := bind_eq_ok_iff.1 h
  extract_lets renamed at h
  cases h
  have hrenamed : ∀ r ∈ renamed, r.Tidy := by
    refine List.forall_mem_map.2 fun r hr => ?_
    have hr := tidy_of_foreignKeyColumns hrefs r hr
    exact ⟨⟨isWord_freshName _ hr.column.name, hr.column.type⟩, hr.references⟩
  refine ht.extend (List.forall_mem_map.2 fun r hr => ?_) (List.forall_mem_singleton.2 ?_)
  · exact Column.tidy_ofTypedName (hrenamed r hr).column
  · exact Constraint.tidy_ofReferences hrenamed (by simp)

theorem tidy_junctionTable (h : d.junctionTable n = .ok t) : t.Tidy := by
  obtain ⟨ends, keyed, attributes, hends, hattributes, rfl, hkeyed⟩ := of_junctionTable h
  have hends : ends.Tidy :=
    foldlM_induction (fun _ _ _ _ ht hstep => tidy_addEnd ht hstep) hends
      (Table.tidy_blank (unblank_safeName n))
  refine Table.Tidy.pushAll ?_ (unblank_safeName n) (tidy_of_attributeColumns hattributes)
  rcases hkeyed with ⟨-, rfl⟩ | ⟨key, columns, -, hcolumns, rfl⟩
  · exact hends.extend (by simp) (List.forall_mem_singleton.2 (Constraint.tidy_key hends.columns))
  · exact hends.addKey .primary (Column.tidy_map_ofTypedName (tidy_of_leafColumns hcolumns))

theorem tidy_multiValuedTable (h : d.multiValuedTable n = .ok t) : t.Tidy := by
  obtain ⟨owner, -, h⟩ := bind_eq_ok_iff.1 h
  obtain ⟨refs, hrefs, h⟩ := bind_eq_ok_iff.1 h
  obtain ⟨value, hvalue, h⟩ := bind_eq_ok_iff.1 h
  extract_lets table name at h
  cases h
  have hrefs := tidy_of_foreignKeyColumns hrefs
  have hvalue := tidy_of_typedName hvalue
  have hname : IsWord name := isWord_freshName _ hvalue.name
  have htable : table.Tidy := by
    have hblank := ((unblank_safeName owner).append unblank_underscore).append
      (unblank_attributeName n)
    refine (Table.tidy_blank hblank).extend (List.forall_mem_map.2 fun r hr => ?_) (by simp)
    exact Column.tidy_ofTypedName (hrefs r hr).column
  refine htable.extend (List.forall_mem_singleton.2 ?_) ?_
  · exact Column.tidy_ofTypedName ⟨hname, hvalue.type⟩
  · rw [List.forall_mem_cons, List.forall_mem_singleton]
    refine ⟨List.forall_mem_append.2 ⟨?_, List.forall_mem_singleton.2 hname.unblank⟩, ?_⟩
    · exact List.forall_mem_map.2 fun r hr => (hrefs r hr).column.name.unblank
    · exact Constraint.tidy_ofReferences hrefs (by simp)

end Diagram

/-! ## Additions to tables -/

/-- The holder of a relation's foreign key stays tidy. -/
theorem RelationKey.tidy_extend (key : RelationKey) (hrefs : ∀ r ∈ refs, r.Tidy)
    (hcs : ∀ c ∈ cs, c.Tidy) (h : t.Tidy) : (key.extend refs cs t).Tidy := by
  unfold RelationKey.extend
  extract_lets refs' columns table
  have hrefs' : ∀ r ∈ refs', r.Tidy := by
    refine List.forall_mem_map.2 fun r hr => ?_
    have hr := hrefs r hr
    refine ⟨⟨?_, hr.column.type⟩, hr.references⟩
    show IsWord (key.columnName t r)
    unfold columnName
    split
    · exact isWord_freshName _
        (hr.references.append_left ((unblank_safeName key.relation).append unblank_underscore))
    · exact t.isWord_freeName (unblank_safeName key.relation) hr.column.name
  have hcolumns : ∀ c ∈ columns, c.Tidy := by
    refine List.forall_mem_map.2 fun r hr => ?_
    have hr := hrefs' r hr
    exact Column.tidy_of_expression_eq_none hr.column.name hr.column.type rfl
  have htable : table.Tidy := by
    unfold table
    split
    · exact h.addKey .unique hcolumns
    · exact h.extend hcolumns (by simp)
  refine (htable.extend (by simp) ?_).pushAll (unblank_safeName key.relation) hcs
  exact List.forall_mem_singleton.2 (Constraint.tidy_ofReferences hrefs' (by simp))

namespace SpecializationTie

variable {tie : SpecializationTie} {shared : String}

theorem isWord_discriminatorName (tie : SpecializationTie) : IsWord tie.discriminatorName := by
  rw [discriminatorName]
  split
  · exact IsWord.append_left ⟨by decide, by decide⟩ (unblank_safeName tie.parent)
  · next hne => exact ⟨hne, unblank_safeName _⟩

theorem isWord_flagName (child : Node) : IsWord (flagName child) :=
  IsWord.append_right ⟨by decide, by decide⟩ (unblank_safeName child)

theorem tidy_parentKey (hrefs : ∀ r ∈ tie.references, r.Tidy) (h : IsWord shared) :
    (tie.parentKey shared).Tidy :=
  List.forall_mem_append.2 ⟨List.forall_mem_map.2 fun r hr => (hrefs r hr).references.unblank,
    List.forall_mem_singleton.2 h.unblank⟩

theorem tidy_childKey (hrefs : ∀ r ∈ tie.references, r.Tidy) (h : IsWord shared) :
    (tie.childKey shared).Tidy :=
  Constraint.tidy_ofReferences hrefs (List.forall_mem_singleton.2 h.unblank)

theorem discriminatorType_ne_empty (tie : SpecializationTie) : tie.discriminatorType ≠ "" := by
  rw [discriminatorType]
  intro hempty
  exact absurd (String.append_eq_empty_iff.1 hempty).2 (by decide)

theorem tidy_of_mem_exclusiveAdditions (hrefs : ∀ r ∈ tie.references, r.Tidy) (h : IsWord shared) :
    ∀ a ∈ tie.exclusiveAdditions shared, a.Tidy := by
  have hcolumn {c : Column} (hname : c.name = shared) (htype : c.type = tie.discriminatorType)
      (hexpression : c.expression = none) : c.Tidy :=
    Column.tidy_of_expression_eq_none (hname ▸ h) (htype ▸ tie.discriminatorType_ne_empty) hexpression
  unfold exclusiveAdditions
  extract_lets values parent child
  refine List.forall_mem_cons.2 ⟨⟨?_, ?_⟩, List.forall_mem_map.2 fun m _ => ⟨?_, ?_⟩⟩
  · exact List.forall_mem_singleton.2 (hcolumn rfl rfl rfl)
  · rw [List.forall_mem_cons, List.forall_mem_singleton]
    exact ⟨Constraint.tidy_check _, tidy_parentKey hrefs h⟩
  · exact List.forall_mem_singleton.2 (hcolumn rfl rfl rfl)
  · exact List.forall_mem_singleton.2 (tidy_childKey hrefs h)

theorem tidy_of_mem_overlappedAdditions {flags : List String} (hrefs : ∀ r ∈ tie.references, r.Tidy)
    (h : ∀ flag ∈ flags, IsWord flag) : ∀ a ∈ tie.overlappedAdditions flags, a.Tidy := by
  have hcolumn {c : Column} (hname : c.name ∈ flags) (htype : c.type = "BOOLEAN")
      (hexpression : c.expression = none) : c.Tidy := by
    refine Column.tidy_of_expression_eq_none (h _ hname) ?_ hexpression
    rw [htype]
    decide
  unfold overlappedAdditions
  extract_lets cover parent child
  refine List.forall_mem_cons.2 ⟨⟨?_, ?_⟩, ?_⟩
  · exact List.forall_mem_map.2 fun flag hflag => hcolumn hflag rfl rfl
  · refine List.forall_mem_append.2 ⟨?_, ?_⟩
    · exact List.forall_mem_map.2 fun flag hflag => tidy_parentKey hrefs (h flag hflag)
    · unfold cover
      split
      · exact List.forall_mem_singleton.2 (Constraint.tidy_check _)
      · simp
  · rw [← List.map_uncurry_zip_eq_zipWith]
    refine List.forall_mem_map.2 fun p hp => ?_
    have hflag : p.2 ∈ flags := (List.of_mem_zip hp).2
    exact ⟨List.forall_mem_singleton.2 (hcolumn hflag rfl rfl),
      List.forall_mem_singleton.2 (tidy_childKey hrefs (h p.2 hflag))⟩

end SpecializationTie

/-- A name that is shared by tables of a draft is a word if the wanted one is. -/
theorem Draft.isWord_of_sharedName {entities : List String} {shared : String} (h : IsWord name)
    (hshared : s.sharedName entities name = .ok shared) : IsWord shared := by
  obtain ⟨tables, -, hshared⟩ := bind_eq_ok_iff.1 hshared
  cases hshared
  exact isWord_sharedName tables h

namespace Diagram

/-! ## Runs -/

/-- Every step leaves tables that are tidy. -/
theorem Step.tidy (h : d.Step s n s') (hs : ∀ r ∈ s.tables, r.table.Tidy) :
    ∀ r ∈ s'.tables, r.table.Tidy := by
  have hadd {t : Table} (ht : t.Tidy) : ∀ r ∈ (s.add n t).tables, r.table.Tidy :=
    List.forall_mem_append.2 ⟨hs, List.forall_mem_singleton.2 ht⟩
  cases h with
  | entity _ ht => exact hadd (tidy_entityTable ht)
  | junction _ _ ht => exact hadd (tidy_junctionTable ht)
  | values _ ht => exact hadd (tidy_multiValuedTable ht)
  | @foreignKey _ key refs attributes _ _ _ hrefs hattributes hs' =>
    exact Draft.forall_tables_update hs' hs fun t ht =>
      key.tidy_extend (tidy_of_foreignKeyColumns hrefs) (tidy_of_attributeColumns hattributes) ht
  | @exclusive _ _ tie _ _ _ htie hname hs' =>
    have hrefs := tidy_of_foreignKeyColumns (of_specializationTie htie).2.2
    have hword := Draft.isWord_of_sharedName tie.isWord_discriminatorName hname
    refine Draft.forall_tables_foldlM_append hs' hs fun a ha t ht => ?_
    have htidy := SpecializationTie.tidy_of_mem_exclusiveAdditions hrefs hword a ha
    exact ht.extend htidy.columns htidy.constraints
  | overlapped _ _ htie hnames hs' =>
    have hrefs := tidy_of_foreignKeyColumns (of_specializationTie htie).2.2
    refine Draft.forall_tables_foldlM_append hs' hs fun a ha t ht => ?_
    have htidy := SpecializationTie.tidy_of_mem_overlappedAdditions hrefs (fun flag hflag => by
      obtain ⟨child, -, hchild⟩ := exists_of_mem_of_mapM hnames hflag
      exact Draft.isWord_of_sharedName (SpecializationTie.isWord_flagName child) hchild) a ha
    exact ht.extend htidy.columns htidy.constraints
  | idle _ _ _ => exact hs

/-- In the schema of a diagram no name of a table or a column has a blank in it, and neither has any
name in a key or foreign key. Every column has a name and a type. The expression of a generated
column is not empty and has no blanks around it. -/
theorem tidy_of_synthesize {schema : Schema} (h : d.synthesize = .ok schema) :
    ∀ t ∈ schema.tables, t.Tidy := by
  obtain ⟨s, hrun, h⟩ := bind_eq_ok_iff.1 h
  cases h
  have hend : ∀ r ∈ s.tables, r.table.Tidy :=
    foldlM_induction (I := fun s => ∀ r ∈ s.tables, r.table.Tidy)
      (fun _ _ _ _ hs hbuild => (step_of_build hbuild).tidy hs) hrun
      fun _ hr => absurd hr List.not_mem_nil
  exact List.forall_mem_map.2 hend

/-- Staff with blanks of all sorts in their labels: a space, a tab, a no-break space and an ideographic
space. The specialization has only blanks for a label. -/
def staff : Diagram where
  nodes := [
    ⟨"p", .entity, "Staff\tMember", none⟩,
    ⟨"c", .entity, "Head\u00a0Chef ", none⟩,
    ⟨"id", .attr .key, " staff no : int ", none⟩,
    ⟨"age", .attr .derived, "age\u3000now:int", some " 2024 - born\u2003"⟩,
    ⟨"s", .specialization ⟨false, true⟩, " \u2003 ", none⟩]
  edges := [
    ⟨"edge-1", .transition, "p", "id", none⟩,
    ⟨"edge-2", .transition, "p", "age", none⟩,
    ⟨"edge-3", .transition, "p", "s", none⟩,
    ⟨"edge-4", .transition, "s", "c", none⟩]

/-- The blanks in the labels are gone, and the discriminator is named after the parent. -/
theorem tidy_staff :
    ∃ schema, staff.synthesize = .ok schema ∧ (∀ t ∈ schema.tables, t.Tidy) ∧
      schema.tables.map (fun t => (t.name, t.columnNames)) =
        [("StaffMember", ["staffno", "agenow", "StaffMember_type"]),
          ("HeadChef", ["StaffMember_staffno", "StaffMember_type"])] := by
  have hsome : staff.synthesize.toOption.any (fun schema =>
      schema.tables.map (fun t => (t.name, t.columnNames)) =
        [("StaffMember", ["staffno", "agenow", "StaffMember_type"]),
          ("HeadChef", ["StaffMember_staffno", "StaffMember_type"])]) = true := by
    decide +kernel
  obtain ⟨schema, hs, hnames⟩ := exists_eq_ok_of_any hsome
  exact ⟨schema, hs, tidy_of_synthesize hs, of_decide_eq_true hnames⟩

end Diagram

end EntityRelationship
