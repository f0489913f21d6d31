import EntityRelationship.Proofs.Relational.ColumnsApart
import EntityRelationship.Proofs.Relational.Run

/-!
# Specializations in the schema

A specialization is told in the tables of its parent and its children alike. The parent's table has
a key that consists of the parent's identity and a shared column, and each child's table has a
foreign key that leads to it, from the child's identity and a column of the same name and type. So a
row of a child agrees with the row of the parent in the value of the shared column, which the child
fixes.

If the specialization is exclusive, there is one shared column for all children. It holds a literal
from which the name of the child can be read off, and it has room for the longest name. If it is
overlapped, each child has a flag of its own.

A name that is shared is free in the tables that receive it as they are before the specialization is
taken. By then relations and other specializations may have changed them. No other table changes.
-/

namespace EntityRelationship

open Outcome

/-! ## Literals -/

/-- The text between the quotes of a literal, and what follows it. The opening quote has been read;
two quotes in a row are one of the text, and a single one closes the literal. -/
def scanLiteral : List Char → Option (List Char × List Char)
  | [] => none
  | '\'' :: '\'' :: cs => (scanLiteral cs).map fun r => ('\'' :: r.1, r.2)
  | '\'' :: cs => some ([], cs)
  | c :: cs => (scanLiteral cs).map fun r => (c :: r.1, r.2)

/-- The text that a literal stands for. -/
def unquote? (s : String) : Option String :=
  match s.toList with
  | '\'' :: cs => (scanLiteral cs).bind fun r => if r.2 = [] then some (.ofList r.1) else none
  | _ => none

/-- Characters with the quotes among them doubled. -/
def doubled (cs : List Char) : List Char :=
  cs.flatMap fun c => if c = '\'' then ['\'', '\''] else [c]

/-- A literal is the text in quotes, with those inside it doubled. -/
theorem toList_literal (s : String) :
    (literal s).toList = '\'' :: doubled s.toList ++ ['\''] := by
  simp [literal, Text.replaceChar, doubled]

/-- What was doubled is read back up to the closing quote. -/
theorem scanLiteral_doubled (cs : List Char) :
    scanLiteral (doubled cs ++ ['\'']) = some (cs, []) := by
  induction cs with
  | nil => rfl
  | cons c cs ih =>
    by_cases hc : c = '\''
    · subst hc
      have hcons : doubled ('\'' :: cs) = '\'' :: '\'' :: doubled cs := rfl
      rw [hcons, List.cons_append, List.cons_append, scanLiteral, ih]
      rfl
    · have hcons : doubled (c :: cs) = c :: doubled cs := by simp [doubled, hc]
      rw [hcons, List.cons_append]
      simp [scanLiteral, hc, ih]

/-- A literal stands for the text from which it was made. -/
theorem unquote?_literal (s : String) : unquote? (literal s) = some s := by
  rw [unquote?, toList_literal]
  simp [scanLiteral_doubled]

/-- Different texts have different literals. -/
theorem literal_injective : Function.Injective literal := by
  intro a b h
  have hsame := congrArg unquote? h
  rwa [unquote?_literal, unquote?_literal, Option.some.injEq] at hsame

/-! ## Widths -/

/-- The width of a column with room for some texts: that of the longest, and one at least. -/
structure IsWidthFor (texts : List String) (width : Nat) : Prop where
  one_le : 1 ≤ width
  length_le : ∀ s ∈ texts, s.length ≤ width
  attained : width = 1 ∨ ∃ s ∈ texts, s.length = width

/-- The maximum of a bound and some numbers is one of these, and none of them is greater. -/
theorem foldl_max_spec (xs : List Nat) (m : Nat) :
    m ≤ xs.foldl max m ∧ (∀ x ∈ xs, x ≤ xs.foldl max m) ∧
      (xs.foldl max m = m ∨ xs.foldl max m ∈ xs) := by
  induction xs generalizing m with
  | nil => simp
  | cons x xs ih =>
    obtain ⟨hbound, hall, hsome⟩ := ih (max m x)
    rw [List.foldl_cons]
    refine ⟨by omega, List.forall_mem_cons.2 ⟨by omega, hall⟩, ?_⟩
    rcases hsome with hmax | hmem
    · rcases max_choice m x with hm | hx
      · exact .inl (hmax.trans hm)
      · exact .inr (List.mem_cons.2 (.inl (hmax.trans hx)))
    · exact .inr (List.mem_cons_of_mem _ hmem)

/-- The type of a discriminator is made with the width for the names of the children. -/
theorem exists_discriminatorType (tie : SpecializationTie) :
    ∃ width, IsWidthFor (tie.children.map (·.safeName)) width ∧
      tie.discriminatorType = s!"VARCHAR({width})" := by
  obtain ⟨hbound, hall, hsome⟩ := foldl_max_spec (tie.children.map fun c => c.safeName.length) 1
  refine ⟨_, ⟨hbound, ?_, hsome.imp_right fun hmem => ?_⟩, rfl⟩
  · intro name hname
    obtain ⟨c, hc, rfl⟩ := List.mem_map.1 hname
    exact hall _ (List.mem_map_of_mem hc)
  · obtain ⟨c, hc, hlength⟩ := List.mem_map.1 hmem
    exact ⟨c.safeName, List.mem_map_of_mem hc, hlength⟩

variable {d : Diagram} {m n p : Node} {s s' : Draft} {schema : Schema} {as : List Addition}
  {a : Addition} {kind : SpecializationKind} {tie : SpecializationTie}

/-! ## What tables gain -/

/-- From one draft to the next the table of an entity gains columns, under names that are free in it
before, and constraints. The table in its place in the schema begins with what it is then, and it is
found under the entity's name. -/
def Gains (schema : Schema) (s s' : Draft) (m : Node) (columns : List Column)
    (constraints : List Constraint) : Prop :=
  ∃ (i : Nat) (t u : Table), s.tables[i]? = some ⟨m, t⟩ ∧
    s'.tables[i]? = some ⟨m, t.extend columns constraints⟩ ∧
    (∀ c ∈ columns, c.name ∉ t.columnNames) ∧
    schema.tables[i]? = some u ∧ (t.extend columns constraints).Extends u ∧
    schema.table? m.safeName = some u

/-- Of additions to different entities a table receives the one that is meant for its entity. -/
theorem NodeTable.receive_eq_extend (has : (as.map (·.entity)).Nodup) {r : NodeTable} (ha : a ∈ as)
    (hof : r.isOf a.entity = true) :
    r.receive as = ⟨r.node, r.table.extend a.columns a.constraints⟩ := by
  simp [receive, additions_eq_singleton has ha hof]

namespace Diagram

/-- The table of an entity gains what is meant for it. -/
theorem Takes.gains (htakes : d.Takes schema n s s') (h : d.Accepted)
    (hs : d.synthesize = .ok schema) (hunderway : d.Underway s)
    (hs' : s'.tables = s.tables.map (·.receive as)) (has : (as.map (·.entity)).Nodup)
    (hm : m ∈ d.nodes) (hkind : m.kind.isEntity = true) (ha : a ∈ as) (hentity : a.entity = m.id)
    (hfree : ∀ t ∈ s.tables, t.isOf m.id = true → ∀ c ∈ a.columns, c.name ∉ t.table.columnNames) :
    Gains schema s s' m a.columns a.constraints := by
  obtain ⟨i, hi⟩ := List.mem_iff_getElem?.1 (mem_entityNodes_iff.2 ⟨hm, hkind⟩)
  obtain ⟨t₀, t, ht₀, ht, hgrows₀⟩ := hunderway.table i m hi
  have hof : (NodeTable.mk m t).isOf m.id = true := by simp [NodeTable.isOf, hkind]
  have ht' : s'.tables[i]? = some ⟨m, t.extend a.columns a.constraints⟩ := by
    rw [hs', List.getElem?_map, ht, Option.map_some,
      NodeTable.receive_eq_extend has ha (hentity ▸ hof)]
  obtain ⟨s'', hlater, rfl⟩ := htakes.exists_continues
  obtain ⟨u, hu, -, hgrows⟩ := hlater i _ ht'
  have hname : u.table.name = m.safeName :=
    hgrows.name_eq.trans (hgrows₀.name_eq.trans (name_entityTable ht₀))
  refine ⟨i, t, u.table, ht, ht', hfree _ (List.mem_of_getElem? ht) hof, ?_, hgrows, ?_⟩
  · rw [Draft.schema, List.getElem?_map, hu]
    rfl
  · rw [← hname]
    exact h.table?_of_mem hs (List.mem_map_of_mem (List.mem_of_getElem? hu))

/-- A table for whose entity nothing is meant stays as it is. -/
theorem Underway.getElem?_of_receive (h : d.Underway s) (hd : d.DistinctIds) {ms : List Node}
    (hms : ∀ m ∈ ms, m ∈ d.nodes) (hs' : s'.tables = s.tables.map (·.receive as))
    (has : as.map (·.entity) = ms.map (·.id)) {i : Nat} {t : NodeTable} (ht : s.tables[i]? = some t)
    (hother : t.node ∉ ms) : s'.tables[i]? = some t := by
  have hnone : t.additions as = [] := by
    refine List.filter_eq_nil_iff.2 fun a ha hof => hother ?_
    have hid : a.entity ∈ ms.map (·.id) := has ▸ List.mem_map_of_mem ha
    obtain ⟨m, hm, hid⟩ := List.mem_map.1 hid
    rw [← hid] at hof
    obtain ⟨rfl, -⟩ :=
      Draft.node_of_isOf h.entityNodes_eq hd (hms m hm) (List.mem_of_getElem? ht) hof
    exact hm
  rw [hs', List.getElem?_map, ht, Option.map_some, NodeTable.receive_eq_self hnone]

/-! ## Identities of parents and children -/

/-- The identity of a parent, and that of its children, which have columns of the same types. -/
structure Inherits (d : Diagram) (p : Node) (children : List Node) (ids own : List TypedName) :
    Prop where
  parent : d.identityColumns p.id = .ok ids
  child : ∀ c ∈ children, d.identityColumns c.id = .ok own
  types_eq : own.map (·.type) = ids.map (·.type)

/-- The references of a specialization lead from the identity of each child to that of the
parent. -/
theorem Accepted.inherits (h : d.Accepted) (hd : d.DistinctIds) (hn : n ∈ d.nodes)
    (hkind : n.kind.isSpecialization = true) (hparent : d.parent? n.id = some p)
    {refs : List Reference} (hrefs : d.foreignKeyColumns p.id = .ok refs) :
    d.Inherits p (d.children n.id) (refs.map (·.target)) (refs.map (·.column)) where
  parent := identityColumns_of_foreignKeyColumns hrefs
  child := by
    intro c hc
    exact identityColumns_of_subclass (of_mem_children hc).1
      (h.identitySource_of_child hd hn hkind hparent hc) hrefs
  types_eq := by
    rw [List.map_map, List.map_map]
    rfl

/-! ## Shared columns -/

/-- The key of a parent's table that consists of the parent's identity and a shared column. -/
def keyWith (ids : List TypedName) (shared : String) : Constraint :=
  .key .unique (ids.map (·.name) ++ [shared])

/-- The foreign key by which the identity of a child and a shared column lead to the parent's. -/
def foreignKeyWith (own ids : List TypedName) (p : Node) (shared : String) : Constraint :=
  .foreignKey ⟨own.map (·.name) ++ [shared], p.safeName, ids.map (·.name) ++ [shared], true⟩

/-- A discriminator is added to the tables of a parent and all children. The parent's must be the
name of some child, and it may be missing only in a partial specialization. Each child's is the name
of the child. -/
structure IsDiscriminator (schema : Schema) (s s' : Draft) (total : Bool) (p : Node)
    (children : List Node) (ids own : List TypedName) (name : String) (width : Nat) : Prop where
  room : IsWidthFor (children.map (·.safeName)) width
  parent : Gains schema s s' p
    [{ name, type := s!"VARCHAR({width})", nullable := !total }]
    [.check (name ++ " IN (" ++ ", ".intercalate (children.map fun c => literal c.safeName) ++ ")"),
      keyWith ids name]
  child : ∀ c ∈ children, Gains schema s s' c
    [{ name, type := s!"VARCHAR({width})", defaultValue := some (literal c.safeName),
       check := some (name ++ " = " ++ literal c.safeName) }]
    [foreignKeyWith own ids p name]

/-- Flags are added to the tables of a parent and its children, all of them to the parent's and to
each child's its own. A child's flag is set. In a total specialization some flag of the parent must
be, and no other condition is made. -/
structure AreFlags (schema : Schema) (s s' : Draft) (total : Bool) (p : Node)
    (children : List Node) (ids own : List TypedName) (flags : List String) : Prop where
  parent : Gains schema s s' p
    (flags.map fun f => { name := f, type := "BOOLEAN", defaultValue := some "FALSE" })
    (flags.map (keyWith ids) ++ if total then [.check (" OR ".intercalate flags)] else [])
  child : List.Forall₂ (fun c f => Gains schema s s' c
    [{ name := f, type := "BOOLEAN", defaultValue := some "TRUE", check := some f }]
    [foreignKeyWith own ids p f]) children flags

theorem parentKey_eq (tie : SpecializationTie) (shared : String) :
    tie.parentKey shared = keyWith (tie.references.map (·.target)) shared := by
  rw [SpecializationTie.parentKey, keyWith, List.map_map]
  rfl

theorem childKey_eq (tie : SpecializationTie) (shared : String) :
    tie.childKey shared = foreignKeyWith (tie.references.map (·.column))
      (tie.references.map (·.target)) tie.parent shared := by
  rw [SpecializationTie.childKey, foreignKeyWith, List.map_map, List.map_map]
  rfl

/-! ## Specializations in a run -/

/-- Taking a specialization chooses names and changes the tables of the parent and the children. -/
theorem exists_tie_of_build (hs : s.Exact) (hkind : n.kind = .specialization kind)
    (h : d.build s n = .ok s') :
    ∃ tie, d.specializationTie n kind = .ok tie ∧
      ((kind.exclusive = true ∧ ∃ name,
        s.sharedName (tie.parent.id :: tie.children.map (·.id)) tie.discriminatorName = .ok name ∧
        s'.tables = s.tables.map (·.receive (tie.exclusiveAdditions name))) ∨
      (kind.exclusive = false ∧ ∃ flags,
        tie.children.mapM (fun c =>
          s.sharedName [tie.parent.id, c.id] (SpecializationTie.flagName c)) = .ok flags ∧
        s'.tables = s.tables.map (·.receive (tie.overlappedAdditions flags)))) := by
  cases step_of_build h with
  | entity hentity _ => simp [hkind, NodeKind.isEntity] at hentity
  | junction hrelation _ _ => simp [hkind] at hrelation
  | values hvalues _ => simp [hkind] at hvalues
  | foreignKey hrelation _ _ _ _ _ => simp [hkind] at hrelation
  | exclusive hspecial hexclusive htie hname hs' =>
    obtain rfl := NodeKind.specialization.inj (hkind.symm.trans hspecial)
    exact ⟨_, htie, .inl ⟨hexclusive, _, hname, hs.tables_foldlM_append hs'⟩⟩
  | overlapped hspecial hoverlapped htie hnames hs' =>
    obtain rfl := NodeKind.specialization.inj (hkind.symm.trans hspecial)
    exact ⟨_, htie, .inr ⟨hoverlapped, _, hnames, hs.tables_foldlM_append hs'⟩⟩
  | idle _ _ hspecial => simp [hkind, NodeKind.isSpecialization] at hspecial

theorem kind_of_specializationTie (h : d.specializationTie n kind = .ok tie) : tie.kind = kind := by
  unfold specializationTie at h
  split at h
  · cases h
  · obtain ⟨refs, -, h⟩ := bind_eq_ok_iff.1 h
    cases h
    rfl

/-- An exclusive specialization adds a discriminator. -/
theorem Takes.exists_isDiscriminator (htakes : d.Takes schema n s s') (h : d.Accepted)
    (hd : d.DistinctIds) (hs : d.synthesize = .ok schema) (hunderway : d.Underway s)
    (htie : d.specializationTie n kind = .ok tie)
    (hdistinct : (tie.parent.id :: tie.children.map (·.id)).Nodup) {name : String}
    (hname : s.sharedName (tie.parent.id :: tie.children.map (·.id)) tie.discriminatorName =
      .ok name)
    (hs' : s'.tables = s.tables.map (·.receive (tie.exclusiveAdditions name))) :
    ∃ width, IsDiscriminator schema s s' kind.total tie.parent tie.children
      (tie.references.map (·.target)) (tie.references.map (·.column)) name width := by
  have hentities := tie.map_entity_exclusiveAdditions name
  -- the name is free in the tables of all members
  have hgains {m : Node} {a : Addition} (hm : m ∈ tie.parent :: tie.children)
      (ha : a ∈ tie.exclusiveAdditions name) (hentity : a.entity = m.id)
      (hcolumns : ∀ c ∈ a.columns, c.name = name) :
      Gains schema s s' m a.columns a.constraints := by
    obtain ⟨hmem, hkind⟩ := isEntity_of_member htie m hm
    refine htakes.gains h hs hunderway hs' (hentities ▸ hdistinct) hmem hkind ha hentity ?_
    intro t ht hof c hc
    rw [hcolumns c hc]
    exact Draft.sharedName_not_mem (hunderway.exact hd) hname ht (List.mem_map_of_mem hm) hof
  obtain ⟨width, hroom, htype⟩ := exists_discriminatorType tie
  refine ⟨width, hroom, ?_, fun c hc => ?_⟩
  · have hparent := hgains List.mem_cons_self List.mem_cons_self rfl (by simp)
    rw [htype, parentKey_eq, kind_of_specializationTie htie] at hparent
    exact hparent
  · have hchild := hgains (List.mem_cons_of_mem _ hc)
      (List.mem_cons_of_mem _ (List.mem_map_of_mem hc)) rfl (by simp)
    simp only [htype, childKey_eq] at hchild
    exact hchild

/-- An overlapped specialization adds flags. -/
theorem Takes.areFlags (htakes : d.Takes schema n s s') (h : d.Accepted)
    (hd : d.DistinctIds) (hs : d.synthesize = .ok schema) (hunderway : d.Underway s)
    (htie : d.specializationTie n kind = .ok tie)
    (hdistinct : (tie.parent.id :: tie.children.map (·.id)).Nodup) (hne : tie.children ≠ [])
    {flags : List String}
    (hnames : tie.children.mapM (fun c =>
      s.sharedName [tie.parent.id, c.id] (SpecializationTie.flagName c)) = .ok flags)
    (hs' : s'.tables = s.tables.map (·.receive (tie.overlappedAdditions flags))) :
    AreFlags schema s s' kind.total tie.parent tie.children
      (tie.references.map (·.target)) (tie.references.map (·.column)) flags := by
  obtain ⟨hlength, hshared⟩ := List.forall₂_iff_zip.1 (mapM_eq_ok_iff.1 hnames)
  have hentities := tie.map_entity_overlappedAdditions hlength
  have hgains {m : Node} {a : Addition} (hm : m ∈ tie.parent :: tie.children)
      (ha : a ∈ tie.overlappedAdditions flags) (hentity : a.entity = m.id)
      (hcolumns : ∀ x ∈ a.columns, ∃ c, (c, x.name) ∈ tie.children.zip flags ∧
        m.id ∈ [tie.parent.id, c.id]) :
      Gains schema s s' m a.columns a.constraints := by
    obtain ⟨hmem, hkind⟩ := isEntity_of_member htie m hm
    refine htakes.gains h hs hunderway hs' (hentities ▸ hdistinct) hmem hkind ha hentity ?_
    intro t ht hof x hx
    obtain ⟨c, hc, hid⟩ := hcolumns x hx
    exact Draft.sharedName_not_mem (hunderway.exact hd) (hshared hc) ht hid hof
  have hcover : (if kind.total && flags != [] then [Constraint.check (" OR ".intercalate flags)]
      else []) = if kind.total then [.check (" OR ".intercalate flags)] else [] := by
    have hflags : flags ≠ [] := fun hnil => hne (by simpa [hnil] using hlength)
    simp [hflags]
  constructor
  · -- each flag is that of some child
    have hflag : ∀ f ∈ flags, ∃ c, (c, f) ∈ tie.children.zip flags := by
      intro f hf
      rw [← List.map_snd_zip (Nat.le_of_eq hlength.symm), List.mem_map] at hf
      obtain ⟨⟨c, f⟩, hcf, rfl⟩ := hf
      exact ⟨c, hcf⟩
    have hparent := hgains List.mem_cons_self List.mem_cons_self rfl (fun x hx => by
      obtain ⟨f, hf, rfl⟩ := List.mem_map.1 hx
      obtain ⟨c, hcf⟩ := hflag f hf
      exact ⟨c, hcf, List.mem_cons_self⟩)
    simp only [kind_of_specializationTie htie, hcover, funext (parentKey_eq tie)] at hparent
    exact hparent
  · refine List.forall₂_iff_zip.2 ⟨hlength, fun {c f} hcf => ?_⟩
    have hadded : Addition.mk c.id
        [{ name := f, type := "BOOLEAN", defaultValue := some "TRUE", check := some f }]
        [tie.childKey f] ∈ tie.overlappedAdditions flags := by
      refine List.mem_cons_of_mem _ ?_
      rw [← List.map_uncurry_zip_eq_zipWith]
      exact List.mem_map.2 ⟨(c, f), hcf, rfl⟩
    have hchild := hgains (List.mem_cons_of_mem _ (List.of_mem_zip hcf).1) hadded rfl fun x hx => by
      rw [List.mem_singleton.1 hx]
      exact ⟨c, hcf, List.mem_cons_of_mem _ List.mem_cons_self⟩
    rw [childKey_eq] at hchild
    exact hchild

/-- Different children have different literals. -/
theorem Accepted.nodup_literals (h : d.Accepted) (id : String) :
    ((d.children id).map fun c => literal c.safeName).Nodup := by
  refine (nodup_ids_children d id).of_map.map_on fun c hc c' hc' hliteral => ?_
  obtain ⟨hfound, hkind, -⟩ := of_mem_children hc
  obtain ⟨hfound', hkind', -⟩ := of_mem_children hc'
  exact h.eq_of_safeName_eq (mem_of_node? hfound).1 hkind (mem_of_node? hfound').1 hkind'
    (literal_injective hliteral)

/-- What a specialization leaves in the tables of its parent and its children. When it is taken,
these tables gain columns under names that are free in all tables concerned, and no other table
changes. The discriminator of an exclusive specialization has room for the names of the children and
tells them apart by their literals; an overlapped one has a flag for each child. The shared column
completes a key of the parent's identity, and the foreign key by which each child's identity, which
has columns of the same types, leads to that key. -/
theorem Accepted.encodes_specialization (h : d.Accepted) (hd : d.DistinctIds)
    (hs : d.synthesize = .ok schema) (hn : n ∈ d.nodes) (hkind : n.kind = .specialization kind)
    (hne : d.children n.id ≠ []) :
    ∃ p s s' ids own, d.parent? n.id = some p ∧ d.Takes schema n s s' ∧
      p ∉ d.children n.id ∧ d.Inherits p (d.children n.id) ids own ∧
      (kind.exclusive = true → ∃ name width,
        IsDiscriminator schema s s' kind.total p (d.children n.id) ids own name width) ∧
      (kind.exclusive = false → ∃ flags,
        AreFlags schema s s' kind.total p (d.children n.id) ids own flags) ∧
      (s'.tables.length = s.tables.length ∧ ∀ (i : Nat) (t : NodeTable), s.tables[i]? = some t →
        t.node ∉ p :: d.children n.id → s'.tables[i]? = some t) ∧
      ((d.children n.id).map fun c => literal c.safeName).Nodup ∧
      ∀ text, (literal text).toList = '\'' :: doubled text.toList ++ ['\''] ∧
        unquote? (literal text) = some text := by
  have hspecial : n.kind.isSpecialization = true := by rw [hkind]; rfl
  obtain ⟨s, s', htakes, hunderway⟩ :=
    exists_takes_of_later hs (mem_laterNodes_iff.2 ⟨hn, .inr (.inr hspecial)⟩)
  obtain ⟨tie, htie, hchoice⟩ := exists_tie_of_build (hunderway.exact hd) hkind htakes.build_eq
  obtain ⟨hparent, hchildren, hrefs⟩ := of_specializationTie htie
  have hdistinct := h.nodup_members hd hn hkind htie
  have hmembers : ∀ m ∈ tie.parent :: tie.children, m ∈ d.nodes :=
    fun m hm => (isEntity_of_member htie m hm).1
  have hothers {as : List Addition} (hs' : s'.tables = s.tables.map (·.receive as))
      (has : as.map (·.entity) = tie.parent.id :: tie.children.map (·.id)) :
      s'.tables.length = s.tables.length ∧ ∀ (i : Nat) (t : NodeTable), s.tables[i]? = some t →
        t.node ∉ tie.parent :: tie.children → s'.tables[i]? = some t :=
    ⟨by rw [hs', List.length_map],
      fun i t ht hother => hunderway.getElem?_of_receive hd hmembers hs' has ht hother⟩
  have hnot : tie.parent ∉ tie.children :=
    fun hmem => (List.nodup_cons.1 hdistinct).1 (List.mem_map_of_mem hmem)
  have hinherits := h.inherits hd hn hspecial hparent hrefs
  have hliterals := h.nodup_literals n.id
  rw [← hchildren] at hne hinherits hliterals ⊢
  have htext (text : String) := And.intro (toList_literal text) (unquote?_literal text)
  rcases hchoice with ⟨hexclusive, name, hname, hs'⟩ | ⟨hoverlapped, flags, hnames, hs'⟩
  · obtain ⟨width, hdiscriminator⟩ :=
      htakes.exists_isDiscriminator h hd hs hunderway htie hdistinct hname hs'
    exact ⟨tie.parent, s, s', _, _, hparent, htakes, hnot, hinherits,
      fun _ => ⟨name, width, hdiscriminator⟩,
      fun hoverlapped => absurd hexclusive (by simp [hoverlapped]),
      hothers hs' (tie.map_entity_exclusiveAdditions name), hliterals, htext⟩
  · have hlength := (List.forall₂_iff_zip.1 (mapM_eq_ok_iff.1 hnames)).1
    exact ⟨tie.parent, s, s', _, _, hparent, htakes, hnot, hinherits,
      fun hexclusive => absurd hexclusive (by simp [hoverlapped]),
      fun _ => ⟨flags, htakes.areFlags h hd hs hunderway htie hdistinct hne hnames hs'⟩,
      hothers hs' (tie.map_entity_overlappedAdditions hlength), hliterals, htext⟩

/-- A crew of captains and their mates, some of whom dive or cook. -/
def crew : Diagram where
  nodes := [
    ⟨"p", .entity, "Sailor", none⟩,
    ⟨"k", .attr .key, "id:INTEGER", none⟩,
    ⟨"s", .specialization ⟨true, true⟩, "rank", none⟩,
    ⟨"c", .entity, "Captain", none⟩,
    ⟨"m", .entity, "Captain's mate", none⟩,
    ⟨"o", .specialization ⟨true, false⟩, "skill", none⟩,
    ⟨"d", .entity, "Diver", none⟩,
    ⟨"e", .entity, "Cook", none⟩]
  edges := [
    ⟨"e1", .transition, "p", "k", none⟩,
    ⟨"e2", .transition, "p", "s", none⟩,
    ⟨"e3", .transition, "s", "c", none⟩,
    ⟨"e4", .transition, "s", "m", none⟩,
    ⟨"e5", .transition, "m", "o", none⟩,
    ⟨"e6", .transition, "o", "d", none⟩,
    ⟨"e7", .transition, "o", "e", none⟩]

/-- The rank of a mate is a literal in which a quote is doubled. There is room for the name. -/
theorem encodes_specialization_crew :
    crew.Accepted ∧ crew.DistinctIds ∧ ∃ schema t c, crew.synthesize = .ok schema ∧
      schema.table? "Captain'smate" = some t ∧ c ∈ t.columns ∧ c.type = "VARCHAR(13)" ∧
      c.defaultValue.bind unquote? = some "Captain'smate" := by
  have haccepted : crew.Accepted := by decide +kernel
  have hdistinct : crew.DistinctIds := by decide
  have hsome : crew.synthesize.toOption.any (fun _ => true) = true := by decide +kernel
  obtain ⟨schema, hs, -⟩ := exists_eq_ok_of_any hsome
  obtain ⟨p, s, s', ids, own, -, -, -, -, hexclusive, -, -, -, htext⟩ :=
    haccepted.encodes_specialization hdistinct hs
      (n := ⟨"s", .specialization ⟨true, true⟩, "rank", none⟩) (by decide) rfl (by decide +kernel)
  obtain ⟨name, width, hroom, -, hchild⟩ := hexclusive rfl
  have hnames : (crew.children "s").map (·.safeName) = ["Captain", "Captain'smate"] := by
    decide +kernel
  obtain rfl : width = 13 := by
    rw [hnames] at hroom
    have hlong := hroom.length_le "Captain'smate" (by simp)
    have hlengths : "Captain".length = 7 ∧ "Captain'smate".length = 13 := by decide
    rcases hroom.attained with hone | ⟨name, hname, hwidth⟩
    · omega
    · rcases List.mem_pair.1 hname with rfl | rfl <;> omega
  obtain ⟨i, t, u, -, -, -, -, hgrows, htable⟩ :=
    hchild ⟨"m", .entity, "Captain's mate", none⟩ (by decide +kernel)
  have hname : Node.safeName ⟨"m", .entity, "Captain's mate", none⟩ = "Captain'smate" := by
    decide +kernel
  refine ⟨haccepted, hdistinct, schema, u, _, hs, htable,
    hgrows.columns.subset (List.mem_append_right _ List.mem_cons_self), rfl, ?_⟩
  rw [Option.bind_some, (htext _).2, hname]

end Diagram

end EntityRelationship
