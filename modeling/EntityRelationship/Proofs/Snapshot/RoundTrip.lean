import EntityRelationship.Document
import EntityRelationship.Proofs.Diagram.StoreIndices
import EntityRelationship.Proofs.Outcome
import EntityRelationship.Proofs.Snapshot.Tokens

/-!
# Reading what was written

The reader is given the tokens of a diagram and builds the diagram up again. Each reader is shown
to take the tokens of one value and to leave those that follow. An object fills its draft member by
member, and an array gives its items in order. A member that was not written leaves its field of
the draft empty, and so an absent text comes back absent and an empty one empty.

The diagram of a store has distinct ids after any session of edits, and this is all that the reader
asks for when it inserts the elements again. So a store that is written and loaded is as before.
-/

namespace EntityRelationship

namespace Snapshot

variable {α β : Type} {a : α} {ts : List Token} {members : List (List Token)}

/-! ## Plain values -/

/-- A reader takes some tokens for a value and leaves whatever follows them. -/
def Reads (read : List Token → Except SnapshotFault (α × List Token)) (ts : List Token) (a : α) :
    Prop :=
  ∀ rest, read (ts ++ rest) = .ok (a, rest)

theorem reads_text (s : String) : Reads readText [.text s] s := fun _ => rfl

theorem reads_optionalText (s : String) : Reads readOptionalText [.text s] (some s) := fun _ => rfl

theorem reads_nodeKind (k : NodeKind) : Reads readNodeKind [.text k.name] k := by
  intro rest
  simp [readNodeKind, readKind, kindOf, Outcome.ok_bind, pure, Except.pure]

theorem reads_edgeKind (k : EdgeKind) : Reads readEdgeKind [.text k.name] k := by
  intro rest
  simp [readEdgeKind, readKind, kindOf, Outcome.ok_bind, pure, Except.pure]

/-- What is read may be put to use before the next tokens are looked at. -/
theorem Reads.map {read : List Token → Except SnapshotFault (α × List Token)}
    (h : Reads read ts a) (f : α → β) :
    Reads (fun toks => do let (a, rest) ← read toks; return (f a, rest)) ts (f a) := by
  intro rest
  show (read (ts ++ rest) >>= fun p => pure (f p.1, p.2)) = _
  rw [h rest]
  rfl

/-- A field that has not been read before is read behind its colon. -/
theorem reads_field {value : List Token → Except SnapshotFault (α × List Token)}
    (h : Reads value ts a) (key : String) :
    Reads (readField key none value) (.colon :: ts) (some a) :=
  fun rest => h.map some rest

/-! ## Objects -/

/-- There are at least as many tokens behind the first part as there are parts. -/
theorem length_le_length_flatMap_comma (parts : List (List Token)) :
    parts.length ≤ (parts.flatMap (.comma :: ·)).length := by
  induction parts with
  | nil => exact Nat.le_refl _
  | cons ts parts ih =>
    simp only [List.flatMap_cons, List.length_append, List.length_cons]
    omega

/-- The members of an object lead from one draft to another. -/
inductive Fills (member : α → String → List Token → Except SnapshotFault (α × List Token)) :
    α → List (List Token) → α → Prop
  | nil (draft : α) : Fills member draft [] draft
  | cons {draft draft' draft'' : α} {key : String} {ts : List Token}
      {members : List (List Token)} (hfirst : Reads (member draft key) (.colon :: ts) draft')
      (hrest : Fills member draft' members draft'') :
      Fills member draft (memberTokens key ts :: members) draft''

variable {member : α → String → List Token → Except SnapshotFault (α × List Token)}
  {draft draft' : α}

/-- Members behind the first one are read up to the closing brace. -/
theorem Fills.readMembers_eq (h : Fills member draft members draft') {fuel : Nat}
    (hfuel : members.length < fuel) (rest : List Token) :
    readMembers member fuel false draft
        (members.flatMap (.comma :: ·) ++ .closeObject :: rest) = .ok (draft', rest) := by
  induction h generalizing fuel with
  | nil draft =>
    obtain ⟨fuel, rfl⟩ := Nat.exists_eq_succ_of_ne_zero (Nat.ne_of_gt hfuel)
    rfl
  | @cons draft draft' draft'' key ts members hfirst _ ih =>
    obtain ⟨fuel, rfl⟩ := Nat.exists_eq_succ_of_ne_zero (Nat.ne_of_gt (Nat.zero_lt_of_lt hfuel))
    have hnext := hfirst (members.flatMap (.comma :: ·) ++ .closeObject :: rest)
    -- a comma and a key are passed before the member is read
    rw [List.flatMap_cons, List.append_assoc]
    show (member draft key (.colon :: ts ++ _) >>= _) = _
    rw [hnext, Outcome.ok_bind]
    exact ih (Nat.lt_of_succ_lt_succ hfuel)

/-- An object whose brace is open is read with all its members. -/
theorem Fills.reads (h : Fills member draft members draft') :
    Reads (readObject member draft) (separated members ++ [.closeObject]) draft' := by
  intro rest
  cases h with
  | nil => rfl
  | @cons _ draft₁ _ key ts members hfirst hrest =>
    have hnext := hfirst (members.flatMap (.comma :: ·) ++ .closeObject :: rest)
    have hlength := length_le_length_flatMap_comma members
    have htext : separated (memberTokens key ts :: members) ++ [.closeObject] ++ rest =
        .text key :: (.colon :: ts ++ (members.flatMap (.comma :: ·) ++ .closeObject :: rest)) := by
      simp [separated, memberTokens]
    rw [readObject, htext, List.length_cons]
    show (member draft key (.colon :: ts ++ _) >>= _) = _
    rw [hnext, Outcome.ok_bind]
    refine hrest.readMembers_eq ?_ rest
    simp only [List.length_append, List.length_cons]
    omega

/-- An object is read as what its complete draft stands for. -/
theorem Fills.reads_complete (h : Fills member draft members draft')
    {complete : α → Except SnapshotFault β} {b : β} (hb : complete draft' = .ok b) :
    Reads (fun toks => do
        let (draft, rest) ← readObject member draft toks
        return (← complete draft, rest))
      (separated members ++ [.closeObject]) b := by
  intro rest
  show (readObject member draft _ >>= fun p => complete p.1 >>= fun b => pure (b, p.2)) = _
  rw [h.reads rest, Outcome.ok_bind, hb]
  rfl

/-! ## Arrays -/

variable {item : List Token → Except SnapshotFault (α × List Token)} {tokens : α → List Token}

/-- Items behind the first one are read up to the closing bracket. Each of them is an object. -/
theorem readItems_eq (hobject : ∀ a, ∃ ts, tokens a = .openObject :: ts)
    (hitem : ∀ a, Reads item (tokens a) a) (as : List α) {fuel : Nat} (hfuel : as.length < fuel)
    (rest : List Token) :
    readItems item fuel false ((as.map tokens).flatMap (.comma :: ·) ++ .closeArray :: rest) =
      .ok (as, rest) := by
  induction as generalizing fuel with
  | nil =>
    obtain ⟨fuel, rfl⟩ := Nat.exists_eq_succ_of_ne_zero (Nat.ne_of_gt hfuel)
    rfl
  | cons a as ih =>
    obtain ⟨fuel, rfl⟩ := Nat.exists_eq_succ_of_ne_zero (Nat.ne_of_gt (Nat.zero_lt_of_lt hfuel))
    have hnext := hitem a ((as.map tokens).flatMap (.comma :: ·) ++ .closeArray :: rest)
    -- the item begins with a brace, so the array does not end behind the comma
    obtain ⟨ts, hts⟩ := hobject a
    rw [List.map_cons, List.flatMap_cons, List.append_assoc]
    rw [hts] at hnext ⊢
    show (item (.openObject :: ts ++ _) >>= _) = _
    rw [hnext, Outcome.ok_bind]
    show (readItems item fuel false _ >>= _) = _
    rw [ih (Nat.lt_of_succ_lt_succ hfuel), Outcome.ok_bind]
    rfl

/-- An array of objects is read item by item. -/
theorem reads_array (hobject : ∀ a, ∃ ts, tokens a = .openObject :: ts)
    (hitem : ∀ a, Reads item (tokens a) a) (as : List α) :
    Reads (readArray item) (arrayTokens (as.map tokens)) as := by
  intro rest
  cases as with
  | nil => rfl
  | cons a as =>
    have hnext := hitem a ((as.map tokens).flatMap (.comma :: ·) ++ .closeArray :: rest)
    have hlength := length_le_length_flatMap_comma (as.map tokens)
    obtain ⟨ts, hts⟩ := hobject a
    have htext : arrayTokens ((a :: as).map tokens) ++ rest = .openArray :: (tokens a ++
        ((as.map tokens).flatMap (.comma :: ·) ++ .closeArray :: rest)) := by
      simp [arrayTokens, separated]
    rw [htext, readArray]
    rw [hts] at hnext ⊢
    show (item (.openObject :: ts ++ _) >>= _) = _
    rw [hnext, Outcome.ok_bind]
    show (readItems item _ false _ >>= _) = _
    rw [readItems_eq hobject hitem as ?_ rest, Outcome.ok_bind]
    · rfl
    · simp only [List.length_append, List.length_cons, List.length_map] at hlength ⊢
      omega

/-! ## Elements -/

/-- The members of a node fill all fields of its draft but an equation that it does not have. -/
theorem fills_node (n : Node) :
    Fills readNodeMember ⟨none, none, none, none⟩ (nodeMembers n)
      ⟨some n.id, some n.kind, some n.label, n.equation.map some⟩ := by
  have hid : Reads (readNodeMember ⟨none, none, none, none⟩ "id") (.colon :: [.text n.id])
      ⟨some n.id, none, none, none⟩ :=
    (reads_field (reads_text n.id) "id").map (NodeDraft.mk · none none none)
  have hkind : Reads (readNodeMember ⟨some n.id, none, none, none⟩ "kind")
      (.colon :: [.text n.kind.name]) ⟨some n.id, some n.kind, none, none⟩ :=
    (reads_field (reads_nodeKind n.kind) "kind").map (NodeDraft.mk (some n.id) · none none)
  have hlabel : Reads (readNodeMember ⟨some n.id, some n.kind, none, none⟩ "label")
      (.colon :: [.text n.label]) ⟨some n.id, some n.kind, some n.label, none⟩ :=
    (reads_field (reads_text n.label) "label").map
      (NodeDraft.mk (some n.id) (some n.kind) · none)
  refine .cons hid (.cons hkind (.cons hlabel ?_))
  cases n.equation with
  | none => exact .nil _
  | some e =>
    have hequation : Reads
        (readNodeMember ⟨some n.id, some n.kind, some n.label, none⟩ "equation")
        (.colon :: [.text e]) ⟨some n.id, some n.kind, some n.label, some (some e)⟩ :=
      (reads_field (reads_optionalText e) "equation").map
        (NodeDraft.mk (some n.id) (some n.kind) (some n.label) ·)
    exact .cons hequation (.nil _)

/-- A node is read with its fields, and without an equation if it has none. -/
theorem reads_node (n : Node) : Reads readNode (nodeTokens n) n := by
  have hdraft : NodeDraft.node ⟨some n.id, some n.kind, some n.label, n.equation.map some⟩ =
      .ok n := by
    cases n with
    | mk id kind label equation => cases equation <;> rfl
  exact fun rest => (fills_node n).reads_complete hdraft rest

/-- The members of an edge fill all fields of its draft but a label that it does not have. -/
theorem fills_edge (e : Edge) :
    Fills readEdgeMember ⟨none, none, none, none, none⟩ (edgeMembers e)
      ⟨some e.id, some e.kind, some e.source, some e.target, e.label.map some⟩ := by
  have hid : Reads (readEdgeMember ⟨none, none, none, none, none⟩ "id") (.colon :: [.text e.id])
      ⟨some e.id, none, none, none, none⟩ :=
    (reads_field (reads_text e.id) "id").map (EdgeDraft.mk · none none none none)
  have hkind : Reads (readEdgeMember ⟨some e.id, none, none, none, none⟩ "kind")
      (.colon :: [.text e.kind.name]) ⟨some e.id, some e.kind, none, none, none⟩ :=
    (reads_field (reads_edgeKind e.kind) "kind").map (EdgeDraft.mk (some e.id) · none none none)
  have hsource : Reads (readEdgeMember ⟨some e.id, some e.kind, none, none, none⟩ "source")
      (.colon :: [.text e.source]) ⟨some e.id, some e.kind, some e.source, none, none⟩ :=
    (reads_field (reads_text e.source) "source").map
      (EdgeDraft.mk (some e.id) (some e.kind) · none none)
  have htarget : Reads (readEdgeMember ⟨some e.id, some e.kind, some e.source, none, none⟩ "target")
      (.colon :: [.text e.target])
      ⟨some e.id, some e.kind, some e.source, some e.target, none⟩ :=
    (reads_field (reads_text e.target) "target").map
      (EdgeDraft.mk (some e.id) (some e.kind) (some e.source) · none)
  refine .cons hid (.cons hkind (.cons hsource (.cons htarget ?_)))
  cases e.label with
  | none => exact .nil _
  | some l =>
    have hlabel : Reads
        (readEdgeMember ⟨some e.id, some e.kind, some e.source, some e.target, none⟩ "label")
        (.colon :: [.text l])
        ⟨some e.id, some e.kind, some e.source, some e.target, some (some l)⟩ :=
      (reads_field (reads_optionalText l) "label").map
        (EdgeDraft.mk (some e.id) (some e.kind) (some e.source) (some e.target) ·)
    exact .cons hlabel (.nil _)

/-- An edge is read with its fields, and without a label if it has none. -/
theorem reads_edge (e : Edge) : Reads readEdge (edgeTokens e) e := by
  have hdraft : EdgeDraft.edge
      ⟨some e.id, some e.kind, some e.source, some e.target, e.label.map some⟩ = .ok e := by
    cases e with
    | mk id kind source target label => cases label <;> rfl
  exact fun rest => (fills_edge e).reads_complete hdraft rest

/-! ## Diagrams -/

/-- The two members of a diagram fill its draft with the nodes and the edges in their order. -/
theorem fills_diagram (d : Diagram) :
    Fills readDiagramMember ⟨none, none⟩
      [memberTokens "nodes" (arrayTokens (d.nodes.map nodeTokens)),
        memberTokens "edges" (arrayTokens (d.edges.map edgeTokens))]
      ⟨some d.nodes, some d.edges⟩ := by
  have hnodeItems : Reads (readArray readNode) (arrayTokens (d.nodes.map nodeTokens)) d.nodes :=
    reads_array (fun _ => ⟨_, rfl⟩) reads_node d.nodes
  have hedgeItems : Reads (readArray readEdge) (arrayTokens (d.edges.map edgeTokens)) d.edges :=
    reads_array (fun _ => ⟨_, rfl⟩) reads_edge d.edges
  have hnodes : Reads (readDiagramMember ⟨none, none⟩ "nodes")
      (.colon :: arrayTokens (d.nodes.map nodeTokens)) ⟨some d.nodes, none⟩ :=
    (reads_field hnodeItems "nodes").map (DiagramDraft.mk · none)
  have hedges : Reads (readDiagramMember ⟨some d.nodes, none⟩ "edges")
      (.colon :: arrayTokens (d.edges.map edgeTokens)) ⟨some d.nodes, some d.edges⟩ :=
    (reads_field hedgeItems "edges").map (DiagramDraft.mk (some d.nodes) ·)
  exact .cons hnodes (.cons hedges (.nil _))

/-- A diagram with distinct ids is read from its snapshot. -/
theorem read_write {d : Diagram} (h : d.DistinctIds) : read (write d) = .ok d := by
  have hdraft : DiagramDraft.diagram ⟨some d.nodes, some d.edges⟩ = .ok d := by
    rw [DiagramDraft.diagram, required, Outcome.ok_bind, Option.getD_some,
      Diagram.ofElements_eq_ok h]
  have hobject := (fills_diagram d).reads []
  rw [List.append_nil] at hobject
  rw [read, tokens_write]
  show (readObject readDiagramMember _ _ >>= _) = _
  rw [hobject, Outcome.ok_bind]
  show (DiagramDraft.diagram _ >>= _) = _
  rw [hdraft]
  rfl

end Snapshot

/-! ## Documents -/

namespace Document

/-- A written snapshot begins with its brace, and so it is taken for a snapshot. -/
theorem format?_write (d : Diagram) : format? (Snapshot.write d) = some .snapshot := by
  have hopen : ∃ rest, (Snapshot.write d).toList = '{' :: rest := by
    rw [Snapshot.write, Snapshot.object, Snapshot.block, if_neg (List.cons_ne_nil _ _)]
    simp only [String.toList_append, List.append_assoc]
    exact ⟨_, rfl⟩
  obtain ⟨rest, hrest⟩ := hopen
  rw [format?, hrest]
  rfl

/-- A diagram with distinct ids is loaded from its snapshot. -/
theorem load_write {d : Diagram} (h : d.DistinctIds) : load (Snapshot.write d) = .ok d := by
  rw [load, format?_write]
  show (Snapshot.read _).mapError _ = _
  rw [Snapshot.read_write h]
  rfl

end Document

/-! ## Stores -/

namespace Store

/-- Two stores have the same elements in the same order and answer every lookup alike. -/
structure Alike (s t : Store) : Prop where
  nodes : s.nodes = t.nodes
  edges : s.edges = t.edges
  node? : ∀ id, s.node? id = t.node? id
  edge? : ∀ id, s.edge? id = t.edge? id
  edgesTouching : ∀ id, s.edgesTouching id = t.edgesTouching id

/-- Exact indices of the same diagram give the same answers. -/
theorem Indexed.alike {s t : Store} (hs : s.Indexed) (ht : t.Indexed)
    (h : s.toDiagram = t.toDiagram) : s.Alike t where
  nodes := congrArg Diagram.nodes h
  edges := congrArg Diagram.edges h
  node? id := by rw [hs.node?_eq, ht.node?_eq, h]
  edge? id := by rw [hs.edge?_eq, ht.edge?_eq, h]
  edgesTouching id := by rw [hs.edgesTouching_eq, ht.edgesTouching_eq, h]

/-- A store after any session of edits is loaded from its snapshot with the same elements and the
same answers to lookups. So its diagnostics and its statements are the same as well. -/
theorem alike_load_write (edits : List Edit) :
    ∃ d, Document.load (Snapshot.write (empty.afterSession edits).toDiagram) = .ok d ∧
      (ofDiagram d).Alike (empty.afterSession edits) ∧
      d.validate = (empty.afterSession edits).toDiagram.validate ∧
      ∀ options, d.compile options = (empty.afterSession edits).toDiagram.compile options := by
  have hindexed := (indexed_empty.afterSession edits).1
  obtain ⟨hloaded, hd⟩ := indexed_ofDiagram hindexed.distinctIds
  exact ⟨_, Document.load_write hindexed.distinctIds, hloaded.alike hindexed hd, rfl,
    fun _ => rfl⟩

end Store

end EntityRelationship
