import EntityRelationship.Diagram.Store
import EntityRelationship.Proofs.Diagram.Elements
import EntityRelationship.Proofs.Diagram.Lookup

/-!
# The indices of a store are exact

Every edit keeps the indices of a store exact: an id leads to the position of the element that has
it, and to the positions of all edges that touch it. So a lookup in a store finds what a search of
the diagram's lists finds, and an edit of the store does to the lists what the edit of the diagram
does. A refused edit leaves the store as it was, with its indices.
-/

namespace EntityRelationship

/-! ## Positions under ids -/

namespace IdIndex

variable {index : IdIndex} {ids : List String} {id : String} {i : Nat}

/-- The index gives for each id of a list the one position at which the id stands. -/
def Exact (index : IdIndex) (ids : List String) : Prop :=
  ∀ (id : String) (i : Nat), index[id]? = some i ↔ ids[i]? = some id

theorem exact_empty : Exact ∅ [] := by
  intro id i
  simp

/-- An exact index leads to each id, and to nothing else. -/
theorem Exact.contains_iff (h : Exact index ids) : index.contains id = true ↔ id ∈ ids := by
  rw [Std.HashMap.contains_eq_isSome_getElem?, Option.isSome_iff_exists, List.mem_iff_getElem?]
  exact exists_congr fun i => h id i

/-- A list with an exact index repeats no id, since each id has one position. -/
theorem Exact.nodup (h : Exact index ids) : ids.Nodup := by
  rw [List.nodup_iff_getElem?_ne_getElem?]
  intro i j hij hj heq
  have hi : ids[i]? = some ids[i] := List.getElem?_eq_getElem (by omega)
  have hfirst := (h _ i).2 hi
  have hsecond := (h _ j).2 (heq ▸ hi)
  have hsame := Option.some.inj (hfirst.symm.trans hsecond)
  omega

/-- The index of a list with a new id at the end. -/
theorem Exact.insert (h : Exact index ids) (hnew : id ∉ ids) :
    Exact (index.insert id ids.length) (ids ++ [id]) := by
  intro x i
  rw [Std.HashMap.getElem?_insert, Diagram.getElem?_concat_eq_some_iff]
  by_cases hx : id = x
  · -- the new id stands at the end, and nowhere else
    subst hx
    have hbefore : ids[i]? ≠ some id := fun hi => hnew (List.mem_of_getElem? hi)
    simp [hbefore, eq_comm]
  · rw [if_neg (by simpa using hx), h x i]
    simp [hx]

/-- The index of a list without repeats is exact. -/
theorem exact_ofIds (h : ids.Nodup) : Exact (ofIds ids) ids := by
  induction ids using List.reverseRecOn with
  | nil => exact exact_empty
  | append_singleton ids id ih =>
    have hids : ids.Nodup := (List.nodup_append.1 h).1
    have hnew : id ∉ ids := fun hmem =>
      (List.nodup_append.1 h).2.2 id hmem id List.mem_cons_self rfl
    have hstep : ofIds (ids ++ [id]) = (ofIds ids).insert id ids.length := by
      simp [ofIds, List.zipIdx_append]
    rw [hstep]
    exact (ih hids).insert hnew

end IdIndex

/-! ## Positions of touching edges -/

namespace Adjacency

variable {adjacency : Adjacency} {edges : List Edge} {e : Edge} {id : String}

/-- The positions of a list at which the edges stand that touch an id. -/
def positions (edges : List Edge) (id : String) : List Nat :=
  (List.range edges.length).filter fun i => edges[i]?.any (·.touches id)

/-- The adjacency gives for each id the positions of all edges that touch it. -/
def Exact (adjacency : Adjacency) (edges : List Edge) : Prop :=
  ∀ id, adjacency.getD id [] = positions edges id

theorem positions_append (edges : List Edge) (e : Edge) (id : String) :
    positions (edges ++ [e]) id =
      positions edges id ++ if e.touches id then [edges.length] else [] := by
  have hold : (List.range edges.length).filter (fun i => (edges ++ [e])[i]?.any (·.touches id)) =
      positions edges id := by
    refine List.filter_congr fun i hi => ?_
    rw [List.getElem?_append_left (List.mem_range.1 hi)]
  rw [positions, List.length_append, List.length_singleton, List.range_succ, List.filter_append,
    hold]
  by_cases ht : e.touches id = true <;> simp [ht]

/-- The positions lead to the edges that touch the id, in their order and each once. -/
theorem filterMap_positions (edges : List Edge) (id : String) :
    (positions edges id).filterMap (edges[·]?) = edges.filter (·.touches id) := by
  induction edges using List.reverseRecOn with
  | nil => rfl
  | append_singleton edges e ih =>
    have hold : (positions edges id).filterMap ((edges ++ [e])[·]?) =
        (positions edges id).filterMap (edges[·]?) := by
      refine List.filterMap_congr fun i hi => ?_
      have hlt : i < edges.length := List.mem_range.1 (List.mem_of_mem_filter hi)
      rw [List.getElem?_append_left hlt]
    rw [positions_append, List.filterMap_append, hold, ih, List.filter_append]
    by_cases ht : e.touches id = true <;> simp [ht]

/-- Positions depend on the ends of the edges only. -/
theorem positions_modify (f : Edge → Edge) (hf : ∀ e, (f e).touches id = e.touches id)
    (edges : List Edge) (i : Nat) : positions (edges.modify i f) id = positions edges id := by
  rw [positions, List.length_modify]
  refine List.filter_congr fun j _ => ?_
  rw [List.getElem?_modify]
  cases edges[j]? with
  | none => rfl
  | some e => by_cases hij : i = j <;> simp [hij, hf]

theorem getD_note (adjacency : Adjacency) (x id : String) (i : Nat) :
    (adjacency.note x i).getD id [] = adjacency.getD id [] ++ if x = id then [i] else [] := by
  rw [note, Std.HashMap.getD_insert]
  by_cases hx : x = id
  · simp [hx]
  · simp [hx]

/-- An edge is noted once under each id that it touches. -/
theorem getD_noteEdge (adjacency : Adjacency) (e : Edge) (id : String) (i : Nat) :
    (adjacency.noteEdge e i).getD id [] =
      adjacency.getD id [] ++ if e.touches id then [i] else [] := by
  unfold noteEdge
  by_cases hloop : e.target = e.source
  · by_cases hs : e.source = id <;> simp [getD_note, hloop, hs, Edge.touches]
  · simp only [hloop, if_false, getD_note]
    by_cases hs : e.source = id
    · have ht : e.target ≠ id := hs ▸ hloop
      simp [hs, ht, Edge.touches]
    · by_cases ht : e.target = id <;> simp [hs, ht, Edge.touches]

theorem exact_empty : Exact ∅ [] := by
  intro id
  simp [positions]

theorem Exact.noteEdge (h : Exact adjacency edges) (e : Edge) :
    Exact (adjacency.noteEdge e edges.length) (edges ++ [e]) := by
  intro id
  rw [getD_noteEdge, h id, positions_append]

theorem exact_ofEdges (edges : List Edge) : Exact (ofEdges edges) edges := by
  induction edges using List.reverseRecOn with
  | nil => exact exact_empty
  | append_singleton edges e ih =>
    have hstep : ofEdges (edges ++ [e]) = (ofEdges edges).noteEdge e edges.length := by
      simp [ofEdges, List.zipIdx_append]
    rw [hstep]
    exact ih.noteEdge e

end Adjacency

namespace Store

variable {s : Store} {n : Node} {e : Edge} {id label : String}

/-! ## Stores with exact indices -/

/-- The indices of a store are exact. -/
structure Indexed (s : Store) : Prop where
  nodes : IdIndex.Exact s.nodeIndex (s.nodes.map (·.id))
  edges : IdIndex.Exact s.edgeIndex (s.edges.map (·.id))
  adjacency : Adjacency.Exact s.adjacency s.edges

theorem indexed_empty : empty.Indexed :=
  ⟨IdIndex.exact_empty, IdIndex.exact_empty, Adjacency.exact_empty⟩

/-- A store with exact indices has distinct ids. -/
theorem Indexed.distinctIds (h : s.Indexed) : s.toDiagram.DistinctIds :=
  ⟨h.nodes.nodup, h.edges.nodup⟩

/-- Indices that are made anew are exact. -/
theorem indexed_reindex (h : s.toDiagram.DistinctIds) : s.reindex.Indexed :=
  ⟨IdIndex.exact_ofIds h.1, IdIndex.exact_ofIds h.2, Adjacency.exact_ofEdges s.edges⟩

theorem Indexed.contains_node_iff (h : s.Indexed) (id : String) :
    s.nodeIndex.contains id = s.toDiagram.hasNode id := by
  rw [Bool.eq_iff_iff, h.nodes.contains_iff, Diagram.hasNode_iff, List.mem_map]

theorem Indexed.contains_edge_iff (h : s.Indexed) (id : String) :
    s.edgeIndex.contains id = (s.toDiagram.edge? id).isSome := by
  rw [Bool.eq_iff_iff, h.edges.contains_iff, Diagram.edge?, List.find?_isSome, List.mem_map]
  simp

/-! ## Edits of a store -/

/-- A change of a store does what an edit of its diagram gives: it leads to a store of the edited
diagram with exact indices, or it is refused with the same fault and changes nothing. -/
def Mirrors (s : Store) (change : Change) : Except EditFault Diagram → Prop
  | .ok d => ∃ s', change.run s = .ok () s' ∧ s'.toDiagram = d ∧ s'.Indexed
  | .error f => change.run s = .error f s

theorem Indexed.mirrors_insertNode (h : s.Indexed) (n : Node) :
    s.Mirrors (insertNode n) (s.toDiagram.insertNode n) := by
  have hrun := run_insertNode s n
  unfold Diagram.insertNode
  rw [← h.contains_node_iff]
  by_cases hc : s.nodeIndex.contains n.id = true
  · rw [if_pos hc] at hrun ⊢
    exact hrun
  · rw [if_neg hc] at hrun ⊢
    refine ⟨_, hrun, rfl, ?_, h.edges, h.adjacency⟩
    have hnew : n.id ∉ s.nodes.map (·.id) := fun hmem => hc (h.nodes.contains_iff.2 hmem)
    simpa using h.nodes.insert hnew

theorem Indexed.mirrors_insertEdge (h : s.Indexed) (e : Edge) :
    s.Mirrors (insertEdge e) (s.toDiagram.insertEdge e) := by
  have hrun := run_insertEdge s e
  unfold Diagram.insertEdge
  rw [← h.contains_edge_iff]
  by_cases hc : s.edgeIndex.contains e.id = true
  · rw [if_pos hc] at hrun ⊢
    exact hrun
  · rw [if_neg hc] at hrun ⊢
    refine ⟨_, hrun, rfl, h.nodes, ?_, h.adjacency.noteEdge e⟩
    have hnew : e.id ∉ s.edges.map (·.id) := fun hmem => hc (h.edges.contains_iff.2 hmem)
    simpa using h.edges.insert hnew

theorem Indexed.mirrors_remove (h : s.Indexed) (id : String) :
    s.Mirrors (remove id) (s.toDiagram.remove id) := by
  -- what is left has distinct ids, which is all that new indices need
  have hdistinct (d : Diagram) (hd : s.toDiagram.remove id = .ok d) : d.DistinctIds :=
    h.distinctIds.remove hd
  have hrun := run_remove s id
  unfold Diagram.remove at hdistinct ⊢
  rw [← h.contains_node_iff, ← h.contains_edge_iff] at hdistinct ⊢
  by_cases hnode : s.nodeIndex.contains id = true
  · rw [if_pos hnode] at hrun hdistinct ⊢
    have htouch (e : Edge) : (e.source != id && e.target != id) = !e.touches id := by
      rw [Edge.touches, Bool.not_or]
      rfl
    simp only [htouch] at hrun
    exact ⟨_, hrun, rfl, indexed_reindex (hdistinct _ rfl)⟩
  · rw [if_neg hnode] at hrun hdistinct ⊢
    by_cases hedge : s.edgeIndex.contains id = true
    · rw [if_pos hedge] at hrun hdistinct ⊢
      exact ⟨_, hrun, rfl, indexed_reindex (hdistinct _ rfl)⟩
    · rw [if_neg hedge] at hrun ⊢
      exact hrun

/-- A change at the one position of an id is a change of all elements with that id. -/
theorem modify_eq_map {α : Type} {key : α → String} {index : IdIndex} {xs : List α} {i : Nat}
    (h : IdIndex.Exact index (xs.map key)) (hi : index[id]? = some i) (f : α → α) :
    xs.modify i f = xs.map fun x => if key x = id then f x else x := by
  refine List.ext_getElem? fun j => ?_
  rw [List.getElem?_modify, List.getElem?_map]
  cases hx : xs[j]? with
  | none => rfl
  | some x =>
    have hposition : i = j ↔ key x = id := by
      have hj := h id j
      rw [hi, List.getElem?_map, hx] at hj
      simpa using hj
    simp [hposition]

theorem Indexed.mirrors_rename (h : s.Indexed) (id label : String) :
    s.Mirrors (rename id label) (s.toDiagram.rename id label) := by
  have hrun := run_rename s id label
  unfold Diagram.rename
  rw [← h.contains_node_iff, ← h.contains_edge_iff, Std.HashMap.contains_eq_isSome_getElem?,
    Std.HashMap.contains_eq_isSome_getElem?]
  -- ids and ends do not change, and so the indices are those of the new lists
  cases hnode : s.nodeIndex[id]? with
  | some i =>
    rw [hnode] at hrun
    refine ⟨_, hrun, ?_, ?_, h.edges, h.adjacency⟩
    · exact congrArg (Diagram.mk · s.edges) (modify_eq_map h.nodes hnode _)
    · rw [modify_eq_map h.nodes hnode]
      simpa [Function.comp_def, apply_ite] using h.nodes
  | none =>
    cases hedge : s.edgeIndex[id]? with
    | some i =>
      rw [hnode, hedge] at hrun
      refine ⟨_, hrun, ?_, h.nodes, ?_, ?_⟩
      · exact congrArg (Diagram.mk s.nodes) (modify_eq_map h.edges hedge _)
      · rw [modify_eq_map h.edges hedge]
        simpa [Function.comp_def, apply_ite] using h.edges
      · intro x
        have hsame := Adjacency.positions_modify (fun e => { e with label := some label })
          (fun e => (rfl : _ = e.touches x)) s.edges i
        exact (h.adjacency x).trans hsame.symm
    | none =>
      rw [hnode, hedge] at hrun
      exact hrun

/-- An edit of a store with exact indices does what the edit of its diagram does. -/
theorem Indexed.mirrors_edit (h : s.Indexed) (a : Edit) :
    s.Mirrors (edit a) (s.toDiagram.edit a) := by
  cases a with
  | insertNode n => exact h.mirrors_insertNode n
  | insertEdge e => exact h.mirrors_insertEdge e
  | remove id => exact h.mirrors_remove id
  | rename id label => exact h.mirrors_rename id label

/-- A refused edit leaves the whole store as it was. -/
theorem Indexed.eq_of_refused {a : Edit} {f : EditFault} {s' : Store} (h : s.Indexed)
    (hrefused : (edit a).run s = .error f s') : s' = s := by
  have hmirrors := h.mirrors_edit a
  cases hedit : s.toDiagram.edit a with
  | error f' =>
    rw [hedit] at hmirrors
    cases hrefused.symm.trans hmirrors
    rfl
  | ok d =>
    rw [hedit] at hmirrors
    obtain ⟨s₁, hrun, -⟩ := hmirrors
    cases hrefused.symm.trans hrun

/-! ## Sessions -/

/-- After an edit, carried out or refused, the indices are exact and the diagram is the one after
the edit. -/
theorem Indexed.afterEdit (h : s.Indexed) (a : Edit) :
    (s.afterEdit a).Indexed ∧ (s.afterEdit a).toDiagram = s.toDiagram.tryEdit a := by
  have hmirrors := h.mirrors_edit a
  unfold Store.afterEdit Diagram.tryEdit
  cases hedit : s.toDiagram.edit a with
  | error f =>
    rw [hedit] at hmirrors
    rw [show (Store.edit a).run s = .error f s from hmirrors]
    exact ⟨h, rfl⟩
  | ok d =>
    rw [hedit] at hmirrors
    obtain ⟨s', hrun, hd, hs'⟩ := hmirrors
    rw [hrun]
    exact ⟨hs', hd⟩

/-- A session of edits keeps the indices exact and leads to the diagram after the session. -/
theorem Indexed.afterSession (h : s.Indexed) (edits : List Edit) :
    (s.afterSession edits).Indexed ∧
      (s.afterSession edits).toDiagram = s.toDiagram.afterSession edits := by
  induction edits generalizing s with
  | nil => exact ⟨h, rfl⟩
  | cons a edits ih =>
    obtain ⟨hs, hd⟩ := h.afterEdit a
    have hrest := ih hs
    rw [hd] at hrest
    exact hrest

/-! ## Lookups -/

/-- The element that an exact index leads to is the first one with the id. -/
theorem getElem?_of_exact {α : Type} {key : α → String} {index : IdIndex} {xs : List α}
    (h : IdIndex.Exact index (xs.map key)) (id : String) :
    (index[id]?.bind fun i => xs[i]?) = xs.find? (key · == id) := by
  cases hi : index[id]? with
  | none =>
    have hnone : id ∉ xs.map key := by
      rw [← h.contains_iff, Std.HashMap.contains_eq_isSome_getElem?, hi]
      simp
    symm
    simpa using hnone
  | some i =>
    have hid := (h id i).1 hi
    rw [List.getElem?_map, Option.map_eq_some_iff] at hid
    obtain ⟨x, hx, hkey⟩ := hid
    have hfound : (xs.find? (key · == id)).isSome :=
      List.find?_isSome.2 ⟨x, List.mem_of_getElem? hx, beq_iff_eq.2 hkey⟩
    obtain ⟨y, hy⟩ := Option.isSome_iff_exists.1 hfound
    have hmem := List.mem_of_find?_eq_some hy
    -- both elements have the id, and no two do
    have hsame : key y = key x := by
      rw [hkey]
      simpa using List.find?_some hy
    rw [hy]
    exact hx.trans
      (congrArg some (List.inj_on_of_nodup_map h.nodup (List.mem_of_getElem? hx) hmem hsame.symm))

/-- A store finds the nodes that a search of its diagram finds. -/
theorem Indexed.node?_eq (h : s.Indexed) (id : String) : s.node? id = s.toDiagram.node? id :=
  getElem?_of_exact h.nodes id

theorem Indexed.edge?_eq (h : s.Indexed) (id : String) : s.edge? id = s.toDiagram.edge? id :=
  getElem?_of_exact h.edges id

theorem Indexed.edgesTouching_eq (h : s.Indexed) (id : String) :
    s.edgesTouching id = s.toDiagram.edgesTouching id := by
  rw [Store.edgesTouching, h.adjacency id, Adjacency.filterMap_positions]
  rfl

/-! ## Stores of documents -/

/-- The store of a diagram with distinct ids has that diagram and exact indices. -/
theorem indexed_ofDiagram {d : Diagram} (h : d.DistinctIds) :
    (ofDiagram d).Indexed ∧ (ofDiagram d).toDiagram = d := by
  obtain ⟨hindexed, hd⟩ :=
    indexed_empty.afterSession (d.nodes.map .insertNode ++ d.edges.map .insertEdge)
  exact ⟨hindexed, hd.trans (Diagram.afterSession_inserts h)⟩

/-- Every position in an index is one of the list that it leads to. -/
structure InRange (s : Store) : Prop where
  node : ∀ (id : String) (i : Nat), s.nodeIndex[id]? = some i → i < s.nodes.length
  edge : ∀ (id : String) (i : Nat), s.edgeIndex[id]? = some i → i < s.edges.length
  touching : ∀ (id : String), ∀ i ∈ s.adjacency.getD id [], i < s.edges.length

theorem Indexed.inRange (h : s.Indexed) : s.InRange where
  node id i hi := by
    have hid := List.getElem?_eq_some_iff.1 ((h.nodes id i).1 hi)
    simpa using hid.1
  edge id i hi := by
    have hid := List.getElem?_eq_some_iff.1 ((h.edges id i).1 hi)
    simpa using hid.1
  touching id i hi := by
    rw [h.adjacency id] at hi
    exact List.mem_range.1 (List.mem_of_mem_filter hi)

/-- After any session of edits, carried out or refused, that starts from the empty store or from
that of a document, the ids of a store are distinct. A lookup finds the one element with the id, and
nothing if there is none; the edges that touch an id are found in their order and each once. The
indices never lead out of the lists, and a refused edit changes nothing. -/
theorem consistent_afterSession {start : Store}
    (hstart : start = empty ∨
      ∃ text d, Document.load text = .ok d ∧ start = ofDiagram d)
    (edits : List Edit) (hs : s = start.afterSession edits) :
    (s.nodes.map (·.id)).Nodup ∧ (s.edges.map (·.id)).Nodup ∧
    (∀ id n, s.node? id = some n ↔ n ∈ s.nodes ∧ n.id = id) ∧
    (∀ id e, s.edge? id = some e ↔ e ∈ s.edges ∧ e.id = id) ∧
    (∀ id, s.edgesTouching id = s.edges.filter fun e => e.source = id ∨ e.target = id) ∧
    s.InRange ∧
    ∀ a f s', (edit a).run s = .error f s' → s' = s := by
  have hindexed : s.Indexed := by
    rw [hs]
    rcases hstart with rfl | ⟨text, d, hload, rfl⟩
    · exact (indexed_empty.afterSession edits).1
    · have hd := Document.distinctIds_of_load hload
      exact ((indexed_ofDiagram hd).1.afterSession edits).1
  refine ⟨hindexed.distinctIds.1, hindexed.distinctIds.2, fun id n => ?_, fun id e => ?_,
    fun id => ?_, hindexed.inRange, fun a f s' => hindexed.eq_of_refused⟩
  · rw [hindexed.node?_eq]
    constructor
    · exact Diagram.mem_of_node?
    · rintro ⟨hn, rfl⟩
      exact Diagram.node?_of_mem hindexed.distinctIds hn
  · rw [hindexed.edge?_eq]
    constructor
    · exact Diagram.mem_of_edge?
    · rintro ⟨he, rfl⟩
      exact Diagram.edge?_of_mem hindexed.distinctIds he
  · rw [hindexed.edgesTouching_eq]
    refine List.filter_congr fun e _ => ?_
    rw [Bool.decide_or]
    rfl

/-- A person who knows another one. -/
def friends : Diagram where
  nodes := [⟨"a", .entity, "A", none⟩, ⟨"b", .entity, "B", none⟩]
  edges := [⟨"edge-1", .transition, "a", "b", none⟩]

/-- A session with a loop, an edge to no node, a removal and two refused edits. -/
def friendsSession : List Edit :=
  [.insertEdge ⟨"loop", .weighted, "a", "a", none⟩, .insertNode ⟨"a", .relation, "again", none⟩,
    .insertEdge ⟨"x", .transition, "ghost", "a", none⟩, .remove "b", .remove "b",
    .rename "loop" "(0..1)"]

theorem consistent_afterSession_friends :
    ∃ s, s = (ofDiagram friends).afterSession friendsSession ∧
      s.node? "a" = some ⟨"a", .entity, "A", none⟩ ∧
      s.edgesTouching "a" =
        [⟨"loop", .weighted, "a", "a", some "(0..1)"⟩, ⟨"x", .transition, "ghost", "a", none⟩] := by
  have hload :
      Document.load "erGraph\nentity a \"A\"\nentity b \"B\"\na --> b\n" = .ok friends := by
    decide +kernel
  have hdistinct : friends.DistinctIds := Document.distinctIds_of_load hload
  obtain ⟨hindexed, hd⟩ := indexed_ofDiagram hdistinct
  have hafter : ((ofDiagram friends).afterSession friendsSession).toDiagram =
      ⟨[⟨"a", .entity, "A", none⟩],
        [⟨"loop", .weighted, "a", "a", some "(0..1)"⟩,
          ⟨"x", .transition, "ghost", "a", none⟩]⟩ := by
    rw [(hindexed.afterSession friendsSession).2, hd]
    decide
  obtain ⟨-, -, hnode, -, htouching, -, -⟩ :=
    consistent_afterSession (.inr ⟨_, friends, hload, rfl⟩) friendsSession rfl
  refine ⟨_, rfl, (hnode _ _).2 ?_, ?_⟩
  · rw [hafter]
    decide
  · rw [htouching, hafter]
    decide

end Store

end EntityRelationship
