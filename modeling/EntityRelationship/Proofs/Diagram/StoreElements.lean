import EntityRelationship.Proofs.Diagram.StoreIndices
import EntityRelationship.Snapshot.Reader

/-!
# Stores of listed elements

A store is built from a list of nodes and a list of edges by inserting them one by one, each against
the indices that the earlier ones have left. As long as the indices are exact, an insertion is refused
only for an id that was there before. So there is a store exactly if no id is repeated in either list,
and otherwise the fault is the first repeat, of a node before that of an edge.
-/

namespace EntityRelationship

open Outcome

variable {nodes : List Node} {edges : List Edge} {ids : List String} {id : String}
  {fault : EditFault}

/-! ## First repeats -/

/-- The first element of a list that stands in it before. -/
def FirstRepeat (ids : List String) (id : String) : Prop :=
  ∃ before after, ids = before ++ id :: after ∧ before.Nodup ∧ id ∈ before

/-- A list whose elements are not distinct has a first repeat. -/
theorem exists_firstRepeat (h : ¬ ids.Nodup) : ∃ id, FirstRepeat ids id := by
  have hids : ¬ (ids.map fun id => id).Nodup := by simpa using h
  obtain ⟨before, id, after, rfl, hbefore, hid⟩ := Diagram.exists_first_repeat hids
  exact ⟨id, before, after, rfl, by simpa using hbefore, by simpa using hid⟩

/-- The first repeated key is that of an element with some elements before it. -/
theorem FirstRepeat.exists_element {α : Type} {key : α → String} {xs : List α}
    (h : FirstRepeat (xs.map key) id) :
    ∃ before x after, xs = before ++ x :: after ∧ (before.map key).Nodup ∧ key x = id ∧
      key x ∈ before.map key := by
  obtain ⟨before, after, hsplit, hbefore, hid⟩ := h
  obtain ⟨ys, zs, rfl, rfl, hzs⟩ := List.map_eq_append_iff.1 hsplit
  obtain ⟨x, rest, rfl, hx, -⟩ := List.map_eq_cons_iff.1 hzs
  exact ⟨ys, x, rest, rfl, hbefore, hx, hx ▸ hid⟩

/-- The id of the first node that repeats one or, if no node does, that of the first edge that
does. -/
def FirstRepeatedId (nodes : List Node) (edges : List Edge) (id : String) : Prop :=
  FirstRepeat (nodes.map (·.id)) id ∨
    (nodes.map (·.id)).Nodup ∧ FirstRepeat (edges.map (·.id)) id

/-- The ids of listed elements are distinct or there is a first repeated one. -/
theorem distinctIds_or_firstRepeatedId (nodes : List Node) (edges : List Edge) :
    Diagram.DistinctIds ⟨nodes, edges⟩ ∨ ∃ id, FirstRepeatedId nodes edges id := by
  by_cases hnodes : (nodes.map (·.id)).Nodup
  · by_cases hedges : (edges.map (·.id)).Nodup
    · exact .inl ⟨hnodes, hedges⟩
    · obtain ⟨id, hid⟩ := exists_firstRepeat hedges
      exact .inr ⟨id, .inr ⟨hnodes, hid⟩⟩
  · obtain ⟨id, hid⟩ := exists_firstRepeat hnodes
    exact .inr ⟨id, .inl hid⟩

/-! ## Diagrams -/

namespace Diagram

/-- If no two nodes have the same id, the first edge that repeats an id is the fault. -/
theorem ofElements_eq_error_of_edge {before : List Edge} {e : Edge}
    (hnodes : (nodes.map (·.id)).Nodup) (hbefore : (before.map (·.id)).Nodup)
    (he : e.id ∈ before.map (·.id)) (after : List Edge) :
    ofElements nodes (before ++ e :: after) = .error (.duplicateId e.id) := by
  obtain ⟨d, hfirst, hedges⟩ := bind_eq_ok_iff.1 (ofElements_eq_ok ⟨hnodes, hbefore⟩)
  have htaken : (edge? ⟨nodes, before⟩ e.id).isSome = true := by
    obtain ⟨f, hf, hid⟩ := List.mem_map.1 he
    rw [edge?, List.find?_isSome]
    exact ⟨f, hf, beq_iff_eq.2 hid⟩
  have hinsert : insertEdge ⟨nodes, before⟩ e = .error (.duplicateId e.id) := by
    rw [insertEdge, htaken]
    rfl
  rw [ofElements, hfirst, ok_bind, List.foldlM_append, hedges, ok_bind, List.foldlM_cons, hinsert]
  rfl

/-- The first repeated id is the fault, that of a node before that of an edge. -/
theorem ofElements_of_firstRepeatedId (h : FirstRepeatedId nodes edges id) :
    ofElements nodes edges = .error (.duplicateId id) := by
  rcases h with hnode | ⟨hnodes, hedge⟩
  · obtain ⟨before, n, after, rfl, hbefore, rfl, hn⟩ := hnode.exists_element
    exact ofElements_eq_error hbefore hn after edges
  · obtain ⟨before, e, after, rfl, hbefore, rfl, he⟩ := hedge.exists_element
    exact ofElements_eq_error_of_edge hnodes hbefore he after

/-- The second node with the id `b` comes before the second one with the id `a`. -/
example :
    ofElements
        [⟨"a", .entity, "", none⟩, ⟨"b", .entity, "", none⟩, ⟨"b", .relation, "", none⟩,
          ⟨"a", .relation, "", none⟩]
        [⟨"x", .transition, "a", "b", none⟩, ⟨"x", .transition, "a", "b", none⟩] =
      .error (.duplicateId "b") := by
  decide

end Diagram

/-! ## Stores -/

namespace Store

variable {s : Store} {change next : Change} {outcome : Except EditFault Diagram}
  {after : Diagram → Except EditFault Diagram}

/-- A change of a store leads to a store of a given diagram with exact indices, or it fails with a
given fault. What it leaves behind if it fails is of no concern. -/
def Yields (s : Store) (change : Change) : Except EditFault Diagram → Prop
  | .ok d => ∃ s', change.run s = .ok () s' ∧ s'.toDiagram = d ∧ s'.Indexed
  | .error f => ∃ s', change.run s = .error f s'

theorem Mirrors.yields (h : s.Mirrors change outcome) : s.Yields change outcome := by
  cases outcome with
  | ok d => exact h
  | error f => exact ⟨s, h⟩

/-- A change that goes on after another one yields what goes on after the outcome of the other. -/
theorem Yields.bind (h : s.Yields change outcome)
    (hnext : ∀ s' : Store, s'.Indexed → s'.Yields next (after s'.toDiagram)) :
    s.Yields (do change; next) (outcome >>= after) := by
  cases outcome with
  | error f =>
    obtain ⟨s', hrun⟩ := h
    refine ⟨s', ?_⟩
    rw [EStateM.run_bind, hrun]
  | ok d =>
    obtain ⟨s', hrun, rfl, hs'⟩ := h
    have hrest := hnext s' hs'
    unfold Yields at hrest ⊢
    rw [ok_bind, EStateM.run_bind, hrun]
    exact hrest

/-- A run of changes, each of which does what an edit of the diagram does, yields what the run of the
edits gives. -/
theorem Indexed.yields_forM {α : Type} {f : α → Change}
    {g : Diagram → α → Except EditFault Diagram}
    (hstep : ∀ (s : Store) (x : α), s.Indexed → s.Mirrors (f x) (g s.toDiagram x)) (h : s.Indexed)
    (xs : List α) : s.Yields (xs.forM f) (xs.foldlM g s.toDiagram) := by
  induction xs generalizing s with
  | nil => exact ⟨s, rfl, rfl, h⟩
  | cons x xs ih =>
    rw [List.foldlM_cons]
    exact (hstep s x h).yields.bind fun s' hs' => ih hs'

/-- Inserting listed elements into the empty store yields what it gives in the empty diagram. -/
theorem yields_insertElements (nodes : List Node) (edges : List Edge) :
    empty.Yields (insertElements nodes edges) (Diagram.ofElements nodes edges) :=
  (indexed_empty.yields_forM (fun _ n hs => hs.mirrors_insertNode n) nodes).bind
    fun _ hs => hs.yields_forM (fun _ e hs => hs.mirrors_insertEdge e) edges

theorem ofElements_eq_ok {d : Diagram} (h : Diagram.ofElements nodes edges = .ok d) :
    ∃ s, ofElements nodes edges = .ok s ∧ s.toDiagram = d ∧ s.Indexed := by
  have hyields := yields_insertElements nodes edges
  rw [h] at hyields
  obtain ⟨s, hrun, hd, hs⟩ := hyields
  exact ⟨s, by rw [ofElements, hrun], hd, hs⟩

theorem ofElements_eq_error (h : Diagram.ofElements nodes edges = .error fault) :
    ofElements nodes edges = .error fault := by
  have hyields := yields_insertElements nodes edges
  rw [h] at hyields
  obtain ⟨s, hrun⟩ := hyields
  rw [ofElements, hrun]

/-- Listed elements make up a store exactly if no two nodes have the same id and no two edges have;
a node and an edge may, and the ends of an edge need not be nodes. The store has just these elements
in their order, and exact indices. Otherwise the fault is the first repeated id, that of a node before
that of an edge. The elements of a snapshot are put together with the same outcome. -/
theorem ofElements_outcome (nodes : List Node) (edges : List Edge) :
    ((∃ s, ofElements nodes edges = .ok s) ↔
      (nodes.map (·.id)).Nodup ∧ (edges.map (·.id)).Nodup) ∧
    (∀ s, ofElements nodes edges = .ok s → s.nodes = nodes ∧ s.edges = edges ∧ s.Indexed) ∧
    (∀ fault, ofElements nodes edges = .error fault ↔
      ∃ id, fault = .duplicateId id ∧ FirstRepeatedId nodes edges id) ∧
    ∀ draft : Snapshot.DiagramDraft, draft.nodes = some nodes → draft.edges.getD [] = edges →
      draft.diagram = ((ofElements nodes edges).map (·.toDiagram)).mapError
        fun fault => .mismatch (.edit fault) := by
  have hdraft : ∀ {outcome : Except EditFault Diagram}, Diagram.ofElements nodes edges = outcome →
      ∀ draft : Snapshot.DiagramDraft, draft.nodes = some nodes → draft.edges.getD [] = edges →
        draft.diagram = outcome.mapError fun fault => .mismatch (.edit fault) := by
    rintro outcome houtcome draft hnodes hedges
    rw [Snapshot.DiagramDraft.diagram, hnodes, hedges, Snapshot.required, ok_bind, houtcome]
    cases outcome <;> rfl
  rcases distinctIds_or_firstRepeatedId nodes edges with hids | ⟨id, hid⟩
  · have hdiagram := Diagram.ofElements_eq_ok hids
    obtain ⟨s, hs, hd, hindexed⟩ := ofElements_eq_ok hdiagram
    rw [hs]
    refine ⟨⟨fun _ => hids, fun _ => ⟨s, rfl⟩⟩, ?_, fun fault => ⟨nofun, ?_⟩, ?_⟩
    · rintro _ ⟨⟩
      exact ⟨congrArg Diagram.nodes hd, congrArg Diagram.edges hd, hindexed⟩
    · rintro ⟨id, -, hid⟩
      cases hdiagram.symm.trans (Diagram.ofElements_of_firstRepeatedId hid)
    · rw [Except.map, hd]
      exact hdraft hdiagram
  · have hdiagram := Diagram.ofElements_of_firstRepeatedId hid
    rw [ofElements_eq_error hdiagram]
    refine ⟨⟨nofun, fun hids => ?_⟩, nofun, fun fault => ⟨?_, ?_⟩, hdraft hdiagram⟩
    · cases hdiagram.symm.trans (Diagram.ofElements_eq_ok hids)
    · rintro ⟨⟩
      exact ⟨id, rfl, hid⟩
    · rintro ⟨id', rfl, hid'⟩
      cases hdiagram.symm.trans (Diagram.ofElements_of_firstRepeatedId hid')
      rfl

end Store

end EntityRelationship
