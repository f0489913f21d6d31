import EntityRelationship.Diagram.Fault
import EntityRelationship.Proofs.Diagram.Trimming
import EntityRelationship.Proofs.Snapshot.RoundTrip

/-!
# What a removal takes away

Removing an id takes the one node away that has it, with the edges that touch it, and an edge only
if no node has the id. Everything else stays where it was, relative to the rest. The edges that stay
find the nodes at their ends, so references that were complete are complete afterwards, and what was
inserted without touching anything is removed without a trace.

All this is said of the lists of a diagram first. It carries over to stores because their indices
are exact: a change of the store does what the edit of the diagram does, and stores of the same
diagram answer alike.
-/

namespace EntityRelationship

open Outcome

/-! ## Diagrams -/

namespace Diagram

variable {d d' : Diagram} {n : Node} {e : Edge} {id label : String}

/-- Without the elements of one key a list without repeated keys is the list less one element. -/
theorem filter_key_ne {α : Type} {key : α → String} {before after : List α} {x : α}
    (h : ((before ++ x :: after).map key).Nodup) :
    (before ++ x :: after).filter (key · != key x) = before ++ after := by
  rw [List.map_append, List.map_cons, List.nodup_middle, List.nodup_cons, ← List.map_append] at h
  have hother : ∀ y ∈ before ++ after, (key y != key x) = true := by
    intro y hy
    rw [bne_iff_ne]
    exact fun heq => h.1 (heq ▸ List.mem_map_of_mem hy)
  rw [List.filter_append, List.filter_cons_of_neg (by simp), ← List.filter_append,
    List.filter_eq_self.2 hother]

/-- Removing a node takes this node and the edges that touch it away. -/
theorem exists_remove_node (hd : d.DistinctIds) (hn : n ∈ d.nodes) :
    ∃ before after, d.nodes = before ++ n :: after ∧
      d.remove n.id = .ok ⟨before ++ after, d.edges.filter (!·.touches n.id)⟩ := by
  obtain ⟨before, after, hsplit⟩ := List.append_of_mem hn
  refine ⟨before, after, hsplit, ?_⟩
  have hkeep : d.nodes.filter (·.id != n.id) = before ++ after := by
    have hnodup := hd.1
    rw [hsplit] at hnodup ⊢
    exact filter_key_ne hnodup
  rw [remove, if_pos (hasNode_iff.2 ⟨n, hn, rfl⟩), hkeep]

/-- Removing an edge takes only this edge away. -/
theorem exists_remove_edge (hd : d.DistinctIds) (he : e ∈ d.edges) (hid : d.hasNode e.id = false) :
    ∃ before after, d.edges = before ++ e :: after ∧
      d.remove e.id = .ok ⟨d.nodes, before ++ after⟩ := by
  obtain ⟨before, after, hsplit⟩ := List.append_of_mem he
  refine ⟨before, after, hsplit, ?_⟩
  have hkeep : d.edges.filter (·.id != e.id) = before ++ after := by
    have hnodup := hd.2
    rw [hsplit] at hnodup ⊢
    exact filter_key_ne hnodup
  have hedge : (d.edge? e.id).isSome = true := by
    rw [edge?, List.find?_isSome]
    exact ⟨e, he, beq_self_eq_true _⟩
  rw [remove, if_neg (by simp [hid]), if_pos hedge, hkeep]

/-- An id that no element has is not removed. -/
theorem remove_unknown (hnode : d.hasNode id = false) (hedge : ∀ e ∈ d.edges, e.id ≠ id) :
    d.remove id = .error (.unknownElement id) := by
  have hnone : d.edge? id = none := by
    rw [edge?, List.find?_eq_none]
    exact fun e he => by simpa using hedge e he
  rw [remove, if_neg (by simp [hnode]), hnone]
  rfl

/-! ### Complete references -/

/-- A diagram with more nodes, or fewer edges, is closed as well. -/
theorem Closed.mono (h : d.Closed) (hnodes : d.nodes.map (·.id) ⊆ d'.nodes.map (·.id))
    (hedges : ∀ e ∈ d'.edges, ∃ f ∈ d.edges, f.source = e.source ∧ f.target = e.target) :
    d'.Closed := by
  have hnode : ∀ id, d.hasNode id = true → d'.hasNode id = true := by
    intro id hid
    obtain ⟨n, hn, rfl⟩ := hasNode_iff.1 hid
    obtain ⟨m, hm, hmid⟩ := List.mem_map.1 (hnodes (List.mem_map_of_mem hn))
    exact hasNode_iff.2 ⟨m, hm, hmid⟩
  intro e he
  obtain ⟨f, hf, hsource, htarget⟩ := hedges e he
  rw [← hsource, ← htarget]
  exact ⟨hnode _ (h f hf).1, hnode _ (h f hf).2⟩

/-- No edge that stays leads to a node that is removed. -/
theorem Closed.remove (h : d.Closed) (hrun : d.remove id = .ok d') : d'.Closed := by
  by_cases hnode : d.hasNode id = true
  · obtain ⟨n, -, rfl⟩ := hasNode_iff.1 hnode
    intro e he
    obtain ⟨hmem, hsource, htarget⟩ := (mem_edges_of_remove hnode hrun).1 he
    rw [hasNode, hasNode, node?_of_remove hnode hrun hsource, node?_of_remove hnode hrun htarget]
    exact h e hmem
  · rw [Diagram.remove, if_neg hnode] at hrun
    split at hrun <;> cases hrun
    exact h.mono (List.Subset.refl _) fun e he => ⟨e, List.mem_of_mem_filter he, rfl, rfl⟩

theorem Closed.insertNode (h : d.Closed) (hrun : d.insertNode n = .ok d') : d'.Closed := by
  unfold Diagram.insertNode at hrun
  split at hrun <;> cases hrun
  refine h.mono ?_ fun e he => ⟨e, he, rfl, rfl⟩
  rw [List.map_append]
  exact List.subset_append_left _ _

theorem Closed.rename (h : d.Closed) (hrun : d.rename id label = .ok d') : d'.Closed := by
  unfold Diagram.rename at hrun
  split at hrun
  · cases hrun
    refine h.mono (fun x hx => ?_) fun e he => ⟨e, he, rfl, rfl⟩
    obtain ⟨n, hn, rfl⟩ := List.mem_map.1 hx
    refine List.mem_map.2 ⟨_, List.mem_map_of_mem hn, ?_⟩
    split <;> rfl
  · split at hrun <;> cases hrun
    refine h.mono (List.Subset.refl _) fun e he => ?_
    obtain ⟨f, hf, rfl⟩ := List.mem_map.1 he
    refine ⟨f, hf, ?_⟩
    split <;> exact ⟨rfl, rfl⟩

/-- Only a new edge can lead to something that is no node. -/
theorem Closed.tryEdit {a : Edit} (h : d.Closed) (ha : ∀ e, a ≠ .insertEdge e) :
    (d.tryEdit a).Closed := by
  unfold Diagram.tryEdit
  cases hedit : d.edit a with
  | error fault => exact h
  | ok d' =>
    cases a with
    | insertNode n => exact h.insertNode hedit
    | insertEdge e => exact absurd rfl (ha e)
    | remove id => exact h.remove hedit
    | rename id label => exact h.rename hedit

/-! ### Insertions undone -/

/-- A new node that no edge touches is removed without a trace. -/
theorem insertNode_remove (hnew : ∀ m ∈ d.nodes, m.id ≠ n.id)
    (hedges : ∀ e ∈ d.edges, e.source ≠ n.id ∧ e.target ≠ n.id) :
    ∃ d', d.insertNode n = .ok d' ∧ d'.remove n.id = .ok d := by
  have hnone : ¬ d.hasNode n.id = true := by
    rw [hasNode_iff]
    rintro ⟨m, hm, hid⟩
    exact hnew m hm hid
  refine ⟨_, if_neg hnone, ?_⟩
  have hnodes : (d.nodes ++ [n]).filter (·.id != n.id) = d.nodes := by
    rw [List.filter_append, List.filter_eq_self.2 (by simpa using hnew)]
    simp
  have htouch : d.edges.filter (!·.touches n.id) = d.edges := by
    rw [List.filter_eq_self]
    intro e he
    simp [Edge.touches, hedges e he]
  rw [remove, if_pos (hasNode_iff.2 ⟨n, by simp, rfl⟩)]
  exact congrArg Except.ok (congrArg₂ Diagram.mk hnodes htouch)

/-- A new edge is removed without a trace, if no node has its id. -/
theorem insertEdge_remove (hnew : ∀ f ∈ d.edges, f.id ≠ e.id)
    (hnodes : ∀ n ∈ d.nodes, n.id ≠ e.id) :
    ∃ d', d.insertEdge e = .ok d' ∧ d'.remove e.id = .ok d := by
  have hnone : ¬ (d.edge? e.id).isSome = true := by
    rw [edge?, List.find?_isSome]
    rintro ⟨f, hf, hid⟩
    exact hnew f hf (beq_iff_eq.1 hid)
  refine ⟨_, if_neg hnone, ?_⟩
  have hedges : (d.edges ++ [e]).filter (·.id != e.id) = d.edges := by
    rw [List.filter_append, List.filter_eq_self.2 (by simpa using hnew)]
    simp
  have hnode : ¬ Diagram.hasNode { d with edges := d.edges ++ [e] } e.id = true := by
    rw [hasNode_iff]
    rintro ⟨n, hn, hid⟩
    exact hnodes n hn hid
  have hedge : (Diagram.edge? { d with edges := d.edges ++ [e] } e.id).isSome = true := by
    rw [edge?, List.find?_isSome]
    exact ⟨e, by simp, beq_self_eq_true _⟩
  rw [remove, if_neg hnode, if_pos hedge]
  exact congrArg Except.ok (congrArg (Diagram.mk d.nodes) hedges)

end Diagram

/-! ## Stores -/

namespace Store

variable {s : Store} {n : Node} {e : Edge}

/-- The stores that there are: the empty one, those of documents, and what edits make of these,
carried out or refused. -/
inductive Reachable : Store → Prop
  | empty : Reachable empty
  | document {text : String} {d : Diagram} (h : Document.load text = .ok d) : Reachable (ofDiagram d)
  | edit {s : Store} (h : Reachable s) (a : Edit) : Reachable (s.afterEdit a)

theorem Reachable.indexed (h : s.Reachable) : s.Indexed := by
  induction h with
  | empty => exact indexed_empty
  | document hload => exact (indexed_ofDiagram (Document.distinctIds_of_load hload)).1
  | edit _ a ih => exact (ih.afterEdit a).1

theorem Reachable.afterSession (h : s.Reachable) (edits : List Edit) :
    (s.afterSession edits).Reachable := by
  induction edits generalizing s with
  | nil => exact h
  | cons a edits ih => exact ih (h.edit a)

/-- A removal of the store takes away what the removal of its diagram does. -/
theorem Indexed.exists_remove (h : s.Indexed) {id : String} {d : Diagram}
    (hd : s.toDiagram.remove id = .ok d) :
    ∃ s', (remove id).run s = .ok () s' ∧ s'.toDiagram = d ∧ s'.Indexed := by
  have hmirrors := h.mirrors_remove id
  rw [hd] at hmirrors
  exact hmirrors

/-- A store with exact indices answers like one that is made anew. -/
theorem Indexed.alike_ofDiagram (h : s.Indexed) : s.Alike (ofDiagram s.toDiagram) := by
  obtain ⟨hindexed, hd⟩ := indexed_ofDiagram h.distinctIds
  exact h.alike hindexed hd.symm

/-- If a removal undoes an insertion in the diagram, it does in the store. -/
theorem Indexed.alike_of_undone (h : s.Indexed) {a : Edit} {id : String} {d : Diagram}
    (hd : s.toDiagram.edit a = .ok d) (hback : d.remove id = .ok s.toDiagram) :
    ∃ s₁ s₂, (edit a).run s = .ok () s₁ ∧ (remove id).run s₁ = .ok () s₂ ∧ s₂.Alike s := by
  have hmirrors := h.mirrors_edit a
  rw [hd] at hmirrors
  obtain ⟨s₁, hrun, rfl, hs₁⟩ := hmirrors
  obtain ⟨s₂, hrun', hsame, hs₂⟩ := hs₁.exists_remove hback
  exact ⟨s₁, s₂, hrun, hrun', hs₂.alike h hsame⟩

/-- Removing the id of a node takes this node and the edges that touch it away, even if an edge has
the same id. Removing any other id takes away the edge that has it, or is refused. Everything else
stays, in its order, and is found as in a store that is made of it anew. So references that are
complete stay so unless an edge is inserted, and a removal undoes the insertion of a node that no edge
touches and of an edge whose id no node has. -/
theorem Reachable.exact_removal (h : s.Reachable) :
    (∀ n ∈ s.nodes, ∃ before after s', s.nodes = before ++ n :: after ∧
      (remove n.id).run s = .ok () s' ∧ s'.nodes = before ++ after ∧
      s'.edges = s.edges.filter (fun e => e.source ≠ n.id ∧ e.target ≠ n.id) ∧
      s'.Alike (ofDiagram s'.toDiagram)) ∧
    (∀ e ∈ s.edges, (∀ n ∈ s.nodes, n.id ≠ e.id) → ∃ before after s',
      s.edges = before ++ e :: after ∧ (remove e.id).run s = .ok () s' ∧
      s'.nodes = s.nodes ∧ s'.edges = before ++ after ∧ s'.Alike (ofDiagram s'.toDiagram)) ∧
    (∀ id, (∀ n ∈ s.nodes, n.id ≠ id) → (∀ e ∈ s.edges, e.id ≠ id) →
      (remove id).run s = .error (.unknownElement id) s) ∧
    (∀ a, (∀ e, a ≠ .insertEdge e) → s.checkReferences = .ok () →
      (s.afterEdit a).checkReferences = .ok ()) ∧
    (∀ n, (∀ m ∈ s.nodes, m.id ≠ n.id) →
      (∀ e ∈ s.edges, e.source ≠ n.id ∧ e.target ≠ n.id) →
      ∃ s₁ s₂, (insertNode n).run s = .ok () s₁ ∧ (remove n.id).run s₁ = .ok () s₂ ∧
        s₂.Alike s) ∧
    ∀ e, (∀ f ∈ s.edges, f.id ≠ e.id) → (∀ n ∈ s.nodes, n.id ≠ e.id) →
      ∃ s₁ s₂, (insertEdge e).run s = .ok () s₁ ∧ (remove e.id).run s₁ = .ok () s₂ ∧
        s₂.Alike s := by
  have hs := h.indexed
  have hnode : ∀ {id}, (∀ n ∈ s.nodes, n.id ≠ id) → s.hasNode id = false := by
    intro id hid
    rw [Bool.eq_false_iff, ne_eq, Diagram.hasNode_iff]
    rintro ⟨n, hn, heq⟩
    exact hid n hn heq
  refine ⟨fun n hn => ?_, fun e he hid => ?_, fun id hid hedge => ?_, fun a ha href => ?_,
    fun n hnew hedges => ?_, fun e hnew hnodes => ?_⟩
  · obtain ⟨before, after, hsplit, hremove⟩ := Diagram.exists_remove_node hs.distinctIds hn
    obtain ⟨s', hrun, hd, hs'⟩ := hs.exists_remove hremove
    have htouch : s.edges.filter (!·.touches n.id) =
        s.edges.filter fun e => e.source ≠ n.id ∧ e.target ≠ n.id := by
      apply List.filter_congr
      intro e _
      rw [Bool.eq_iff_iff]
      simp [Edge.touches]
    exact ⟨before, after, s', hsplit, hrun, by rw [hd], by rw [hd, htouch], hs'.alike_ofDiagram⟩
  · obtain ⟨before, after, hsplit, hremove⟩ :=
      Diagram.exists_remove_edge hs.distinctIds he (hnode hid)
    obtain ⟨s', hrun, hd, hs'⟩ := hs.exists_remove hremove
    exact ⟨before, after, s', hsplit, hrun, by rw [hd], by rw [hd], hs'.alike_ofDiagram⟩
  · have hmirrors := hs.mirrors_remove id
    rw [Diagram.remove_unknown (hnode hid) hedge] at hmirrors
    exact hmirrors
  · rw [Diagram.checkReferences_eq_ok_iff] at href ⊢
    rw [(hs.afterEdit a).2]
    exact href.tryEdit ha
  · obtain ⟨d, hinsert, hback⟩ := Diagram.insertNode_remove hnew hedges
    exact hs.alike_of_undone (a := .insertNode n) hinsert hback
  · obtain ⟨d, hinsert, hback⟩ := Diagram.insertEdge_remove hnew hnodes
    exact hs.alike_of_undone (a := .insertEdge e) hinsert hback

/-- A session that inserts a loop under the id of a node, and an edge to no node. -/
def sharingSession : List Edit :=
  [.insertEdge ⟨"a", .weighted, "b", "b", none⟩, .insertEdge ⟨"x", .transition, "a", "ghost", none⟩]

/-- The node is removed with its edges, and the edge with the same id stays. -/
theorem exact_removal_friends :
    ∃ s, s = (ofDiagram friends).afterSession sharingSession ∧ s.Reachable ∧
      (∃ s', (remove "a").run s = .ok () s' ∧ s'.nodes = [⟨"b", .entity, "B", none⟩] ∧
        s'.edges = [⟨"a", .weighted, "b", "b", none⟩]) ∧
      (remove "ghost").run s = .error (.unknownElement "ghost") s := by
  have hload :
      Document.load "erGraph\nentity a \"A\"\nentity b \"B\"\na --> b\n" = .ok friends := by
    decide +kernel
  have hreach : ((ofDiagram friends).afterSession sharingSession).Reachable :=
    (Reachable.document hload).afterSession sharingSession
  have hafter : ((ofDiagram friends).afterSession sharingSession).toDiagram =
      ⟨[⟨"a", .entity, "A", none⟩, ⟨"b", .entity, "B", none⟩],
        [⟨"edge-1", .transition, "a", "b", none⟩, ⟨"a", .weighted, "b", "b", none⟩,
          ⟨"x", .transition, "a", "ghost", none⟩]⟩ := by
    obtain ⟨hindexed, hd⟩ := indexed_ofDiagram (Document.distinctIds_of_load hload)
    rw [(hindexed.afterSession sharingSession).2, hd]
    decide
  refine ⟨_, rfl, hreach, ?_⟩
  generalize (ofDiagram friends).afterSession sharingSession = s at hreach hafter
  obtain ⟨hremove, -, hrefuse, -⟩ := hreach.exact_removal
  obtain ⟨before, after, s', hsplit, hrun, hnodes, hedges, -⟩ :=
    hremove ⟨"a", .entity, "A", none⟩ (by rw [hafter]; decide)
  -- the node with the id is the first one
  have hrest : before ++ after = [⟨"b", .entity, "B", none⟩] := by
    rw [hafter] at hsplit
    rcases before with _ | ⟨m, before⟩
    · exact (List.cons.inj hsplit).2.symm
    · have hsecond := (List.cons.inj hsplit).2
      rcases before with _ | ⟨m', before⟩ <;> simp at hsecond
  refine ⟨⟨s', hrun, hnodes.trans hrest, ?_⟩, hrefuse "ghost" ?_ ?_⟩
  · rw [hedges, hafter]
    decide
  · rw [hafter]
    decide
  · rw [hafter]
    decide

end Store

end EntityRelationship
