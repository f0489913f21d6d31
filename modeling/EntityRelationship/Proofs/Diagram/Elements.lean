import EntityRelationship.Proofs.Diagram.DistinctIds
import Mathlib.Data.List.Induction

/-!
# Diagrams of listed elements

Listed elements make up a diagram exactly if no id is repeated among the nodes and none among the
edges. The diagram then has just these elements in their order. Otherwise the first element that
repeats an id is the fault, and nodes come before edges.
-/

namespace EntityRelationship.Diagram

open Outcome

variable {d d' : Diagram} {nodes before after : List Node} {edges : List Edge} {n : Node}

/-! ## Inserting several elements -/

/-- Nodes with new ids are inserted in their order. -/
theorem foldlM_insertNode (h : ((d.nodes ++ nodes).map (·.id)).Nodup) :
    nodes.foldlM insertNode d = .ok { d with nodes := d.nodes ++ nodes } := by
  induction nodes generalizing d with
  | nil => simp [List.foldlM_nil, pure, Except.pure]
  | cons n nodes ih =>
    have hnew : d.hasNode n.id = false := by
      rw [Bool.eq_false_iff, Ne, hasNode_iff]
      rintro ⟨m, hm, hid⟩
      rw [List.map_append, List.map_cons] at h
      have hfront := (List.nodup_append.1 h).2.2 m.id (List.mem_map_of_mem hm) n.id
        List.mem_cons_self
      exact hfront hid
    have hinsert : d.insertNode n = .ok { d with nodes := d.nodes ++ [n] } := by
      rw [insertNode, hnew]
      rfl
    rw [List.foldlM_cons, hinsert, ok_bind, ih (by simpa using h)]
    simp

/-- Edges with new ids are inserted in their order. -/
theorem foldlM_insertEdge (h : ((d.edges ++ edges).map (·.id)).Nodup) :
    edges.foldlM insertEdge d = .ok { d with edges := d.edges ++ edges } := by
  induction edges generalizing d with
  | nil => simp [List.foldlM_nil, pure, Except.pure]
  | cons e edges ih =>
    have hnew : (d.edge? e.id).isSome = false := by
      rw [Bool.eq_false_iff, Ne, edge?, List.find?_isSome]
      rintro ⟨f, hf, hid⟩
      rw [List.map_append, List.map_cons] at h
      have hfront := (List.nodup_append.1 h).2.2 f.id (List.mem_map_of_mem hf) e.id
        List.mem_cons_self
      exact hfront (beq_iff_eq.1 hid)
    have hinsert : d.insertEdge e = .ok { d with edges := d.edges ++ [e] } := by
      rw [insertEdge, hnew]
      rfl
    rw [List.foldlM_cons, hinsert, ok_bind, ih (by simpa using h)]
    simp

/-! ## Diagrams -/

/-- A list that repeats an id has a first element that does. -/
theorem exists_first_repeat {α : Type} {key : α → String} {xs : List α}
    (h : ¬ (xs.map key).Nodup) :
    ∃ before x after, xs = before ++ x :: after ∧ (before.map key).Nodup ∧
      key x ∈ before.map key := by
  induction xs using List.reverseRecOn with
  | nil => exact absurd List.nodup_nil h
  | append_singleton xs y ih =>
    -- the last element is the first to repeat an id if there is no repeat before it
    by_cases hxs : (xs.map key).Nodup
    · refine ⟨xs, y, [], rfl, hxs, ?_⟩
      by_contra hy
      refine h ?_
      rw [List.map_append, List.map_singleton]
      exact hxs.append (List.nodup_singleton _) (List.disjoint_singleton.2 hy)
    · obtain ⟨before, x, after, rfl, hbefore, hx⟩ := ih hxs
      exact ⟨before, x, after ++ [y], by simp, hbefore, hx⟩

/-- The diagram of elements without repeated ids has these elements. -/
theorem ofElements_eq_ok (h : DistinctIds ⟨nodes, edges⟩) :
    ofElements nodes edges = .ok ⟨nodes, edges⟩ := by
  rw [ofElements, foldlM_insertNode (by simpa [empty] using h.1), ok_bind,
    foldlM_insertEdge (by simpa [empty] using h.2)]
  simp [empty]

/-- The first node that repeats an id is the fault. -/
theorem ofElements_eq_error (hbefore : (before.map (·.id)).Nodup) (hn : n.id ∈ before.map (·.id))
    (after : List Node) (edges : List Edge) :
    ofElements (before ++ n :: after) edges = .error (.duplicateId n.id) := by
  have htaken : (⟨before, []⟩ : Diagram).hasNode n.id = true :=
    hasNode_iff.2 (List.mem_map.1 hn)
  have hinsert : insertNode ⟨before, []⟩ n = .error (.duplicateId n.id) := by
    rw [insertNode, htaken]
    rfl
  have hfirst : before.foldlM insertNode empty = .ok ⟨before, []⟩ :=
    foldlM_insertNode (by simpa [empty] using hbefore)
  rw [ofElements, List.foldlM_append, hfirst, ok_bind, List.foldlM_cons, hinsert]
  rfl

/-- If no two edges have the same id, it is up to the nodes whether there is a diagram. -/
theorem ofElements_eq_ok_iff (hedges : (edges.map (·.id)).Nodup) :
    ofElements nodes edges = .ok d ↔ d = ⟨nodes, edges⟩ ∧ (nodes.map (·.id)).Nodup := by
  by_cases hnodes : (nodes.map (·.id)).Nodup
  · rw [ofElements_eq_ok ⟨hnodes, hedges⟩, Except.ok.injEq, eq_comm]
    exact (and_iff_left hnodes).symm
  · obtain ⟨before, n, after, rfl, hbefore, hn⟩ := exists_first_repeat hnodes
    rw [ofElements_eq_error hbefore hn after edges]
    simp only [reduceCtorEq, hnodes, and_false]

/-- A session of edits none of which is refused leads to the diagram of the last one. -/
theorem afterSession_of_foldlM {α : Type} {g : α → Edit} {xs : List α}
    (h : xs.foldlM (fun d x => d.edit (g x)) d = .ok d') : d.afterSession (xs.map g) = d' := by
  induction xs generalizing d with
  | nil => exact pure_eq_ok_iff.1 h
  | cons x xs ih =>
    rw [List.foldlM_cons, bind_eq_ok_iff] at h
    obtain ⟨d₁, hx, hxs⟩ := h
    have hfirst : d.tryEdit (g x) = d₁ := by
      rw [tryEdit, hx]
    rw [List.map_cons, afterSession, List.foldl_cons, hfirst]
    exact ih hxs

/-- A diagram with distinct ids is drawn by inserting its elements. -/
theorem afterSession_inserts (h : d.DistinctIds) :
    empty.afterSession (d.nodes.map .insertNode ++ d.edges.map .insertEdge) = d := by
  obtain ⟨d₁, hnodes, hedges⟩ := bind_eq_ok_iff.1 (ofElements_eq_ok h)
  have hfirst : empty.afterSession (d.nodes.map .insertNode) = d₁ := afterSession_of_foldlM hnodes
  rw [afterSession, List.foldl_append]
  show (empty.afterSession (d.nodes.map .insertNode)).afterSession _ = d
  rw [hfirst]
  exact afterSession_of_foldlM hedges

end EntityRelationship.Diagram
