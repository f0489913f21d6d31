import EntityRelationship.Diagram.Edit
import EntityRelationship.Document
import EntityRelationship.Proofs.Outcome
import Mathlib.Data.List.Nodup

/-!
# Ids are distinct

What is proved about diagrams with distinct ids is proved about every diagram that there is. A
diagram is drawn edit by edit, or read from a script or a snapshot, and neither way leads to an id
that is used twice.
-/

namespace EntityRelationship

open Outcome

variable {d d' : Diagram} {n : Node} {e : Edge} {id label text : String}

namespace Diagram

/-! ## Edits -/

theorem distinctIds_empty : empty.DistinctIds :=
  ⟨List.nodup_nil, List.nodup_nil⟩

/-- A node is inserted only under an id that no other node has. -/
theorem DistinctIds.insertNode (hd : d.DistinctIds) (h : d.insertNode n = .ok d') :
    d'.DistinctIds := by
  unfold Diagram.insertNode at h
  split at h
  · cases h
  · next hnew =>
    cases h
    refine ⟨?_, hd.2⟩
    rw [List.map_append, List.map_singleton]
    refine hd.1.append (List.nodup_singleton _) fun id hmem hmem' => hnew ?_
    obtain ⟨m, hm, rfl⟩ := List.mem_map.1 hmem
    exact hasNode_iff.2 ⟨m, hm, List.mem_singleton.1 hmem'⟩

/-- An edge is inserted only under an id that no other edge has. -/
theorem DistinctIds.insertEdge (hd : d.DistinctIds) (h : d.insertEdge e = .ok d') :
    d'.DistinctIds := by
  unfold Diagram.insertEdge at h
  split at h
  · cases h
  · next hnew =>
    cases h
    refine ⟨hd.1, ?_⟩
    rw [List.map_append, List.map_singleton]
    refine hd.2.append (List.nodup_singleton _) fun id hmem hmem' => hnew ?_
    obtain ⟨f, hf, rfl⟩ := List.mem_map.1 hmem
    rw [edge?, List.find?_isSome]
    exact ⟨f, hf, beq_iff_eq.2 (List.mem_singleton.1 hmem')⟩

theorem DistinctIds.remove (hd : d.DistinctIds) (h : d.remove id = .ok d') : d'.DistinctIds := by
  have hnodes (p : Node → Bool) : ((d.nodes.filter p).map (·.id)).Nodup :=
    hd.1.sublist (List.filter_sublist.map _)
  have hedges (p : Edge → Bool) : ((d.edges.filter p).map (·.id)).Nodup :=
    hd.2.sublist (List.filter_sublist.map _)
  unfold Diagram.remove at h
  split at h
  · cases h
    exact ⟨hnodes _, hedges _⟩
  · split at h <;> cases h
    exact ⟨hd.1, hedges _⟩

/-- A new label is not a new id. -/
theorem DistinctIds.rename (hd : d.DistinctIds) (h : d.rename id label = .ok d') :
    d'.DistinctIds := by
  unfold Diagram.rename at h
  split at h
  · cases h
    refine ⟨?_, hd.2⟩
    have hids : (d.nodes.map fun n => if n.id = id then { n with label } else n).map (·.id) =
        d.nodes.map (·.id) := by
      rw [List.map_map]
      refine List.map_congr_left fun n _ => ?_
      rw [Function.comp_apply]
      split <;> rfl
    rw [hids]
    exact hd.1
  · split at h <;> cases h
    refine ⟨hd.1, ?_⟩
    have hids : (d.edges.map fun e => if e.id = id then { e with label := some label } else e).map
        (·.id) = d.edges.map (·.id) := by
      rw [List.map_map]
      refine List.map_congr_left fun e _ => ?_
      rw [Function.comp_apply]
      split <;> rfl
    rw [hids]
    exact hd.2

/-- An edit keeps ids distinct. -/
theorem DistinctIds.edit {a : Edit} (hd : d.DistinctIds) (h : d.edit a = .ok d') :
    d'.DistinctIds := by
  cases a with
  | insertNode n => exact hd.insertNode h
  | insertEdge e => exact hd.insertEdge h
  | remove id => exact hd.remove h
  | rename id label => exact hd.rename h

theorem DistinctIds.tryEdit (hd : d.DistinctIds) (a : Edit) : (d.tryEdit a).DistinctIds := by
  unfold Diagram.tryEdit
  split
  · next h => exact hd.edit h
  · exact hd

/-- A session of edits keeps ids distinct. -/
theorem DistinctIds.afterSession (hd : d.DistinctIds) (edits : List Edit) :
    (d.afterSession edits).DistinctIds := by
  induction edits generalizing d with
  | nil => exact hd
  | cons a edits ih => exact ih (hd.tryEdit a)

/-! ## Readings -/

/-- A diagram of listed elements has distinct ids, whatever the lists. -/
theorem distinctIds_ofElements {nodes : List Node} {edges : List Edge}
    (h : ofElements nodes edges = .ok d) : d.DistinctIds := by
  obtain ⟨d₁, hnodes, hedges⟩ := bind_eq_ok_iff.1 h
  have hd₁ : d₁.DistinctIds :=
    foldlM_induction (fun _ _ _ _ hd hn => hd.insertNode hn) hnodes distinctIds_empty
  exact foldlM_induction (fun _ _ _ _ hd he => hd.insertEdge he) hedges hd₁

end Diagram

theorem Script.distinctIds_of_read (h : Script.read text = .ok d) : d.DistinctIds := by
  obtain ⟨body, -, h⟩ := bind_eq_ok_iff.1 h
  obtain ⟨ls, -, h⟩ := bind_eq_ok_iff.1 h
  split at h
  · next hd =>
    cases h
    exact Diagram.distinctIds_ofElements hd
  · cases h

theorem Snapshot.distinctIds_of_read (h : Snapshot.read text = .ok d) : d.DistinctIds := by
  unfold Snapshot.read readDiagram at h
  split at h
  · obtain ⟨⟨draft, rest⟩, -, h⟩ := bind_eq_ok_iff.1 h
    obtain ⟨d₁, hd₁, h⟩ := bind_eq_ok_iff.1 h
    obtain ⟨nodes, -, hd₁⟩ := bind_eq_ok_iff.1 hd₁
    split at hd₁
    · next hd =>
      cases hd₁
      split at h <;> cases h
      exact Diagram.distinctIds_ofElements hd
    · cases hd₁
  · cases h

/-- The diagram of a document has distinct ids. -/
theorem Document.distinctIds_of_load (h : Document.load text = .ok d) : d.DistinctIds := by
  unfold Document.load at h
  split at h
  · exact Script.distinctIds_of_read (mapError_eq_ok_iff.1 h)
  · exact Snapshot.distinctIds_of_read (mapError_eq_ok_iff.1 h)
  · cases h

end EntityRelationship
