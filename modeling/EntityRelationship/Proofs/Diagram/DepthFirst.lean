import EntityRelationship.Proofs.Diagram.Members
import EntityRelationship.Proofs.Outcome

/-!
# Leaves in depth-first order

Going through the members of an attribute depth first, one enters an attribute, goes through its
members one after the other, each with everything below it, and passes what was entered before. So
members that are shared are entered once, and a ring of members is left where it closes. This is
said here by recursion on the members, in which what was entered is handed on from one member to the
next. The walk of the diagram has one list of what is to come instead, and enters the same attributes
in the same order.

The columns of an attribute are those of the attributes without members among them. The first one
whose label gives no name and type is the fault.
-/

namespace EntityRelationship

open Outcome

/-! ## Depth-first order -/

/-- The ids that are newly entered, in their order, by going depth first through a list of ids. An id
that was entered before is passed. Any other one is entered, and what is next to it is gone through
before the rest of the list. -/
inductive DepthFirst (next : String → List String) :
    List String → List String → List String → Prop
  | done {entered : List String} : DepthFirst next entered [] []
  | pass {entered ids order : List String} {id : String} (hid : id ∈ entered)
      (hrest : DepthFirst next entered ids order) : DepthFirst next entered (id :: ids) order
  | enter {entered ids below after : List String} {id : String} (hid : id ∉ entered)
      (hbelow : DepthFirst next (entered ++ [id]) (next id) below)
      (hrest : DepthFirst next (entered ++ id :: below) ids after) :
      DepthFirst next entered (id :: ids) (id :: (below ++ after))

namespace DepthFirst

variable {next : String → List String} {entered ids ids' order order' : List String}

/-- There is one order at most. -/
theorem unique (h : DepthFirst next entered ids order) (h' : DepthFirst next entered ids order') :
    order = order' := by
  induction h generalizing order' with
  | done =>
    cases h'
    rfl
  | pass hid _ ih =>
    cases h' with
    | pass _ hrest' => exact ih hrest'
    | enter hid' _ _ => exact absurd hid hid'
  | enter hid _ _ ihbelow ihrest =>
    cases h' with
    | pass hid' _ => exact absurd hid' hid
    | enter _ hbelow' hrest' =>
      obtain rfl := ihbelow hbelow'
      rw [ihrest hrest']

/-- Nothing is entered twice. -/
theorem nodup (h : DepthFirst next entered ids order) :
    order.Nodup ∧ ∀ id ∈ order, id ∉ entered := by
  induction h with
  | done => exact ⟨List.nodup_nil, fun _ hid => absurd hid List.not_mem_nil⟩
  | pass _ _ ih => exact ih
  | @enter entered ids below after id hid _ _ ihbelow ihrest =>
    obtain ⟨hbelow, hbelowNew⟩ := ihbelow
    obtain ⟨hafter, hafterNew⟩ := ihrest
    have hsplit : ∀ id' ∈ below ++ after, id' ≠ id ∧ id' ∉ entered := by
      intro id' hmem
      rcases List.mem_append.1 hmem with hmem | hmem
      · have hnew := hbelowNew id' hmem
        rw [List.mem_append, List.mem_singleton, not_or] at hnew
        exact ⟨hnew.2, hnew.1⟩
      · have hnew := hafterNew id' hmem
        rw [List.mem_append, List.mem_cons, not_or, not_or] at hnew
        exact ⟨hnew.2.1, hnew.1⟩
    constructor
    · rw [List.nodup_cons]
      refine ⟨fun hmem => (hsplit id hmem).1 rfl, hbelow.append hafter fun id' hmem hmem' => ?_⟩
      exact hafterNew id' hmem' (List.mem_append_right _ (List.mem_cons_of_mem _ hmem))
    · intro id' hmem
      rcases List.mem_cons.1 hmem with rfl | hmem
      · exact hid
      · exact (hsplit id' hmem).2

/-- Going through two lists in a row is going through the one and then through the other. -/
theorem exists_append (h : DepthFirst next entered (ids ++ ids') order) :
    ∃ first second, order = first ++ second ∧ DepthFirst next entered ids first ∧
      DepthFirst next (entered ++ first) ids' second := by
  induction ids generalizing entered order with
  | nil => exact ⟨[], order, rfl, .done, by rwa [List.append_nil]⟩
  | cons id ids ih =>
    rw [List.cons_append] at h
    cases h with
    | pass hid hrest =>
      obtain ⟨first, second, rfl, hfirst, hsecond⟩ := ih hrest
      exact ⟨first, second, rfl, .pass hid hfirst, hsecond⟩
    | @enter _ _ below after _ hid hbelow hrest =>
      obtain ⟨first, second, rfl, hfirst, hsecond⟩ := ih hrest
      refine ⟨id :: (below ++ first), second, by simp, .enter hid hbelow hfirst, ?_⟩
      simpa using hsecond

end DepthFirst

namespace Diagram

variable {d : Diagram} {a n : Node}

/-- A walk goes depth first through its work list. What it visited before is what was entered. -/
theorem depthFirst_walkFrom {follow : String → Edge → Option String}
    {visited work entered : List String} (hentered : ∀ id, id ∈ entered ↔ id ∈ visited) :
    DepthFirst (fun id => (d.edgesTouching id).filterMap (follow id)) entered work
      (d.walkFrom follow visited work) := by
  induction visited, work using walkFrom.induct d follow generalizing entered with
  | case1 visited =>
    rw [walkFrom]
    exact .done
  | case2 visited id work hid ih =>
    rw [walkFrom, if_pos hid]
    exact .pass ((hentered id).2 hid) (ih hentered)
  | case3 visited id work hid ih =>
    rw [walkFrom, if_neg hid]
    have hmore : ∀ id', id' ∈ entered ++ [id] ↔ id' ∈ id :: visited := by
      intro id'
      rw [List.mem_append, List.mem_singleton, List.mem_cons, hentered, or_comm]
    -- the work list has what is next to the id in front, and goes on with the rest from there
    obtain ⟨below, after, hsplit, hbelow, hafter⟩ := (ih hmore).exists_append
    rw [hsplit]
    refine .enter (fun hmem => hid ((hentered id).1 hmem)) hbelow ?_
    rwa [List.append_assoc] at hafter

/-- The ids of the members of a composite attribute, in edge order. -/
def memberIds (d : Diagram) (id : String) : List String :=
  (d.members id).map (·.node.id)

/-- The walk through members goes depth first. -/
theorem depthFirst_memberWalk (d : Diagram) (id : String) :
    DepthFirst d.memberIds [] [id] (d.memberWalk id) := by
  have hnext : d.memberIds = fun id =>
      (d.edgesTouching id).filterMap fun e => (d.memberAlong? id e).map (·.node.id) := by
    funext id
    exact List.map_filterMap
  rw [hnext]
  exact depthFirst_walkFrom fun _ => Iff.rfl

/-! ## Leaves -/

/-- A label gives a name and a type, or the fault tells the attribute and its label. -/
theorem typedName_eq_error_iff {fault : SynthesisFault} :
    n.typedName = .error fault ↔
      (∀ column, n.typedName ≠ .ok column) ∧ fault = .malformedLabel n.id n.label := by
  have hfault : ∀ fault, n.typedName = .error fault → fault = .malformedLabel n.id n.label := by
    intro fault h
    unfold Node.typedName at h
    split at h
    · cases h
      rfl
    · dsimp only at h
      split at h <;> cases h
      rfl
  constructor
  · intro h
    refine ⟨fun column hok => ?_, hfault fault h⟩
    rw [h] at hok
    cases hok
  · rintro ⟨hmalformed, rfl⟩
    cases h : n.typedName with
    | ok column => exact absurd h (hmalformed column)
    | error fault => rw [hfault fault h]

/-- The ids of the leaves are those of the walk that have no members, in its order. -/
theorem map_id_leaves (ha : d.node? a.id = some a) :
    (d.leaves a).map (·.id) = (d.memberWalk a.id).filter fun id => (d.members id).isEmpty := by
  have hnode : ∀ id ∈ (d.memberWalk a.id).filter fun id => (d.members id).isEmpty,
      (d.node? id).map (·.id) = some id := by
    intro id hid
    have hreach : d.ReachesMember a.id id := mem_walk_iff.1 (List.mem_of_mem_filter hid)
    obtain ⟨n, hn⟩ := Option.isSome_iff_exists.1
      (hasNode_of_reachesMember (hasNode_iff.2 ⟨a, (mem_of_node? ha).1, rfl⟩) hreach)
    rw [hn, Option.map_some, (mem_of_node? hn).2]
  unfold leaves
  rw [List.map_filterMap, List.filterMap_congr hnode, List.filterMap_some]

/-- The columns of an attribute come from the attributes without members that are reached from it,
itself included, each once and in depth-first order with members in edge order. Where the label of
one of them gives no name and type, the fault is that of the first such one. -/
theorem leafColumns_depthFirst (ha : d.node? a.id = some a) :
    ∃ order leaves,
      (∀ ids, DepthFirst d.memberIds [] [a.id] ids ↔ ids = order) ∧
      order.Nodup ∧
      (∀ id, id ∈ order ↔ d.ReachesMember a.id id) ∧
      leaves.map (·.id) = order.filter (fun id => d.members id = []) ∧
      (∀ n ∈ leaves, d.node? n.id = some n) ∧
      (∀ columns, d.leafColumns a = .ok columns ↔
        List.Forall₂ (fun n column => n.typedName = .ok column) leaves columns) ∧
      ∀ fault, d.leafColumns a = .error fault ↔ ∃ before n after,
        leaves = before ++ n :: after ∧ (∀ m ∈ before, ∃ column, m.typedName = .ok column) ∧
        (∀ column, n.typedName ≠ .ok column) ∧ fault = .malformedLabel n.id n.label := by
  have horder := d.depthFirst_memberWalk a.id
  refine ⟨d.memberWalk a.id, d.leaves a, ?_, horder.nodup.1, fun _ => mem_walk_iff, ?_, ?_,
    fun _ => mapM_eq_ok_iff, fun fault => ?_⟩
  · intro ids
    refine ⟨fun h => h.unique horder, ?_⟩
    rintro rfl
    exact horder
  · rw [map_id_leaves ha]
    exact List.filter_congr fun id _ => by rw [Bool.eq_iff_iff, List.isEmpty_iff, decide_eq_true_iff]
  · intro n hn
    obtain ⟨id, -, hfound⟩ := List.mem_filterMap.1 hn
    rwa [(mem_of_node? hfound).2]
  · unfold leafColumns
    simp only [mapM_eq_error_iff, typedName_eq_error_iff]

/-- An address with a place and a contact. The town is a member of both, the contact has the address
as a member too, and neither the phone nor the mail has a type. -/
def addresses : Diagram where
  nodes := [
    ⟨"address", .attr .plain, "address", none⟩,
    ⟨"place", .attr .plain, "place", none⟩,
    ⟨"contact", .attr .plain, "contact", none⟩,
    ⟨"street", .attr .plain, "street:TEXT", none⟩,
    ⟨"town", .attr .plain, "town:TEXT", none⟩,
    ⟨"mail", .attr .plain, "mail", none⟩,
    ⟨"phone", .attr .plain, "phone:", none⟩]
  edges := [
    ⟨"edge-1", .transition, "address", "place", none⟩,
    ⟨"edge-2", .transition, "address", "contact", none⟩,
    ⟨"edge-3", .transition, "contact", "town", none⟩,
    ⟨"edge-4", .transition, "contact", "address", none⟩,
    ⟨"edge-5", .transition, "contact", "phone", none⟩,
    ⟨"edge-6", .transition, "contact", "mail", none⟩,
    ⟨"edge-7", .transition, "place", "street", none⟩,
    ⟨"edge-8", .transition, "place", "town", none⟩]

/-- In the address everything below the place comes before the contact, the town is not listed again
under it, and the phone, not the mail, is the fault. -/
theorem leafColumns_depthFirst_addresses :
    addresses.node? "address" = some ⟨"address", .attr .plain, "address", none⟩ ∧
      (∀ ids, DepthFirst addresses.memberIds [] ["address"] ids ↔
        ids = ["address", "place", "street", "town", "contact", "phone", "mail"]) ∧
      (∃ leaves : List Node, leaves.map (·.id) = ["street", "town", "phone", "mail"] ∧
        ∀ n ∈ leaves, addresses.node? n.id = some n) ∧
      addresses.leafColumns ⟨"address", .attr .plain, "address", none⟩ =
        .error (.malformedLabel "phone" "phone:") := by
  have ha : addresses.node? "address" = some ⟨"address", .attr .plain, "address", none⟩ := by
    decide
  obtain ⟨order, leaves, horder, -, -, hleaves, hnodes, -⟩ :=
    leafColumns_depthFirst (a := ⟨"address", .attr .plain, "address", none⟩) ha
  have hwalk : addresses.memberWalk "address" =
      ["address", "place", "street", "town", "contact", "phone", "mail"] := by decide +kernel
  obtain rfl := (horder _).1 (addresses.depthFirst_memberWalk "address")
  have hids : leaves.map (·.id) = ["street", "town", "phone", "mail"] := by
    rw [hleaves, hwalk]
    decide +kernel
  refine ⟨ha, ?_, ⟨leaves, hids, hnodes⟩, by decide +kernel⟩
  rw [← hwalk]
  exact horder

end Diagram

end EntityRelationship
