import EntityRelationship.Proofs.Diagram.Lookup
import Mathlib.Data.Set.Finite.List
import Mathlib.Order.WellFounded

/-!
# Members of attributes

A composite attribute has members, and these may have members of their own. The attributes without
members that are reached so are its leaves. Nothing keeps an attribute from being a member of
itself along some way, and an attribute has no leaf at all only if it leads into such a ring.
-/

namespace EntityRelationship.Diagram

open Relation

variable {d : Diagram} {id id' id'' : String} {a n : Node} {x : Neighbor} {es es' : List Edge}

/-! ## Reaching members -/

/-- The second id is reached from the first one through members. -/
def ReachesMember (d : Diagram) : String → String → Prop :=
  ReflTransGen (d.Follows fun id e => (d.memberAlong? id e).map (·.node.id))

/-- The steps of a walk through members lead to the members. -/
theorem follows_member_iff :
    d.Follows (fun id e => (d.memberAlong? id e).map (·.node.id)) id id' ↔
      ∃ x ∈ d.members id, x.node.id = id' := by
  constructor
  · rintro ⟨e, he, hfollow⟩
    obtain ⟨x, hx, rfl⟩ := Option.map_eq_some_iff.1 hfollow
    exact ⟨x, List.mem_filterMap.2 ⟨e, he, hx⟩, rfl⟩
  · rintro ⟨x, hx, rfl⟩
    obtain ⟨e, he, hmember⟩ := List.mem_filterMap.1 hx
    exact ⟨e, he, Option.map_eq_some_iff.2 ⟨x, hmember, rfl⟩⟩

/-- One step leads to each member. -/
theorem follows_member (hx : x ∈ d.members id) :
    d.Follows (fun id e => (d.memberAlong? id e).map (·.node.id)) id x.node.id :=
  follows_member_iff.2 ⟨x, hx, rfl⟩

/-- What is reached through members and has no members itself is a leaf. -/
theorem mem_leaves_of_reached (ha : d.node? a.id = some a) (hmembers : d.members a.id = [])
    (h : d.ReachesMember n.id a.id) : a ∈ d.leaves n :=
  List.mem_filterMap.2 ⟨a.id, List.mem_filter.2 ⟨mem_walk_iff.2 h, by rw [hmembers]; rfl⟩, ha⟩

/-- A leaf is reached through members. -/
theorem reachesMember_of_mem_leaves (h : a ∈ d.leaves n) :
    d.ReachesMember n.id a.id ∧ d.members a.id = [] := by
  obtain ⟨v, hv, ha⟩ := List.mem_filterMap.1 h
  obtain ⟨hwalk, hmembers⟩ := List.mem_filter.1 hv
  rw [(mem_of_node? ha).2]
  exact ⟨mem_walk_iff.1 hwalk, List.isEmpty_iff.1 hmembers⟩

/-- An attribute without members is its only leaf. -/
theorem eq_of_mem_leaves (hn : d.node? n.id = some n) (hmembers : d.members n.id = [])
    (ha : a ∈ d.leaves n) : a = n := by
  obtain ⟨v, hv, hnode⟩ := List.mem_filterMap.1 ha
  have hwalk : d.ReachesMember n.id v := mem_walk_iff.1 (List.mem_of_mem_filter hv)
  rcases hwalk.cases_head with rfl | ⟨w, hstep, -⟩
  · exact Option.some.inj (hnode.symm.trans hn)
  · obtain ⟨x, hx, -⟩ := follows_member_iff.1 hstep
    rw [hmembers] at hx
    cases hx

/-- What is reached from a node through members is a node. -/
theorem hasNode_of_reachesMember (hid : d.hasNode id = true) (h : d.ReachesMember id id') :
    d.hasNode id' = true := by
  induction h with
  | refl => exact hid
  | tail _ hstep _ =>
    obtain ⟨x, hx, rfl⟩ := follows_member_iff.1 hstep
    exact hasNode_iff.2 ⟨x.node, mem_nodes_of_mem_neighbors (of_mem_members hx).1, rfl⟩

/-! ## Ways through members -/

/-- Some edges lead from an id to another, each from an attribute to one of its members. -/
inductive MemberPath (d : Diagram) : String → List Edge → String → Prop
  | nil (id : String) : MemberPath d id [] id
  | cons {id id' : String} {es : List Edge} {x : Neighbor} (hx : x ∈ d.members id)
    (h : MemberPath d x.node.id es id') : MemberPath d id (x.edge :: es) id'

namespace MemberPath

theorem append (h : d.MemberPath id es id') (h' : d.MemberPath id' es' id'') :
    d.MemberPath id (es ++ es') id'' := by
  induction h with
  | nil => exact h'
  | cons hx _ ih => exact .cons hx (ih h')

/-- A way leads to what is reached. -/
theorem reachesMember (h : d.MemberPath id es id') : d.ReachesMember id id' := by
  induction h with
  | nil => exact .refl
  | cons hx _ ih => exact .head (follows_member hx) ih

end MemberPath

/-- There is a way to what is reached. -/
theorem exists_memberPath (h : d.ReachesMember id id') : ∃ es, d.MemberPath id es id' := by
  induction h using ReflTransGen.head_induction_on with
  | refl => exact ⟨[], .nil _⟩
  | head hstep _ ih =>
    obtain ⟨x, hx, rfl⟩ := follows_member_iff.1 hstep
    obtain ⟨es, hes⟩ := ih
    exact ⟨_, .cons hx hes⟩

/-! ## Trees of members -/

/-- Below an id the members form a tree: nothing that is reached is a member twice, and the id itself
is no member. -/
def MembersFormTree (d : Diagram) (id : String) : Prop :=
  (id :: (d.memberWalk id).flatMap fun v => (d.members v).map (·.node.id)).Nodup

instance (d : Diagram) (id : String) : Decidable (d.MembersFormTree id) :=
  inferInstanceAs (Decidable (List.Nodup _))

/-- A way has no edge or a last one, which leads to a member of something reached. -/
theorem MemberPath.eq_nil_or_concat (h : d.MemberPath id es id') :
    es = [] ∧ id = id' ∨ ∃ es' v x, es = es' ++ [x.edge] ∧ d.MemberPath id es' v ∧
      x ∈ d.members v ∧ x.node.id = id' := by
  induction h with
  | nil id => exact .inl ⟨rfl, rfl⟩
  | @cons id id' es x hx h ih =>
    right
    rcases ih with ⟨rfl, rfl⟩ | ⟨es', v, y, rfl, hpath, hy, rfl⟩
    · exact ⟨[], id, x, rfl, .nil id, hx, rfl⟩
    · exact ⟨x.edge :: es', v, y, rfl, .cons hx hpath, hy, rfl⟩

/-- In a tree of members only one way leads to each member. -/
theorem MembersFormTree.path_unique (h : d.MembersFormTree id) (hes : d.MemberPath id es id')
    (hes' : d.MemberPath id es' id') : es = es' := by
  obtain ⟨hroot, hmembers⟩ := List.nodup_cons.1 h
  obtain ⟨hsiblings, hapart⟩ := List.nodup_flatMap.1 hmembers
  have : Std.Symm (List.Disjoint.onFun fun v => (d.members v).map (·.node.id)) :=
    ⟨fun _ _ hvw => hvw.symm⟩
  have hmem {es : List Edge} {v : String} {x : Neighbor} (hv : d.MemberPath id es v)
      (hx : x ∈ d.members v) : v ∈ d.memberWalk id ∧
        x.node.id ∈ (d.memberWalk id).flatMap fun v => (d.members v).map (·.node.id) := by
    have hwalk : v ∈ d.memberWalk id := mem_walk_iff.2 hv.reachesMember
    exact ⟨hwalk, List.mem_flatMap.2 ⟨v, hwalk, List.mem_map_of_mem hx⟩⟩
  -- from the end of the ways: the last edges lead from the same attribute to the same member
  induction es using List.reverseRecOn generalizing es' id' with
  | nil =>
    rcases hes.eq_nil_or_concat with ⟨-, rfl⟩ | ⟨es₁, v, x, hconcat, -⟩
    · rcases hes'.eq_nil_or_concat with ⟨rfl, -⟩ | ⟨es₂, v, x, -, hpath, hx, hid⟩
      · rfl
      · exact absurd (hid ▸ (hmem hpath hx).2) hroot
    · simp at hconcat
  | append_singleton es e ih =>
    rcases hes.eq_nil_or_concat with ⟨hnil, -⟩ | ⟨es₁, v, x, hconcat, hpath, hx, rfl⟩
    · simp at hnil
    obtain ⟨rfl, hedge⟩ := List.append_inj' hconcat rfl
    rcases hes'.eq_nil_or_concat with ⟨-, hid⟩ | ⟨es₂, w, y, rfl, hpath', hy, hid⟩
    · exact absurd (hid ▸ (hmem hpath hx).2) hroot
    have hsame : w = v := by
      by_contra hne
      exact hapart.forall (hmem hpath' hy).1 (hmem hpath hx).1 hne
        (List.mem_map_of_mem hy) (hid ▸ List.mem_map_of_mem hx)
    subst hsame
    obtain rfl := List.inj_on_of_nodup_map (hsiblings w (hmem hpath hx).1) hy hx hid
    rw [ih hpath hpath', hedge]

/-! ## Attributes without leaves -/

/-- Something without members is reached from an id through members. -/
def HasLeaf (d : Diagram) (id : String) : Prop :=
  ∃ id', d.ReachesMember id id' ∧ d.members id' = []

instance (d : Diagram) (id : String) : Decidable (d.HasLeaf id) :=
  decidable_of_iff (∃ id' ∈ d.memberWalk id, d.members id' = [])
    (exists_congr fun _ => and_congr_left' mem_walk_iff)

theorem leaves_eq_nil_iff (ha : d.node? a.id = some a) : d.leaves a = [] ↔ ¬ d.HasLeaf a.id := by
  rw [List.eq_nil_iff_forall_not_mem]
  constructor
  · rintro hnone ⟨id, hreach, hmembers⟩
    have hnode := hasNode_of_reachesMember (hasNode_iff.2 ⟨a, (mem_of_node? ha).1, rfl⟩) hreach
    obtain ⟨b, hb⟩ := Option.isSome_iff_exists.1 hnode
    obtain rfl := (mem_of_node? hb).2
    exact hnone b (mem_leaves_of_reached hb hmembers hreach)
  · intro hnone b hb
    exact hnone ⟨b.id, reachesMember_of_mem_leaves hb⟩

/-- Some way through members comes back to where it started. -/
def OnRing (d : Diagram) (id : String) : Prop :=
  ∃ es ≠ [], d.MemberPath id es id

/-- Where every attribute that is reached has members, some way comes back: only finitely many are
reached, and without a ring one of them would come last. -/
theorem exists_onRing_of_not_hasLeaf (h : ¬ d.HasLeaf id) :
    ∃ id', d.ReachesMember id id' ∧ d.OnRing id' := by
  by_contra hring
  push Not at hring
  let Reached := {id' // d.ReachesMember id id'}
  have : Finite Reached :=
    ((List.finite_toSet (d.memberWalk id)).subset fun _ hid => mem_walk_iff.2 hid).to_subtype
  let Below (v w : Reached) : Prop := ∃ es ≠ [], d.MemberPath w.1 es v.1
  have : IsTrans Reached Below := by
    refine ⟨?_⟩
    rintro u v w ⟨es, hne, hes⟩ ⟨es', hne', hes'⟩
    exact ⟨es' ++ es, by simp [hne], hes'.append hes⟩
  have : Std.Irrefl Below := ⟨fun v hv => hring v.1 v.2 hv⟩
  obtain ⟨v, -, hlast⟩ :=
    (Finite.wellFounded_of_trans_of_irrefl Below).has_min Set.univ ⟨⟨id, .refl⟩, trivial⟩
  obtain ⟨x, hx⟩ := List.exists_mem_of_ne_nil _ fun hmembers => h ⟨v.1, v.2, hmembers⟩
  exact hlast ⟨x.node.id, v.2.tail (follows_member hx)⟩ trivial
    ⟨[x.edge], by simp, .cons hx (.nil _)⟩

end EntityRelationship.Diagram
