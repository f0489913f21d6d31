import EntityRelationship.Proofs.Diagnostic.Copy
import EntityRelationship.Proofs.Relational.Copy

/-!
# Parts of a diagram

If a diagram falls into two parts that no edge joins, each part has a copy in the diagram under its
own ids. So the rules find about each node what they find in its part. The synthesis takes the
nodes of the two parts in turn, in whatever way these are listed; but a node of one part neither
reads nor changes the tables of the other, and so the tables of the parts come out unchanged.
-/

namespace EntityRelationship

open Diagram Outcome

/-! ## Interleaved lists -/

/-- The third list consists of the elements of the other two, each of them in its order. -/
inductive Interleaves {α : Type} : List α → List α → List α → Prop
  | nil : Interleaves [] [] []
  | left {x : α} {xs ys zs : List α} : Interleaves xs ys zs → Interleaves (x :: xs) ys (x :: zs)
  | right {y : α} {xs ys zs : List α} : Interleaves xs ys zs → Interleaves xs (y :: ys) (y :: zs)

namespace Interleaves

variable {α β : Type} {xs ys zs : List α}

theorem symm (h : Interleaves xs ys zs) : Interleaves ys xs zs := by
  induction h with
  | nil => exact .nil
  | left _ ih => exact .right ih
  | right _ ih => exact .left ih

theorem map (h : Interleaves xs ys zs) (f : α → β) :
    Interleaves (xs.map f) (ys.map f) (zs.map f) := by
  induction h with
  | nil => exact .nil
  | left _ ih => exact .left ih
  | right _ ih => exact .right ih

theorem filter (h : Interleaves xs ys zs) (q : α → Bool) :
    Interleaves (xs.filter q) (ys.filter q) (zs.filter q) := by
  induction h with
  | nil => exact .nil
  | @left x _ _ _ _ ih =>
    rw [List.filter_cons, List.filter_cons]
    split
    · exact .left ih
    · exact ih
  | @right y _ _ _ _ ih =>
    rw [List.filter_cons, List.filter_cons]
    split
    · exact .right ih
    · exact ih

theorem append {xs' ys' zs' : List α} (h : Interleaves xs ys zs) (h' : Interleaves xs' ys' zs') :
    Interleaves (xs ++ xs') (ys ++ ys') (zs ++ zs') := by
  induction h with
  | nil => exact h'
  | left _ ih => exact .left ih
  | right _ ih => exact .right ih

theorem flatMap {κ : Type} {f g k : κ → List α} {is : List κ}
    (h : ∀ i ∈ is, Interleaves (f i) (g i) (k i)) :
    Interleaves (is.flatMap f) (is.flatMap g) (is.flatMap k) := by
  induction is with
  | nil => exact .nil
  | cons i is ih =>
    rw [List.flatMap_cons, List.flatMap_cons, List.flatMap_cons]
    exact (h i List.mem_cons_self).append (ih fun j hj => h j (List.mem_cons_of_mem _ hj))

/-- A test that no element of the second list passes picks from the whole what it picks from the
first. -/
theorem filter_eq_left (h : Interleaves xs ys zs) {q : α → Bool} (hq : ∀ y ∈ ys, q y = false) :
    zs.filter q = xs.filter q := by
  induction h with
  | nil => rfl
  | left _ ih => rw [List.filter_cons, List.filter_cons, ih hq]
  | right _ ih =>
    rw [List.filter_cons_of_neg (by simp [hq])]
    exact ih fun y hy => hq y (List.mem_cons_of_mem _ hy)

/-- A list is interleaved from what passes a test and what does not. -/
theorem of_filter (q : α → Bool) (zs : List α) :
    Interleaves (zs.filter q) (zs.filter (!q ·)) zs := by
  induction zs with
  | nil => exact .nil
  | cons z zs ih =>
    cases hz : q z with
    | true =>
      rw [List.filter_cons_of_pos hz, List.filter_cons_of_neg (by simp [hz])]
      exact .left ih
    | false =>
      rw [List.filter_cons_of_neg (by simp [hz]), List.filter_cons_of_pos (by simp [hz])]
      exact .right ih

end Interleaves

/-! ## Parts -/

/-- The third diagram consists of the other two, which have no node in common. Every edge of either
joins nodes of its own. -/
structure Diagram.Parts (p q d : Diagram) : Prop where
  nodes : Interleaves p.nodes q.nodes d.nodes
  edges : Interleaves p.edges q.edges d.edges
  disjoint : ∀ n ∈ p.nodes, ∀ m ∈ q.nodes, n.id ≠ m.id
  closed_left : p.Closed
  closed_right : q.Closed

namespace Diagram.Parts

variable {p q d : Diagram} {id : String} {n : Node}

theorem symm (h : Parts p q d) : Parts q p d where
  nodes := h.nodes.symm
  edges := h.edges.symm
  disjoint := fun n hn m hm hid => h.disjoint m hm n hn hid.symm
  closed_left := h.closed_right
  closed_right := h.closed_left

/-- An id is that of a node in one part at most. -/
theorem hasNode_right_eq_false (h : Parts p q d) (hid : p.hasNode id = true) :
    q.hasNode id = false := by
  obtain ⟨n, hn, rfl⟩ := hasNode_iff.1 hid
  rw [← Bool.not_eq_true]
  intro hright
  obtain ⟨m, hm, hsame⟩ := hasNode_iff.1 hright
  exact h.disjoint n hn m hm hsame.symm

theorem not_hasNode_left (h : Parts p q d) (id : String) (hid : q.hasNode id = true) :
    (!p.hasNode id) = true := by
  rw [h.symm.hasNode_right_eq_false hid]
  rfl

/-- A part has a copy in the whole under its own ids. -/
theorem copy_left (h : Parts p q d) : Copy .refl p d where
  closed := h.closed_left
  strictMono := fun _ _ _ _ hlt => hlt
  node?_eq := by
    intro id hid
    have hnone : ∀ m ∈ q.nodes, (m.id == id) = false := by
      intro m hm
      rw [beq_eq_false_iff_ne]
      rintro rfl
      have hfalse := h.hasNode_right_eq_false hid
      rw [hasNode_iff.2 ⟨m, hm, rfl⟩] at hfalse
      cases hfalse
    have hfind : d.node? id = p.node? id := by
      rw [node?, node?, ← List.head?_filter, ← List.head?_filter, h.nodes.filter_eq_left hnone]
    exact hfind.trans Option.map_id'.symm
  edgesTouching_eq := by
    intro id hid
    have hright := h.hasNode_right_eq_false hid
    have hnone : ∀ e ∈ q.edges, e.touches id = false := by
      intro e he
      obtain ⟨hs, ht⟩ := h.closed_right e he
      rw [Edge.touches, Bool.or_eq_false_iff, beq_eq_false_iff_ne, beq_eq_false_iff_ne]
      constructor
      · rintro rfl
        rw [hs] at hright
        cases hright
      · rintro rfl
        rw [ht] at hright
        cases hright
    exact (h.edges.filter_eq_left hnone).trans (List.map_id' _).symm

theorem copy_right (h : Parts p q d) : Copy .refl q d :=
  h.symm.copy_left

theorem validateNode_eq (h : Parts p q d) (hn : n ∈ p.nodes) :
    d.validateNode n = p.validateNode n := by
  have hfinds := h.copy_left.finds_validateNode (hasNode_iff.2 ⟨n, hn, rfl⟩)
  rw [Node.renamed_refl] at hfinds
  generalize p.validateNode n = o, d.validateNode n = o' at hfinds
  cases hfinds with
  | none => rfl
  | some hcopied => exact congrArg some hcopied.eq_of_refl

/-- The nodes of the parts are taken in an order into which their orders are interleaved. -/
theorem buildOrder (h : Parts p q d) :
    Interleaves p.buildOrder q.buildOrder d.buildOrder :=
  .flatMap fun _ _ => h.nodes.filter _

end Diagram.Parts

/-! ## Runs -/

section Run

variable {p q d : Diagram} {own : String → Bool} {n : Node} {s t r : Draft}

/-- A draft consists of a draft with the tables of one part and a draft with those of the other. -/
structure Draft.Joins (p q : Diagram) (s t r : Draft) : Prop where
  left : Holds .refl p p.hasNode t.tables s r
  right : Holds .refl q (!p.hasNode ·) s.tables t r

/-- What a draft holds besides the tables of one part are the tables of the other. -/
theorem Draft.Holds.other (h : Holds .refl p own t.tables s r)
    (hq : ∀ id, q.hasNode id = true → (!own id) = true)
    (ht : ∀ u ∈ t.tables, q.hasNode u.node.id = true) (hindexed : t.Indexed) :
    Holds .refl q (!own ·) s.tables t r where
  own_node := hq
  hasNode := ht
  filter_own := h.filter_others.trans (List.map_id' _).symm
  filter_others := by
    simp only [Bool.not_not]
    exact h.filter_own.trans (List.map_id' _)
  indexed := hindexed
  indexed_copy := h.indexed_copy

/-- A step with a node of one part changes the draft of that part. -/
theorem Draft.Joins.related_left (h : Joins p q s t r) (hd : Parts p q d)
    (hn : p.hasNode n.id = true) :
    Renaming.Carries .refl (Joins p q · t ·) (p.build s n) (d.build r n) :=
  (h.left.carries_build hd.copy_left hn).mono
    fun _ _ hleft => ⟨hleft, hleft.other h.right.own_node h.right.hasNode h.right.indexed⟩

theorem Draft.Joins.related_right (h : Joins p q s t r) (hd : Parts p q d)
    (hn : q.hasNode n.id = true) :
    Renaming.Carries .refl (Joins p q s · ·) (q.build t n) (d.build r n) := by
  refine (h.right.carries_build hd.copy_right hn).mono fun t' r' hright => ⟨?_, hright⟩
  have hnot (id : String) (hid : p.hasNode id = true) : (!!p.hasNode id) = true := by
    rw [Bool.not_not, hid]
  have hback := hright.other hnot h.left.hasNode h.left.indexed
  simpa only [Bool.not_not] using hback

/-- A run over interleaved nodes succeeds if the runs over the nodes of the parts do, and fails as
one of them does. -/
theorem Draft.Joins.foldlM_build (hd : Parts p q d) {ns ms ks : List Node}
    (hi : Interleaves ns ms ks) (hns : ∀ n ∈ ns, p.hasNode n.id = true)
    (hms : ∀ m ∈ ms, q.hasNode m.id = true) (h : Joins p q s t r) :
    (∃ s' t' r', ns.foldlM p.build s = .ok s' ∧ ms.foldlM q.build t = .ok t' ∧
      ks.foldlM d.build r = .ok r' ∧ Joins p q s' t' r') ∨
    ∃ f, ks.foldlM d.build r = .error f ∧
      (ns.foldlM p.build s = .error f ∨ ms.foldlM q.build t = .error f) := by
  induction hi generalizing s t r with
  | nil => exact .inl ⟨s, t, r, rfl, rfl, rfl, h⟩
  | @left n ns ms ks _ ih =>
    have hstep := h.related_left hd (hns n List.mem_cons_self)
    rw [List.foldlM_cons, List.foldlM_cons]
    generalize p.build s n = x, d.build r n = y at hstep ⊢
    cases hstep with
    | ok hjoins => exact ih (fun n hn => hns n (List.mem_cons_of_mem _ hn)) hms hjoins
    | @error e f hf =>
      rw [SynthesisFault.renamed_refl] at hf
      exact .inr ⟨f, rfl, .inl (congrArg _ hf.symm)⟩
  | @right m ns ms ks _ ih =>
    have hstep := h.related_right hd (hms m List.mem_cons_self)
    rw [List.foldlM_cons, List.foldlM_cons]
    generalize q.build t m = x, d.build r m = y at hstep ⊢
    cases hstep with
    | ok hjoins => exact ih hns (fun m hm => hms m (List.mem_cons_of_mem _ hm)) hjoins
    | @error e f hf =>
      rw [SynthesisFault.renamed_refl] at hf
      exact .inr ⟨f, rfl, .inr (congrArg _ hf.symm)⟩

end Run

/-! ## Schemas -/

namespace Diagram

variable {p q d : Diagram}

theorem hasNode_of_mem_buildOrder {n : Node} (hn : n ∈ d.buildOrder) : d.hasNode n.id = true :=
  hasNode_iff.2 ⟨n, mem_nodes_of_mem_buildOrder hn, rfl⟩

/-- The tables of joined drafts are interleaved. -/
theorem interleaves_of_joins {s t r : Draft} (h : Draft.Joins p q s t r) :
    Interleaves s.schema.tables t.schema.tables r.schema.tables := by
  have hleft : r.tables.filter (p.hasNode ·.node.id) = s.tables :=
    h.left.filter_own.trans (List.map_id' _)
  have htables := Interleaves.of_filter (fun u : NodeTable => p.hasNode u.node.id) r.tables
  rw [hleft, h.left.filter_others] at htables
  exact htables.map (·.table)

/-- The synthesis of a diagram in two parts gives the tables of both, interleaved, or the fault of
one of them. -/
theorem Parts.synthesize_cases (h : Parts p q d) :
    (∃ sp sq sd, p.synthesize = .ok sp ∧ q.synthesize = .ok sq ∧ d.synthesize = .ok sd ∧
      Interleaves sp.tables sq.tables sd.tables) ∨
    ∃ f, d.synthesize = .error f ∧ (p.synthesize = .error f ∨ q.synthesize = .error f) := by
  have hleft : Draft.Holds .refl p p.hasNode [] .empty .empty :=
    ⟨fun _ hid => hid, by simp [Draft.empty], rfl, rfl, Draft.indexed_empty, Draft.indexed_empty⟩
  have hstart : Draft.Joins p q .empty .empty .empty :=
    ⟨hleft, hleft.other h.not_hasNode_left (by simp [Draft.empty]) Draft.indexed_empty⟩
  have hruns := hstart.foldlM_build h h.buildOrder (fun n hn => hasNode_of_mem_buildOrder hn)
    fun n hn => hasNode_of_mem_buildOrder hn
  simp only [synthesize]
  rcases hruns with ⟨s, t, r, hs, ht, hr, hjoins⟩ | ⟨f, hr, hf⟩
  · rw [hs, ht, hr]
    exact .inl ⟨_, _, _, rfl, rfl, rfl, interleaves_of_joins hjoins⟩
  · refine .inr ⟨f, by rw [hr]; rfl, ?_⟩
    rcases hf with hs | ht
    · exact .inl (by rw [hs]; rfl)
    · exact .inr (by rw [ht]; rfl)

/-- What is made of a part of a diagram does not depend on the rest. A diagram in two parts, listed
in whatever order, has a schema exactly if both parts have one. Its tables are those of the parts,
unchanged and each in their order, and about each node the same is found as in its part. -/
theorem Parts.locality (h : Parts p q d) :
    ((∃ schema, d.synthesize = .ok schema) ↔
      (∃ schema, p.synthesize = .ok schema) ∧ ∃ schema, q.synthesize = .ok schema) ∧
    (∀ sp sq sd, p.synthesize = .ok sp → q.synthesize = .ok sq → d.synthesize = .ok sd →
      Interleaves sp.tables sq.tables sd.tables) ∧
    (∀ f, d.synthesize = .error f → p.synthesize = .error f ∨ q.synthesize = .error f) ∧
    (∀ n ∈ p.nodes, d.validateNode n = p.validateNode n) ∧
    ∀ n ∈ q.nodes, d.validateNode n = q.validateNode n := by
  have hnodes := And.intro (fun n hn => h.validateNode_eq (n := n) hn)
    fun n hn => h.symm.validateNode_eq (n := n) hn
  rcases h.synthesize_cases with ⟨sp, sq, sd, hp, hq, hd, htables⟩ | ⟨f, hd, hf⟩
  · rw [hp, hq, hd]
    refine ⟨by simp, ?_, ?_, hnodes⟩
    · rintro _ _ _ ⟨⟩ ⟨⟩ ⟨⟩
      exact htables
    · rintro f ⟨⟩
  · rw [hd]
    refine ⟨?_, ?_, ?_, hnodes⟩
    · rcases hf with hf | hf <;> simp [hf]
    · rintro _ _ _ _ _ ⟨⟩
    · rintro _ ⟨⟩
      exact hf

/-- Books. -/
def books : Diagram where
  nodes := [
    ⟨"book", .entity, "Book", none⟩,
    ⟨"isbn", .attr .key, "isbn:TEXT", none⟩]
  edges := [⟨"b1", .transition, "book", "isbn", none⟩]

/-- Clerks, some of whom lead others. -/
def clerks : Diagram where
  nodes := [
    ⟨"clerk", .entity, "Clerk", none⟩,
    ⟨"nr", .attr .key, "nr:INTEGER", none⟩,
    ⟨"leads", .relation, "Leads", none⟩]
  edges := [
    ⟨"c1", .transition, "clerk", "nr", none⟩,
    ⟨"c2", .weighted, "clerk", "leads", some "(0..1)"⟩,
    ⟨"c3", .weighted, "leads", "clerk", some "(0..N)"⟩]

/-- Both in one drawing. -/
def library : Diagram where
  nodes := [
    ⟨"clerk", .entity, "Clerk", none⟩,
    ⟨"book", .entity, "Book", none⟩,
    ⟨"nr", .attr .key, "nr:INTEGER", none⟩,
    ⟨"isbn", .attr .key, "isbn:TEXT", none⟩,
    ⟨"leads", .relation, "Leads", none⟩]
  edges := [
    ⟨"c1", .transition, "clerk", "nr", none⟩,
    ⟨"b1", .transition, "book", "isbn", none⟩,
    ⟨"c2", .weighted, "clerk", "leads", some "(0..1)"⟩,
    ⟨"c3", .weighted, "leads", "clerk", some "(0..N)"⟩]

theorem locality_library :
    Parts books clerks library ∧ ∃ sp sq sd, books.synthesize = .ok sp ∧
      clerks.synthesize = .ok sq ∧ library.synthesize = .ok sd ∧ 0 < sp.tables.length ∧
      0 < sq.tables.length ∧ Interleaves sp.tables sq.tables sd.tables := by
  have hparts : Parts books clerks library :=
    { nodes := .right (.left (.right (.left (.right .nil))))
      edges := .right (.left (.right (.right .nil)))
      disjoint := by decide
      closed_left := by decide
      closed_right := by decide }
  obtain ⟨hsome, htables, -⟩ := hparts.locality
  obtain ⟨sp, hp, hpos⟩ := exists_eq_ok_of_any (x := books.synthesize)
    (p := fun s => decide (0 < s.tables.length)) (by decide +kernel)
  obtain ⟨sq, hq, hqos⟩ := exists_eq_ok_of_any (x := clerks.synthesize)
    (p := fun s => decide (0 < s.tables.length)) (by decide +kernel)
  obtain ⟨sd, hd⟩ := hsome.2 ⟨⟨sp, hp⟩, sq, hq⟩
  exact ⟨hparts, sp, sq, sd, hp, hq, hd, of_decide_eq_true hpos, of_decide_eq_true hqos,
    htables sp sq sd hp hq hd⟩

end Diagram

end EntityRelationship
