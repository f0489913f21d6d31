import Mathlib.Data.List.Nodup
import Mathlib.Data.List.Pairwise
import Mathlib.Order.Basic

/-!
# Sorting class by class

A list is sorted by taking one class after the other and, for each, the elements of the list that
belong to it. Nothing is compared, so that the order within a class is that of the list is plain; and
from this it follows that every element is there as often as before.
-/

namespace EntityRelationship

variable {α κ : Type} [DecidableEq κ] {key : α → κ} {classes : List κ} {xs ys : List α}

/-- The second list has the elements of the first one, sorted by a key. Those of one key keep their
order. -/
structure Sorts [LE κ] (key : α → κ) (xs ys : List α) : Prop where
  perm : ys.Perm xs
  sorted : ys.Pairwise fun x y => key x ≤ key y
  stable : ∀ k, ys.filter (key · == k) = xs.filter (key · == k)

/-- Lists that have the same elements of each key differ in nothing but their order. -/
theorem perm_of_filter_eq (h : ∀ k, ys.filter (key · == k) = xs.filter (key · == k)) :
    ys.Perm xs := by
  classical
  rw [List.perm_iff_count]
  intro x
  have hcount (zs : List α) : (zs.filter (key · == key x)).count x = zs.count x :=
    List.count_filter (beq_self_eq_true (key x))
  rw [← hcount ys, ← hcount xs, h]

/-- Of the elements that are taken class by class, those of one class are the ones of the list. -/
theorem filter_flatMap_filter (hnodup : classes.Nodup) {k : κ} (hk : k ∈ classes) :
    (classes.flatMap fun c => xs.filter (key · == c)).filter (key · == k) =
      xs.filter (key · == k) := by
  have hother {cs : List κ} (hcs : k ∉ cs) :
      (cs.flatMap fun c => xs.filter (key · == c)).filter (key · == k) = [] := by
    simp only [List.filter_eq_nil_iff, List.mem_flatMap, List.mem_filter, beq_iff_eq]
    rintro x ⟨c, hc, -, rfl⟩ rfl
    exact hcs hc
  obtain ⟨before, after, rfl⟩ := List.append_of_mem hk
  rw [List.nodup_middle, List.nodup_cons, List.mem_append, not_or] at hnodup
  rw [List.flatMap_append, List.flatMap_cons, List.filter_append, List.filter_append,
    hother hnodup.1.1, hother hnodup.1.2, List.filter_filter]
  simp

/-- Taking all classes in increasing order sorts a list. -/
theorem sorts_flatMap_filter [Preorder κ] (hclasses : classes.Pairwise (· < ·))
    (hall : ∀ k, k ∈ classes) (xs : List α) :
    Sorts key xs (classes.flatMap fun c => xs.filter (key · == c)) := by
  have hstable (k : κ) : (classes.flatMap fun c => xs.filter (key · == c)).filter (key · == k) =
      xs.filter (key · == k) :=
    filter_flatMap_filter (hclasses.imp ne_of_lt) (hall k)
  refine ⟨perm_of_filter_eq hstable, List.pairwise_flatMap.2 ⟨fun c _ => ?_, ?_⟩, hstable⟩
  · refine List.pairwise_of_forall_mem_list fun x hx y hy => ?_
    rw [List.mem_filter, beq_iff_eq] at hx hy
    exact le_of_eq (hx.2.trans hy.2.symm)
  · refine hclasses.imp fun hlt x hx y hy => ?_
    rw [List.mem_filter, beq_iff_eq] at hx hy
    rw [hx.2, hy.2]
    exact hlt.le

end EntityRelationship
