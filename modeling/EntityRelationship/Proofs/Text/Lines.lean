import EntityRelationship.Text.Blank
import Mathlib.Data.List.Basic

/-!
# Lines and paragraphs

A text is cut into lines at its line feeds, and the lines are gathered into paragraphs at those that
are blank. Both are the same cut of a list at separators, of characters in one case and of lines in
the other. What is put together from lines that have no line feed in them, with one behind each, is cut
into these lines again; and so are lines with an empty one between two paragraphs.
-/

namespace EntityRelationship.Text

/-! ## Parts of a list -/

section Parts

variable {α : Type} {ends : α → Bool} {part xs : List α} {x : α}

/-- The parts of a list each of which ends with a separator. What follows the last separator is a part
as well, unless it is empty. -/
def parts (ends : α → Bool) : List α → List (List α)
  | [] => []
  | x :: xs =>
    if ends x then [] :: parts ends xs
    else
      match parts ends xs with
      | [] => [[x]]
      | part :: ps => (x :: part) :: ps

/-- A separator ends the part in front of it. -/
theorem parts_append_cons (hpart : ∀ y ∈ part, ends y = false) (hx : ends x = true)
    (xs : List α) : parts ends (part ++ x :: xs) = part :: parts ends xs := by
  induction part with
  | nil => rw [List.nil_append, parts, if_pos hx]
  | cons y part ih =>
    obtain ⟨hy, hpart⟩ := List.forall_mem_cons.1 hpart
    rw [List.cons_append, parts, ih hpart, if_neg (by simp [hy])]

/-- What has no separator in it is one part. -/
theorem parts_of_forall (hne : xs ≠ []) (hxs : ∀ y ∈ xs, ends y = false) :
    parts ends xs = [xs] := by
  induction xs with
  | nil => exact absurd rfl hne
  | cons y xs ih =>
    obtain ⟨hy, hxs⟩ := List.forall_mem_cons.1 hxs
    rw [parts, if_neg (by simp [hy])]
    cases xs with
    | nil => rfl
    | cons z xs => rw [ih (List.cons_ne_nil z xs) hxs]

/-- Parts with a separator behind each are cut into these parts. -/
theorem parts_flatMap {ps : List (List α)} (hps : ∀ part ∈ ps, ∀ y ∈ part, ends y = false)
    (hx : ends x = true) : parts ends (ps.flatMap (· ++ [x])) = ps := by
  induction ps with
  | nil => rfl
  | cons part ps ih =>
    obtain ⟨hpart, hps⟩ := List.forall_mem_cons.1 hps
    rw [List.flatMap_cons, List.append_assoc, List.singleton_append, parts_append_cons hpart hx,
      ih hps]

/-- Parts that are not empty, with a separator between two of them, are cut into these parts. -/
theorem parts_intercalate {ps : List (List α)} (hne : ∀ part ∈ ps, part ≠ [])
    (hps : ∀ part ∈ ps, ∀ y ∈ part, ends y = false) (hx : ends x = true) :
    parts ends ([x].intercalate ps) = ps := by
  induction ps with
  | nil => rfl
  | cons part ps ih =>
    obtain ⟨hpart, hps⟩ := List.forall_mem_cons.1 hps
    obtain ⟨hfirst, hne⟩ := List.forall_mem_cons.1 hne
    cases ps with
    | nil => rw [List.intercalate_singleton, parts_of_forall hfirst hpart]
    | cons part' ps =>
      rw [List.intercalate_cons_cons, List.append_assoc, List.singleton_append,
        parts_append_cons hpart hx, ih hne hps]

end Parts

/-! ## Lines -/

variable {s t : String} {ls : List String}

/-- The lines of a text. -/
def lines (s : String) : List String :=
  (parts (· == '\n') s.toList).map String.ofList

/-- The text of some lines, each of which is ended by a line feed. -/
def ofLines (ls : List String) : String :=
  String.join (ls.map (· ++ "\n"))

@[simp] theorem ofLines_nil : ofLines [] = "" := rfl

@[simp] theorem ofLines_cons (l : String) (ls : List String) :
    ofLines (l :: ls) = l ++ "\n" ++ ofLines ls := by
  rw [ofLines, List.map_cons, String.join_cons, ofLines]

@[simp] theorem ofLines_append (ls ls' : List String) :
    ofLines (ls ++ ls') = ofLines ls ++ ofLines ls' := by
  induction ls with
  | nil => simp
  | cons l ls ih => simp [ih, String.append_assoc]

/-- A text that fits on a line. -/
def OneLine (s : String) : Prop :=
  '\n' ∉ s.toList

instance (s : String) : Decidable (OneLine s) :=
  inferInstanceAs (Decidable ('\n' ∉ s.toList))

theorem OneLine.append (hs : OneLine s) (ht : OneLine t) : OneLine (s ++ t) := by
  rw [OneLine, String.toList_append, List.mem_append, not_or]
  exact ⟨hs, ht⟩

theorem OneLine.left (h : OneLine (s ++ t)) : OneLine s :=
  fun hmem => h (by rw [String.toList_append]; exact List.mem_append_left _ hmem)

/-- Texts on one line stay on it if they are joined by one. -/
theorem OneLine.intercalate (hs : OneLine s) (hls : ∀ l ∈ ls, OneLine l) :
    OneLine (s.intercalate ls) := by
  induction ls with
  | nil => exact List.not_mem_nil
  | cons l ls ih =>
    obtain ⟨hl, hls⟩ := List.forall_mem_cons.1 hls
    cases ls with
    | nil => rwa [String.intercalate_singleton]
    | cons l' ls =>
      rw [String.intercalate_cons_cons]
      exact (hl.append hs).append (ih hls)

/-- The lines of the text of some lines are these. -/
theorem lines_ofLines (h : ∀ l ∈ ls, OneLine l) : lines (ofLines ls) = ls := by
  have htext : (ofLines ls).toList = (ls.map String.toList).flatMap (· ++ ['\n']) := by
    rw [ofLines, String.toList_join, List.flatMap_map, List.flatMap_map]
    simp
  have hnone : ∀ part ∈ ls.map String.toList, ∀ c ∈ part, (c == '\n') = false := by
    intro part hpart c hc
    obtain ⟨l, hl, rfl⟩ := List.mem_map.1 hpart
    rw [beq_eq_false_iff_ne]
    exact fun heq => h l hl (heq ▸ hc)
  rw [lines, htext, parts_flatMap hnone (beq_self_eq_true _), List.map_map]
  simp [Function.comp_def]

/-- Lines that are joined by line feeds, with one more at the end, make the text of these lines. -/
theorem intercalate_newline (h : ls ≠ []) : "\n".intercalate ls ++ "\n" = ofLines ls := by
  induction ls with
  | nil => exact absurd rfl h
  | cons l ls ih =>
    cases ls with
    | nil => simp
    | cons l' ls =>
      rw [String.intercalate_cons_cons, String.append_assoc, ih (List.cons_ne_nil l' ls),
        ofLines_cons l]

/-- The joined texts are all in the text that joins them. -/
theorem subset_intercalate {l : String} (hl : l ∈ ls) (s : String) :
    l.toList ⊆ (s.intercalate ls).toList := by
  induction ls with
  | nil => cases hl
  | cons l₀ ls ih =>
    cases ls with
    | nil =>
      rw [List.mem_singleton.1 hl, String.intercalate_singleton]
      exact List.Subset.refl _
    | cons l₁ ls =>
      rw [String.intercalate_cons_cons, String.toList_append]
      rcases List.mem_cons.1 hl with rfl | hl
      · rw [String.toList_append, List.append_assoc]
        exact List.subset_append_left _ _
      · exact List.subset_append_of_subset_right _ (ih hl)

/-! ## Paragraphs -/

/-- The paragraphs of a text as lists of their lines, given which lines are blank. -/
def paragraphs (blank : String → Bool) (s : String) : List (List String) :=
  parts blank (lines s)

/-- Paragraphs without a blank line in them, with an empty line between two of them, are the paragraphs
of their text. -/
theorem paragraphs_ofLines {blank : String → Bool} {ps : List (List String)}
    (hempty : blank "" = true) (hne : ∀ p ∈ ps, p ≠ []) (hline : ∀ p ∈ ps, ∀ l ∈ p, OneLine l)
    (hblank : ∀ p ∈ ps, ∀ l ∈ p, blank l = false) :
    paragraphs blank (ofLines ([""].intercalate ps)) = ps := by
  have hlines : ∀ l ∈ [""].intercalate ps, OneLine l := by
    clear hempty hne hblank
    induction ps with
    | nil => exact nofun
    | cons p ps ih =>
      obtain ⟨hp, hps⟩ := List.forall_mem_cons.1 hline
      cases ps with
      | nil => rwa [List.intercalate_singleton]
      | cons p' ps =>
        rw [List.intercalate_cons_cons, List.forall_mem_append, List.forall_mem_append,
          List.forall_mem_singleton]
        exact ⟨⟨hp, by decide⟩, ih hps⟩
  rw [paragraphs, lines_ofLines hlines, parts_intercalate hne hblank hempty]

/-! ## What stands around a text -/

/-- What follows a text at the beginning of another one. -/
def after? (opening s : String) : Option String :=
  if opening.toList.isPrefixOf s.toList then
    some (String.ofList (s.toList.drop opening.toList.length))
  else none

/-- What precedes a text at the end of another one. -/
def before? (ending s : String) : Option String :=
  if ending.toList.isSuffixOf s.toList then
    some (String.ofList (s.toList.take (s.toList.length - ending.toList.length)))
  else none

@[simp] theorem after?_append (opening s : String) : after? opening (opening ++ s) = some s := by
  simp [after?]

@[simp] theorem before?_append (s ending : String) : before? ending (s ++ ending) = some s := by
  simp [before?]

end EntityRelationship.Text
