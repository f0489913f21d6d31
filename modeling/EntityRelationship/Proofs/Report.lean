import EntityRelationship.Proofs.Sorting
import EntityRelationship.Proofs.Text.Lines
import EntityRelationship.Proofs.Text.Word
import EntityRelationship.Report
import Mathlib.Algebra.Ring.Nat
import Mathlib.Order.Lattice

/-!
# The layout of reports

The cells of a report stand in columns. All that is asked of the measure is that a space takes one
column and combines with nothing beside it: since there are spaces behind every cell but the last of a
row, the width of a line up to some cell is the sum of the widths of what stands before it, even where
the measure of a text is not the sum over its characters. So a cell begins where the widest cells of
the columns before it leave off. What is cut off at the end of a line is blank, and the last but one of
the cells never is; so nothing is cut off but spaces and the blanks at the end of a description.
-/

namespace EntityRelationship

variable {width : String → Nat}

/-! ## Measures -/

namespace Text

/-- A measure of texts in which a space takes one column and combines with nothing beside it. -/
structure IsDisplayWidth (width : String → Nat) : Prop where
  empty : width "" = 0
  space : ∀ s t, width (s ++ " " ++ t) = width s + 1 + width t

/-- A measure is of this kind if widths always add up and a space takes one column. -/
theorem isDisplayWidth_of_additive (hadd : ∀ s t, width (s ++ t) = width s + width t)
    (hspace : width " " = 1) : IsDisplayWidth width where
  empty := by
    have hnothing := hadd "" ""
    rw [String.append_empty] at hnothing
    omega
  space s t := by rw [hadd, hadd, hspace]

/-- The number of terminal columns is of this kind, though it does not always add up. -/
theorem isDisplayWidth_width : IsDisplayWidth Text.width where
  empty := rfl
  space s t := by
    have hspace : " ".toList = [' '] := rfl
    rw [Text.width, Text.width, Text.width, String.toList_append, String.toList_append, hspace,
      List.append_assoc, List.singleton_append, listWidth_append_space_cons]
    omega

/-! ### Spaces -/

theorem spaces_succ (n : Nat) : spaces (n + 1) = " " ++ spaces n := by
  rw [spaces, List.replicate_succ, String.ofList_cons]
  rfl

/-- The gap between two columns is two more spaces. -/
theorem spaces_gap (n : Nat) : spaces n ++ Report.gap = spaces (n + 2) := by
  rw [spaces, spaces, List.replicate_add, String.ofList_append]
  rfl

theorem eq_space_of_mem_spaces {n : Nat} {c : Char} (h : c ∈ (spaces n).toList) : c = ' ' := by
  rw [spaces, String.toList_ofList] at h
  exact List.eq_of_mem_replicate h

theorem allBlank_spaces (n : Nat) : AllBlank (spaces n) := by
  intro c hc
  rw [eq_space_of_mem_spaces hc]
  decide

theorem oneLine_spaces (n : Nat) : OneLine (spaces n) :=
  fun hmem => absurd (eq_space_of_mem_spaces hmem) (by decide)

namespace IsDisplayWidth

variable (h : IsDisplayWidth width)

include h

theorem spaces_append (n : Nat) (t : String) : width (spaces n ++ t) = n + width t := by
  induction n with
  | zero => simp [spaces]
  | succ n ih =>
    have hspace := h.space "" (spaces n ++ t)
    rw [String.empty_append, h.empty, ih] at hspace
    rw [spaces_succ, String.append_assoc, hspace]
    omega

/-- Widths add up across spaces, of which there are some. -/
theorem append_spaces_append (s : String) (n : Nat) (t : String) :
    width (s ++ spaces (n + 1) ++ t) = width s + (n + 1) + width t := by
  have hspace := h.space s (spaces n ++ t)
  rw [h.spaces_append] at hspace
  rw [spaces_succ, ← String.append_assoc, String.append_assoc, hspace]
  omega

end IsDisplayWidth

end Text

/-! ## Severities in order -/

namespace Severity

/-- The place of a severity, the gravest first. -/
def rank : Severity → Nat
  | error => 0
  | warning => 1
  | info => 2

theorem rank_injective : Function.Injective rank := by
  intro s t
  cases s <;> cases t <;> decide

instance : LinearOrder Severity :=
  LinearOrder.lift' rank rank_injective

/-- Sorting by severity puts errors first and notes last, and those of a severity in their order. -/
theorem sorts_sortOn {α : Type} (severity : α → Severity) (xs : List α) :
    Sorts severity xs (sortOn severity xs) := by
  have hall : all.Pairwise (· < ·) := by
    show all.Pairwise (rank · < rank ·)
    decide
  exact sorts_flatMap_filter hall mem_all xs

end Severity

namespace Report

open Text

variable {ds : List Diagnostic} {rows : List (List String)} {row before after : List String}
  {cell : String} {widths fills : List Nat} {starts : Nat → Nat}

/-! ## Widths of columns -/

/-- The width of the widest cell of a column. -/
def widest (width : String → Nat) (rows : List (List String)) (k : Nat) : Nat :=
  (rows.map fun row => width (row.getD k "")).foldr max 0

/-- The column at which a cell begins: each column before it is as wide as its widest cell, and two
spaces stand behind it. -/
def start (width : String → Nat) (rows : List (List String)) (k : Nat) : Nat :=
  ((List.range k).map fun i => 2 + widest width rows i).sum

@[simp] theorem widest_nil (k : Nat) : widest width [] k = 0 := rfl

@[simp] theorem widest_cons (row : List String) (rows : List (List String)) (k : Nat) :
    widest width (row :: rows) k = max (width (row.getD k "")) (widest width rows k) := rfl

theorem le_widest (h : row ∈ rows) (k : Nat) :
    width (row.getD k "") ≤ widest width rows k := by
  induction rows with
  | nil => cases h
  | cons first rows ih =>
    rw [widest_cons]
    rcases List.mem_cons.1 h with rfl | h
    · exact le_max_left _ _
    · exact (ih h).trans (le_max_right _ _)

/-- A row is the list of its cells by their numbers. -/
theorem eq_map_getD (row : List String) : row = (List.range row.length).map (row.getD · "") := by
  refine List.ext_getElem (by simp) fun k hk _ => ?_
  simp [hk]

/-- Going through the rows makes each column as wide as its widest cell, if it was not wider before. -/
theorem foldl_widen {n : Nat} (hrows : ∀ row ∈ rows, row.length = n) (f : Nat → Nat) :
    rows.foldl (widen width) ((List.range n).map f) =
      (List.range n).map fun k => max (f k) (widest width rows k) := by
  induction rows generalizing f with
  | nil => simp
  | cons row rows ih =>
    obtain ⟨rfl, hrows⟩ := List.forall_mem_cons.1 hrows
    have hwiden : widen width ((List.range row.length).map f) row =
        (List.range row.length).map fun k => max (f k) (width (row.getD k "")) := by
      conv_lhs => rw [widen, eq_map_getD row]
      simp [List.zipWith_map, List.zipWith_self]
    rw [List.foldl_cons, hwiden, ih hrows]
    simp only [widest_cons, max_assoc]

/-! ## Cells with spaces behind them -/

/-- The cells of a row, each with so many spaces behind it. -/
def spaced : List String → List Nat → String
  | cell :: row, fill :: fills => cell ++ spaces fill ++ spaced row fills
  | _, _ => ""

@[simp] theorem spaced_nil (fills : List Nat) : spaced [] fills = "" := by
  rw [spaced]
  exact nofun

@[simp] theorem spaced_cons (cell : String) (row : List String) (fill : Nat) (fills : List Nat) :
    spaced (cell :: row) (fill :: fills) = cell ++ spaces fill ++ spaced row fills := rfl

/-- What stands in front of a cell and what stands behind it. -/
theorem exists_spaced_append_cons (h : (before ++ cell :: after).length ≤ fills.length) :
    ∃ fill fills', spaced (before ++ cell :: after) fills =
      spaced before fills ++ cell ++ (spaces fill ++ spaced after fills') := by
  induction before generalizing fills with
  | nil =>
    cases fills with
    | nil => simp at h
    | cons fill fills =>
      refine ⟨fill, fills, ?_⟩
      rw [List.nil_append, spaced_cons, spaced_nil, String.empty_append, String.append_assoc]
  | cons first before ih =>
    cases fills with
    | nil => simp at h
    | cons fill₀ fills =>
      obtain ⟨fill, fills', hspaced⟩ := ih (Nat.le_of_succ_le_succ h)
      refine ⟨fill, fills', ?_⟩
      rw [List.cons_append, spaced_cons, spaced_cons, hspaced]
      simp only [String.append_assoc]

/-- What stands up to a cell stands at the beginning of what stands up to a later one. -/
theorem exists_append_eq_upTo {init : List String} {label : String}
    (hcell : init ++ [label] = before ++ cell :: after) (hlength : init.length ≤ fills.length) :
    ∃ between, spaced init fills ++ label = spaced before fills ++ cell ++ between := by
  rcases List.eq_nil_or_concat after with rfl | ⟨after, c, rfl⟩
  · obtain ⟨rfl, hsame⟩ := List.append_inj' hcell rfl
    obtain rfl := List.singleton_inj.1 hsame
    exact ⟨"", (String.append_empty).symm⟩
  · obtain ⟨rfl, -⟩ : init = before ++ cell :: after ∧ [label] = [c] :=
      List.append_inj' (by simpa using hcell) rfl
    obtain ⟨fill, fills', hspaced⟩ := exists_spaced_append_cons hlength
    exact ⟨spaces fill ++ spaced after fills' ++ label, by rw [hspaced, String.append_assoc]⟩

theorem oneLine_spaced (h : ∀ cell ∈ row, OneLine cell) (fills : List Nat) :
    OneLine (spaced row fills) := by
  induction row generalizing fills with
  | nil => simp [OneLine]
  | cons cell row ih =>
    obtain ⟨hcell, hrow⟩ := List.forall_mem_cons.1 h
    cases fills with
    | nil => simp [OneLine, spaced]
    | cons fill fills => exact (hcell.append (oneLine_spaces fill)).append (ih hrow fills)

/-- Where all cells fit in their columns, the spaces that fill these up make every cell begin where the
columns before it and the gaps behind them end. -/
theorem exists_intercalate_eq_spaced (hwidth : IsDisplayWidth width)
    (hfits : List.Forall₂ (fun w cell => width cell ≤ w) widths row) :
    ∃ fills, fills.length = row.length ∧
      gap.intercalate (List.zipWith (padRight width) widths row) = spaced row fills ∧
      ∀ before cell after, row = before ++ cell :: after →
        width (spaced before fills) = ((widths.take before.length).map (2 + ·)).sum := by
  induction hfits with
  | nil => exact ⟨[], rfl, rfl, by simp⟩
  | @cons w first widths row hfirst hfits ih =>
    obtain ⟨fills, hlength, htext, hstarts⟩ := ih
    cases hfits with
    | nil =>
      refine ⟨[w - width first], rfl, ?_, fun before cell after h => ?_⟩
      · simp [padRight]
      · obtain rfl : before = [] := by
          cases before with
          | nil => rfl
          | cons c before => simp at h
        simpa using hwidth.empty
    | @cons w' second widths row hsecond hfits =>
      refine ⟨(w - width first + 2) :: fills, by simpa using hlength, ?_, ?_⟩
      · have hgap : spaces (w - width first) ++ gap = spaces (w - width first + 2) := spaces_gap _
        rw [List.zipWith_cons_cons, List.zipWith_cons_cons, String.intercalate_cons_cons,
          ← List.zipWith_cons_cons, htext, padRight, spaced_cons first, ← hgap]
        simp only [String.append_assoc]
      · intro before cell after h
        cases before with
        | nil => simpa using hwidth.empty
        | cons c before =>
          obtain ⟨rfl, hrow⟩ := List.cons_eq_cons.1 h
          rw [spaced_cons, hwidth.append_spaces_append, hstarts before cell after hrow,
            List.length_cons, List.take_succ_cons, List.map_cons, List.sum_cons]
          omega

/-! ## Lines -/

/-- A line shows the cells of a row, with so many spaces behind each. Nothing of it is left out but
blanks at its end, and there are none left. Each cell begins at a given column. -/
structure Shows (width : String → Nat) (starts : Nat → Nat) (row : List String) (fills : List Nat)
    (line : String) : Prop where
  length_eq : fills.length = row.length
  exists_cut : ∃ cut, line ++ cut = spaced row fills ∧ AllBlank cut
  isBlank_getLast : ∀ c ∈ line.toList.getLast?, isBlank c = false
  start_eq : ∀ before cell after, row = before ++ cell :: after →
    width (spaced before fills) = starts before.length
  /-- A cell that is not the last one is on the line in full. -/
  stands : ∀ before cell after, row = before ++ cell :: after → after ≠ [] →
    ∃ rest, line = spaced before fills ++ cell ++ rest
  /-- The last cell is at the end of the line, but for the blanks at its end. -/
  ends : ∀ before cell, row = before ++ [cell] → ¬ AllBlank cell →
    line = spaced before fills ++ trimEnd cell

/-- A row whose last cell but one ends visibly is shown if blanks are taken away from its end. -/
theorem shows_trimEnd {init : List String} {label last : String} (hrow : row = init ++ [label, last])
    (hlabel : EndsVisibly label) (hlength : fills.length = row.length)
    (hstart : ∀ before cell after, row = before ++ cell :: after →
      width (spaced before fills) = starts before.length) :
    Shows width starts row fills (trimEnd (spaced row fills)) where
  length_eq := hlength
  exists_cut := exists_trimEnd_append _
  isBlank_getLast := isBlank_of_mem_getLast?_trimEnd
  start_eq := hstart
  stands := by
    intro before cell after hcell hafter
    obtain ⟨cut, hline, hcut⟩ := exists_trimEnd_append (spaced row fills)
    -- what stands up to the label is left, and the cell stands in front of it or is the label
    obtain ⟨after, e, rfl⟩ := (List.eq_nil_or_concat after).resolve_left hafter
    obtain ⟨hfront, -⟩ : init ++ [label] = before ++ cell :: after ∧ [last] = [e] :=
      List.append_inj' (by simpa using hrow.symm.trans hcell) rfl
    obtain ⟨fill, fills', hspaced⟩ := exists_spaced_append_cons (hrow ▸ hlength.ge)
    rw [← hrow] at hspaced
    obtain ⟨rest, hrest, -⟩ := exists_append_of_endsVisibly (hline.trans hspaced) hcut
      (hlabel.append_left _)
    have hshort : init.length ≤ fills.length := by
      rw [hlength, hrow, List.length_append]
      exact Nat.le_add_right _ _
    obtain ⟨between, hbetween⟩ := exists_append_eq_upTo hfront hshort
    exact ⟨between ++ rest, by rw [hrest, hbetween, String.append_assoc]⟩
  ends := by
    rintro before cell rfl hcell
    obtain ⟨cut, hcut, hblank⟩ := exists_trimEnd_append cell
    obtain ⟨fill, fills', hspaced⟩ := exists_spaced_append_cons hlength.ge
    rw [hspaced, spaced_nil, String.append_empty]
    nth_rewrite 1 [← hcut]
    rw [← String.append_assoc, String.append_assoc]
    exact trimEnd_append ((endsVisibly_trimEnd hcell).append_left _)
      (hblank.append (allBlank_spaces fill))

/-! ## Rows -/

theorem mem_rows : row ∈ Report.rows ds ↔ row = headings ∨ ∃ d ∈ ds, cells d = row := by
  simp only [Report.rows, List.mem_cons, List.mem_map, Severity.mem_sortOn]

theorem endsVisibly_label (p : Problem) : EndsVisibly p.label := by
  cases p <;> simp [EndsVisibly, Problem.label] <;> decide

theorem oneLine_label (p : Problem) : OneLine p.label := by
  cases p <;> simp [OneLine, Problem.label]

/-- Every row has four cells, and the third one ends visibly. -/
theorem exists_eq_of_mem_rows (h : row ∈ Report.rows ds) :
    ∃ severity element label description,
      row = [severity, element] ++ [label, description] ∧ EndsVisibly label := by
  rcases mem_rows.1 h with rfl | ⟨d, -, rfl⟩
  · exact ⟨_, _, _, _, rfl, ⟨'D', rfl, by decide⟩⟩
  · exact ⟨_, _, _, _, rfl, endsVisibly_label d.problem⟩

theorem length_of_mem_rows (h : row ∈ Report.rows ds) : row.length = 4 := by
  obtain ⟨_, _, _, _, rfl, -⟩ := exists_eq_of_mem_rows h
  rfl

theorem oneLine_of_mem_rows (hds : ∀ d ∈ ds, OneLine d.element ∧ OneLine d.description)
    (h : row ∈ Report.rows ds) : ∀ cell ∈ row, OneLine cell := by
  rcases mem_rows.1 h with rfl | ⟨d, hd, rfl⟩
  · decide
  · have hname : OneLine d.severity.name := by cases d.severity <;> decide
    obtain ⟨helement, hdescription⟩ := hds d hd
    simp only [cells, List.forall_mem_cons]
    exact ⟨hname, helement, oneLine_label d.problem, hdescription, List.forall_mem_nil _⟩

/-- The columns of a table are as wide as their widest cells. -/
theorem columnWidths_rows (ds : List Diagnostic) :
    columnWidths width (Report.rows ds) =
      (List.range 4).map (widest width (Report.rows ds)) := by
  have hheadings : headings.map width = (List.range 4).map fun k => width (headings.getD k "") := rfl
  rw [columnWidths, hheadings, foldl_widen fun _ => length_of_mem_rows]
  refine List.map_congr_left fun k _ => max_eq_right (le_widest ?_ k)
  exact mem_rows.2 (.inl rfl)

/-- Every row fits in the columns. -/
theorem forall₂_columnWidths (h : row ∈ Report.rows ds) :
    List.Forall₂ (fun w cell => width cell ≤ w) (columnWidths width (Report.rows ds)) row := by
  rw [columnWidths_rows, eq_map_getD row, length_of_mem_rows h, List.forall₂_map_left_iff,
    List.forall₂_map_right_iff, List.forall₂_same]
  exact fun k _ => le_widest h k

/-- The line of a row shows it, and its cells begin where the columns do. -/
theorem exists_shows_line (hwidth : IsDisplayWidth width) (h : row ∈ Report.rows ds) :
    ∃ fills, Shows width (start width (Report.rows ds)) row fills
      (line width (columnWidths width (Report.rows ds)) row) := by
  obtain ⟨fills, hlength, htext, hstart⟩ :=
    exists_intercalate_eq_spaced hwidth (forall₂_columnWidths h)
  obtain ⟨severity, element, label, description, hrow, hlabel⟩ := exists_eq_of_mem_rows h
  refine ⟨fills, ?_⟩
  rw [line, htext]
  refine shows_trimEnd hrow hlabel hlength fun before cell after hcell => ?_
  have hfour : before.length ≤ 4 := by
    rw [← length_of_mem_rows h, hcell, List.length_append]
    exact Nat.le_add_right _ _
  rw [hstart before cell after hcell, columnWidths_rows, ← List.map_take, List.take_range,
    min_eq_left hfour, List.map_map, start]
  rfl

/-! ## Tables -/

/-- A text is the aligned table of some diagnostics: its lines show the heading and behind it the
diagnostics, sorted by severity, with each column at the same place in all lines. -/
def Aligned (width : String → Nat) (ds : List Diagnostic) (text : String) : Prop :=
  ∃ sorted, Sorts (·.severity) ds sorted ∧
    List.Forall₂
      (fun row line => ∃ fills,
        Shows width (start width (headings :: sorted.map cells)) row fills line)
      (headings :: sorted.map cells) (Text.lines text)

/-- The lines of a table are those that are made of its rows. -/
theorem lines_tableBy (hwidth : IsDisplayWidth width) (hne : ds ≠ [])
    (hds : ∀ d ∈ ds, OneLine d.element ∧ OneLine d.description) :
    Text.lines (tableBy width ds) = lines width ds := by
  have htext : tableBy width ds = ofLines (lines width ds) := by
    rw [tableBy, if_neg hne, ofLines]
  rw [htext, lines_ofLines]
  intro l hl
  obtain ⟨row, hrow, rfl⟩ := List.mem_map.1 hl
  obtain ⟨fills, hshows⟩ := exists_shows_line hwidth hrow
  obtain ⟨cut, hcut, -⟩ := hshows.exists_cut
  exact OneLine.left (hcut ▸ oneLine_spaced (oneLine_of_mem_rows hds hrow) fills)

/-- The table of some diagnostics that fit on a line is aligned in every measure in which it is laid
out, and the one that is shown is so in terminal columns. -/
theorem aligned_table (hne : ds ≠ []) (hds : ∀ d ∈ ds, OneLine d.element ∧ OneLine d.description) :
    (∀ width, IsDisplayWidth width → Aligned width ds (tableBy width ds)) ∧
      Aligned Text.width ds (table ds) := by
  have hby (width : String → Nat) (hwidth : IsDisplayWidth width) :
      Aligned width ds (tableBy width ds) := by
    refine ⟨Severity.sortOn (·.severity) ds, Severity.sorts_sortOn _ ds, ?_⟩
    rw [lines_tableBy hwidth hne hds, lines, ← Report.rows, List.forall₂_map_right_iff,
      List.forall₂_same]
    exact fun row hrow => exists_shows_line hwidth hrow
  exact ⟨hby, hby Text.width isDisplayWidth_width⟩

/-- Findings that are not in order, the graver one about a node with a wide name and with nothing to
say. -/
def findings : List Diagnostic :=
  [⟨.warning, .multipleKeys, "p", "two keys"⟩, ⟨.error, .isolated, "社員", " "⟩]

theorem aligned_table_findings :
    findings ≠ [] ∧ (∀ d ∈ findings, OneLine d.element ∧ OneLine d.description) ∧
      Aligned String.length findings (tableBy String.length findings) ∧
      Aligned Text.width findings (table findings) ∧
      table findings =
        "SEVERITY  ELEMENT  KIND           DESCRIPTION\n" ++
          "error     社員     isolated\n" ++
          "warning   p        multiple-keys  two keys\n" := by
  have hne : findings ≠ [] := by decide
  have hds : ∀ d ∈ findings, OneLine d.element ∧ OneLine d.description := by decide
  obtain ⟨hby, htable⟩ := aligned_table hne hds
  refine ⟨hne, hds, hby _ (isDisplayWidth_of_additive String.length_append rfl), htable, ?_⟩
  decide +kernel

end Report

end EntityRelationship
