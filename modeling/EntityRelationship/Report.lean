import EntityRelationship.Diagnostic.Basic
import EntityRelationship.Text.Blank
import EntityRelationship.Text.Width

/-!
# Reports

A report shows diagnostics as a table with a heading, the graver ones first, and tallies them on
one line. The columns of the table are as wide as their widest cell, and no line ends in blanks. The
table is laid out in any measure of texts, and it is shown in the one that counts terminal columns.
-/

namespace EntityRelationship.Report

/-! ## Rows -/

/-- The cells of the heading. -/
def headings : List String :=
  ["SEVERITY", "ELEMENT", "KIND", "DESCRIPTION"]

/-- The cells of a diagnostic. -/
def cells (d : Diagnostic) : List String :=
  [d.severity.name, d.element, d.problem.label, d.description]

/-- The rows of a table: the heading and the diagnostics. -/
def rows (ds : List Diagnostic) : List (List String) :=
  headings :: (Severity.sortOn (·.severity) ds).map cells

/-! ## Columns -/

section Layout

variable (width : String → Nat)

/-- The widths that hold a further row. -/
def widen (widths : List Nat) (row : List String) : List Nat :=
  List.zipWith max widths (row.map width)

/-- The widths of the columns of a table. -/
def columnWidths (rows : List (List String)) : List Nat :=
  rows.foldl (widen width) (headings.map width)

/-- What stands between two columns. -/
def gap : String := "  "

/-- The line of a row. -/
def line (widths : List Nat) (row : List String) : String :=
  Text.trimEnd (gap.intercalate (List.zipWith (Text.padRight width) widths row))

/-- The lines of a table. -/
def lines (ds : List Diagnostic) : List String :=
  let rows := rows ds
  rows.map (line width (columnWidths width rows))

/-- The table of some diagnostics in a given measure. It is empty if there are none. -/
def tableBy (ds : List Diagnostic) : String :=
  if ds = [] then "" else String.join ((lines width ds).map (· ++ "\n"))

end Layout

/-! ## Reports -/

/-- The table of some diagnostics, measured in terminal columns. -/
def table (ds : List Diagnostic) : String :=
  tableBy Text.width ds

/-- The number of diagnostics of a severity. -/
def count (s : Severity) (ds : List Diagnostic) : Nat :=
  ds.countP (·.severity == s)

/-- A number of things. -/
def counted (n : Nat) (thing : String) : String :=
  if n = 1 then s!"{n} {thing}" else s!"{n} {thing}s"

/-- The tally of some diagnostics. Notes are mentioned only if there are any. -/
def summary (ds : List Diagnostic) : String :=
  let notes := count .info ds
  ", ".intercalate <|
    [counted (count .error ds) "error", counted (count .warning ds) "warning"]
      ++ (if notes = 0 then [] else [s!"{notes} info"])

end EntityRelationship.Report
