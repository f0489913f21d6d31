import EntityRelationship.Proofs.Sorting
import EntityRelationship.Proofs.Text.Lines
import EntityRelationship.Proofs.Text.Word
import EntityRelationship.Relational.Ddl
import Mathlib.Order.Fin.Basic

/-!
# The structure of written statements

A written schema can be taken apart again. Its paragraphs are the statements of its tables; a statement
has a line at either end and, in between, one line for each column and each constraint, which is
indented and has a comma behind it if another one follows. None of the separators stands by accident in
what they separate: no name or expression has a line feed in it, and every line has a character that is
not blank.
-/

namespace EntityRelationship

open Text

/-! ## Texts in a schema -/

/-- The texts that a column is described with. -/
def Column.strings (c : Column) : List String :=
  c.name :: c.type :: (c.defaultValue.toList ++ c.expression.toList ++ c.check.toList)

/-- The names and conditions in a constraint. -/
def Constraint.strings : Constraint → List String
  | key _ columns => columns
  | foreignKey k => k.table :: (k.columns ++ k.references)
  | check condition => [condition]

/-- All texts in a table. -/
def Table.strings (t : Table) : List String :=
  t.name :: (t.columns.flatMap (·.strings) ++ t.constraints.flatMap (·.strings))

/-- All texts in a schema. -/
def Schema.strings (s : Schema) : List String :=
  s.tables.flatMap (·.strings)

/-! ## Lines of columns -/

namespace Column

variable {c : Column} {clause : String}

theorem oneLine_of_mem_valueClauses (h : ∀ s ∈ c.strings, OneLine s)
    (hclause : clause ∈ c.valueClauses) : OneLine clause := by
  unfold valueClauses at hclause
  split at hclause
  · next expression hexpression =>
    have hline : OneLine expression := h _ (by simp [strings, hexpression])
    rw [List.mem_singleton.1 hclause]
    exact OneLine.append (OneLine.append (by decide) hline) (by decide)
  · rcases List.mem_cons.1 hclause with rfl | hclause
    · split <;> decide
    · rw [Option.mem_toList, Option.map_eq_some_iff] at hclause
      obtain ⟨value, hvalue, rfl⟩ := hclause
      have hline : OneLine value := h _ (by simp [strings, hvalue])
      exact OneLine.append (s := "DEFAULT ") (by decide) hline

/-- The line of a column whose texts fit on a line is one. -/
theorem oneLine_ddl (h : ∀ s ∈ c.strings, OneLine s) : OneLine c.ddl := by
  refine OneLine.intercalate (by decide) fun part hpart => ?_
  rcases List.mem_append.1 hpart with hpart | hpart
  · rcases List.mem_append.1 hpart with hpart | hpart
    · rcases List.mem_append.1 hpart with hname | hclause
      · exact h part (by simp only [strings]; exact List.mem_append_left _ hname)
      · exact oneLine_of_mem_valueClauses h hclause
    · rw [Option.mem_toList, Option.map_eq_some_iff] at hpart
      obtain ⟨kind, -, rfl⟩ := hpart
      cases kind <;> decide
  · rw [Option.mem_toList, Option.map_eq_some_iff] at hpart
    obtain ⟨condition, hcheck, rfl⟩ := hpart
    have hline : OneLine condition := h _ (by simp [strings, hcheck])
    exact OneLine.append (OneLine.append (by decide) hline) (by decide)

/-- A column says whether it needs a value, or else how it is computed. -/
theorem not_allBlank_ddl (c : Column) : ¬ AllBlank c.ddl := by
  have hclause : ∃ clause ∈ c.valueClauses, ¬ AllBlank clause := by
    unfold valueClauses
    split
    · refine ⟨_, List.mem_singleton_self _, fun h => ?_⟩
      have hopening : AllBlank "GENERATED ALWAYS AS (" := h.left.left
      exact absurd hopening (by decide)
    · refine ⟨_, List.mem_cons_self, ?_⟩
      split <;> decide
  obtain ⟨clause, hmem, hclause⟩ := hclause
  exact fun h => hclause (h.of_subset (subset_intercalate (by simp [hmem]) _))

end Column

/-! ## Lines of constraints -/

theorem oneLine_nameList {names : List String} (h : ∀ name ∈ names, OneLine name) :
    OneLine (nameList names) :=
  (OneLine.append (by decide) (OneLine.intercalate (by decide) h)).append (by decide)

namespace Constraint

variable {k : Constraint}

/-- The line of a constraint whose texts fit on a line is one. -/
theorem oneLine_ddl (h : ∀ s ∈ k.strings, OneLine s) : OneLine k.ddl := by
  cases k with
  | key kind columns =>
    have hkind : OneLine kind.text := by cases kind <;> decide
    exact (hkind.append (by decide)).append (oneLine_nameList h)
  | foreignKey k =>
    obtain ⟨htable, hnames⟩ := List.forall_mem_cons.1 h
    obtain ⟨hcolumns, hreferences⟩ := List.forall_mem_append.1 hnames
    have hcascade : OneLine (if k.cascade then " ON DELETE CASCADE" else "") := by
      split <;> decide
    have hclause : OneLine ("FOREIGN KEY " ++ nameList k.columns ++ " REFERENCES " ++ k.table) :=
      ((OneLine.append (by decide) (oneLine_nameList hcolumns)).append (by decide)).append htable
    exact ((hclause.append (by decide)).append (oneLine_nameList hreferences)).append hcascade
  | check condition =>
    have hline : OneLine condition := h _ List.mem_cons_self
    exact OneLine.append (OneLine.append (by decide) hline) (by decide)

/-- A constraint begins with its keyword. -/
theorem not_allBlank_ddl (k : Constraint) : ¬ AllBlank k.ddl := by
  intro h
  cases k with
  | key kind columns =>
    have hkind : ¬ AllBlank kind.text := by cases kind <;> decide
    exact hkind (AllBlank.left (AllBlank.left h))
  | foreignKey k =>
    have hclause : AllBlank ("FOREIGN KEY " ++ nameList k.columns ++ " REFERENCES " ++ k.table) :=
      AllBlank.left (AllBlank.left (AllBlank.left h))
    exact absurd hclause.left.left.left (by decide)
  | check condition =>
    have hopening : AllBlank "CHECK (" := AllBlank.left (AllBlank.left h)
    exact absurd hopening (by decide)

/-- Constraints are written primary key, other keys, foreign keys and checks, and those of a class in
the order of the table. -/
theorem sorts_byRank (ks : List Constraint) : Sorts rank ks (byRank ks) :=
  sorts_flatMap_filter (List.pairwise_lt_finRange 4) List.mem_finRange ks

end Constraint

/-! ## Statements -/

/-- Lines with a comma behind each but the last. -/
def separated : List String → List String
  | [] => []
  | [l] => [l]
  | l :: l' :: ls => (l ++ ",") :: separated (l' :: ls)

theorem separated_ne_nil {ls : List String} (h : ls ≠ []) : separated ls ≠ [] := by
  rcases ls with _ | ⟨l, _ | ⟨l', ls⟩⟩
  · exact absurd rfl h
  · exact List.cons_ne_nil _ _
  · exact List.cons_ne_nil _ _

/-- A line that is separated is a line, with or without a comma behind it. -/
theorem exists_of_mem_separated {ls : List String} {line : String} (h : line ∈ separated ls) :
    ∃ l ∈ ls, line = l ∨ line = l ++ "," := by
  induction ls with
  | nil => cases h
  | cons l ls ih =>
    cases ls with
    | nil => exact ⟨l, List.mem_cons_self, .inl (List.mem_singleton.1 h)⟩
    | cons l' ls =>
      rcases List.mem_cons.1 h with rfl | h
      · exact ⟨l, List.mem_cons_self, .inr rfl⟩
      · obtain ⟨l₁, hl₁, hline⟩ := ih h
        exact ⟨l₁, List.mem_cons_of_mem l hl₁, hline⟩

theorem ofLines_separated {ls : List String} (h : ls ≠ []) :
    ofLines (separated ls) = ",\n".intercalate ls ++ "\n" := by
  induction ls with
  | nil => exact absurd rfl h
  | cons l ls ih =>
    cases ls with
    | nil => simp [separated]
    | cons l' ls =>
      have hcomma : ",\n" = "," ++ "\n" := rfl
      rw [separated, ofLines_cons, ih (List.cons_ne_nil l' ls), String.intercalate_cons_cons, hcomma]
      simp only [String.append_assoc]

/-- The entries in some lines: what is left of each line without the indent in front and, if another
line follows, without the comma behind. There is no answer if one of these is not there. -/
def entries? : List String → Option (List String)
  | [] => some []
  | l :: ls => do
    let l ← if ls = [] then some l else before? "," l
    let entry ← after? "    " l
    let rest ← entries? ls
    return entry :: rest

/-- Entries that are indented and separated are read again. -/
theorem entries?_separated (es : List String) :
    entries? (separated (es.map ("    " ++ ·))) = some es := by
  induction es with
  | nil => rfl
  | cons e es ih =>
    cases es with
    | nil => simp [separated, entries?]
    | cons e' es =>
      have hne : separated ((e' :: es).map ("    " ++ ·)) ≠ [] := separated_ne_nil (by simp)
      have hcons : separated ((e :: e' :: es).map ("    " ++ ·)) =
          ("    " ++ e ++ ",") :: separated ((e' :: es).map ("    " ++ ·)) := rfl
      rw [hcons, entries?, ih, if_neg hne]
      simp

namespace Table

variable {t : Table}

/-- The statement of a table, line by line. -/
def statement (t : Table) : List String :=
  ("CREATE TABLE " ++ t.name ++ " (") :: (separated (t.lines.map ("    " ++ ·)) ++ [");"])

theorem lines_ne_nil (h : t.columns ≠ [] ∨ t.constraints ≠ []) : t.lines ≠ [] := by
  rcases h with hcolumns | hconstraints
  · simp [lines, hcolumns]
  · obtain ⟨k, hk⟩ := List.exists_mem_of_ne_nil _ hconstraints
    exact List.ne_nil_of_mem
      (List.mem_append_right _ (List.mem_map_of_mem (Constraint.mem_byRank.2 hk)))

theorem ddl_newline (h : t.lines ≠ []) : t.ddl ++ "\n" = ofLines t.statement := by
  have hentries : t.lines.map ("    " ++ ·) ≠ [] := by simpa using h
  calc t.ddl ++ "\n"
      = "CREATE TABLE " ++ t.name ++ (" (" ++ "\n") ++
          ",\n".intercalate (t.lines.map ("    " ++ ·)) ++ ("\n" ++ ");") ++ "\n" := rfl
    _ = "CREATE TABLE " ++ t.name ++ " (" ++ "\n" ++
          ((",\n".intercalate (t.lines.map ("    " ++ ·)) ++ "\n") ++ (");" ++ "\n" ++ "")) := by
      simp only [String.append_assoc, String.append_empty]
    _ = ofLines t.statement := by
      rw [statement, ofLines_cons, ofLines_append, ofLines_separated hentries, ofLines_cons,
        ofLines_nil]

/-- The lines of a statement make up the statement. -/
theorem intercalate_statement (h : t.lines ≠ []) : "\n".intercalate t.statement = t.ddl := by
  have hlines : "\n".intercalate t.statement ++ "\n" = ofLines t.statement :=
    intercalate_newline (List.cons_ne_nil _ _)
  rw [← ddl_newline h] at hlines
  exact (String.append_left_inj "\n").1 hlines

/-- A line between the first and the last is that of a column or a constraint, indented and perhaps
with a comma behind it. -/
theorem exists_of_mem_statement {line : String} (h : line ∈ t.statement) :
    line = "CREATE TABLE " ++ t.name ++ " (" ∨ line = ");" ∨
      ∃ l ∈ t.lines, line = "    " ++ l ∨ line = "    " ++ l ++ "," := by
  rcases List.mem_cons.1 h with h | h
  · exact .inl h
  · rcases List.mem_append.1 h with h | h
    · obtain ⟨indented, hmem, hline⟩ := exists_of_mem_separated h
      obtain ⟨l, hl, rfl⟩ := List.mem_map.1 hmem
      exact .inr (.inr ⟨l, hl, hline⟩)
    · exact .inr (.inl (List.mem_singleton.1 h))

theorem oneLine_of_mem_lines (h : ∀ s ∈ t.strings, OneLine s) {l : String} (hl : l ∈ t.lines) :
    OneLine l := by
  obtain ⟨-, hparts⟩ := List.forall_mem_cons.1 h
  obtain ⟨hcolumns, hconstraints⟩ := List.forall_mem_append.1 hparts
  rcases List.mem_append.1 hl with hl | hl
  · obtain ⟨c, hc, rfl⟩ := List.mem_map.1 hl
    exact Column.oneLine_ddl fun s hs => hcolumns s (List.mem_flatMap.2 ⟨c, hc, hs⟩)
  · obtain ⟨k, hk, rfl⟩ := List.mem_map.1 hl
    rw [Constraint.mem_byRank] at hk
    exact Constraint.oneLine_ddl fun s hs => hconstraints s (List.mem_flatMap.2 ⟨k, hk, hs⟩)

theorem not_allBlank_of_mem_lines {l : String} (hl : l ∈ t.lines) : ¬ AllBlank l := by
  rcases List.mem_append.1 hl with hl | hl
  · obtain ⟨c, -, rfl⟩ := List.mem_map.1 hl
    exact c.not_allBlank_ddl
  · obtain ⟨k, -, rfl⟩ := List.mem_map.1 hl
    exact k.not_allBlank_ddl

/-- No line feed stands in a line of a statement. -/
theorem oneLine_of_mem_statement (h : ∀ s ∈ t.strings, OneLine s) {line : String}
    (hline : line ∈ t.statement) : OneLine line := by
  rcases exists_of_mem_statement hline with rfl | rfl | ⟨l, hl, hline⟩
  · exact (OneLine.append (by decide) (h _ List.mem_cons_self)).append (by decide)
  · decide
  · have hindented : OneLine ("    " ++ l) := OneLine.append (by decide) (oneLine_of_mem_lines h hl)
    rcases hline with rfl | rfl
    · exact hindented
    · exact hindented.append (by decide)

/-- No line of a statement is blank. -/
theorem not_allBlank_of_mem_statement {line : String} (hline : line ∈ t.statement) :
    ¬ AllBlank line := by
  intro h
  rcases exists_of_mem_statement hline with rfl | rfl | ⟨l, hl, hline⟩
  · exact absurd h.left.left (by decide)
  · exact absurd h (by decide)
  · refine not_allBlank_of_mem_lines hl ?_
    rcases hline with rfl | rfl
    · exact h.right
    · exact h.left.right

end Table

/-! ## Schemas -/

namespace Schema

variable {s : Schema} {blank : String → Bool}

/-- The statements of some tables, with an empty line between two of them. -/
theorem intercalate_ddl {ts : List Table} (hne : ts ≠ []) (hfull : ∀ t ∈ ts, t.lines ≠ []) :
    "\n\n".intercalate (ts.map (·.ddl)) ++ "\n" =
      ofLines ([""].intercalate (ts.map (·.statement))) := by
  induction ts with
  | nil => exact absurd rfl hne
  | cons t ts ih =>
    obtain ⟨ht, hfull⟩ := List.forall_mem_cons.1 hfull
    cases ts with
    | nil =>
      simp only [List.map_cons, List.map_nil, String.intercalate_singleton,
        List.intercalate_singleton]
      exact Table.ddl_newline ht
    | cons t' ts =>
      have hgap : "\n\n" = "\n" ++ "\n" := rfl
      have hrest := ih (List.cons_ne_nil t' ts) hfull
      simp only [List.map_cons] at hrest ⊢
      rw [String.intercalate_cons_cons, List.intercalate_cons_cons, ofLines_append, ofLines_append,
        ← hrest, ← Table.ddl_newline ht, hgap]
      simp [String.append_assoc]

/-- Without a header, a schema is the text of its statements, line by line. -/
theorem ddl_false_eq_ofLines (hfull : ∀ t ∈ s.tables, t.lines ≠ []) :
    s.ddl false = ofLines ([""].intercalate (s.tables.map (·.statement))) := by
  rw [ddl, if_neg Bool.false_ne_true, String.empty_append, statements]
  by_cases htables : s.tables = []
  · simp [htables]
  · rw [if_neg htables, intercalate_ddl htables hfull]

/-- The paragraphs of a schema are the statements of its tables. -/
theorem paragraphs_ddl (hlines : ∀ x ∈ s.strings, OneLine x)
    (hfull : ∀ t ∈ s.tables, t.lines ≠ []) (hempty : blank "" = true)
    (hblank : ∀ l, blank l = true → AllBlank l) :
    paragraphs blank (s.ddl false) = s.tables.map (·.statement) := by
  rw [ddl_false_eq_ofLines hfull]
  refine paragraphs_ofLines hempty ?_ ?_ ?_
  · intro p hp
    obtain ⟨t, -, rfl⟩ := List.mem_map.1 hp
    exact List.cons_ne_nil _ _
  · intro p hp l hl
    obtain ⟨t, ht, rfl⟩ := List.mem_map.1 hp
    exact Table.oneLine_of_mem_statement (fun x hx => hlines x (List.mem_flatMap.2 ⟨t, ht, hx⟩)) hl
  · intro p hp l hl
    obtain ⟨t, -, rfl⟩ := List.mem_map.1 hp
    exact Bool.eq_false_iff.2 fun h => Table.not_allBlank_of_mem_statement hl (hblank l h)

/-- A schema whose texts have no line feed in them and whose tables are not empty is written as one
statement for each table, in their order, and these are its paragraphs, whichever lines without a
visible character count as blank. Between the first and the last line of a statement stand the columns
in their order and then the constraints: primary key, other keys, foreign keys and checks, those of a
class in their order. A header states the number of tables and is followed by an empty line. -/
theorem forall₂_paragraphs_ddl (hlines : ∀ x ∈ s.strings, OneLine x)
    (hfull : ∀ t ∈ s.tables, t.columns ≠ [] ∨ t.constraints ≠ []) (hempty : blank "" = true)
    (hblank : ∀ l, blank l = true → AllBlank l) :
    List.Forall₂
      (fun (t : Table) p =>
        "\n".intercalate p = t.ddl ∧
        entries? p.tail.dropLast =
          some (t.columns.map (·.ddl) ++ (Constraint.byRank t.constraints).map (·.ddl)) ∧
        Sorts Constraint.rank t.constraints (Constraint.byRank t.constraints))
      s.tables (paragraphs blank (s.ddl false)) ∧
    s.ddl true =
      "-- Generated by ersql\n" ++ ("-- " ++ toString s.tables.length ++ " tables\n") ++ "\n" ++
        s.ddl false := by
  have hfull' : ∀ t ∈ s.tables, t.lines ≠ [] := fun t ht => Table.lines_ne_nil (hfull t ht)
  constructor
  · rw [paragraphs_ddl hlines hfull' hempty hblank, List.forall₂_map_right_iff, List.forall₂_same]
    intro t ht
    have hentries : entries? t.statement.tail.dropLast = some t.lines := by
      rw [Table.statement, List.tail_cons, List.dropLast_concat, entries?_separated]
    exact ⟨Table.intercalate_statement (hfull' t ht), hentries, Constraint.sorts_byRank _⟩
  · have hgap : " tables\n\n" = " tables\n" ++ "\n" := rfl
    have hopening : "-- Generated by ersql\n-- " = "-- Generated by ersql\n" ++ "-- " := rfl
    show "-- Generated by ersql\n-- " ++ toString s.tables.length ++ " tables\n\n" ++ s.statements = _
    rw [hgap, hopening, ddl, if_neg Bool.false_ne_true, String.empty_append]
    simp only [String.append_assoc]

/-- A table without constraints, with a default that ends in a comma, and one whose constraints are out
of order. -/
def orders : Schema where
  tables :=
    [⟨"customer",
      [{ name := "id", type := "INTEGER", key := some .primary },
        { name := "name", type := "TEXT", defaultValue := some "'Doe, John'," }], []⟩,
    ⟨"order", [{ name := "customer_id", type := "INTEGER" }, { name := "day", type := "DATE" }],
      [.check "day > 0", .foreignKey ⟨["customer_id"], "customer", ["id"], true⟩, .check "",
        .key .primary ["customer_id", "day"]]⟩]

theorem forall₂_paragraphs_ddl_orders :
    (∀ x ∈ orders.strings, OneLine x) ∧
      (∀ t ∈ orders.tables, t.columns ≠ [] ∨ t.constraints ≠ []) ∧
      ∃ p q, paragraphs (·.toList.all isBlank) (orders.ddl false) = [p, q] ∧
        entries? p.tail.dropLast =
          some ["id INTEGER NOT NULL PRIMARY KEY", "name TEXT NOT NULL DEFAULT 'Doe, John',"] ∧
        entries? q.tail.dropLast =
          some ["customer_id INTEGER NOT NULL", "day DATE NOT NULL",
            "PRIMARY KEY (customer_id, day)",
            "FOREIGN KEY (customer_id) REFERENCES customer (id) ON DELETE CASCADE",
            "CHECK (day > 0)", "CHECK ()"] := by
  have hlines : ∀ x ∈ orders.strings, OneLine x := by decide
  have hfull : ∀ t ∈ orders.tables, t.columns ≠ [] ∨ t.constraints ≠ [] := by decide
  obtain ⟨hstatements, -⟩ :
      List.Forall₂ _ orders.tables (paragraphs (·.toList.all isBlank) (orders.ddl false)) ∧ _ :=
    forall₂_paragraphs_ddl hlines hfull rfl fun l h => List.all_eq_true.1 h
  refine ⟨hlines, hfull, ?_⟩
  generalize paragraphs (·.toList.all isBlank) (orders.ddl false) = ps at hstatements ⊢
  obtain ⟨p, ps, ⟨-, hp, -⟩, hrest, rfl⟩ := List.forall₂_cons_left_iff.1 hstatements
  obtain ⟨q, ps, ⟨-, hq, -⟩, hnone, rfl⟩ := List.forall₂_cons_left_iff.1 hrest
  cases hnone
  refine ⟨p, q, rfl, hp.trans ?_, hq.trans ?_⟩ <;> decide

end Schema

end EntityRelationship
