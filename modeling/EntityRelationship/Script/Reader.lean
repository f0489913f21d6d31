import EntityRelationship.Diagram.Edit
import EntityRelationship.Script.Line

/-!
# Reading a script

A script opens with the line `erGraph`, which may be preceded by blank lines; every further line
draws a node, draws an edge or says nothing. Lines end with a line feed, or with a carriage return
and a line feed, and the last line need not end.

All lines are read before the first element is drawn, so a line that cannot be read is reported
even if an earlier line repeats an id. The edges are numbered in the order of their lines.
-/

namespace EntityRelationship

/-- Why a text is not a script. -/
inductive ScriptFault where
  /-- The text cannot be read further; `excerpt` is the beginning of what is left. -/
  | unexpected (excerpt : String)
  /-- An element cannot be drawn. -/
  | edit (fault : EditFault)
  deriving DecidableEq

namespace Script

/-! ## Cutting a text into lines -/

/-- The first line of a text, without the characters that end it. -/
def firstLine (cs : List Char) : List Char :=
  let line := cs.takeWhile (· != '\n')
  if line.length < cs.length && line.getLast? == some '\r' then line.dropLast else line

/-- What follows the first line of a text. -/
def afterLine (cs : List Char) : List Char :=
  (cs.dropWhile (· != '\n')).tail

theorem length_afterLine_lt {cs : List Char} (h : cs ≠ []) : (afterLine cs).length < cs.length := by
  have hle := (List.dropWhile_suffix (· != '\n') (l := cs)).length_le
  rw [afterLine, List.length_tail]
  have hpos := List.length_pos_iff.2 h
  omega

/-! ## Faults -/

/-- The number of characters that an excerpt shows. -/
def excerptLength : Nat := 40

/-- The beginning of a text: its first line, trimmed, and cut if it is too long. -/
def excerpt (cs : List Char) : String :=
  let line := (Text.trim (String.ofList (firstLine cs))).toList
  if line.length > excerptLength then String.ofList (line.take excerptLength) ++ "..."
  else String.ofList line

/-- The characters that may stand between the last line and the end of the text. -/
def isLayout (c : Char) : Bool :=
  isSpace c || c == '\n' || c == '\r'

/-- The outcome at a place where no further line can be read: nothing but layout may be left. -/
def finish (cs : List Char) : Except ScriptFault (List Line) :=
  match cs.dropWhile isLayout with
  | [] => .ok []
  | rest => .error (.unexpected (excerpt rest))

/-- The part of a text that is left when its first line cannot be read. A comment is read up to
the carriage return that spoils it. -/
def unread (cs : List Char) : List Char :=
  if isComment (firstLine cs) then cs.dropWhile (· != '\r') else cs

/-! ## Reading -/

/-- Reads the lines that follow the opening line. -/
def lines (cs : List Char) : Except ScriptFault (List Line) :=
  if _h : cs = [] then .ok []
  else
    match line? (firstLine cs) with
    | some line => do
      let rest ← lines (afterLine cs)
      return line :: rest
    | none => finish (unread cs)
termination_by cs.length
decreasing_by exact length_afterLine_lt ‹_›

/-- The word that opens a script. -/
def opening : String := "erGraph"

/-- What follows the opening line, or the fault at the place where it breaks off. -/
def afterOpening (cs : List Char) : Except ScriptFault (List Char) :=
  let cs := cs.dropWhile isLayout
  match literal? opening cs with
  | none => .error (.unexpected (excerpt cs))
  | some cs =>
    match skipSpaces cs with
    | [] => .ok []
    | '\n' :: rest => .ok rest
    | '\r' :: '\n' :: rest => .ok rest
    | rest => .error (.unexpected (excerpt rest))

/-- The nodes that a list of lines draws. -/
def nodesOf (ls : List Line) : List Node :=
  ls.filterMap fun
    | .node kind id label equation => some ⟨id, kind, label, equation⟩
    | _ => none

/-- The edges that a list of lines draws, without their ids. -/
def arrowsOf (ls : List Line) : List (String × Arrow × String) :=
  ls.filterMap fun
    | .edge source arrow target => some (source, arrow, target)
    | _ => none

/-- The edges that a list of lines draws, numbered from one. -/
def edgesOf (ls : List Line) : List Edge :=
  (arrowsOf ls).zipIdx.map fun ((source, arrow, target), i) =>
    ⟨s!"edge-{i + 1}", arrow.kind, source, target, arrow.label⟩

/-- Reads the diagram that a script draws. -/
def read (text : String) : Except ScriptFault Diagram := do
  let body ← afterOpening text.toList
  let ls ← lines body
  match Diagram.ofElements (nodesOf ls) (edgesOf ls) with
  | .ok d => .ok d
  | .error fault => .error (.edit fault)

end Script

end EntityRelationship
