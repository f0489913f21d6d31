import EntityRelationship.Diagram.Basic
import EntityRelationship.Text.Character
import EntityRelationship.Text.Width

/-!
# Writing a snapshot

A snapshot is written over several lines: each member of an object and each item of an array has
a line of its own, two spaces further in than the brackets around it. Empty arrays stay on their
line. An equation or an edge label that is absent is not written at all, which keeps it apart from
an empty one.
-/

namespace EntityRelationship.Snapshot

/-! ## Quoting -/

/-- A character as it is written between quotation marks. Only quotation marks, backslashes and
control characters are escaped. -/
def quoteChar (c : Char) : List Char :=
  if c = '"' then ['\\', '"']
  else if c = '\\' then ['\\', '\\']
  else if c = '\x08' then ['\\', 'b']
  else if c = '\x0C' then ['\\', 'f']
  else if c = '\n' then ['\\', 'n']
  else if c = '\r' then ['\\', 'r']
  else if c = '\t' then ['\\', 't']
  else if c.toNat < 0x20 then
    ['\\', 'u', '0', '0', Nat.digitChar (c.toNat / 16), Nat.digitChar (c.toNat % 16)]
  else [c]

/-- A text in quotation marks. -/
def quote (s : String) : String :=
  "\"" ++ String.ofList (s.toList.flatMap quoteChar) ++ "\""

/-! ## Brackets -/

/-- Parts between brackets, each on a line of its own. The brackets stand `indent` spaces in. -/
def block (opening closing : String) (indent : Nat) (parts : List String) : String :=
  if parts = [] then opening ++ closing
  else
    opening ++ "\n"
      ++ ",\n".intercalate (parts.map fun part => Text.spaces (indent + 2) ++ part)
      ++ "\n" ++ Text.spaces indent ++ closing

/-- An array. -/
def array : Nat → List String → String :=
  block "[" "]"

/-- An object, given its members. -/
def object : Nat → List String → String :=
  block "\x7b" "\x7d"

/-- A member of an object. -/
def member (key value : String) : String :=
  quote key ++ ": " ++ value

/-! ## Elements -/

/-- A node, whose braces stand `indent` spaces in. -/
def writeNode (indent : Nat) (n : Node) : String :=
  object indent <|
    [member "id" (quote n.id), member "kind" (quote n.kind.name), member "label" (quote n.label)]
      ++ n.equation.toList.map fun e => member "equation" (quote e)

/-- An edge, whose braces stand `indent` spaces in. -/
def writeEdge (indent : Nat) (e : Edge) : String :=
  object indent <|
    [member "id" (quote e.id), member "kind" (quote e.kind.name),
      member "source" (quote e.source), member "target" (quote e.target)]
      ++ e.label.toList.map fun l => member "label" (quote l)

/-- The snapshot of a diagram. -/
def write (d : Diagram) : String :=
  object 0
    [member "nodes" (array 2 (d.nodes.map (writeNode 4))),
      member "edges" (array 2 (d.edges.map (writeEdge 4)))]

end EntityRelationship.Snapshot
