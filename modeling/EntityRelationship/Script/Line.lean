import EntityRelationship.Diagram.Basic
import EntityRelationship.Text.Search

/-!
# The lines of a script

A script draws a diagram line by line. A line is blank, or a comment, or draws a node:

    weak-entity order-line "Order line"
    derived total "total:MONEY" = "price * amount"

or draws an edge between two nodes:

    order -(1..N)-> contains

The parts of a line are separated by spaces and tabs, which may also stand at both its ends. The
readers here take the characters of one line, without the characters that end it.
-/

namespace EntityRelationship.Script

/-! ## Lines -/

/-- The arrow of an edge line. -/
inductive Arrow where
  /-- An arrow without text, whose form tells the kind of the edge. -/
  | plain (kind : EdgeKind)
  /-- The arrow of a weighted edge, with the cardinality between its parentheses. -/
  | weighted (cardinality : String)
  deriving DecidableEq

/-- The kind of the edge that an arrow draws. -/
def Arrow.kind : Arrow → EdgeKind
  | plain kind => kind
  | weighted _ => .weighted

/-- The label of the edge that an arrow draws: the trimmed cardinality in parentheses. -/
def Arrow.label : Arrow → Option String
  | plain _ => none
  | weighted cardinality => some s!"({Text.trim cardinality})"

/-- One line of a script. -/
inductive Line where
  /-- A blank line or a comment. -/
  | nothing
  | node (kind : NodeKind) (id label : String) (equation : Option String)
  | edge (source : String) (arrow : Arrow) (target : String)
  deriving DecidableEq

/-! ## Parts of a line -/

/-- The characters that separate the parts of a line. -/
def isSpace (c : Char) : Bool :=
  c == ' ' || c == '\t'

/-- The characters of an id. -/
def isIdChar (c : Char) : Bool :=
  Text.isAlphanumeric c || c == '_' || c == '-' || c == '.'

/-- The characters that may stand between quotation marks. -/
def isQuotable (c : Char) : Bool :=
  c != '"' && c != '\n' && c != '\r'

/-- The characters of a cardinality. -/
def isCardinalityChar (c : Char) : Bool :=
  c != ')' && c != '\n' && c != '\r'

/-- What follows the leading spaces. -/
def skipSpaces (cs : List Char) : List Char :=
  cs.dropWhile isSpace

/-- What follows the leading spaces, of which there must be one at least. -/
def spaces? : List Char → Option (List Char)
  | [] => none
  | c :: cs => if isSpace c then some (skipSpaces cs) else none

/-- The longest run of characters of a class at the front, which must not be empty, and what
follows it. -/
def run? (p : Char → Bool) (cs : List Char) : Option (String × List Char) :=
  match cs.takeWhile p with
  | [] => none
  | run => some (String.ofList run, cs.dropWhile p)

/-- What follows a fixed text. -/
def literal? (text : String) (cs : List Char) : Option (List Char) :=
  if text.toList.isPrefixOf cs then some (cs.drop text.toList.length) else none

/-- An id and what follows it. -/
def id? (cs : List Char) : Option (String × List Char) :=
  run? isIdChar cs

/-- A quoted text and what follows it. It may be empty and cannot hold a quotation mark. -/
def quoted? : List Char → Option (String × List Char)
  | '"' :: cs => do
    let rest ← literal? "\"" (cs.dropWhile isQuotable)
    return (String.ofList (cs.takeWhile isQuotable), rest)
  | _ => none

/-- The end of a line: nothing but spaces. -/
def lineEnd? (cs : List Char) : Option Unit :=
  if skipSpaces cs = [] then some () else none

/-! ## Arrows -/

/-- The arrows without text. None is the beginning of another. -/
def plainArrows : List (String × EdgeKind) :=
  [("-->", .transition), ("-?->", .optional), ("-x->", .constraint .exclusion),
    ("-i->", .constraint .inclusion), ("-d->", .constraint .disjointness),
    ("-o->", .constraint .overlap)]

/-- An arrow without text and what follows it. -/
def plainArrow? (cs : List Char) : Option (Arrow × List Char) :=
  plainArrows.findSome? fun a => (literal? a.1 cs).map fun rest => (.plain a.2, rest)

/-- A weighted arrow and what follows it. -/
def weightedArrow? (cs : List Char) : Option (Arrow × List Char) := do
  let cs ← literal? "-(" cs
  let (cardinality, cs) ← run? isCardinalityChar cs
  let rest ← literal? ")->" cs
  return (.weighted cardinality, rest)

/-- An arrow and what follows it. -/
def arrow? (cs : List Char) : Option (Arrow × List Char) :=
  (plainArrow? cs).or (weightedArrow? cs)

/-! ## Readers of lines -/

/-- Reads a blank line. -/
def blankLine? (cs : List Char) : Option Line := do
  lineEnd? cs
  return .nothing

/-- Whether a line opens as a comment does. -/
def isComment (cs : List Char) : Bool :=
  "%%".toList.isPrefixOf (skipSpaces cs)

/-- Reads a comment. It runs to the end of the line and holds no line-ending character. -/
def comment? (cs : List Char) : Option Line :=
  if isComment cs && cs.all fun c => c != '\n' && c != '\r' then some .nothing else none

/-- Reads the equation that may end a node line, after an equals sign with or without spaces
around it. -/
def equation? (cs : List Char) : Option (Option String) :=
  match skipSpaces cs with
  | '=' :: cs => do
    let (equation, rest) ← quoted? (skipSpaces cs)
    lineEnd? rest
    return some equation
  | [] => some none
  | _ => none

/-- Reads a line that draws a node. -/
def nodeLine? (cs : List Char) : Option Line := do
  let (word, cs) ← id? (skipSpaces cs)
  let kind ← NodeKind.ofKeyword? word
  let cs ← spaces? cs
  let (id, cs) ← id? cs
  let cs ← spaces? cs
  let (label, cs) ← quoted? cs
  let equation ← equation? cs
  return .node kind id label equation

/-- Reads a line that draws an edge. -/
def edgeLine? (cs : List Char) : Option Line := do
  let (source, cs) ← id? (skipSpaces cs)
  let cs ← spaces? cs
  let (arrow, cs) ← arrow? cs
  let cs ← spaces? cs
  let (target, cs) ← id? cs
  lineEnd? cs
  return .edge source arrow target

/-- Reads a line. -/
def line? (cs : List Char) : Option Line :=
  (blankLine? cs).or ((comment? cs).or ((nodeLine? cs).or (edgeLine? cs)))

end EntityRelationship.Script
