import EntityRelationship.Diagram.Neighbor
import EntityRelationship.Text.Search

/-!
# Cardinalities

A weighted edge carries a participation such as `(0..N)`: how often an entity takes part in a
relation, at least and at most. A relation is classified by how many of its weighted edges have
no upper bound.
-/

namespace EntityRelationship

/-! ## Participations -/

/-- How often an entity takes part in a relation. -/
structure Participation where
  min : Nat
  /-- The upper bound, or `none` for `N`. -/
  max : Option Nat
  deriving DecidableEq

namespace Participation

/-- Whether every entity takes part. -/
def isMandatory (p : Participation) : Bool :=
  1 ≤ p.min

/-- The greatest number that a label may give. -/
def greatest : Nat := 4294967295

/-- A list without the parentheses around it, if both are there. -/
def unwrap : List Char → List Char
  | '(' :: cs => if cs.getLast? = some ')' then cs.dropLast else '(' :: cs
  | cs => cs

/-- The upper bound of a label, which is `N` or a number. -/
def max? (s : String) : Option (Option Nat) :=
  if s = "N" then some none else (Text.numeral? greatest s).map some

/-- Reads a label: two bounds with two dots between them, with or without parentheses, and with
blanks anywhere around the parts. A number as upper bound is at least one and at least the lower
bound. -/
def parse? (label : String) : Option Participation := do
  let inner := String.ofList (unwrap (Text.trim label).toList)
  let (low, high) ← Text.cut ".." inner
  let min ← Text.numeral? greatest (Text.trim low)
  let max ← max? (Text.trim high)
  if max.all fun m => 1 ≤ m && min ≤ m then some ⟨min, max⟩ else none

/-- The text of an upper bound. -/
def maxText : Option Nat → String
  | none => "N"
  | some m => toString m

/-- The label of a participation. -/
def text (p : Participation) : String :=
  s!"({p.min}..{maxText p.max})"

end Participation

/-- Whether a label has no upper bound, as told by the text `..N` in it. -/
def isMany (label : String) : Bool :=
  Text.occurs "..N" label

namespace Edge

/-- The cardinality text of an edge, which is empty for an edge that is not weighted. -/
def cardinalityLabel (e : Edge) : String :=
  if e.kind = .weighted then e.label.getD "" else ""

/-- The participation of an edge, if its label gives one. -/
def participation? (e : Edge) : Option Participation :=
  Participation.parse? e.cardinalityLabel

/-- Whether the entity of an edge must take part in the relation. -/
def isMandatory (e : Edge) : Bool :=
  e.participation?.any (·.isMandatory)

end Edge

/-! ## Classes of relations -/

/-- The class of a relation. -/
inductive Cardinality where
  /-- The relation has no weighted edge. -/
  | unrelated
  | oneToOne
  | oneToMany
  | manyToMany
  deriving DecidableEq

namespace Cardinality

/-- The class as messages write it. -/
def text : Cardinality → String
  | unrelated => "-"
  | oneToOne => "1:1"
  | oneToMany => "1:N"
  | manyToMany => "N:M"

/-- The class of a relation with the given labels: it is decided by the number of labels without
an upper bound. -/
def ofLabels (labels : List String) : Cardinality :=
  if labels = [] then unrelated
  else
    match labels.countP isMany with
    | 0 => oneToOne
    | 1 => oneToMany
    | _ => manyToMany

end Cardinality

/-- The class of a relation. Every weighted edge counts, whatever its other end is. -/
def Diagram.cardinality (d : Diagram) (relation : String) : Cardinality :=
  .ofLabels (((d.edgesTouching relation).filter (·.kind == .weighted)).map (·.cardinalityLabel))

end EntityRelationship
