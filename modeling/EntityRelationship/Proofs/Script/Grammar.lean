import EntityRelationship.Diagram.Basic
import EntityRelationship.Text.Blank
import Mathlib.Data.List.Infix

/-!
# The grammar of scripts

What the lines of a script look like and what they draw, said without saying how they are read.
A line is put together from an id, a keyword, an arrow or a quoted text with spaces and tabs around
them. Nothing here says where a part ends if it could also go on; that the parts of a line can be
told apart is a property of the grammar and shows when it is compared with the readers.
-/

namespace EntityRelationship.Script

/-! ## Lines of a text -/

/-- The lines of a text without the characters that end them, which are a line feed or a carriage
return with a line feed. What follows the last of them is a line as well, if only an empty one. -/
def textLines : List Char → List (List Char)
  | [] => [[]]
  | '\n' :: cs => [] :: textLines cs
  | '\r' :: '\n' :: cs => [] :: textLines cs
  | c :: cs => (textLines cs).modifyHead (c :: ·)

/-- Every carriage return stands directly before a line feed. -/
def ReturnsEndLines (cs : List Char) : Prop :=
  ∀ rest, '\r' :: rest <:+ cs → rest.head? = some '\n'

theorem returnsEndLines_iff {cs : List Char} :
    ReturnsEndLines cs ↔ ∀ t ∈ cs.tails, t.head? = some '\r' → t.tail.head? = some '\n' := by
  constructor
  · intro h t ht hreturn
    obtain ⟨rest, rfl⟩ := List.head?_eq_some_iff.1 hreturn
    exact h rest ((List.mem_tails _ _).1 ht)
  · intro h rest hrest
    exact h _ ((List.mem_tails _ _).2 hrest) rfl

instance (cs : List Char) : Decidable (ReturnsEndLines cs) :=
  decidable_of_iff _ returnsEndLines_iff.symm

/-! ## Parts of a line -/

/-- Spaces and tabs, or nothing. -/
def Spaces (cs : List Char) : Prop :=
  ∀ c ∈ cs, c = ' ' ∨ c = '\t'

/-- Spaces and tabs, at least one of them. -/
def Gap (cs : List Char) : Prop :=
  cs ≠ [] ∧ Spaces cs

/-- The texts that may be ids. -/
def IsId (s : String) : Prop :=
  s ≠ "" ∧ ∀ c ∈ s.toList, Text.isAlphanumeric c = true ∨ c = '_' ∨ c = '-' ∨ c = '.'

/-- The texts that may stand between quotation marks. -/
def IsQuotable (s : String) : Prop :=
  '"' ∉ s.toList

/-- A text between quotation marks. -/
def inQuotes (s : String) : List Char :=
  '"' :: (s.toList ++ ['"'])

/-- The arrows of each kind of edges, with the label that the edge gets. -/
inductive ArrowText : EdgeKind → Option String → String → Prop
  | transition : ArrowText .transition none "-->"
  | optional : ArrowText .optional none "-?->"
  | exclusion : ArrowText (.constraint .exclusion) none "-x->"
  | inclusion : ArrowText (.constraint .inclusion) none "-i->"
  | disjointness : ArrowText (.constraint .disjointness) none "-d->"
  | overlap : ArrowText (.constraint .overlap) none "-o->"
  | weighted {cardinality : String} (hne : cardinality ≠ "") (hclose : ')' ∉ cardinality.toList) :
      ArrowText .weighted (some ("(" ++ Text.trim cardinality ++ ")"))
        ("-(" ++ cardinality ++ ")->")

/-- What may stand behind the label of a node. -/
inductive EquationText : Option String → List Char → Prop
  | absent : EquationText none []
  | present {equation : String} {s₁ s₂ : List Char} (h₁ : Spaces s₁) (h₂ : Spaces s₂)
      (hequation : IsQuotable equation) :
      EquationText (some equation) (s₁ ++ '=' :: (s₂ ++ inQuotes equation))

/-! ## Lines -/

/-- The lines that draw nothing: blank lines and comments. -/
inductive SilentLine : List Char → Prop
  | blank {s : List Char} (h : Spaces s) : SilentLine s
  | comment {s : List Char} (h : Spaces s) (text : List Char) : SilentLine (s ++ '%' :: '%' :: text)

/-- The lines that draw a node. -/
inductive NodeLine (n : Node) : List Char → Prop
  | intro {s₀ s₁ s₂ equation s₃ : List Char} (h₀ : Spaces s₀) (h₁ : Gap s₁) (hid : IsId n.id)
      (h₂ : Gap s₂) (hlabel : IsQuotable n.label) (hequation : EquationText n.equation equation)
      (h₃ : Spaces s₃) :
      NodeLine n (s₀ ++ (n.kind.keyword.toList ++ (s₁ ++ (n.id.toList ++ (s₂ ++
        (inQuotes n.label ++ (equation ++ s₃)))))))

/-- The lines that draw an edge, whatever its id. -/
inductive EdgeLine (e : Edge) : List Char → Prop
  | intro {s₀ s₁ s₂ s₃ : List Char} {arrow : String} (h₀ : Spaces s₀) (hsource : IsId e.source)
      (h₁ : Gap s₁) (harrow : ArrowText e.kind e.label arrow) (h₂ : Gap s₂)
      (htarget : IsId e.target) (h₃ : Spaces s₃) :
      EdgeLine e (s₀ ++ (e.source.toList ++ (s₁ ++ (arrow.toList ++ (s₂ ++
        (e.target.toList ++ s₃))))))

/-! ## Scripts -/

/-- Lines draw nodes and edges in their order. The edges are numbered, from a given number on. -/
inductive Draws : Nat → List (List Char) → List Node → List Edge → Prop
  | nil {k : Nat} : Draws k [] [] []
  | silent {k : Nat} {line : List Char} {lines : List (List Char)} {nodes : List Node}
      {edges : List Edge} (hline : SilentLine line) (hrest : Draws k lines nodes edges) :
      Draws k (line :: lines) nodes edges
  | node {k : Nat} {line : List Char} {lines : List (List Char)} {nodes : List Node}
      {edges : List Edge} {n : Node} (hline : NodeLine n line)
      (hrest : Draws k lines nodes edges) :
      Draws k (line :: lines) (n :: nodes) edges
  | edge {k : Nat} {line : List Char} {lines : List (List Char)} {nodes : List Node}
      {edges : List Edge} {e : Edge} (hline : EdgeLine e line) (hid : e.id = s!"edge-{k}")
      (hrest : Draws (k + 1) lines nodes edges) :
      Draws k (line :: lines) nodes (e :: edges)

/-- The lines of a script are blank lines, then the opening line, and then lines that draw nodes
and edges. -/
inductive IsScript : List (List Char) → List Node → List Edge → Prop
  | blank {line : List Char} {lines : List (List Char)} {nodes : List Node} {edges : List Edge}
      (hline : Spaces line) (hrest : IsScript lines nodes edges) :
      IsScript (line :: lines) nodes edges
  | opening {s₀ s₁ : List Char} {lines : List (List Char)} {nodes : List Node}
      {edges : List Edge} (h₀ : Spaces s₀) (h₁ : Spaces s₁) (hrest : Draws 1 lines nodes edges) :
      IsScript ((s₀ ++ ("erGraph".toList ++ s₁)) :: lines) nodes edges

end EntityRelationship.Script
