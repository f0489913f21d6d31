import EntityRelationship.Text.Character
import EntityRelationship.Text.Table.CaseMap

/-!
# Upper and lower case

The full case mappings of a text. Upper case maps each character by itself, and one character
may become several. Lower case does the same, save that a capital sigma that ends a word becomes
a final sigma.
-/

namespace EntityRelationship.Text

/-- The image of a code point: its expansion if it has one, else its image in the run that
covers it, else itself. -/
def caseImage (expansions : List (Nat × List Nat)) (runs : List CaseRun) (n : Nat) : List Nat :=
  match expansions.find? (·.1 == n) with
  | some (_, image) => image
  | none =>
    match runs.find? (·.covers n) with
    | some r => [r.image n]
    | none => [n]

/-- The upper-case form of a character. -/
def upperChar (c : Char) : List Char :=
  (caseImage upperExpansions upperRuns c.toNat).map Char.ofNat

/-- The lower-case form of a character, wherever it stands. -/
def lowerChar (c : Char) : List Char :=
  (caseImage lowerExpansions lowerRuns c.toNat).map Char.ofNat

/-- The text in upper case. -/
def upper (s : String) : String :=
  String.ofList (s.toList.flatMap upperChar)

/-- Whether the first character that is not passed over has a case. -/
def nextIsCased (cs : List Char) : Bool :=
  (cs.dropWhile isCaseIgnorable).head?.any isCased

/-- The lower-case form of a list of characters; `before` holds the characters that precede it,
the nearest first. A capital sigma is final if a character with a case comes before it and none
comes after it. -/
def lowerList (before : List Char) : List Char → List Char
  | [] => []
  | c :: cs =>
    (if c = 'Σ' then (if nextIsCased before && !nextIsCased cs then ['ς'] else ['σ'])
      else lowerChar c) ++ lowerList (c :: before) cs

/-- The text in lower case. -/
def lower (s : String) : String :=
  String.ofList (lowerList [] s.toList)

end EntityRelationship.Text
