import EntityRelationship.Decimal.Shortest
import EntityRelationship.Diagram.Edit
import EntityRelationship.Snapshot.Token
import EntityRelationship.Text.Character

/-!
# Faults of a snapshot

A text may fail to be a snapshot in two ways: it may be no well-formed text of objects and arrays
at all, or it may be one that does not describe a diagram.
-/

namespace EntityRelationship

namespace Snapshot

/-- What stands in a place where it does not fit. -/
inductive Found where
  | null
  | bool (b : Bool)
  | number (n : Number)
  | text (s : String)
  | array
  | object
  deriving DecidableEq

/-- What is expected in a place. -/
inductive Expected where
  | text
  | array
  | node
  | edge
  /-- The value of a kind that is written as the only key of an object. -/
  | nothing
  deriving DecidableEq

/-- A text of a number as a message shows it. -/
def Number.phrase : Number → String
  | integer n => s!"integer `{n}`"
  | floating negative magnitude =>
    let sign := if negative then "-" else ""
    s!"floating point `{sign}{(Decimal.shortest magnitude).text}`"

/-- What is found, as a message shows it. -/
def Found.phrase : Found → String
  | null => "null"
  | bool b => s!"boolean `{b}`"
  | number n => n.phrase
  | text s => s!"string {Text.showQuoted s}"
  | array => "sequence"
  | object => "map"

/-- What is expected, as a message shows it. -/
def Expected.phrase : Expected → String
  | text => "a string"
  | array => "a sequence"
  | node => "struct Node"
  | edge => "struct Edge"
  | nothing => "unit"

/-- Why a well-formed text does not describe a diagram. -/
inductive Mismatch where
  | wrongType (found : Found) (expected : Expected)
  /-- An array stands for an element and has too few fields. -/
  | tooShort (length : Nat) (expected : Expected) (size : Nat)
  | missingField (name : String)
  | duplicateField (name : String)
  | unknownKind (name : String) (known : List String)
  | edit (fault : EditFault)
  deriving DecidableEq

/-- The text of a mismatch. -/
def Mismatch.message : Mismatch → String
  | wrongType found expected => s!"invalid type: {found.phrase}, expected {expected.phrase}"
  | tooShort length expected size =>
    s!"invalid length {length}, expected {expected.phrase} with {size} elements"
  | missingField name => s!"missing field `{name}`"
  | duplicateField name => s!"duplicate field `{name}`"
  | unknownKind name known =>
    let known := ", ".intercalate (known.map fun k => s!"`{k}`")
    s!"unknown variant `{name}`, expected one of {known}"
  | edit fault => fault.message

end Snapshot

/-- Why a text is not a snapshot. -/
inductive SnapshotFault where
  | flaw (flaw : Snapshot.Flaw)
  | mismatch (mismatch : Snapshot.Mismatch)
  deriving DecidableEq

end EntityRelationship
