import EntityRelationship.Diagnostic.Validation
import EntityRelationship.Relational.Ddl
import EntityRelationship.Relational.Synthesis
import EntityRelationship.Script.Reader
import EntityRelationship.Snapshot.Reader
import EntityRelationship.Text.Blank

/-!
# From documents to statements

A document is a script or a snapshot of a diagram. Which of the two it is shows in how it begins,
after blanks.

A diagram is compiled into the statements of its schema. Its edges must end at nodes, and no
diagnostic may block; only then are the tables made.
-/

namespace EntityRelationship

/-! ## Loading a document -/

/-- Why a document cannot be loaded. -/
inductive LoadFault where
  /-- The document begins with a word that opens neither format. -/
  | unknownFormat (word : String)
  | script (fault : ScriptFault)
  | snapshot (fault : SnapshotFault)
  deriving DecidableEq

/-- The text of a fault of a script. -/
def ScriptFault.message : ScriptFault → String
  | unexpected excerpt => s!"syntax error in ER graph: unexpected `{excerpt}`"
  | edit fault => fault.message

/-- The text of a fault of a snapshot. The words behind the colon are of its own making: they tell
whether the text is cut off, malformed or no diagram, but not what a reader of the format would say
in its place. In particular no line and no column is given. -/
def SnapshotFault.message : SnapshotFault → String
  | flaw .cutOff => "invalid graph snapshot: unexpected end of the text"
  | flaw .malformed => "invalid graph snapshot: malformed text"
  | mismatch m => s!"invalid graph snapshot: {m.message}"

/-- The text of a fault. -/
def LoadFault.message : LoadFault → String
  | unknownFormat word => s!"unknown document type: {word}"
  | script fault => fault.message
  | snapshot fault => fault.message

namespace Document

/-- The formats of documents. -/
inductive Format where
  | script
  | snapshot
  deriving DecidableEq

/-- The format that a text begins like. -/
def format? (text : String) : Option Format :=
  let cs := Text.dropBlanks text.toList
  if Script.opening.toList.isPrefixOf cs then some .script
  else if cs.head? = some '{' then some .snapshot
  else none

/-- The diagram of a document. -/
def load (text : String) : Except LoadFault Diagram :=
  match format? text with
  | some .script => (Script.read text).mapError .script
  | some .snapshot => (Snapshot.read text).mapError .snapshot
  | none => .error (.unknownFormat ((Text.firstWord? text).getD "(empty)"))

end Document

/-! ## Compiling a diagram -/

/-- The choices of a compilation. -/
structure CompileOptions where
  /-- Whether the statements are preceded by a comment. -/
  header : Bool := true
  /-- Whether warnings block as errors do. -/
  denyWarnings : Bool := false
  deriving DecidableEq

/-- Why a diagram is not compiled. -/
inductive CompileFault where
  /-- Some of the diagnostics block. -/
  | invalid (diagnostics : List Diagnostic)
  | synthesis (fault : SynthesisFault)
  deriving DecidableEq

/-- The text of a fault. -/
def CompileFault.message : CompileFault → String
  | invalid diagnostics => s!"graph failed validation with {diagnostics.length} diagnostic(s)"
  | synthesis fault => fault.message

namespace Diagram

/-- The schema of a diagram that is fit to be compiled. -/
def compileSchema (d : Diagram) (denyWarnings : Bool) : Except CompileFault Schema := do
  d.checkReferences.mapError .synthesis
  if d.validate.any (·.blocks denyWarnings) then .error (.invalid d.validate)
  d.synthesize.mapError .synthesis

/-- The statements of a diagram. -/
def compile (d : Diagram) (options : CompileOptions) : Except CompileFault String := do
  let schema ← d.compileSchema options.denyWarnings
  return schema.ddl options.header

end Diagram

end EntityRelationship
