import EntityRelationship.Document
import EntityRelationship.Report

/-!
# The command line

The command reads one document, from a file or from the standard input, and prints the statements
of its schema, or checks it only. Here are the arguments that it takes and the answer that it gives
to the content of the document; nothing here reads or prints.
-/

namespace EntityRelationship

/-! ## Arguments -/

/-- What the arguments ask for. -/
structure Invocation where
  /-- The name of the file to read, or `none` for the standard input. -/
  file : Option String := none
  /-- Whether the document is validated only. -/
  check : Bool := false
  noHeader : Bool := false
  denyWarnings : Bool := false
  deriving DecidableEq

namespace Invocation

/-- The invocation with a file named. No two files may be named, and the name may not be empty. -/
def withFile? (i : Invocation) (name : String) : Option Invocation :=
  if i.file.isSome || name = "" then none else some { i with file := some name }

/-- The invocation with an option set, or `none` if there is no such option or it is set already. -/
def withOption? (i : Invocation) (option : String) : Option Invocation :=
  match option with
  | "--check" => if i.check then none else some { i with check := true }
  | "--no-header" => if i.noHeader then none else some { i with noHeader := true }
  | "--deny-warnings" => if i.denyWarnings then none else some { i with denyWarnings := true }
  | _ => none

/-- Whether an argument is meant as an option. A single dash is a file name. -/
def isOption (arg : String) : Bool :=
  arg != "-" && arg.toList.head? == some '-'

/-- Reads the arguments that are left. After two dashes all of them are file names. -/
def parseFrom (i : Invocation) : List String → Option Invocation
  | [] => some i
  | arg :: args =>
    if arg = "--" then args.foldlM withFile? i
    else
      match if isOption arg then i.withOption? arg else i.withFile? arg with
      | some i => parseFrom i args
      | none => none

/-- Reads the arguments, or refuses them. No argument asks for help: `--help` and `-h` are refused
like any other option that there is not. -/
def parse? (args : List String) : Option Invocation :=
  parseFrom {} args

/-- The choices that an invocation makes for the compilation. -/
def options (i : Invocation) : CompileOptions where
  header := !i.noHeader
  denyWarnings := i.denyWarnings

/-- The name under which messages mention what is read. -/
def sourceName (i : Invocation) : String :=
  i.file.getD "stdin"

end Invocation

/-! ## Content -/

/-- Why the document cannot be read. -/
inductive ReadFault where
  | noSuchFile
  | accessDenied
  /-- A file stands in the path where a directory should. -/
  | notDirectory
  | isDirectory
  | nameTooLong
  /-- The bytes are no text. -/
  | notText
  /-- Anything else that the system reports. -/
  | other (report : String)
  deriving DecidableEq

/-- The text of a fault. -/
def ReadFault.message : ReadFault → String
  | noSuchFile => "No such file or directory (os error 2)"
  | accessDenied => "Permission denied (os error 13)"
  | notDirectory => "Not a directory (os error 20)"
  | isDirectory => "Is a directory (os error 21)"
  | nameTooLong => "File name too long (os error 36)"
  | notText => "stream did not contain valid UTF-8"
  | other report => report

/-- The text of some bytes. -/
def decodeContent (bytes : ByteArray) : Except ReadFault String :=
  match String.fromUTF8? bytes with
  | some text => .ok text
  | none => .error .notText

/-! ## Answers -/

/-- What the command leaves behind. The standard error holds the messages of the answer and nothing
else. No log of the run is kept there: a relation that is skipped for want of weighted edges, for
one, is passed over in silence. -/
structure Outcome where
  exitCode : Nat
  stdout : String := ""
  stderr : String := ""
  deriving DecidableEq

namespace Outcome

/-- The outcome of a run that fails with a message. -/
def failure (message : String) : Outcome :=
  { exitCode := 1, stderr := s!"ERROR: {message}\n" }

/-- The outcome for refused arguments. The usage line is worded here and always the same: it names
neither the argument that is refused nor the reason. -/
def refusal : Outcome :=
  { exitCode := 2,
    stderr := "usage: [--check] [--no-header] [--deny-warnings] [--] [FILE]\n" }

end Outcome

namespace Invocation

/-- The outcome of validating a diagram only. -/
def checkDiagram (i : Invocation) (d : Diagram) : Outcome :=
  let found := d.validate
  { exitCode := if found.any (·.blocks i.denyWarnings) then 1 else 0
    stderr := Report.table found ++ Report.summary found ++ "\n" }

/-- The outcome of compiling a diagram. -/
def compileDiagram (i : Invocation) (d : Diagram) : Outcome :=
  match d.compile i.options with
  | .ok statements => { exitCode := 0, stdout := statements, stderr := Report.table d.validate }
  | .error (.invalid found) =>
    { exitCode := 1, stderr := Report.table found ++ s!"ERROR: {Report.summary found}\n" }
  | .error fault => .failure fault.message

/-- The outcome for the content of the document, if it could be read. -/
def outcome (i : Invocation) : Except ReadFault String → Outcome
  | .error fault => .failure s!"failed to read {i.sourceName}: {fault.message}"
  | .ok text =>
    match Document.load text with
    | .error fault => .failure fault.message
    | .ok d => if i.check then i.checkDiagram d else i.compileDiagram d

end Invocation

end EntityRelationship
