import EntityRelationship.CommandLine

/-!
# The program

Reads the document that the arguments name, prints the answer and exits with its code.
-/

namespace EntityRelationship

/-- The number of an error. Some reports give its negative. -/
def errorNumber (code : UInt32) : Nat :=
  min code.toNat (-code).toNat

/-- The fault that a report of the system stands for. -/
def ReadFault.ofReport (report : IO.Error) : ReadFault :=
  match report with
  | .noFileOrDirectory .. => .noSuchFile
  | .permissionDenied .. => .accessDenied
  | .inappropriateType _ code _ => if errorNumber code = 20 then .notDirectory else .isDirectory
  | .invalidArgument _ code _ =>
    if errorNumber code = 36 then .nameTooLong else .other (toString report)
  | _ => .other (toString report)

/-- The content of the document of an invocation. -/
def Invocation.content (i : Invocation) : IO (Except ReadFault String) := do
  try
    let bytes ←
      match i.file with
      | some name => IO.FS.readBinFile name
      | none => (← IO.getStdin).readBinToEnd
    return decodeContent bytes
  catch report => return .error (.ofReport report)

end EntityRelationship

open EntityRelationship in
/-- Answers the arguments. -/
def main (args : List String) : IO UInt32 := do
  let outcome ←
    match Invocation.parse? args with
    | none => pure Outcome.refusal
    | some i => i.outcome <$> i.content
  IO.eprint outcome.stderr
  IO.print outcome.stdout
  return outcome.exitCode.toUInt32
