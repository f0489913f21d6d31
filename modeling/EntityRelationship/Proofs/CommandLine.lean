import EntityRelationship.CommandLine
import EntityRelationship.Proofs.Diagram.DistinctIds
import EntityRelationship.Proofs.Relational.Redrawing

/-!
# Checking and compiling

The command checks a document or compiles it. Compiling does all that checking does and then some:
it looks whether edges end at nodes before it validates, and it makes the tables afterwards. So what
is compiled passes the check, with the same report. What passes the check may still fail to be
compiled, but only for the two things that validation does not look at, which are edges without an
end and identities that are built on themselves.
-/

namespace EntityRelationship

open Diagram Outcome

variable {d : Diagram} {i : Invocation}

namespace Diagram

/-! ## Faults of a compilation -/

/-- Looking for ends that are no nodes has no other fault than such an end. -/
theorem of_checkReferences_error {f : SynthesisFault} (h : d.checkReferences = .error f) :
    ∃ edge node, f = .danglingEdge edge node := by
  unfold checkReferences at h
  split at h
  · cases h
  · next edge node _ _ =>
    cases h
    exact ⟨edge, node, rfl⟩

/-- A diagram on which nothing blocks is compiled, unless an edge lacks an end or an identity is
built on itself. -/
theorem compile_outcome (hd : d.DistinctIds) (options : CompileOptions)
    (hpasses : d.validate.any (·.blocks options.denyWarnings) = false) :
    (∃ sql, d.compile options = .ok sql) ∨
      ∃ f, d.compile options = .error (.synthesis f) ∧
        ((∃ edge node, f = .danglingEdge edge node) ∧ d.checkReferences = .error f ∨
          (∃ id, f = .identityCycle id) ∧ d.synthesize = .error f) := by
  have haccepted := accepted_of_any_blocks hpasses
  cases hrefs : d.checkReferences with
  | error f =>
    refine .inr ⟨f, ?_, .inl ⟨of_checkReferences_error hrefs, rfl⟩⟩
    rw [compile, compileSchema, hrefs]
    rfl
  | ok =>
    have hschema : d.compileSchema options.denyWarnings =
        d.synthesize.mapError .synthesis := by
      rw [compileSchema, hrefs, hpasses]
      rfl
    rcases (haccepted.faultsIn_synthesize hd).ok_or_error with ⟨schema, hs⟩ | ⟨f, hs, ⟨id, rfl⟩, -⟩
    · refine .inl ⟨schema.ddl options.header, ?_⟩
      rw [compile, hschema, hs]
      rfl
    · refine .inr ⟨.identityCycle id, ?_, .inr ⟨⟨id, rfl⟩, hs⟩⟩
      rw [compile, hschema, hs]
      rfl

end Diagram

namespace Invocation

/-! ## Outcomes for a diagram -/

/-- A check succeeds if nothing blocks. -/
theorem exitCode_checkDiagram (i : Invocation) (d : Diagram) :
    (i.checkDiagram d).exitCode = 0 ↔ d.validate.any (·.blocks i.denyWarnings) = false := by
  rw [checkDiagram]
  cases d.validate.any (·.blocks i.denyWarnings) <;> simp

/-- A compilation succeeds if there are statements, which it prints after the report. -/
theorem of_exitCode_compileDiagram (h : (i.compileDiagram d).exitCode = 0) :
    ∃ sql, d.compile i.options = .ok sql ∧
      i.compileDiagram d = { exitCode := 0, stdout := sql, stderr := Report.table d.validate } := by
  cases hc : d.compile i.options with
  | ok sql => exact ⟨sql, rfl, by rw [compileDiagram, hc]⟩
  | error f =>
    rw [compileDiagram, hc] at h
    cases f <;> cases h

/-- A fault of the synthesis is all that a compilation reports. -/
theorem compileDiagram_of_error {f : SynthesisFault}
    (h : d.compile i.options = .error (.synthesis f)) :
    i.compileDiagram d = .failure f.message := by
  rw [compileDiagram, h]
  rfl

/-- What is compiled passes the check, and the check reports the same. -/
theorem checkDiagram_of_compileDiagram (h : (i.compileDiagram d).exitCode = 0) :
    i.checkDiagram d =
      { exitCode := 0
        stderr := (i.compileDiagram d).stderr ++ Report.summary d.validate ++ "\n" } := by
  obtain ⟨sql, hcompile, hout⟩ := of_exitCode_compileDiagram h
  obtain ⟨-, hpasses, -⟩ := (exists_compile_iff d i.options).1 ⟨sql, hcompile⟩
  have hpasses : d.validate.any (·.blocks i.denyWarnings) = false := hpasses
  rw [hout, checkDiagram]
  simp only [hpasses]
  rfl

/-- What passes the check is compiled, or fails for want of an end or for a cycle. -/
theorem compileDiagram_of_checkDiagram (hd : d.DistinctIds)
    (hcheck : (i.checkDiagram d).exitCode = 0) (h : (i.compileDiagram d).exitCode ≠ 0) :
    ∃ f, i.compileDiagram d = .failure f.message ∧
      ((∃ edge node, f = .danglingEdge edge node) ∧ d.checkReferences = .error f ∨
        (∃ id, f = .identityCycle id) ∧ d.synthesize = .error f) := by
  have hpasses := (exitCode_checkDiagram i d).1 hcheck
  rcases compile_outcome hd i.options hpasses with ⟨sql, hok⟩ | ⟨f, hf, hcause⟩
  · refine absurd ?_ h
    rw [compileDiagram, hok]
  · exact ⟨f, compileDiagram_of_error hf, hcause⟩

/-! ## Outcomes for a text -/

/-- Checking and compiling one text agree. If the text is compiled, the check succeeds, prints
nothing and reports what the compilation reports, followed by the tally. If the check succeeds and
the text is not compiled, the compilation prints nothing and reports one fault, which is an edge
without an end or an identity that is built on itself. -/
theorem outcome_check_compile (i : Invocation) (text : String) :
    let compiled := { i with check := false }.outcome (.ok text)
    let checked := { i with check := true }.outcome (.ok text)
    (compiled.exitCode = 0 → ∃ d, Document.load text = .ok d ∧
      checked = ⟨0, "", compiled.stderr ++ Report.summary d.validate ++ "\n"⟩) ∧
    (checked.exitCode = 0 → compiled.exitCode ≠ 0 → ∃ d f, Document.load text = .ok d ∧
      compiled = ⟨1, "", "ERROR: " ++ f.message ++ "\n"⟩ ∧
      ((∃ edge node, f = .danglingEdge edge node) ∧ d.checkReferences = .error f ∨
        (∃ id, f = .identityCycle id) ∧ d.synthesize = .error f)) := by
  intro compiled checked
  cases hload : Document.load text with
  | error f =>
    -- neither run gets as far as a diagram
    have hcompiled : compiled = .failure f.message := by
      simp only [compiled, outcome, hload]
    have hchecked : checked = .failure f.message := by
      simp only [checked, outcome, hload]
    rw [hcompiled, hchecked]
    constructor
    · intro h
      cases h
    · intro h
      cases h
  | ok d =>
    have hcompiled : compiled = i.compileDiagram d := by
      simp only [compiled, outcome, hload]
      rfl
    have hchecked : checked = i.checkDiagram d := by
      simp only [checked, outcome, hload]
      rfl
    rw [hcompiled, hchecked]
    constructor
    · intro h
      exact ⟨d, rfl, checkDiagram_of_compileDiagram h⟩
    · intro hcheck h
      have hd := Document.distinctIds_of_load hload
      obtain ⟨f, hout, hcause⟩ := compileDiagram_of_checkDiagram hd hcheck h
      exact ⟨d, f, rfl, hout, hcause⟩

/-- A document that is compiled. -/
def complete : String :=
  "erGraph\nentity p \"Person\"\nkey k \"id:INTEGER\"\np --> k\n"

/-- A document that passes the check and is not compiled: an edge leads nowhere. -/
def unfinished : String :=
  complete ++ "p --> q\n"

theorem outcome_check_compile_documents :
    (∃ d, Document.load complete = .ok d ∧
      { check := true : Invocation }.outcome (.ok complete) =
        ⟨0, "", (({} : Invocation).outcome (.ok complete)).stderr ++
          Report.summary d.validate ++ "\n"⟩) ∧
    ∃ f : SynthesisFault,
      ({} : Invocation).outcome (.ok unfinished) = ⟨1, "", "ERROR: " ++ f.message ++ "\n"⟩ := by
  constructor
  · exact (outcome_check_compile {} complete).1 (by decide +kernel)
  · obtain ⟨-, f, -, hout, -⟩ :=
      (outcome_check_compile {} unfinished).2 (by decide +kernel) (by decide +kernel)
    exact ⟨f, hout⟩

end Invocation

end EntityRelationship
