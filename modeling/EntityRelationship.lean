import EntityRelationship.Text.Blank
import EntityRelationship.Text.Case
import EntityRelationship.Text.Search
import EntityRelationship.Text.Width
import EntityRelationship.Diagram.Edit
import EntityRelationship.Diagram.Fault
import EntityRelationship.Diagram.Identity
import EntityRelationship.Script.Reader
import EntityRelationship.Text.Character
import EntityRelationship.Decimal.Shortest
import EntityRelationship.Snapshot.Reader
import EntityRelationship.Snapshot.Writer
import EntityRelationship.Diagnostic.Validation
import EntityRelationship.Relational.Ddl
import EntityRelationship.Relational.Synthesis
import EntityRelationship.Main
import EntityRelationship.Proofs.Diagnostic.Acceptance
import EntityRelationship.Proofs.Diagram.DistinctIds
import EntityRelationship.Proofs.Diagram.Chain
import EntityRelationship.Proofs.Diagram.Copy
import EntityRelationship.Proofs.Diagram.CopiedIdentity
import EntityRelationship.Proofs.Relational.Growth
import EntityRelationship.Proofs.Relational.Places
import EntityRelationship.Proofs.Relational.Step
import EntityRelationship.Proofs.Relational.Run
import EntityRelationship.Proofs.Relational.TableNames
import EntityRelationship.Proofs.Relational.Copy
import EntityRelationship.Proofs.Diagnostic.Copy
import EntityRelationship.Proofs.Diagnostic.EdgeForm
import EntityRelationship.Proofs.Diagnostic.Classification
import EntityRelationship.Proofs.Diagram.Redrawing
import EntityRelationship.Proofs.Diagnostic.Redrawing
import EntityRelationship.Proofs.Diagnostic.Resolution
import EntityRelationship.Proofs.Relational.Sufficiency
import EntityRelationship.Proofs.Relational.Redrawing
import EntityRelationship.Proofs.Relational.Renaming
import EntityRelationship.Proofs.Relational.Interleaving
import EntityRelationship.Proofs.Relational.Identity
import EntityRelationship.Proofs.Relational.Integrity
import EntityRelationship.Proofs.Relational.FreshName
import EntityRelationship.Proofs.Relational.ColumnsApart
import EntityRelationship.Proofs.Diagram.IdentityChain
import EntityRelationship.Diagram.Store
import EntityRelationship.Proofs.Diagram.Elements
import EntityRelationship.Proofs.Diagram.StoreIndices
import EntityRelationship.Proofs.Script.Grammar
import EntityRelationship.Proofs.Script.Lines
import EntityRelationship.Proofs.Script.Reading
import EntityRelationship.Proofs.Snapshot.RoundTrip
import EntityRelationship.Proofs.CommandLine
import EntityRelationship.Proofs.Relational.Keys
import EntityRelationship.Proofs.Diagram.Trimming
import EntityRelationship.Proofs.Diagram.Members
import EntityRelationship.Proofs.Relational.Answers
import EntityRelationship.Proofs.Relational.Unread
import EntityRelationship.Proofs.Diagnostic.Silence
import EntityRelationship.Proofs.Relational.Columns
import EntityRelationship.Proofs.Relational.FilledKeys
import EntityRelationship.Proofs.Relational.AttributeColumns
import EntityRelationship.Proofs.Relational.Relisting
import EntityRelationship.Proofs.Relational.Placement
import EntityRelationship.Proofs.Diagram.Owners
import EntityRelationship.Proofs.Diagram.Orientation
import EntityRelationship.Proofs.Relational.Junction
import EntityRelationship.Proofs.Relational.Specialization
import EntityRelationship.Proofs.Diagram.DepthFirst
import EntityRelationship.Proofs.Script.Faults
import EntityRelationship.Proofs.Diagram.Removal
import EntityRelationship.Proofs.Text.Word
import EntityRelationship.Proofs.Relational.Tidy
import EntityRelationship.Proofs.Sorting
import EntityRelationship.Proofs.Text.Lines
import EntityRelationship.Proofs.Relational.Statements
import EntityRelationship.Proofs.Diagram.StoreElements
import EntityRelationship.Proofs.Report
import EntityRelationship.Proofs.Text.Padding
import EntityRelationship.Proofs.Text.UpperCase
import EntityRelationship.Proofs.Diagram.CardinalityLabel
import EntityRelationship.Proofs.Diagram.TypedLabel
import EntityRelationship.Proofs.Relational.AppendOnly
