import ClassInference.Main
import ClassInference.Workspace
import ClassInference.Proofs.Nodes
import ClassInference.Proofs.Inheritance.Links
import ClassInference.Proofs.Inheritance.Operations
import ClassInference.Proofs.Inheritance.Merging
import ClassInference.Proofs.Inheritance.Redirecting
import ClassInference.Proofs.Inheritance.Moving
import ClassInference.Proofs.Inheritance.Folding
import ClassInference.Proofs.Edits
import ClassInference.Proofs.Inheritance.Runs
import ClassInference.Proofs.Contents
import ClassInference.Proofs.Fields.Keyed
import ClassInference.Proofs.Fields.Overlay
import ClassInference.Proofs.Fields.Views
import ClassInference.Proofs.Members
import ClassInference.Proofs.Fields.Parameters
import ClassInference.Proofs.CommonType
import ClassInference.Proofs.Documents.Sightings
import ClassInference.Proofs.Documents.Objects
import ClassInference.Proofs.Documents.SightedValues
import ClassInference.Proofs.Documents.Leaves
import ClassInference.Proofs.Documents.Described
import ClassInference.Proofs.Documents.Meaning
import ClassInference.Proofs.Tables
import ClassInference.Proofs.Fields.Merged
import ClassInference.Proofs.Documents.Absorbed
import ClassInference.Proofs.Identities
import ClassInference.Proofs.Consistency
import ClassInference.Proofs.FinishedGraph
import ClassInference.Proofs.Order.Alike
import ClassInference.Proofs.Order.Documents
import ClassInference.Proofs.Order.Edits
import ClassInference.Proofs.Order.Descriptions
import ClassInference.Proofs.Order.Generators
import ClassInference.Proofs.TypeRenames.Moves
import ClassInference.Proofs.TypeRenames.Effect
import ClassInference.Proofs.TypeRenames.PrimitiveNames
import ClassInference.Proofs.TypeNames
import ClassInference.Proofs.References.Documents
import ClassInference.Proofs.References.Rules
import ClassInference.Proofs.Fields.Owners
import ClassInference.Proofs.Fields.Gathered
import ClassInference.Proofs.TypeRenames.Losses
import ClassInference.Proofs.Sources.DeclaredKeys
import ClassInference.Proofs.Sources.Imports
import ClassInference.Proofs.Sources.Spellings
import ClassInference.Proofs.RuleOrder.RuleSets
import ClassInference.Proofs.Sources.WireNames
import ClassInference.Proofs.Documents.Growth
import ClassInference.Proofs.Doubling
import ClassInference.Proofs.MemberNames
import ClassInference.Proofs.CapitalForms
import ClassInference.Proofs.Sources.Identifiers
import ClassInference.Proofs.Layouts.Strips
import ClassInference.Proofs.Layouts.Brackets
import ClassInference.Proofs.Layouts.Widths
import ClassInference.Proofs.Layouts.Indentation
import ClassInference.Proofs.Layouts.Verbatim
import ClassInference.Proofs.Sources.Headers
import ClassInference.Proofs.NumberTypes
import ClassInference.Proofs.Fields.Changes
import ClassInference.Proofs.TypeRenames.Raised
import ClassInference.Proofs.TypeRenames.ReservedNodes
import ClassInference.Proofs.Sources.Substitutions
import ClassInference.Proofs.Sources.Annotations
import ClassInference.Proofs.KeyNames
import ClassInference.Proofs.Inheritance.Walks
