import SchemaClasses.Main
import SchemaClasses.Proofs.Build.Termination
import SchemaClasses.Proofs.Build.WellFormed
import SchemaClasses.Proofs.Document.Load
import SchemaClasses.Proofs.Build.Transparency
import SchemaClasses.Proofs.Recursion
import SchemaClasses.Proofs.Hazards
import SchemaClasses.Proofs.Emission
import SchemaClasses.Proofs.Emit.Imports
import SchemaClasses.Proofs.Emit.Lookup
import SchemaClasses.Proofs.Document.Designation
import SchemaClasses.Emit.Backend
import SchemaClasses.Proofs.Emit.Backend
import SchemaClasses.Proofs.Output.Capture
import SchemaClasses.Proofs.Session
import SchemaClasses.Proofs.Emit.Guards
import SchemaClasses.Proofs.Emit.Construction
import SchemaClasses.Proofs.Emit.Inheritance
import SchemaClasses.Proofs.Selection
import SchemaClasses.Proofs.Document.Address
import SchemaClasses.Proofs.Document.Reentry
import SchemaClasses.Proofs.Build.Progress
import SchemaClasses.Proofs.Build.Extensions
import SchemaClasses.Proofs.Build.Choices
import SchemaClasses.Proofs.Emit.Typed
import SchemaClasses.Proofs.Emit.Presence
import SchemaClasses.Proofs.Build.Bounds
import SchemaClasses.Proofs.Build.Items
import SchemaClasses.Proofs.Emit.Comparison
import SchemaClasses.Proofs.Emit.NullSafety
import SchemaClasses.Proofs.Emit.ValueEquality
import SchemaClasses.Proofs.Emit.Ancestry
import SchemaClasses.Proofs.Emit.MemberNames
import SchemaClasses.Proofs.Emit.Phrases
import SchemaClasses.Proofs.Emit.Methods
import SchemaClasses.Proofs.Emit.Hygiene
import SchemaClasses.Proofs.Emit.Identifiers
import SchemaClasses.Proofs.Emit.Requirements
import SchemaClasses.Proofs.Emit.ImportLines
import SchemaClasses.Proofs.Emit.FileNames
import SchemaClasses.Proofs.Emit.TextLiterals
import SchemaClasses.Proofs.Emit.NumberLiterals
import SchemaClasses.Proofs.Names.Headings
import SchemaClasses.Proofs.Output.FileTree
import SchemaClasses.Proofs.GuardOrder
