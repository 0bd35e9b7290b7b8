import DtoScaffold.Main
import DtoScaffold.Json.Forms
import DtoScaffold.Proofs.Generation.Writing
import DtoScaffold.Proofs.Storage.History
import DtoScaffold.Proofs.Wizard.Steps
import DtoScaffold.Proofs.Property.Tokens
import DtoScaffold.Proofs.Text.Blank
import DtoScaffold.Proofs.Checks
import DtoScaffold.Proofs.Wizard.Outcomes
import DtoScaffold.Proofs.Php.Methods
import DtoScaffold.Proofs.Php.Comments
import DtoScaffold.Proofs.Text.MaximalRuns
import DtoScaffold.Proofs.Property.Grammar
import DtoScaffold.Proofs.Text.Lines
import DtoScaffold.Proofs.Diagnostic
import DtoScaffold.Proofs.Command.Generate
import DtoScaffold.Proofs.Generation.Agreement
import DtoScaffold.Proofs.Generation.Permanence
import DtoScaffold.Proofs.Wizard.Collected
import DtoScaffold.Proofs.Storage.Tree
import DtoScaffold.Proofs.Storage.System
import DtoScaffold.Proofs.Generation.Growth
import DtoScaffold.Proofs.Command.DryRun
import DtoScaffold.Proofs.Generation.Containment
import DtoScaffold.Proofs.Json.Object
import DtoScaffold.Proofs.Config
import DtoScaffold.Proofs.Storage.Overwriting
import DtoScaffold.Proofs.Command.Init
import DtoScaffold.Proofs.Wizard.Session
import DtoScaffold.Proofs.Property.Spelling
import DtoScaffold.Proofs.Property.Adding
import DtoScaffold.Proofs.Php.Template
import DtoScaffold.Proofs.Php.Recovery
import DtoScaffold.Proofs.Text.Pieces
import DtoScaffold.Proofs.Property.Composition
import DtoScaffold.Proofs.Reference.Grammar
import DtoScaffold.Proofs.NormalForm
import DtoScaffold.Proofs.Property.Invariant
import DtoScaffold.Proofs.Text.ByteOrder
import DtoScaffold.Proofs.Registry
import DtoScaffold.Proofs.Container
import DtoScaffold.Proofs.Text.Paint
import DtoScaffold.Proofs.Wizard.Defaults
import DtoScaffold.Proofs.Table
import DtoScaffold.Proofs.Wizard.Tables
import DtoScaffold.Proofs.Php.Blocks
