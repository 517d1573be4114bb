import Groundwork.CommandLine.Run
import Groundwork.Disk.Changes
import Groundwork.Disk.Lemmas
import Groundwork.Main
import Groundwork.Proofs.Field.Grammar
import Groundwork.Proofs.Field.Series
import Groundwork.Proofs.Form.Choices
import Groundwork.Proofs.Generator.Account
import Groundwork.Proofs.Generator.ColumnAgreement
import Groundwork.Proofs.Generator.Containment
import Groundwork.Proofs.Generator.DryRun
import Groundwork.Proofs.Generator.Exports
import Groundwork.Proofs.Generator.Isolation
import Groundwork.Proofs.Generator.NameFaults
import Groundwork.Proofs.Generator.Parts
import Groundwork.Proofs.Generator.SchemaBytes
import Groundwork.Proofs.Generator.Undoing
import Groundwork.Proofs.Json.LastCommas
import Groundwork.Proofs.Naming.Number
import Groundwork.Proofs.Naming.Styles
import Groundwork.Proofs.Naming.Usable
import Groundwork.Proofs.Page.Bindings
import Groundwork.Proofs.Project.Fallback
import Groundwork.Proofs.Project.Overrides
import Groundwork.Proofs.Schema.DatabaseNames
import Groundwork.Proofs.Schema.Merging
import Groundwork.Proofs.Schema.Reference
import Groundwork.Text.Lemmas
