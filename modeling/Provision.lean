import Provision.Binary64.Decimal
import Provision.Kind.CatalogManifest
import Provision.Kind.Document
import Provision.Main
import Provision.Names
import Provision.Proofs.Lifecycle.History
import Provision.Sandbox
import Provision.Scenario
import Provision.Terraform.Script
import Provision.Proofs.Lifecycle.Effect
import Provision.Proofs.Lifecycle.Phase
import Provision.Proofs.Lifecycle.OutputGate
import Provision.Proofs.Lifecycle.Reinit
import Provision.Proofs.Kind
import Provision.Proofs.Lifecycle.Flags
import Provision.Proofs.Lifecycle.Memory
import Provision.Proofs.Lifecycle.Cleanup
import Provision.Proofs.Text.ByteOrder
import Provision.Proofs.Binary64.Shortest
import Provision.Proofs.Json.Literal
import Provision.Proofs.Json.Wire
import Provision.Proofs.Record.Values
import Provision.Proofs.Record.Flags
import Provision.Proofs.Kind.Arguments
import Provision.Proofs.Lifecycle.Isolation
import Provision.Proofs.Record.Echo
import Provision.Proofs.Lifecycle.RoundTrip
import Provision.Proofs.CommandLine.Steps
import Provision.Proofs.Lifecycle.Endpoint
import Provision.Proofs.Terraform.Diagnostics
import Provision.Proofs.Lifecycle.Diagnostics
import Provision.Proofs.CommandLine.Refusal
import Provision.Proofs.Kind.Secrets
import Provision.Proofs.LockStep
import Provision.Proofs.Lifecycle.Secrets
import Provision.Proofs.Template
import Provision.Proofs.Outputs
import Provision.Proofs.StateDocument
import Provision.Proofs.Record.RoundTrip
import Provision.Proofs.Kind.Readings
import Provision.Proofs.Kind.Unset
import Provision.Proofs.Kind.Projection
import Provision.Proofs.Json.InOrder
import Provision.Proofs.Record.Accepted
import Provision.Proofs.Kind.Records
import Provision.Proofs.Lifecycle.Creation
import Provision.Proofs.Terraform.Script
import Provision.Proofs.Machine
import Provision.Proofs.ClusterLogin
import Provision.Proofs.Names
import Provision.Proofs.Json.Integer
import Provision.Proofs.Json.Natural
import Provision.Proofs.Settings
import Provision.Proofs.FileTree
import Provision.Proofs.Workspace
import Provision.Proofs.Json.Path
