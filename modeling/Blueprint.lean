import Blueprint.Command
import Blueprint.Command.Arguments
import Blueprint.Command.Failure
import Blueprint.Command.Findings
import Blueprint.Command.Request
import Blueprint.Context
import Blueprint.Files
import Blueprint.Files.Disk
import Blueprint.Files.Error
import Blueprint.Files.Pathname
import Blueprint.Grammar.Ascii
import Blueprint.Grammar.Domain
import Blueprint.Grammar.Domain.Direction
import Blueprint.Grammar.Domain.Joiner
import Blueprint.Grammar.Domain.Mapping
import Blueprint.Grammar.Domain.MappingData
import Blueprint.Grammar.Entries
import Blueprint.Grammar.Host
import Blueprint.Grammar.Name
import Blueprint.Grammar.Network
import Blueprint.Grammar.Prose
import Blueprint.Grammar.Punycode
import Blueprint.Grammar.Quantity
import Blueprint.Grammar.Url
import Blueprint.Integrity.Cascade
import Blueprint.Integrity.Reconcile
import Blueprint.Integrity.Scope
import Blueprint.Integrity.Verdict
import Blueprint.Kind
import Blueprint.Main
import Blueprint.Number.Binary64
import Blueprint.Number.Decimal
import Blueprint.Number.Literal
import Blueprint.Number.Power
import Blueprint.Number.Radix
import Blueprint.Number.Shortest
import Blueprint.Number.Written
import Blueprint.Proofs.Atomicity
import Blueprint.Proofs.Cascades
import Blueprint.Proofs.Catalog
import Blueprint.Proofs.Cleanup
import Blueprint.Proofs.Completeness
import Blueprint.Proofs.Consistency
import Blueprint.Proofs.DefaultTree
import Blueprint.Proofs.Definitions
import Blueprint.Proofs.Denotation
import Blueprint.Proofs.Emission
import Blueprint.Proofs.Fields
import Blueprint.Proofs.InPlace
import Blueprint.Proofs.Labels
import Blueprint.Proofs.Lookups
import Blueprint.Proofs.Mentions
import Blueprint.Proofs.NewNames
import Blueprint.Proofs.Operations
import Blueprint.Proofs.Placement
import Blueprint.Proofs.Preservation
import Blueprint.Proofs.Records
import Blueprint.Proofs.Refinement
import Blueprint.Proofs.Removal
import Blueprint.Proofs.RenamedTree
import Blueprint.Proofs.Renaming
import Blueprint.Proofs.Retelling
import Blueprint.Proofs.Revision
import Blueprint.Proofs.Rows
import Blueprint.Proofs.Runs
import Blueprint.Proofs.Saving
import Blueprint.Proofs.Shown
import Blueprint.Proofs.Successive
import Blueprint.Proofs.Targets
import Blueprint.Proofs.Walks
import Blueprint.Schema.Classic
import Blueprint.Schema.DisplayForm
import Blueprint.Schema.Dns
import Blueprint.Schema.Field
import Blueprint.Schema.Identity
import Blueprint.Schema.Network
import Blueprint.Schema.Options
import Blueprint.Schema.Platform
import Blueprint.Schema.Reference
import Blueprint.Schema.Registry
import Blueprint.Schema.Storage
import Blueprint.Settings
import Blueprint.Settings.Reader
import Blueprint.Settings.Source
import Blueprint.Store
import Blueprint.Store.Defaults
import Blueprint.Store.Editing
import Blueprint.Store.Error
import Blueprint.Store.Mutation
import Blueprint.Terraform.AccessGroups
import Blueprint.Terraform.AccountSettings
import Blueprint.Terraform.ActivityTracker
import Blueprint.Terraform.Addresses
import Blueprint.Terraform.Amount
import Blueprint.Terraform.AppId
import Blueprint.Terraform.Block
import Blueprint.Terraform.Classic
import Blueprint.Terraform.Databases
import Blueprint.Terraform.Dns
import Blueprint.Terraform.Document
import Blueprint.Terraform.EventStreams
import Blueprint.Terraform.Expression
import Blueprint.Terraform.KeyManagement
import Blueprint.Terraform.Naming
import Blueprint.Terraform.ObjectStorage
import Blueprint.Terraform.Provider
import Blueprint.Terraform.Resolution
import Blueprint.Terraform.ResourceGroups
import Blueprint.Terraform.SecretsManager
import Blueprint.Terraform.Section
import Blueprint.Terraform.SecurityGroups
import Blueprint.Terraform.SshKeys
import Blueprint.Terraform.TransitGateways
import Blueprint.Terraform.Vpcs
import Blueprint.Text.Blank
import Blueprint.Text.CaseClass
import Blueprint.Text.CaseData
import Blueprint.Text.CodeMap
import Blueprint.Text.CodeSet
import Blueprint.Text.Composition
import Blueprint.Text.CompositionData
import Blueprint.Text.Join
import Blueprint.Text.LetterCase
import Blueprint.Text.Mark
import Blueprint.Text.Order
import Blueprint.Text.Reader
import Blueprint.Toml
import Blueprint.Toml.Literal
import Blueprint.Toml.Reader
import Blueprint.Toml.Table
import Blueprint.Toml.Text
import Blueprint.Tree
import Blueprint.Value
import Blueprint.Value.Agreement
import Blueprint.Value.Printer
import Blueprint.Value.Reader
import Blueprint.Proofs.SaveGate
import Blueprint.Proofs.SharedNames
import Blueprint.Proofs.Refilling
import Blueprint.Proofs.DistinctAddresses
import Blueprint.Proofs.HeldWrites
import Blueprint.Proofs.GatedFields
import Blueprint.Proofs.Quantities
import Blueprint.Proofs.EmittedNumbers
import Blueprint.Proofs.RulePorts
import Blueprint.Proofs.ParentLinks
import Blueprint.Proofs.FamilyTexts
import Blueprint.Proofs.GatewayConnections
import Blueprint.Proofs.StoredFields
import Blueprint.Proofs.AppliedCalls
import Blueprint.Proofs.HeldNames
import Blueprint.Proofs.Footprints
import Blueprint.Proofs.Settling
import Blueprint.Proofs.Pruning
import Blueprint.Proofs.CommutingDeletions
import Blueprint.Proofs.SavedProperties
import Blueprint.Proofs.OrderedFields
import Blueprint.Proofs.SavedBack
import Blueprint.Proofs.BucketKeys
import Blueprint.Proofs.Titles
import Blueprint.Proofs.HiddenFields
import Blueprint.Proofs.Routes
import Blueprint.Proofs.FollowedNames
import Blueprint.Proofs.SavedAlone
import Blueprint.Proofs.NameGrammar
import Blueprint.Proofs.LiteralTexts
import Blueprint.Proofs.BlockLayout
import Blueprint.Proofs.SingleRecords
import Blueprint.Proofs.EnteredTexts
import Blueprint.Proofs.AddressGrammar
import Blueprint.Proofs.PublicKeys
import Blueprint.Proofs.DisplayForms
import Blueprint.Proofs.StorageSizes
import Blueprint.Proofs.ByteOrder
import Blueprint.Proofs.ClassicSections
import Blueprint.Proofs.MergedConnections
import Blueprint.Proofs.NamingReport
import Blueprint.Proofs.ScopeAgreement
import Blueprint.Proofs.Traversals
import Blueprint.Proofs.LabelWords
