import Interlink.Address
import Interlink.Attachment
import Interlink.Backend
import Interlink.Backend.Fault
import Interlink.Backend.Memory
import Interlink.Backend.Snapshot
import Interlink.Cidr
import Interlink.Data
import Interlink.Data.Decode
import Interlink.Data.Encode
import Interlink.Data.Word
import Interlink.Destination
import Interlink.Document
import Interlink.Edge
import Interlink.File
import Interlink.GatewayRoute
import Interlink.Json.Number
import Interlink.Json.Reader
import Interlink.Json.Writer
import Interlink.Key
import Interlink.Kind
import Interlink.Main
import Interlink.Memo
import Interlink.Moment
import Interlink.Number.Binary64
import Interlink.Peering
import Interlink.Peering.Plan
import Interlink.Peering.Route
import Interlink.Plan
import Interlink.Plan.Encode
import Interlink.Plan.Publish
import Interlink.PlanError
import Interlink.Proofs.AccountLists
import Interlink.Proofs.Accounts
import Interlink.Proofs.AddressTexts
import Interlink.Proofs.Addresses
import Interlink.Proofs.Agreement
import Interlink.Proofs.AttachmentIds
import Interlink.Proofs.Attachments
import Interlink.Proofs.BlockTexts
import Interlink.Proofs.Calls
import Interlink.Proofs.CededEdges
import Interlink.Proofs.Classification
import Interlink.Proofs.ConnectionKeys
import Interlink.Proofs.Consistency
import Interlink.Proofs.Counters
import Interlink.Proofs.Decoding
import Interlink.Proofs.Deployment
import Interlink.Proofs.EdgeIds
import Interlink.Proofs.EdgeRequests
import Interlink.Proofs.Edges
import Interlink.Proofs.Expansion
import Interlink.Proofs.FailFast
import Interlink.Proofs.Failures
import Interlink.Proofs.FirstEntries
import Interlink.Proofs.FixedAnswers
import Interlink.Proofs.FixedMaps
import Interlink.Proofs.ForeignGateways
import Interlink.Proofs.Foreseen
import Interlink.Proofs.GatewayRoutes
import Interlink.Proofs.IdleUnits
import Interlink.Proofs.Keys
import Interlink.Proofs.ListOrder
import Interlink.Proofs.ListedKeys
import Interlink.Proofs.LogicalIds
import Interlink.Proofs.Lookup
import Interlink.Proofs.MapContents
import Interlink.Proofs.MapIds
import Interlink.Proofs.Memoization
import Interlink.Proofs.Mentions
import Interlink.Proofs.Misconfigurations
import Interlink.Proofs.Neighbourhood
import Interlink.Proofs.PassOrder
import Interlink.Proofs.Paths
import Interlink.Proofs.PeeringPlans
import Interlink.Proofs.PeeringRoutes
import Interlink.Proofs.Permission
import Interlink.Proofs.PlanFailures
import Interlink.Proofs.PrefixLists
import Interlink.Proofs.Publishing
import Interlink.Proofs.RecallKeys
import Interlink.Proofs.References
import Interlink.Proofs.Refusals
import Interlink.Proofs.RegistryIndex
import Interlink.Proofs.Retry
import Interlink.Proofs.RoundTrip
import Interlink.Proofs.RuleSharing
import Interlink.Proofs.Sources
import Interlink.Proofs.Stages
import Interlink.Proofs.Stores
import Interlink.Proofs.UnitMap
import Interlink.Proofs.UnroutedPeerings
import Interlink.Proofs.UnusedTables
import Interlink.Proofs.Validity
import Interlink.Proofs.ValidityOrder
import Interlink.Proofs.Walks
import Interlink.Proofs.WriteOnce
import Interlink.Recall
import Interlink.Reference
import Interlink.Registry
import Interlink.Report
import Interlink.Request
import Interlink.Resolver
import Interlink.ResolverRuleAssociation
import Interlink.Role
import Interlink.Scope
import Interlink.SortedMap
import Interlink.Text.DecimalDigit
import Interlink.Text.Digit
import Interlink.Text.Printable
import Interlink.Text.Quoted
import Interlink.Topology
import Interlink.Topology.Decode
import Interlink.Topology.Encode
import Interlink.Topology.Lint
import Interlink.Topology.Load
import Interlink.Topology.Override
import Interlink.Topology.Validation
import Interlink.UnitMap
import Interlink.Yaml.Node
import Interlink.Yaml.Token
import Interlink.Yaml.Writer
