import MailDomain.Cluster.Request
import MailDomain.Cluster.Response
import MailDomain.Cluster.Route
import MailDomain.Cluster.Server
import MailDomain.Cluster.Site
import MailDomain.Cluster.StatusPatch
import MailDomain.Cluster.Store
import MailDomain.Controller.Action
import MailDomain.Controller.Queue
import MailDomain.Controller.Trial
import MailDomain.Controller.Watch
import MailDomain.Decimal.Binary64
import MailDomain.Decimal.Power
import MailDomain.Decimal.Shortest
import MailDomain.Definition.Domain
import MailDomain.Definition.File
import MailDomain.Definition.Schema
import MailDomain.Definition.Write
import MailDomain.Dns.Checker
import MailDomain.Dns.Message
import MailDomain.Dns.Name
import MailDomain.Error.Api
import MailDomain.Error.ApiStatus
import MailDomain.Error.Pass
import MailDomain.Error.Probe
import MailDomain.Error.Store
import MailDomain.Json.Basic
import MailDomain.Json.Decode
import MailDomain.Json.Draft
import MailDomain.Json.Fault
import MailDomain.Json.MergePatch
import MailDomain.Json.Printer
import MailDomain.Json.Reader
import MailDomain.Main
import MailDomain.Metrics.Exposition
import MailDomain.Metrics.Http
import MailDomain.Metrics.Registry
import MailDomain.Net.Digits
import MailDomain.Net.Ipv4
import MailDomain.Net.Ipv6
import MailDomain.Net.SocketAddress
import MailDomain.Object.Domain
import MailDomain.Object.Ingress
import MailDomain.Object.Key
import MailDomain.Object.Metadata
import MailDomain.Object.Resource
import MailDomain.Pass.Config
import MailDomain.Pass.Deadline
import MailDomain.Pass.Plan
import MailDomain.Pass.Reconcile
import MailDomain.Pass.StatsIngress
import MailDomain.Proofs.Pass.Protocol
import MailDomain.Proofs.Pass.Service
import MailDomain.Proofs.Pass.Stores
import MailDomain.Proofs.Pass.Story
import MailDomain.Proofs.Store.Mutation
import MailDomain.Proofs.Store.Invariant
import MailDomain.Record.Dkim
import MailDomain.Record.Name
import MailDomain.Record.Spf
import MailDomain.Record.Stats
import MailDomain.Rehearsal.Run
import MailDomain.Rehearsal.World
import MailDomain.Settings.Basic
import MailDomain.Settings.CommandLine
import MailDomain.Settings.Flag
import MailDomain.Settings.Help
import MailDomain.Settings.Startup
import MailDomain.Store.Memory
import MailDomain.Store.Table
import MailDomain.Text.Blank
import MailDomain.Text.Digest
import MailDomain.Text.Pattern
import MailDomain.Text.Printable
import MailDomain.Text.Quoted
import MailDomain.Text.Terminal
import MailDomain.Text.Utf8
import MailDomain.Time.Bracket
import MailDomain.Time.Duration
import MailDomain.Time.Fault
import MailDomain.Time.Offset
import MailDomain.Time.Reader
import MailDomain.Time.Timestamp
import MailDomain.Yaml.Printer
import MailDomain.Proofs.Convergence.Stages
import MailDomain.Proofs.Convergence.Endings
import MailDomain.Proofs.Convergence.Existence
import MailDomain.Proofs.Convergence.Quiescence
import MailDomain.Proofs.Convergence.Rehearsal
import MailDomain.Proofs.Interleaving.System
import MailDomain.Proofs.Interleaving.StatusWrite
import MailDomain.Proofs.Interleaving.IngressRace
import MailDomain.Proofs.Pass.Order
import MailDomain.Proofs.Pass.Cutoff
import MailDomain.Proofs.Store.Renumbering
import MailDomain.Proofs.Convergence.Resolver
import MailDomain.Proofs.Interleaving.Independence
import MailDomain.Proofs.Convergence.Ownership
import MailDomain.Proofs.Definition.Admission
import MailDomain.Proofs.Pass.Diary
import MailDomain.Proofs.Convergence.Canonical
import MailDomain.Proofs.Json.Distinct
import MailDomain.Proofs.Json.Lookup
import MailDomain.Proofs.Object.Reading
import MailDomain.Proofs.Object.Writing
import MailDomain.Proofs.Cluster.Address
import MailDomain.Proofs.Cluster.ApiServer
import MailDomain.Proofs.Cluster.Operations
import MailDomain.Proofs.Cluster.Mirror
import MailDomain.Proofs.Cluster.Alike
import MailDomain.Proofs.Cluster.Faithful
import MailDomain.Proofs.Store.History
import MailDomain.Proofs.Pass.Upkeep
import MailDomain.Proofs.Controller.Schedule
import MailDomain.Proofs.Metrics.Tally
import MailDomain.Proofs.Metrics.Balance
import MailDomain.Proofs.Metrics.Rounds
import MailDomain.Proofs.Convergence.Finalizers
import MailDomain.Proofs.Text.Parts
import MailDomain.Proofs.Text.Words
import MailDomain.Proofs.Record.KeyTags
import MailDomain.Proofs.Record.Policies
import MailDomain.Proofs.Settings.Include
import MailDomain.Proofs.Cluster.StatusPatch
import MailDomain.Proofs.Text.Decoding
import MailDomain.Proofs.Dns.Strings
import MailDomain.Proofs.Dns.Names
import MailDomain.Proofs.Dns.Answers
import MailDomain.Proofs.Store.Accounts
import MailDomain.Proofs.Store.Numbering
import MailDomain.Proofs.Object.Forms
