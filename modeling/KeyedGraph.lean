import KeyedGraph.Bolt
import KeyedGraph.Bolt.Address
import KeyedGraph.Bolt.Script
import KeyedGraph.Bolt.ServerName
import KeyedGraph.Bolt.Value
import KeyedGraph.Client
import KeyedGraph.CommandLine.Arguments
import KeyedGraph.CommandLine.Pair
import KeyedGraph.CommandLine.Program
import KeyedGraph.CommandLine.Slot
import KeyedGraph.Config
import KeyedGraph.Config.Document
import KeyedGraph.Config.Location
import KeyedGraph.Connection
import KeyedGraph.Error
import KeyedGraph.Event
import KeyedGraph.FileSystem
import KeyedGraph.FileTree
import KeyedGraph.JsonValue
import KeyedGraph.Label
import KeyedGraph.Logging
import KeyedGraph.Logging.Config
import KeyedGraph.Logging.Directive
import KeyedGraph.Logging.Filter
import KeyedGraph.Logging.Line
import KeyedGraph.Logging.Plain
import KeyedGraph.Main
import KeyedGraph.Proofs.Bolt.Replies
import KeyedGraph.Proofs.Client.AllOrNothing
import KeyedGraph.Proofs.Client.Lifetime
import KeyedGraph.Proofs.Client.Request
import KeyedGraph.Proofs.CommandLine.Endings
import KeyedGraph.Proofs.CommandLine.Keeping
import KeyedGraph.Proofs.CommandLine.Pairs
import KeyedGraph.Proofs.CommandLine.Reading
import KeyedGraph.Proofs.CommandLine.Stages
import KeyedGraph.Proofs.Config.DefaultPlace
import KeyedGraph.Proofs.Config.Precedence
import KeyedGraph.Proofs.Config.Properties
import KeyedGraph.Proofs.Config.Secrecy
import KeyedGraph.Proofs.Connection.Accounting
import KeyedGraph.Proofs.Connection.Cases
import KeyedGraph.Proofs.Connection.Failures
import KeyedGraph.Proofs.Connection.Invariant
import KeyedGraph.Proofs.Connection.Ledger
import KeyedGraph.Proofs.Cypher.Agreement
import KeyedGraph.Proofs.Cypher.Graph
import KeyedGraph.Proofs.Cypher.Labels
import KeyedGraph.Proofs.Cypher.Parameters
import KeyedGraph.Proofs.Cypher.Queries
import KeyedGraph.Proofs.Cypher.Statements
import KeyedGraph.Proofs.Cypher.Syntax
import KeyedGraph.Proofs.Cypher.Texts
import KeyedGraph.Proofs.Except
import KeyedGraph.Proofs.FileSystem
import KeyedGraph.Proofs.FileTree
import KeyedGraph.Proofs.Fleet.Basic
import KeyedGraph.Proofs.Fleet.Bisimulation
import KeyedGraph.Proofs.Fleet.Calls
import KeyedGraph.Proofs.Fleet.Crashes
import KeyedGraph.Proofs.Fleet.Failures
import KeyedGraph.Proofs.Fleet.Gauge
import KeyedGraph.Proofs.Fleet.Interleaving
import KeyedGraph.Proofs.Fleet.Samples
import KeyedGraph.Proofs.Fleet.Sharing
import KeyedGraph.Proofs.Logging.FilterChoice
import KeyedGraph.Proofs.Logging.SetUp
import KeyedGraph.Proofs.Machine
import KeyedGraph.Proofs.Records.Directory
import KeyedGraph.Proofs.Records.Projection
import KeyedGraph.Proofs.Records.Refinement
import KeyedGraph.Proofs.Records.Table
import KeyedGraph.Proofs.Store.Access
import KeyedGraph.Proofs.Store.Cells
import KeyedGraph.Proofs.Store.Handles
import KeyedGraph.Proofs.Store.Inventory
import KeyedGraph.Proofs.Store.Keys
import KeyedGraph.Proofs.Store.Nodes
import KeyedGraph.Proofs.Store.Pages
import KeyedGraph.Proofs.Store.Ranking
import KeyedGraph.Proofs.Store.Runs
import KeyedGraph.Proofs.Text.ByteOrder
import KeyedGraph.Proofs.Text.Numerals
import KeyedGraph.Proofs.Text.References
import KeyedGraph.Query
import KeyedGraph.Record
import KeyedGraph.Session
import KeyedGraph.Settings
import KeyedGraph.Status
import KeyedGraph.Store
import KeyedGraph.Store.Faulty
import KeyedGraph.Store.Memory
import KeyedGraph.Text.Alphanumeric
import KeyedGraph.Text.Blank
import KeyedGraph.Text.Identifier
import KeyedGraph.Text.Numeral
import KeyedGraph.Text.Quoted
import KeyedGraph.Text.Reference
import KeyedGraph.Text.Terminal
import KeyedGraph.Text.Unshown
import KeyedGraph.Toml.Document
import KeyedGraph.Toml.Quoted
import KeyedGraph.Toml.Scalar
import KeyedGraph.Toml.Value
