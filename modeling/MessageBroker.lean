import MessageBroker.Broker.Report
import MessageBroker.Document.Json
import MessageBroker.Log.Output
import MessageBroker.Log.Record
import MessageBroker.Operation
import MessageBroker.Rehearsal
import MessageBroker.Settings.Sources
import MessageBroker.Proofs.Maps
import MessageBroker.Proofs.Hooks
import MessageBroker.Proofs.Registry.Indexes
import MessageBroker.Proofs.Registry.Editing
import MessageBroker.Proofs.Registry.Thinning
import MessageBroker.Proofs.Registry.Candidates
import MessageBroker.Proofs.Registry.Announcements
import MessageBroker.Proofs.Registry.Withdrawal
import MessageBroker.Proofs.Broker.Books
import MessageBroker.Proofs.Broker.Accounts
import MessageBroker.Proofs.Broker.Keeping
import MessageBroker.Proofs.Broker.Traffic
import MessageBroker.Proofs.Broker.Subscribing
import MessageBroker.Proofs.Broker.Operations
import MessageBroker.Proofs.Broker.Building
import MessageBroker.Proofs.Broker.Runs
import MessageBroker.Proofs.Broker.PeerMatching
import MessageBroker.Proofs.Throttle.Checking
import MessageBroker.Proofs.Throttle.Rates
import MessageBroker.Proofs.Broker.Gate
import MessageBroker.Proofs.Broker.Silence
import MessageBroker.Proofs.Broker.Requests
import MessageBroker.Proofs.Broker.Asides
import MessageBroker.Proofs.Broker.Checks
import MessageBroker.Proofs.Broker.Refusals
import MessageBroker.Proofs.Broker.Recipients
import MessageBroker.Proofs.Broker.Fanout
import MessageBroker.Proofs.Broker.Entries
import MessageBroker.Proofs.Broker.Lasting
import MessageBroker.Proofs.Broker.LastingOperations
import MessageBroker.Proofs.Document.Written
import MessageBroker.Proofs.Document.Records
import MessageBroker.Proofs.Settings.RoundTrip
import MessageBroker.Proofs.Broker.Credentials
import MessageBroker.Proofs.Broker.Lookups
import MessageBroker.Proofs.Broker.Absence
import MessageBroker.Proofs.Broker.Queues
import MessageBroker.Proofs.Broker.Leaving
import MessageBroker.Proofs.Broker.WaysOut
import MessageBroker.Proofs.Broker.Departing
import MessageBroker.Proofs.Registry.Answers
import MessageBroker.Proofs.Broker.AsideOperations
import MessageBroker.Proofs.Broker.Ledger
import MessageBroker.Proofs.Broker.Statistics
import MessageBroker.Proofs.Broker.Evictions
import MessageBroker.Proofs.Broker.Durations
import MessageBroker.Proofs.Broker.Chronicle
import MessageBroker.Proofs.Broker.Correspondence
import MessageBroker.Proofs.Broker.Unremarked
import MessageBroker.Proofs.Broker.Remarks
import MessageBroker.Proofs.Broker.LiveState
import MessageBroker.Proofs.Broker.Acceptance
import MessageBroker.Proofs.Throttle.Verdicts
import MessageBroker.Proofs.Throttle.Slots
import MessageBroker.Proofs.Subtopic.Grammar
import MessageBroker.Proofs.Subtopic.Matching
import MessageBroker.Proofs.Broker.Leftovers
import MessageBroker.Proofs.Broker.Sweeping
import MessageBroker.Proofs.Broker.Activity
import MessageBroker.Proofs.Broker.Discretion
import MessageBroker.Proofs.Throttle.Rolling
import MessageBroker.Proofs.Broker.Independence
import MessageBroker.Proofs.Broker.Likeness
import MessageBroker.Proofs.Time.Amounts
import MessageBroker.Proofs.Throttle.Configuring
import MessageBroker.Proofs.Throttle.Directions
import MessageBroker.Proofs.Broker.Links
import MessageBroker.Proofs.Broker.Forwarding
import MessageBroker.Proofs.Broker.LocalRuns
import MessageBroker.Proofs.Broker.PeerRouting
import MessageBroker.Proofs.Registry.RemovalOrder
import MessageBroker.Proofs.Stats.Peaks
import MessageBroker.Proofs.Throttle.Tightening
import MessageBroker.Proofs.Registry.Retuning
import MessageBroker.Proofs.Broker.Retuning
import MessageBroker.Proofs.Broker.Tightening
import MessageBroker.Proofs.Broker.Farewells
import MessageBroker.Proofs.Broker.Granting
import MessageBroker.Proofs.Broker.Dormancy
import MessageBroker.Proofs.Broker.Shutdown
import MessageBroker.Proofs.Broker.Stopping
import MessageBroker.Proofs.Broker.Fixtures
import MessageBroker.Proofs.Broker.Repeating
import MessageBroker.Proofs.Broker.Evaluations
import MessageBroker.Proofs.RemoteNews
