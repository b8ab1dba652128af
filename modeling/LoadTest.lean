import LoadTest.Calendar
import LoadTest.Cluster.Schedule
import LoadTest.Cluster.Script
import LoadTest.Cluster.Session
import LoadTest.Cluster.State
import LoadTest.Cluster.Step
import LoadTest.Consumer
import LoadTest.Coordinator
import LoadTest.Correlation
import LoadTest.Dict
import LoadTest.Duration
import LoadTest.Error
import LoadTest.Event
import LoadTest.Json.Basic
import LoadTest.Json.Convert
import LoadTest.Json.Double
import LoadTest.Json.Outline
import LoadTest.Json.Printer
import LoadTest.Json.Reader
import LoadTest.Json.Shape
import LoadTest.Keystore
import LoadTest.Message
import LoadTest.Persistence.Folder
import LoadTest.Persistence.Location
import LoadTest.Persistence.Persister
import LoadTest.Request
import LoadTest.Response
import LoadTest.StatusPage
import LoadTest.Testdata.Definition
import LoadTest.Testdata.Producer
import LoadTest.Testdata.Snapshot
import LoadTest.Testdata.Source
import LoadTest.Testdata.Table
import LoadTest.Text.Blank
import LoadTest.Text.Hex
import LoadTest.Text.Numeral
import LoadTest.Text.Printable
import LoadTest.Text.Quoted
import LoadTest.Text.Symbols
import LoadTest.TimeFormat
import LoadTest.Transport.Address
import LoadTest.Transport.Frame
import LoadTest.Transport.Hub
import LoadTest.Transport.Listener
import LoadTest.Proofs.Records
import LoadTest.Proofs.Testdata.Acceptance
import LoadTest.Proofs.Sequential
import LoadTest.Proofs.Serving
import LoadTest.Proofs.Testdata.Requests
import LoadTest.Proofs.Cluster.Trace
import LoadTest.Proofs.Cluster.Steps
import LoadTest.Proofs.Cluster.View
import LoadTest.Proofs.Cluster.Sound
import LoadTest.Proofs.Cluster.Registered
import LoadTest.Proofs.Cluster.Traffic
import LoadTest.Proofs.Cluster.Users
import LoadTest.Proofs.Cluster.Isolation
import LoadTest.Proofs.Cluster.Freshness
import LoadTest.Proofs.Cluster.Undisturbed
import LoadTest.Proofs.Cluster.Smooth
import LoadTest.Proofs.Cluster.Calm
import LoadTest.Proofs.Cluster.Linear
import LoadTest.Proofs.Testdata.Iterations
import LoadTest.Proofs.Testdata.Building
import LoadTest.Proofs.Testdata.Crashes
import LoadTest.Proofs.Cluster.Spent
import LoadTest.Proofs.Cluster.Takings
import LoadTest.Proofs.Testdata.Finality
import LoadTest.Proofs.Cluster.Polling
import LoadTest.Proofs.Correlation.Lifetimes
import LoadTest.Proofs.Cluster.Senders
import LoadTest.Proofs.Transport.Routes
import LoadTest.Proofs.Json.Printed
import LoadTest.Proofs.Text.Symbols
import LoadTest.Proofs.Transport.Frames
import LoadTest.Proofs.Json.Indented
import LoadTest.Proofs.Testdata.Persisting
import LoadTest.Proofs.Text.Blanks
import LoadTest.Proofs.Text.Delimiters
import LoadTest.Proofs.Text.Numerals
import LoadTest.Proofs.Testdata.Restoring
import LoadTest.Proofs.Testdata.Snapshots
import LoadTest.Proofs.Testdata.Restart
import LoadTest.Proofs.Persistence.Paths
import LoadTest.Proofs.Persistence.Writing
import LoadTest.Proofs.Persistence.Replacing
import LoadTest.Proofs.Persistence.Tenure
import LoadTest.Proofs.Persistence.Succession
import LoadTest.Proofs.Correlation.Silence
import LoadTest.Proofs.Cluster.Tables
import LoadTest.Proofs.Cluster.Closing
import LoadTest.Proofs.Transport.Streams
import LoadTest.Proofs.Transport.Messages
import LoadTest.Proofs.Transport.Intake
import LoadTest.Proofs.Transport.Ledger
import LoadTest.Proofs.Testdata.Receipt
import LoadTest.Proofs.Testdata.Sequences
import LoadTest.Proofs.Testdata.Lockstep
import LoadTest.Proofs.Testdata.Faithful
import LoadTest.Proofs.Keystore.Actions
import LoadTest.Proofs.Keystore.Queues
import LoadTest.Proofs.Keystore.Counters
import LoadTest.Proofs.Agreement
import LoadTest.Proofs.Independence
import LoadTest.Proofs.Cluster.Reports
import LoadTest.Proofs.Testdata.Payloads
import LoadTest.Proofs.Testdata.Stopping
import LoadTest.Proofs.Polls
import LoadTest.Proofs.Cluster.Courses
import LoadTest.Proofs.Cluster.Severed
import LoadTest.Proofs.Cluster.Failures
import LoadTest.Proofs.Envelopes
import LoadTest.Proofs.Accounts
import LoadTest.Proofs.Rereading
import LoadTest.Proofs.Transport.Truncation
import LoadTest.Proofs.Persistence.Placement
