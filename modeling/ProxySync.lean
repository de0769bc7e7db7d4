import ProxySync.Entity.Loose
import ProxySync.Main
import ProxySync.Proofs.Calendar.InstantText
import ProxySync.Proofs.ConfigFile.Block
import ProxySync.Proofs.ConfigFile.Directive
import ProxySync.Proofs.ConfigFile.NormalForm
import ProxySync.Proofs.ConfigFile.ReadBack
import ProxySync.Proofs.Dict
import ProxySync.Proofs.Entity.RoundTrip
import ProxySync.Proofs.Json.Reading
import ProxySync.Proofs.Store.Canonical
import ProxySync.Proofs.Store.Scan
import ProxySync.Proofs.Sync.Act
import ProxySync.Proofs.Sync.Change
import ProxySync.Proofs.Sync.Ensures
import ProxySync.Proofs.Sync.InSync
import ProxySync.Proofs.Sync.Outcome
import ProxySync.Proofs.Sync.Seeding
import ProxySync.Proofs.Sync.Trace
import ProxySync.Proofs.Text.Trim
import ProxySync.Sync.Budget
import ProxySync.Sync.Call
import ProxySync.Sync.Trial
import ProxySync.Tool.System
import ProxySync.Proofs.Sync.Order
import ProxySync.Proofs.Sync.Reachable
import ProxySync.Proofs.Entity.LineFields
import ProxySync.Proofs.ConfigFile.LineBreaks
import ProxySync.Proofs.Sync.Validity
import ProxySync.Proofs.ConfigFile.Heading
import ProxySync.Proofs.Shutdown.Delivery
import ProxySync.Proofs.Store.Entities
import ProxySync.Proofs.Sync.ReadSaved
import ProxySync.Proofs.Store.Actions
import ProxySync.Proofs.Files.Path
import ProxySync.Proofs.Files.Walk
import ProxySync.Proofs.Http.Stop
import ProxySync.Proofs.Program.Restart
import ProxySync.Proofs.Sync.Tape
import ProxySync.Proofs.Sync.Breaking
import ProxySync.Proofs.Sync.Blame
import ProxySync.Proofs.Sync.Unhindered
import ProxySync.Proofs.Sync.History
import ProxySync.Proofs.Http.Calls
import ProxySync.Proofs.Http.Frame
import ProxySync.Proofs.Sync.Replies
import ProxySync.Proofs.Http.Path
import ProxySync.Proofs.Http.PutGet
import ProxySync.Proofs.ConfigFile.Stanza
import ProxySync.Proofs.ConfigFile.ServerLine
import ProxySync.Proofs.ConfigFile.Legibility
import ProxySync.Proofs.ConfigFile.Substitution
import ProxySync.Proofs.ConfigFile.Layout
import ProxySync.Proofs.Entity.Overlay
import ProxySync.Proofs.Sync.Merging
import ProxySync.Proofs.Store.Seeds
import ProxySync.Proofs.Entity.Slots
import ProxySync.Proofs.Sync.Importing
import ProxySync.Proofs.Sync.Resuming
import ProxySync.Proofs.Shutdown.Reception
import ProxySync.Proofs.Settings.Layers
import ProxySync.Proofs.Sync.Keeping
import ProxySync.Proofs.Metrics.Counters
import ProxySync.Store.Table
import ProxySync.Proofs.Store.Table
