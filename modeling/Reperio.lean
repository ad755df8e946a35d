import Reperio.Api.Lifecycle
import Reperio.Api.Orphans
import Reperio.Api.ReviewReplays
import Reperio.Api.ReviewSerial
import Reperio.Api.TextSearch
import Reperio.Backup.Durability
import Reperio.Catalog.Schema
import Reperio.Checkpoints.Binding
import Reperio.Concurrency.Interleaving
import Reperio.Events.Atomicity
import Reperio.Events.Paging
import Reperio.Events.Sequence
import Reperio.Events.Streaming
import Reperio.Graph.Closure
import Reperio.Hostd.Contract
import Reperio.Hostd.FingerprintHash
import Reperio.Hostd.Hotplug
import Reperio.Hostd.IdentityStability
import Reperio.Hostd.LaunchApproval
import Reperio.Hostd.LiveSafety
import Reperio.Hostd.ProtocolSafety
import Reperio.Hostd.Redaction
import Reperio.Hostd.Separation
import Reperio.Jobs.Eligibility
import Reperio.Jobs.Fencing
import Reperio.Jobs.Lease
import Reperio.Jobs.Queue
import Reperio.Jobs.Records
import Reperio.Jobs.Terminal
import Reperio.Migrations.Atomicity
import Reperio.Migrations.EventSequences
import Reperio.Migrations.Retry
import Reperio.Python.Json
import Reperio.Python.PurePath
import Reperio.Python.Timestamp
import Reperio.Python.Urls
import Reperio.Relational.Table
import Reperio.Scanner.CarveRanges
import Reperio.Scanner.ClusterChains
import Reperio.Scanner.ContentExtraction
import Reperio.Scanner.FatFallback
import Reperio.Scanner.FatPacking
import Reperio.Scanner.LongNames
import Reperio.Scanner.MessageErrors
import Reperio.Scanner.MessageRoundTrip
import Reperio.Scanner.MessageStream
import Reperio.Scanner.Overlaps
import Reperio.Scanner.PhotorecCarving
import Reperio.Scanner.ReadAccounting
import Reperio.Scanner.Restart
import Reperio.Scanner.SafeStop
import Reperio.Scanner.SessionBackups
import Reperio.Scanner.SlotListing
import Reperio.Scanner.StageRuns
import Reperio.Scratch.Quota
import Reperio.Storage.SecretBinding
import Reperio.Worker.ArchiveInspection
import Reperio.Worker.ContentSignature
import Reperio.Worker.DuplicateCanonical
import Reperio.Worker.DuplicateComponents
import Reperio.Worker.EndpointClasses
import Reperio.Worker.ExportAttempts
import Reperio.Worker.ExportSafety
import Reperio.Worker.FilterState
import Reperio.Worker.GoodExports
import Reperio.Worker.MediumWorkflow
import Reperio.Worker.ParserOutput
import Reperio.Worker.ProviderContract
import Reperio.Worker.RecycleBin
import Reperio.Worker.SecretReferences
import Reperio.Worker.SecretReveal
import Reperio.Worker.TextChunks
import Reperio.Shared.NotificationRules
