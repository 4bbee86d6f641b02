import BusExporter.Lib.Primitives
import BusExporter.Lib.HashMap
import BusExporter.Lib.Lists
import BusExporter.Lib.F64
import BusExporter.Lib.Text
import BusExporter.Lib.Decimal
import BusExporter.Lib.Bytes
import BusExporter.Lib.Machine
import BusExporter.Lib.Grouping
import BusExporter.Lib.SharedMap
import BusExporter.Lib.Exposition
import BusExporter.Lib.Serde
import BusExporter.Lib.Pretty
import BusExporter.Model.Config
import BusExporter.Model.Validate
import BusExporter.Model.Load
import BusExporter.Model.Reader
import BusExporter.Model.Decoder
import BusExporter.Model.Host
import BusExporter.Model.Batch
import BusExporter.Model.BatchIndexing
import BusExporter.Model.Modbus
import BusExporter.Model.I2c
import BusExporter.Model.Spi
import BusExporter.Model.I3c
import BusExporter.Model.Factory
import BusExporter.Model.Commands
import BusExporter.Model.Metrics
import BusExporter.Model.InternalMetrics
import BusExporter.Model.SelfMetrics
import BusExporter.Model.Prometheus
import BusExporter.Model.Collector
import BusExporter.Model.MetricLoop
import BusExporter.Model.StoreAccess
import BusExporter.Model.RunCommand
import BusExporter.Model.Otlp
import BusExporter.Model.Mqtt
import BusExporter.Model.LinuxI3c
import BusExporter.Model.ShowConfig
import BusExporter.Proof.Validated
import BusExporter.Proof.ByteOrders
import BusExporter.Proof.Resolved
import BusExporter.Proof.MergeOrder
import BusExporter.Proof.Classify
import BusExporter.Proof.Coalesce
import BusExporter.Proof.FewestRanges
import BusExporter.Proof.SteadyDevice
import BusExporter.Proof.BatchEquivalence
import BusExporter.Proof.Requests
import BusExporter.Proof.BatchResults
import BusExporter.Proof.FailedReads
import BusExporter.Proof.RequestCounts
import BusExporter.Proof.Recording
import BusExporter.Proof.SpiBounds
import BusExporter.Proof.ValidatedReads
import BusExporter.Proof.PullSafety
import BusExporter.Proof.Readdressing
import BusExporter.Proof.Cancellation
import BusExporter.Proof.CollectorSteps
import BusExporter.Proof.PollCounts
import BusExporter.Proof.Initialisation
import BusExporter.Proof.Backoff
import BusExporter.Proof.Reconnection
import BusExporter.Proof.PrePoll
import BusExporter.Proof.Stopping
import BusExporter.Proof.Caches
import BusExporter.Proof.Snapshots
import BusExporter.Proof.ErrorSeries
import BusExporter.Proof.OrderIndependence
import BusExporter.Proof.Labels
import BusExporter.Proof.Publication
import BusExporter.Proof.StoreHistory
import BusExporter.Proof.RunSteps
import BusExporter.Proof.FinalFlush
import BusExporter.Proof.Instruments
import BusExporter.Proof.Rendering
import BusExporter.Proof.DistinctSeries
import BusExporter.Proof.MetricTypes
import BusExporter.Proof.Redaction
import BusExporter.Proof.SelfListings
import BusExporter.Proof.Endpoints
import BusExporter.Proof.Payloads
import BusExporter.Proof.PublishSteps
import BusExporter.Proof.Topics
import BusExporter.Proof.ConnectBackoff
import BusExporter.Proof.PidMatching
import BusExporter.Proof.Pulls
import BusExporter.Proof.HostRecord
import BusExporter.Proof.OpenedDevices
import BusExporter.Proof.WriteSteps
import BusExporter.Proof.TransferRequests
import BusExporter.Proof.RegisterReads
import BusExporter.Model.Daemon
import BusExporter.Proof.DaemonSteps
import BusExporter.Proof.DaemonRuns
import BusExporter.Proof.ScrapedPages
import BusExporter.Proof.ShutdownOrder
import BusExporter.Proof.ShutdownProgress
import BusExporter.Lib.Document
import BusExporter.Model.Deserialize
import BusExporter.Proof.RoundTrip
import BusExporter.Proof.Reloading
import BusExporter.Proof.MetricsFiles
import BusExporter.Proof.Turns
import BusExporter.Proof.Provenance
import BusExporter.Proof.Sessions
import BusExporter.Proof.Rounds
import BusExporter.Proof.DeviceReplies
import BusExporter.Model.Watch
import BusExporter.Proof.Watching
import BusExporter.Lib.Critical
import BusExporter.Model.BusLocks
import BusExporter.Proof.Transactions
