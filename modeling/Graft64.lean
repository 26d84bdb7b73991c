import Graft64.Library.Alignment
import Graft64.Library.Blocks
import Graft64.Library.Csv
import Graft64.Library.CsvWriter
import Graft64.Library.Decimal
import Graft64.Library.Directories
import Graft64.Library.Fields
import Graft64.Library.FileSystem
import Graft64.Library.Intervals
import Graft64.Library.Json
import Graft64.Library.JsonAscii
import Graft64.Library.JsonCompact
import Graft64.Library.JsonDocuments
import Graft64.Library.JsonNames
import Graft64.Library.JsonReadBack
import Graft64.Library.JsonSchema
import Graft64.Library.JsonTexts
import Graft64.Library.JsonValues
import Graft64.Library.Latest
import Graft64.Library.Ledger
import Graft64.Library.LittleEndian
import Graft64.Library.Numerals
import Graft64.Library.Overwrites
import Graft64.Library.PrefixFree
import Graft64.Library.Records
import Graft64.Library.Regex
import Graft64.Library.Results
import Graft64.Library.Runs
import Graft64.Library.SchemaDocument
import Graft64.Library.Sorting
import Graft64.Library.Unpack
import Graft64.Library.Utf8
import Graft64.Library.Utf8Repair
import Graft64.Library.Writes
import Graft64.Packaging.Checksum
import Graft64.Packaging.Publication
import Graft64.Packaging.Release
import Graft64.Platform.AppLifecycle
import Graft64.Platform.BinaryUuid
import Graft64.Platform.Buffers
import Graft64.Platform.CodeCache
import Graft64.Platform.Configuration
import Graft64.Platform.Details
import Graft64.Platform.DeviceReport
import Graft64.Platform.Evidence
import Graft64.Platform.HelperLaunch
import Graft64.Platform.HelperProbe
import Graft64.Platform.HelperResources
import Graft64.Platform.Host
import Graft64.Platform.Ipc.Helper
import Graft64.Platform.Ipc.Host
import Graft64.Platform.Ipc.Protocol
import Graft64.Platform.Ipc.Session
import Graft64.Platform.Jit
import Graft64.Platform.JitStatus
import Graft64.Platform.Lifecycle
import Graft64.Platform.PageRound
import Graft64.Platform.ProbeConsistency
import Graft64.Platform.ProbeReturn
import Graft64.Platform.ProbeStore
import Graft64.Platform.Probes
import Graft64.Platform.ReportSchema
import Graft64.Platform.Reports
import Graft64.Platform.Reports.Helper
import Graft64.Platform.Reports.Jit
import Graft64.Platform.Reports.Page
import Graft64.Platform.Reports.Paths
import Graft64.Platform.Reports.Signals
import Graft64.Platform.SignalRecovery
import Graft64.Platform.Summary
import Graft64.Platform.Transfer
import Graft64.Platform.WriteExecute
import Graft64.Runtime.AppliedPatches
import Graft64.Runtime.Artifacts
import Graft64.Runtime.Baseline
import Graft64.Runtime.Binaries
import Graft64.Runtime.BuildOutput
import Graft64.Runtime.Checksums
import Graft64.Runtime.DepsLock
import Graft64.Runtime.Elf
import Graft64.Runtime.FetchedManifest
import Graft64.Runtime.Fingerprint
import Graft64.Runtime.Generate
import Graft64.Runtime.LockAgreement
import Graft64.Runtime.LockFields
import Graft64.Runtime.LockQuotes
import Graft64.Runtime.LockReaders
import Graft64.Runtime.LockText
import Graft64.Runtime.LockValues
import Graft64.Runtime.Manifest
import Graft64.Runtime.ManifestSchema
import Graft64.Runtime.ManifestText
import Graft64.Runtime.OutputGuard
import Graft64.Runtime.PatchSeries
import Graft64.Runtime.Pe
import Graft64.Runtime.PreparedSources
import Graft64.Runtime.ReadBack
import Graft64.Runtime.RelativePaths
import Graft64.Runtime.RequiredFields
import Graft64.Runtime.Reverify
import Graft64.Runtime.SchemaPaths
import Graft64.Runtime.SourcesTable
import Graft64.Runtime.TestReport
import Graft64.Runtime.TrimmedFields
import Graft64.Runtime.Unchanged
import Graft64.Runtime.Upstream
import Graft64.Runtime.Verified
