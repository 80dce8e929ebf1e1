import EvoBlue.Kernel.Runs
import EvoBlue.Guarantees.ChunkSummaries
import EvoBlue.Guarantees.LeaseFencing
import EvoBlue.Guarantees.StageArtifacts
import EvoBlue.Guarantees.StageOutcomes
import EvoBlue.Guarantees.StrandedJobs
import EvoBlue.Guarantees.FtsPairing
import EvoBlue.Guarantees.BadFiles
import EvoBlue.Guarantees.ActiveSubmissions
import EvoBlue.Guarantees.InterruptedTranscription
import EvoBlue.Guarantees.JobRows
import EvoBlue.Guarantees.ParkedJobs
import EvoBlue.Guarantees.ParkedModels
import EvoBlue.Guarantees.CommitVerdict
import EvoBlue.Guarantees.SettingsStores
import EvoBlue.Guarantees.KeyOrigins
import EvoBlue.Guarantees.ModelWakeUps
import EvoBlue.Guarantees.ModelStoreLaws
import EvoBlue.Guarantees.ListPages
import EvoBlue.Guarantees.ListFilters
import EvoBlue.Guarantees.ListBridge
import EvoBlue.Guarantees.InstallEnds
import EvoBlue.Guarantees.InstallRaces
import EvoBlue.Guarantees.ClaimPredicates
import EvoBlue.Guarantees.PointerRecovery
import EvoBlue.Guarantees.ReaderTotality
import EvoBlue.Guarantees.BackupShelf
import EvoBlue.Guarantees.VerifiedEvidence
import EvoBlue.Guarantees.LockStealing
import EvoBlue.Guarantees.CurrentDiagnostics
import EvoBlue.Kernel.JsonDocs
import EvoBlue.Source.MergeJson
import EvoBlue.Source.MergeJsonEffects
import EvoBlue.Source.MergeToml
import EvoBlue.Guarantees.TomlSpans
import EvoBlue.Source.FileAuto
import EvoBlue.Guarantees.JsonMerge
import EvoBlue.Kernel.RepeatedKeys
import EvoBlue.Guarantees.RefusedConfigs
import EvoBlue.Kernel.IsoRoundTrip
import EvoBlue.Source.ReportReading
import EvoBlue.Guarantees.FrontmatterRoundTrip
import EvoBlue.Kernel.LineEnds
import EvoBlue.Source.ReportBody
import EvoBlue.Guarantees.RenderedReports
import EvoBlue.Source.ReportSections
import EvoBlue.Source.ReportBullets
import EvoBlue.Guarantees.BodyRoundTrip
import EvoBlue.Kernel.FullText
import EvoBlue.Kernel.Replacing
import EvoBlue.Source.Search
import EvoBlue.Source.SearchPieces
import EvoBlue.Guarantees.SearchPhrases
import EvoBlue.Guarantees.SearchHits
import EvoBlue.Guarantees.PersistingIssues
import EvoBlue.Guarantees.RunCounters
import EvoBlue.Guarantees.DownloadedBytes
import EvoBlue.Guarantees.SafeExtraction
import EvoBlue.Guarantees.RegistryFollows
import EvoBlue.Guarantees.BenchmarkDistance
import EvoBlue.Guarantees.ChunkedText
import EvoBlue.Guarantees.CanonicalUrls
import EvoBlue.Guarantees.RequestFingerprints
import EvoBlue.Guarantees.ReportWrites
import EvoBlue.Guarantees.LockAcquisition
import EvoBlue.Kernel.Attempts
import EvoBlue.Source.Subtitles
import EvoBlue.Guarantees.MalformedSubtitles
import EvoBlue.Guarantees.TrashRecovery
import EvoBlue.Guarantees.RebuildConvergence
import EvoBlue.Source.ReportNames
import EvoBlue.Guarantees.KeptReports
import EvoBlue.Source.RescanLists
import EvoBlue.Guarantees.LateReports
import EvoBlue.Source.Migrations
import EvoBlue.Guarantees.SchemaUpgrades
import EvoBlue.Source.RescanService
import EvoBlue.Kernel.TaskCounts
import EvoBlue.Guarantees.RescanFlights
import EvoBlue.Kernel.JsonDumps
import EvoBlue.Source.ArtifactTexts
import EvoBlue.Guarantees.ArtifactTexts
import EvoBlue.Guarantees.SynthesisAnswers
import EvoBlue.Source.ArtifactSources
import EvoBlue.Source.SourcedHandlers
import EvoBlue.Guarantees.IndexedSources
import EvoBlue.Guarantees.ConfigHistories
import EvoBlue.Guarantees.TomlLines
