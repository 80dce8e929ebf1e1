import EvoBlue.Source.ReportIndex
import EvoBlue.Source.ReportWriter

/-!
# The report-directory rescan

`storage/rebuild.py`: one run of `IndexRebuildService._run` as a machine whose
steps are those between which another task may act: entering `running`, the
enumeration, the read phase and the transaction of every batch, the check of the
root, the absence pass, the verification and the final status. Resolving the
root from the settings is left out: a run works on the directory it is given.
-/

namespace EvoBlue.Source

open EvoBlue.Kernel

/-- What indexing takes from elsewhere: the reader's environment, the hexadecimal
SHA-256 digest of bytes, and how many host parameters SQLite takes in one statement. -/
structure ReportEnv extends ReaderEnv where
  sha256 : Bytes → Text
  maxVariables : Nat := 32766

/-- A report directory, and whether its root can be enumerated now. -/
structure Disk where
  dir : Directory
  usable : Bool := true

def batchSize : Nat := 50

/-- `_MD_DIAGNOSTIC_CODES`. -/
def mdDiagnosticCodes : List MdCode :=
  [.frontmatterInvalid, .unknownSchemaVersion, .missingField, .bodyStructureInvalid,
    .encodingError, .emptyBody]

/-- A file claimed as the winner for its `analysis_id`. -/
structure Claim where
  analysisId : Text
  relPath : Text
  analyzedAt : Time
  contentHash : Text
  deriving DecidableEq

/-- What the read phase found in one file. -/
inductive FileResult where
  | unreadable
  | rejected (code : MdCode)
  | readable (raw : Bytes) (parsed : ParsedReport)
  deriving DecidableEq

structure FileOutcome where
  relPath : Text
  result : FileResult
  deriving DecidableEq

/-- What a run has gathered: its claims, the paths it scanned, and its counters. -/
structure Progress where
  claims : List Claim := []
  scanned : List Text := []
  counters : Counters := {}
  deriving DecidableEq

namespace Progress

def claimOf (progress : Progress) (analysisId : Text) : Option Claim :=
  progress.claims.find? fun claim => claim.analysisId = analysisId

def scan (progress : Progress) (rel : Text) : Progress :=
  { progress with
    scanned := progress.scanned ++ [rel]
    counters := { progress.counters with scanned := progress.counters.scanned + 1 } }

def quarantine (progress : Progress) : Progress :=
  { progress with
    counters := { progress.counters with quarantined := progress.counters.quarantined + 1 } }

def duplicate (progress : Progress) : Progress :=
  { progress with
    counters := { progress.counters with duplicates := progress.counters.duplicates + 1 } }

def unchanged (progress : Progress) : Progress :=
  { progress with
    counters := { progress.counters with unchanged := progress.counters.unchanged + 1 } }

def indexed (progress : Progress) : Progress :=
  { progress with
    counters := { progress.counters with indexed := progress.counters.indexed + 1 } }

def claim (progress : Progress) (claim : Claim) : Progress :=
  { progress with claims := progress.claims ++ [claim] }

end Progress

/-! ## Enumeration -/

/-- `_collect`'s test of one relative path. -/
def isCollected (unicode : UnicodeData) (rel : Text) : Bool :=
  let parts := rel.splitOn (cp '/')
  let name := lower unicode (parts.getLast?.getD [])
  (parts.all fun part => part.head? ≠ some (cp '.')) &&
    (text ".md").isSuffixOf name && !(text ".tmp").isSuffixOf name

/-- `_collect`. -/
def collect (unicode : UnicodeData) (dir : Directory) : List Text :=
  ((dir.files.map (·.1)).filter (isCollected unicode)).mergeSort fun a b => a ≤ b

/-- `_chunks`. -/
def chunksFrom (size : Nat) : (fuel : Nat) → List Text → List (List Text)
  | 0, _ => []
  | _ + 1, [] => []
  | fuel + 1, items => items.take size :: chunksFrom size fuel (items.drop size)

def chunks (items : List Text) : List (List Text) := chunksFrom batchSize items.length items

/-! ## The read phase -/

/-- One file of `_scan_files`: a read error asks for the root, and whatever is no
`MarkdownParseError` ends the run. -/
def scanFile (env : ReportEnv) (disk : Disk) (rel : Text) : Except IndexError FileOutcome :=
  match disk.dir.find rel with
  | some (.bytes raw) =>
    match decodeReportBytes env.toReaderEnv raw with
    | .ok parsed => .ok ⟨rel, .readable raw parsed⟩
    | .error (.markdown code) => .ok ⟨rel, .rejected code⟩
    | .error .valueError => .error .valueError
    | .error .recursionError => .error .recursionError
  | _ => if disk.usable then .ok ⟨rel, .unreadable⟩ else .error .rootUnavailable

def scanFiles (env : ReportEnv) (disk : Disk) (rels : List Text) :
    Except IndexError (List FileOutcome) := rels.mapM (scanFile env disk)

/-! ## The transaction of a batch -/

/-- The entry columns of a parsed file, as the rescan and the pipeline fill them. -/
def indexColumns (parsed : ParsedReport) (jobId relPath contentHash : Text) (byteSize : Option Nat)
    (docSource : DocSource) : EntryColumns where
  jobId := jobId
  analysisId := parsed.analysisId
  title := parsed.title
  platform := parsed.platform
  author := parsed.author
  videoId := parsed.videoId
  sourceUrl := parsed.sourceUrl
  publishedAt := parsed.publishedAt.map DateTime.timestamp
  analyzedAt := parsed.analyzedAt.timestamp
  summaryMode := parsed.summaryMode
  language := parsed.language
  asrProvider := parsed.asrProvider
  asrModel := parsed.asrModel
  asrModelVersion := parsed.asrModelVersion
  tags := parsed.tags
  summaryPreview := parsed.coreSummary.take 200
  relativePath := relPath
  contentHash := contentHash
  byteSize := byteSize
  docSource := docSource

def bodyTexts (parsed : ParsedReport) : FtsBodyTexts where
  summary := parsed.coreSummary
  transcript := parsed.transcript.getD []

/-- `ReportIndexEntry(..)`, whose checks raise `ValueError`. -/
def buildEntry (unicode : UnicodeData) (columns : EntryColumns) :
    IndexScript (ReportIndexEntry unicode) :=
  if checked : columns.accepted unicode = true then pure { columns with checked }
  else Script.raise .valueError

/-- Build the entry of a report and upsert it. -/
def indexReport (unicode : UnicodeData) (columns : EntryColumns) (body : FtsBodyTexts)
    (now : Time) : IndexScript Nat := do
  let entry ← buildEntry unicode columns
  upsertReportDocument entry body now

/-- Resolve the issues of a path under every code of a list. -/
def resolveCodes (rel : Text) (now : Time) : List MdCode → IndexScript Unit
  | [] => pure ()
  | code :: codes => do
    let _ ← resolveIndexIssue (.markdown code) rel now
    resolveCodes rel now codes

/-- The diagnostics of a file that parsed. -/
def settleIssues (rel : Text) (parsed : ParsedReport) (now : Time) : IndexScript Unit := do
  if parsed.hasAnalysisContent then
    let _ ← resolveIndexIssue (.markdown .emptyBody) rel now
  else
    let _ ← recordIndexIssue (.markdown .emptyBody) rel now
  resolveCodes rel now (mdDiagnosticCodes.filter fun code => code ≠ .emptyBody)
  let _ ← resolveIndexIssue .duplicateAnalysisId rel now

/-- A parsed file: the first one of its `analysis_id` claims it. -/
def reconcileParsed (env : ReportEnv) (now : Time) (progress : Progress) (rel : Text) (raw : Bytes)
    (parsed : ParsedReport) : IndexScript Progress := do
  settleIssues rel parsed now
  let contentHash := env.sha256 raw
  match progress.claimOf parsed.analysisId with
  | some _ => do
    let _ ← recordIndexIssue .duplicateAnalysisId rel now
    return progress.duplicate
  | none => do
    let claimed := progress.claim
      ⟨parsed.analysisId, rel, parsed.analyzedAt.timestamp, contentHash⟩
    let doc ← getReportDocument parsed.analysisId
    if (doc.map fun row => row.relativePath = rel && row.contentHash = contentHash &&
        row.docStatus = .active) = some true then
      return claimed.unchanged
    else do
      let _ ← indexReport env.unicode
        (indexColumns parsed parsed.analysisId rel contentHash (some raw.length) .rebuild)
        (bodyTexts parsed) now
      return claimed.indexed

/-- One outcome of the read phase. -/
def reconcileFile (env : ReportEnv) (now : Time) (progress : Progress) (outcome : FileOutcome) :
    IndexScript Progress :=
  let rel := outcome.relPath
  let progress := progress.scan rel
  match outcome.result with
  | .unreadable => do
    let _ ← recordIndexIssue (.markdown .frontmatterInvalid) rel now
    return progress.quarantine
  | .rejected code => do
    let _ ← recordIndexIssue (.markdown code) rel now
    resolveCodes rel now (mdDiagnosticCodes.filter fun other => other ≠ code)
    return progress.quarantine
  | .readable raw parsed => reconcileParsed env now progress rel raw parsed

/-- The transaction of `_process_batch`. -/
def reconcileFiles (env : ReportEnv) (now : Time) (progress : Progress) :
    List FileOutcome → IndexScript Progress
  | [] => return progress
  | outcome :: outcomes => do
    let progress ← reconcileFile env now progress outcome
    reconcileFiles env now progress outcomes

/-! ## The absence pass -/

/-- What the absence pass does with one document of its list. -/
def markOne (progress : Progress) (purge : Bool) (now : Time) (jobId relPath : Text)
    (counters : Counters) : IndexScript Counters :=
  if ((progress.claimOf jobId).map fun claim => decide (claim.relPath = relPath)) = some true then
    return counters
  else if purge && !progress.scanned.contains relPath then do
    if ← purgeReportDocument jobId then return { counters with purged := counters.purged + 1 }
    else return counters
  else do
    let _ ← markReportMissing jobId now
    return { counters with removed := counters.removed + 1 }

def markAll (progress : Progress) (purge : Bool) (now : Time) (counters : Counters) :
    List (Text × Text) → IndexScript Counters
  | [] => return counters
  | (jobId, relPath) :: paths => do
    let counters ← markOne progress purge now jobId relPath counters
    markAll progress purge now counters paths

/-- `_mark_absent`. -/
def markAbsent (env : ReportEnv) (progress : Progress) (purge : Bool) (now : Time) :
    IndexScript Counters := do
  let paths ← listDocumentPaths
  let counters ← markAll progress purge now progress.counters paths
  let _ ← resolveIssuesForAbsentPaths env.maxVariables progress.scanned now
  return counters

/-! ## A run -/

inductive RunPhase where
  | begin
  | collect
  | scan (progress : Progress) (left : List (List Text))
  | reconcile (progress : Progress) (outcomes : List FileOutcome) (left : List (List Text))
  | recheck (progress : Progress)
  | absence (progress : Progress)
  | verify (counters : Counters)
  | finish (counters : Counters) (consistent : Bool)
  /-- An exception was raised: `needs_rebuild` is still to be recorded. -/
  | parking (error : IndexError)
  | done (counters : Counters) (consistent : Bool)
  | failed (error : IndexError)
  deriving DecidableEq

/-- The code recorded for an exception. -/
def parkCode : IndexError → String
  | .rootUnavailable => "ROOT_UNAVAILABLE"
  | _ => "REBUILD_FAILED"

/-- One step of a run. -/
def phaseStep (env : ReportEnv) (purge : Bool) (now : Time) (disk : Disk) (db : IndexDb) :
    RunPhase → RunPhase × IndexDb
  | .begin =>
    if disk.usable then
      (.collect, ((setIndexState .running now none).transaction db).2)
    else (.parking .rootUnavailable, db)
  | .collect => (.scan {} (chunks (collect env.unicode disk.dir)), db)
  | .scan progress [] => (.recheck progress, db)
  | .scan progress (rels :: left) =>
    match scanFiles env disk rels with
    | .error raised => (.parking raised, db)
    | .ok outcomes => (.reconcile progress outcomes left, db)
  | .reconcile progress outcomes left =>
    match (reconcileFiles env now progress outcomes).transaction db with
    | (.error raised, after) => (.parking raised, after)
    | (.ok progress, after) => (.scan progress left, after)
  | .recheck progress =>
    if disk.usable then (.absence progress, db) else (.parking .rootUnavailable, db)
  | .absence progress =>
    match (markAbsent env progress purge now).transaction db with
    | (.error raised, after) => (.parking raised, after)
    | (.ok counters, after) => (.verify counters, after)
  | .verify counters => (.finish counters db.ftsConsistent, db)
  | .finish counters consistent =>
    (.done counters consistent,
      (Script.transaction (do
        recordRebuildCounters counters
        setIndexState (if consistent then .idle else .needsRebuild) now
          (if consistent then none else some "FTS_DRIFT")) db).2)
  | .parking error =>
    (.failed error,
      ((setIndexState .needsRebuild now (some (parkCode error))).transaction db).2)
  | .done counters consistent => (.done counters consistent, db)
  | .failed error => (.failed error, db)

end EvoBlue.Source
