import EvoBlue.Kernel.Statements
import EvoBlue.Source.JobRepository
import EvoBlue.Source.ReportParser

/-!
# Report index persistence

`storage/report_repository.py` and the index side of `storage/fts.py`: the tables
`report_documents`, `report_fts`, `index_issues` and `index_status` (schema v8),
and the functions that read and write them. None of these functions commits: a
caller runs them in a transaction of its own. A statement raises when a text
bound to it cannot be encoded. The functions that keep documents and index rows
paired are given statement by statement.

`tags_json` is kept decoded, and the `detail` of an issue is left out.
-/

namespace EvoBlue.Source

open EvoBlue.Kernel

/-! ## Index text -/

/-- Han, Hiragana, Katakana and Hangul, as the contract freezes them. -/
def isCjk (c : CodePoint) : Bool :=
  (0x4e00 ≤ c.val && c.val ≤ 0x9fff) || (0x3040 ≤ c.val && c.val ≤ 0x30ff) ||
    (0xac00 ≤ c.val && c.val ≤ 0xd7af)

/-- Every run of whitespace as one blank; `inRun` says that the run has begun. -/
def collapseSpace (inRun : Bool) : Text → Text
  | [] => []
  | c :: rest =>
    if isSpace c then
      if inRun then collapseSpace true rest else cp ' ' :: collapseSpace true rest
    else c :: collapseSpace false rest

/-- `normalize_for_fts`. -/
def normalizeForFts (t : Text) : Text :=
  strip (collapseSpace false (t.flatMap fun c => if isCjk c then [cp ' ', c, cp ' '] else [c]))

/-! ## Entries -/

inductive DocSource where
  | pipeline
  | rebuild
  deriving DecidableEq, Repr

inductive DocStatus where
  | active
  | stale
  | missing
  deriving DecidableEq, Repr

/-- The columns an entry supplies. -/
structure EntryColumns where
  jobId : Text
  analysisId : Text
  title : Text
  platform : Text
  author : Text
  videoId : Text
  sourceUrl : Text
  publishedAt : Option Time
  analyzedAt : Time
  summaryMode : Text
  language : Text := []
  asrProvider : Text := []
  asrModel : Text := []
  asrModelVersion : Text := []
  tags : List Text := []
  summaryPreview : Text := []
  relativePath : Text := []
  contentHash : Text := []
  byteSize : Option Nat := none
  docSource : DocSource := .pipeline
  deriving DecidableEq

/-- The checks of `__post_init__`; `urlsplit` may fail as well. -/
def EntryColumns.accepted (unicode : UnicodeData) (entry : EntryColumns) : Bool :=
  entry.jobId ≠ [] && entry.analysisId = entry.jobId && entry.title ≠ [] &&
    entry.platform ≠ [] && entry.videoId ≠ [] && entry.sourceUrl ≠ [] &&
    entry.relativePath ≠ [] && entry.contentHash.length = 64 &&
    (entry.contentHash.all fun c => isDigit c || (cp 'a' ≤ c && c ≤ cp 'f')) &&
    entry.summaryPreview.length ≤ 200 && summaryModes.contains entry.summaryMode &&
    ((urlsplit unicode entry.sourceUrl).map SplitUrl.isAbsoluteHttp).getD false &&
    entry.platform = lower unicode entry.platform && entry.analyzedAt > 0 &&
    entry.publishedAt.all fun publishedAt => publishedAt > 0

/-- Everything needed to index one report, checked at construction. -/
structure ReportIndexEntry (unicode : UnicodeData) extends EntryColumns where
  checked : toEntryColumns.accepted unicode = true

/-- Body-section texts; the other index texts come from the entry. -/
structure FtsBodyTexts where
  summary : Text := []
  transcript : Text := []
  deriving DecidableEq

/-! ## Tables -/

structure ReportRow extends EntryColumns where
  id : Nat
  docStatus : DocStatus
  indexedAt : Time
  updatedAt : Time
  deriving DecidableEq

/-- The six index texts of a document. -/
structure FtsTexts where
  title : Text
  tags : Text
  author : Text
  summary : Text
  transcript : Text
  url : Text
  deriving DecidableEq

structure FtsRow extends FtsTexts where
  rowid : Nat
  deriving DecidableEq

inductive IssueCode where
  | markdown (code : MdCode)
  | duplicateAnalysisId
  deriving DecidableEq, Repr

structure IssueRow where
  id : Nat
  issueCode : IssueCode
  relativePath : Text
  firstSeenAt : Time
  lastSeenAt : Time
  resolvedAt : Option Time := none
  deriving DecidableEq

inductive IndexState where
  | idle
  | running
  | needsRebuild
  deriving DecidableEq, Repr

/-- The counters of one rescan. -/
structure Counters where
  scanned : Nat := 0
  indexed : Nat := 0
  unchanged : Nat := 0
  quarantined : Nat := 0
  duplicates : Nat := 0
  removed : Nat := 0
  purged : Nat := 0
  deriving DecidableEq, Repr

def Counters.add (a b : Counters) : Counters where
  scanned := a.scanned + b.scanned
  indexed := a.indexed + b.indexed
  unchanged := a.unchanged + b.unchanged
  quarantined := a.quarantined + b.quarantined
  duplicates := a.duplicates + b.duplicates
  removed := a.removed + b.removed
  purged := a.purged + b.purged

/-- The singleton row of `index_status`. -/
structure IndexStatus where
  state : IndexState := .idle
  startedAt : Option Time := none
  finishedAt : Option Time := none
  counters : Counters := {}
  lastErrorCode : Option String := none
  deriving DecidableEq

structure IndexDb where
  documents : List ReportRow := []
  nextDocumentId : Nat := 1
  fts : List FtsRow := []
  issues : List IssueRow := []
  nextIssueId : Nat := 1
  status : IndexStatus := {}
  deriving DecidableEq

inductive IndexError where
  | valueError
  | recursionError
  /-- A bound text that cannot be encoded. -/
  | unicodeEncodeError
  /-- A unique index of the schema. -/
  | integrityError
  /-- A statement that fails for a reason of its own. -/
  | operationalError
  /-- `RebuildRootUnavailable`. -/
  | rootUnavailable
  deriving DecidableEq, Repr

abbrev IndexScript := Script IndexDb IndexError

abbrev IndexStatements := Statements IndexDb IndexError

/-- Bind texts to a statement. -/
def bindTexts (texts : List Text) : IndexScript Unit :=
  if ∀ t ∈ texts, Encodable t then pure () else Script.raise .unicodeEncodeError

namespace IndexDb

def findDocument (db : IndexDb) (jobId : Text) : Option ReportRow :=
  db.documents.find? fun row => row.jobId = jobId

def deleteFts (db : IndexDb) (rowid : Nat) : IndexDb :=
  { db with fts := db.fts.filter fun row => row.rowid ≠ rowid }

def insertFts (db : IndexDb) (rowid : Nat) (texts : FtsTexts) : IndexDb :=
  { db with fts := db.fts ++ [{ texts with rowid }] }

def insertDocument (db : IndexDb) (entry : EntryColumns) (now : Time) : IndexDb :=
  { db with
    documents := db.documents ++
      [{ entry with id := db.nextDocumentId, docStatus := .active, indexedAt := now, updatedAt := now }]
    nextDocumentId := db.nextDocumentId + 1 }

/-- Every column but the keys. -/
def updateDocument (db : IndexDb) (id : Nat) (entry : EntryColumns) (now : Time) : IndexDb :=
  { db with
    documents := db.documents.map fun row =>
      if row.id = id then
        { entry with
          id := row.id
          jobId := row.jobId
          analysisId := row.analysisId
          docStatus := .active
          indexedAt := now
          updatedAt := now }
      else row }

def setStatus (db : IndexDb) (id : Nat) (docStatus : DocStatus) (now : Time) : IndexDb :=
  { db with
    documents := db.documents.map fun row =>
      if row.id = id then { row with docStatus, updatedAt := now } else row }

def deleteDocument (db : IndexDb) (id : Nat) : IndexDb :=
  { db with documents := db.documents.filter fun row => row.id ≠ id }

end IndexDb

/-! ## Documents -/

/-- `_fts_row_values`. -/
def ftsRowValues (unicode : UnicodeData) (entry : EntryColumns) (body : FtsBodyTexts) : FtsTexts where
  title := normalizeForFts entry.title
  tags := normalizeForFts ([cp ' '].intercalate entry.tags)
  author := normalizeForFts entry.author
  summary := normalizeForFts body.summary
  transcript := normalizeForFts body.transcript
  url := lower unicode entry.sourceUrl

/-- The texts an entry binds. -/
def entryTexts (entry : EntryColumns) : List Text :=
  [entry.jobId, entry.analysisId, entry.title, entry.platform, entry.author, entry.videoId,
    entry.sourceUrl, entry.language, entry.summaryMode, entry.asrProvider, entry.asrModel,
    entry.asrModelVersion, Json.dumpsStrings entry.tags, entry.summaryPreview, entry.relativePath,
    entry.contentHash]

def ftsTexts (texts : FtsTexts) : List Text :=
  [texts.title, texts.tags, texts.author, texts.summary, texts.transcript, texts.url]

/-- `SELECT .. FROM report_documents WHERE job_id = :job_id`. -/
def selectDocument (jobId : Text) : IndexScript (Option ReportRow) := do
  bindTexts [jobId]
  let db ← Script.read
  return db.findDocument jobId

/-- `INSERT INTO report_documents .. RETURNING id`. -/
def insertReport (entry : EntryColumns) (now : Time) : IndexScript Nat := do
  bindTexts (entryTexts entry)
  let db ← Script.read
  if db.documents.any fun row => row.jobId = entry.jobId || row.analysisId = entry.analysisId then
    Script.raise .integrityError
  else do
    Script.write fun db => db.insertDocument entry now
    return db.nextDocumentId

/-- `UPDATE report_documents SET .. WHERE id = :id`, all columns but the keys. -/
def updateReport (id : Nat) (entry : EntryColumns) (now : Time) : IndexScript Unit := do
  bindTexts (entryTexts entry)
  Script.write fun db => db.updateDocument id entry now

/-- `INSERT INTO report_fts (rowid, ..)`. -/
def insertFtsRow (id : Nat) (texts : FtsTexts) : IndexScript Unit := do
  bindTexts (ftsTexts texts)
  Script.write fun db => db.insertFts id texts

/-- `DELETE FROM report_fts WHERE rowid = :id`. -/
def deleteFtsRow (id : Nat) : IndexScript Unit := Script.write fun db => db.deleteFts id

open Statements in
/-- The document half of an upsert: insert, or update under the same id. -/
def storeDocument (existing : Option ReportRow) (entry : EntryColumns) (now : Time) :
    IndexStatements Nat :=
  match existing with
  | none => execute (insertReport entry now)
  | some row => do
    execute (updateReport row.id entry now)
    return row.id

open Statements in
/-- The body of `upsert_report_document`; returns the document id. -/
def upsertStatements {unicode : UnicodeData} (entry : ReportIndexEntry unicode)
    (body : FtsBodyTexts) (now : Time) : IndexStatements Nat := do
  let existing ← execute (selectDocument entry.jobId)
  let docId ← storeDocument existing entry.toEntryColumns now
  execute (deleteFtsRow docId)
  execute (insertFtsRow docId (ftsRowValues unicode entry.toEntryColumns body))
  return docId

/-- `upsert_report_document`. -/
def upsertReportDocument {unicode : UnicodeData} (entry : ReportIndexEntry unicode)
    (body : FtsBodyTexts) (now : Time) : IndexScript Nat :=
  Script.savepoint (upsertStatements entry body now).script

/-- `get_report_document`. -/
def getReportDocument (jobId : Text) : IndexScript (Option ReportRow) := selectDocument jobId

/-- `UPDATE report_documents SET doc_status = .., updated_at = :now WHERE id = :id`. -/
def updateStatus (id : Nat) (docStatus : DocStatus) (now : Time) : IndexScript Unit :=
  Script.write fun db => db.setStatus id docStatus now

open Statements in
/-- The body of `mark_report_stale`: only `active` becomes `stale`. -/
def markStaleStatements (jobId : Text) (now : Time) : IndexStatements Bool := do
  match ← execute (selectDocument jobId) with
  | none => return false
  | some row =>
    if row.docStatus ≠ .active then return false
    else do
      execute (updateStatus row.id .stale now)
      return true

/-- `mark_report_stale`, which has no savepoint. -/
def markReportStale (jobId : Text) (now : Time) : IndexScript Bool :=
  (markStaleStatements jobId now).script

open Statements in
/-- The body of `mark_report_missing`: drop the index row, keep the document. -/
def markMissingStatements (jobId : Text) (now : Time) : IndexStatements Bool := do
  match ← execute (selectDocument jobId) with
  | none => return false
  | some row =>
    if row.docStatus = .missing then return false
    else do
      execute (updateStatus row.id .missing now)
      execute (deleteFtsRow row.id)
      return true

/-- `mark_report_missing`. -/
def markReportMissing (jobId : Text) (now : Time) : IndexScript Bool :=
  Script.savepoint (markMissingStatements jobId now).script

open Statements in
/-- The body of `purge_report_document`: delete the index row and the document. -/
def purgeStatements (jobId : Text) : IndexStatements Bool := do
  match ← execute (selectDocument jobId) with
  | none => return false
  | some row => do
    execute (deleteFtsRow row.id)
    execute (Script.write fun db => db.deleteDocument row.id)
    return true

/-- `purge_report_document`. -/
def purgeReportDocument (jobId : Text) : IndexScript Bool :=
  Script.savepoint (purgeStatements jobId).script

/-- `list_document_paths`, ordered by job id. -/
def listDocumentPaths : IndexScript (List (Text × Text)) := do
  let db ← Script.read
  return (db.documents.map fun row => (row.jobId, row.relativePath)).mergeSort
    fun a b => a.1 ≤ b.1

/-! ## Issues -/

def IssueRow.isOpen (row : IssueRow) (code : IssueCode) (path : Text) : Bool :=
  row.issueCode = code && row.relativePath = path && row.resolvedAt.isNone

/-- `record_index_issue`: refresh the open row or insert one. -/
def recordIndexIssue (code : IssueCode) (path : Text) (now : Time) : IndexScript Nat := do
  bindTexts [path]
  let db ← Script.read
  match db.issues.find? fun row => row.isOpen code path with
  | some found => do
    Script.write fun db =>
      { db with
        issues := db.issues.map fun row =>
          if row.id = found.id then { row with lastSeenAt := now } else row }
    return found.id
  | none => do
    Script.write fun db =>
      { db with
        issues := db.issues ++
          [{ id := db.nextIssueId, issueCode := code, relativePath := path, firstSeenAt := now,
             lastSeenAt := now }]
        nextIssueId := db.nextIssueId + 1 }
    return db.nextIssueId

/-- `resolve_index_issue`; returns how many rows changed. -/
def resolveIndexIssue (code : IssueCode) (path : Text) (now : Time) : IndexScript Nat := do
  bindTexts [path]
  let db ← Script.read
  let openRows := db.issues.filter fun row => row.isOpen code path
  if openRows.isEmpty then return 0
  else do
    Script.write fun db =>
      { db with
        issues := db.issues.map fun row =>
          if openRows.any fun other => other.id = row.id then { row with resolvedAt := some now }
          else row }
    return openRows.length

/-- A statement with so many host parameters can be prepared. -/
def prepareVariables (maxVariables count : Nat) : IndexScript Unit :=
  if count ≤ maxVariables then pure () else Script.raise .operationalError

/-- `resolve_issues_for_absent_paths`: each path is a host parameter of both statements, and
the UPDATE has `:now` besides. -/
def resolveIssuesForAbsentPaths (maxVariables : Nat) (presentPaths : List Text) (now : Time) :
    IndexScript Nat := do
  prepareVariables maxVariables presentPaths.length
  bindTexts presentPaths
  let db ← Script.read
  let affected := db.issues.filter fun row =>
    row.resolvedAt.isNone && !presentPaths.contains row.relativePath
  if affected.isEmpty then return 0
  else do
    prepareVariables maxVariables (presentPaths.length + 1)
    Script.write fun db =>
      { db with
        issues := db.issues.map fun row =>
          if row.resolvedAt.isNone && !presentPaths.contains row.relativePath then
            { row with resolvedAt := some now }
          else row }
    return affected.length

/-! ## Rebuild state -/

/-- `set_index_state`: entering `running` starts afresh, `idle` stamps the end, and
`needs_rebuild` only records the reason. -/
def setIndexState (state : IndexState) (now : Time) (errorCode : Option String) : IndexScript Unit :=
  Script.write fun db =>
    { db with
      status :=
        match state with
        | .running => { state := .running, startedAt := some now }
        | .idle =>
          { db.status with state := .idle, finishedAt := some now, lastErrorCode := errorCode }
        | .needsRebuild => { db.status with state := .needsRebuild, lastErrorCode := errorCode } }

/-- `record_rebuild_counters`. -/
def recordRebuildCounters (counters : Counters) : IndexScript Unit :=
  Script.write fun db =>
    { db with status := { db.status with counters := db.status.counters.add counters } }

/-- A document that must have an index row. -/
def ReportRow.searchable (row : ReportRow) : Bool :=
  row.docStatus = .active || row.docStatus = .stale

/-- `verify_fts`: index rows are those of the active and stale documents. -/
def IndexDb.ftsConsistent (db : IndexDb) : Bool :=
  (db.documents.filter ReportRow.searchable).length = db.fts.length &&
    (db.documents.all fun row => !row.searchable || db.fts.any fun fts => fts.rowid = row.id) &&
    db.fts.all fun fts => db.documents.any fun row => row.id = fts.rowid && row.searchable

end EvoBlue.Source
