import EvoBlue.Kernel.Like
import EvoBlue.Source.IndexEffects
import EvoBlue.Source.JobOperations

/-!
# Lists of jobs and reports

`list_jobs` of `storage/repository.py`, `list_report_documents` of
`storage/report_repository.py`, and `jobs_unified_list` of `web/app.py`, which puts
the page of one behind the page of the other. All of its reads are made in one read
transaction, so it is a function of one snapshot of the tables.
-/

namespace EvoBlue.Source

open EvoBlue.Kernel

/-! ## Filters -/

/-- `_escape_like`, of either repository. -/
def escapeLike (value : Text) : Text :=
  replaceAll [cp '_'] (text "\\_")
    (replaceAll [cp '%'] (text "\\%") (replaceAll [cp '\\'] (text "\\\\") value))

/-- `ilike` with an escape character, as it is compiled for SQLite. -/
def ilike (needle subject : Text) : Bool := like (sqlLower needle) (sqlLower subject)

section

variable (unicode : UnicodeData) (platform query : Option Text)

/-- What `list_jobs` asks of a row for its platform and its query. -/
def jobSelected (title url platformOf : Option Text) : Bool :=
  (platform.all fun platform => strip platform = [] ||
    platformOf.any fun stored => sqlLower stored = lower unicode (strip platform)) &&
  query.all fun query => strip query = [] ||
    title.any (ilike (containsPattern (escapeLike (strip query)))) ||
      url.any (ilike (containsPattern (escapeLike (strip query))))

/-- What `list_report_documents` asks of a row for its platform and its query. -/
def reportSelected (title sourceUrl platformOf : Text) : Bool :=
  (platform.all fun platform => sqlLower platformOf = sqlLower platform) &&
  query.all fun query => strip query = [] ||
    like (containsPattern (lower unicode (escapeLike (strip query)))) (sqlLower title) ||
      like (containsPattern (lower unicode (escapeLike (strip query)))) (sqlLower sourceUrl)

/-! ## Pages -/

/-- `.offset(offset).limit(limit)`. -/
def slice {α : Type} (limit offset : Nat) (rows : List α) : List α := (rows.drop offset).take limit

def terminalRank (job : Job) : Nat := if job.status.isTerminal then 1 else 0

/-- The order of `list_jobs`. -/
def jobBefore (a b : Job) : Bool :=
  terminalRank a < terminalRank b || terminalRank a = terminalRank b &&
    (b.createdAt < a.createdAt || b.createdAt = a.createdAt && b.id ≤ a.id)

def jobListed (status : Option JobStatus) (statusGroup : Option String) (job : Job) : Bool :=
  (status.all fun status => job.status = status) &&
  (statusGroup != some "non_completed" || job.status != .completed) &&
  jobSelected unicode platform query (job.title.map text) (some (text job.url))
    (job.platform.map text)

/-- The rows the filters select, in the order they are paged in. -/
def matchingJobs (status : Option JobStatus) (statusGroup : Option String) (db : JobsDb) : List Job :=
  (db.jobs.filter (jobListed unicode platform query status statusGroup)).mergeSort jobBefore

def listJobs (limit offset : Nat) (status : Option JobStatus) (statusGroup : Option String)
    (db : JobsDb) : List Job × Nat :=
  (slice limit offset (matchingJobs unicode platform query status statusGroup db),
    (db.jobs.filter (jobListed unicode platform query status statusGroup)).length)

/-- The order of `list_report_documents`. -/
def reportBefore (a b : ReportRow) : Bool :=
  b.analyzedAt < a.analyzedAt || b.analyzedAt = a.analyzedAt && b.id ≤ a.id

/-- `SELECT job_id FROM jobs WHERE status != 'completed'`. -/
def unfinishedJobIds (db : JobsDb) : List Text :=
  (db.jobs.filter fun job => job.status != .completed).map fun job => text job.jobId

def reportListed (language asrProvider : Option Text) (excluded : List Text) (row : ReportRow) :
    Bool :=
  (row.docStatus = .active || row.docStatus = .stale) &&
  reportSelected unicode platform query row.title row.sourceUrl row.platform &&
  !excluded.contains row.analysisId &&
  (language.all fun language => row.language = language) &&
  asrProvider.all fun asrProvider => row.asrProvider = asrProvider

def matchingReports (language asrProvider : Option Text) (excluded : List Text) (db : IndexDb) :
    List ReportRow :=
  (db.documents.filter (reportListed unicode platform query language asrProvider excluded)).mergeSort
    reportBefore

def listReportDocuments (language asrProvider : Option Text) (excludeUnfinishedJobs : Bool)
    (limit offset : Nat) (jobs : JobsDb) (db : IndexDb) : List ReportRow × Nat :=
  let excluded := if excludeUnfinishedJobs then unfinishedJobIds jobs else []
  (slice limit offset (matchingReports unicode platform query language asrProvider excluded db),
    (db.documents.filter
      (reportListed unicode platform query language asrProvider excluded)).length)

end

/-! ## The unified view -/

/-- The tables as one read transaction sees them. -/
structure Snapshot where
  jobs : JobsDb
  index : IndexDb
  keyed : jobs.Keyed
  formed : index.WellFormed
  /-- Whoever writes the column writes a count. -/
  progress : ∀ row ∈ jobs.jobs, 0 ≤ row.progress

/-- The query parameters; the limit is within its declared bounds. -/
structure UnifiedRequest where
  limit : Nat := 20
  offset : Nat := 0
  platform : Option Text := none
  query : Option Text := none
  positive : 1 ≤ limit := by decide
  capped : limit ≤ 100 := by decide

inductive RowKind where
  | job
  | history
  deriving DecidableEq, Repr

structure UnifiedJobListItem where
  kind : RowKind
  jobId : Text
  status : JobStatus
  progress : Int
  stage : Option JobStatus := none
  errorCode : Option Text := none
  createdAt : Option Time := none
  title : Option Text := none
  platform : Option Text := none
  url : Option Text := none
  deriving DecidableEq

structure UnifiedJobListResponse where
  items : List UnifiedJobListItem
  total : Nat
  jobsTotal : Nat
  historyTotal : Nat
  limit : Nat
  offset : Nat
  deriving DecidableEq

def jobItem (job : Job) : UnifiedJobListItem where
  kind := .job
  jobId := text job.jobId
  status := job.status
  stage := job.stage
  progress := job.progress
  errorCode := job.errorCode.map text
  createdAt := some job.createdAt
  title := job.title.map text
  platform := job.platform.map text
  url := some (text job.url)

def historyItem (row : ReportRow) : UnifiedJobListItem where
  kind := .history
  jobId := row.jobId
  status := .completed
  progress := 100
  title := some row.title
  platform := some row.platform
  url := some row.sourceUrl

section

variable (unicode : UnicodeData) (snapshot : Snapshot) (request : UnifiedRequest)

/-- The call of `list_jobs` both segment queries share. -/
def unifiedJobs (limit offset : Nat) : List Job × Nat :=
  listJobs unicode request.platform request.query limit offset none (some "non_completed")
    snapshot.jobs

def unifiedHistory (limit offset : Nat) : List ReportRow × Nat :=
  listReportDocuments unicode request.platform request.query none none true limit offset
    snapshot.jobs snapshot.index

def jobsUnifiedList : UnifiedJobListResponse :=
  let jobsTotal := (unifiedJobs unicode snapshot request 1 0).2
  let jobs :=
    if request.offset < jobsTotal then
      (unifiedJobs unicode snapshot request (min request.limit (jobsTotal - request.offset))
        request.offset).1
    else []
  let remaining := request.limit - jobs.length
  let historyPage :=
    if remaining > 0 then
      unifiedHistory unicode snapshot request remaining
        (if request.offset < jobsTotal then 0 else request.offset - jobsTotal)
    else
      -- The page lies wholly inside the jobs segment; the total is still part of the answer.
      ([], (unifiedHistory unicode snapshot request 1 0).2)
  { items := jobs.map jobItem ++ historyPage.1.map historyItem
    total := jobsTotal + historyPage.2
    jobsTotal
    historyTotal := historyPage.2
    limit := request.limit
    offset := request.offset }

/-- The whole listing: the unfinished jobs, then the reports of all others. -/
def unifiedListing : List UnifiedJobListItem :=
  (matchingJobs unicode request.platform request.query none (some "non_completed")
    snapshot.jobs).map jobItem ++
  (matchingReports unicode request.platform request.query none none
    (unfinishedJobIds snapshot.jobs) snapshot.index).map historyItem

end

end EvoBlue.Source
