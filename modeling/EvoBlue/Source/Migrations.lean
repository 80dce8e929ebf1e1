import EvoBlue.Kernel.Relational
import EvoBlue.Kernel.Text
import Mathlib.Data.Rat.Defs

/-!
# Schema migrations

`storage/migrations.py`: the chain of schema versions and `init_db`, which runs the
part of the chain the database has not seen, in one transaction. `storage/backup.py`:
the copy taken before a version jump. Columns and tables are named as in the DDL.
-/

namespace EvoBlue.Source

open EvoBlue.Kernel EvoBlue.Kernel.Relational

inductive SqlValue
  | integer (n : Int)
  | real (q : ℚ)
  | text (t : Text)
  deriving DecidableEq

/-- Tables and indexes. -/
inductive SqlName
  | schemaMigrations | jobs | jobsNew | appSettings | jobArtifacts | modelInstallState
  | modelInstall | activeModel | modelDownload | reportDocuments | reportFts | indexIssues
  | indexStatus
  | ixJobArtifactsJobId | ixJobsJobId | ixJobsRequestFingerprint | ixJobsStatus
  | uqModelDownloadActive | ixReportDocumentsJobId | ixReportDocumentsAnalysisId
  | ixReportDocumentsAnalyzedAt | uqIndexIssuesOpen | ixIndexIssuesOpen
  deriving DecidableEq

inductive SqlColumn
  | id | jobId | idempotencyKey | requestFingerprint | url | mode | asr | language
  | configFingerprint | status | stage | progress | attempt | maxAttempts | leaseOwner
  | leaseExpiresAt | cancelRequestedAt | nextRetryAt | errorCode | errorDetail | retryable
  | createdAt | updatedAt | setupCompleted | reportDirectory | llmProvider | llmModel
  | artifactType | inputFingerprint | schemaVersion | storageKind | payloadJson | relativePath
  | contentHash | byteSize | llmBaseUrl | llmCredentialRef | modelId | version
  | downloadedBytes | expectedSizeBytes | tempPath | installedPath | contentSha256
  | installedAt | activeVersion | operationId | sourceUrl | sourceKind | expectedSha256 | etag
  | lastModified | revision | asrProviderId | asrModelId | asrModelVersion
  | asrRecommendationModelId | asrProvider | whisperCppExecutable | analysisId | title
  | platform | author | videoId | publishedAt | analyzedAt | summaryMode | asrModel | tagsJson
  | summaryPreview | docSource | docStatus | indexedAt | tags | summary | transcript
  | issueCode | detail | firstSeenAt | lastSeenAt | resolvedAt | state | startedAt
  | finishedAt | scanned | indexed | unchanged | quarantined | duplicates | removed | purged
  | lastErrorCode | subtitleProbe | llmCredentialOrigin | appliedAt
  deriving DecidableEq

abbrev SqlRow := Row SqlColumn SqlValue
abbrev SqlTable := Table SqlColumn SqlValue
abbrev SqlSchema := Schema SqlName SqlColumn SqlValue
abbrev SqlStatement := Statement SqlName SqlColumn SqlValue
abbrev SqlDb := Database SqlName SqlColumn SqlValue

namespace Ddl

/-- `name type`. -/
def optional (name : SqlColumn) (type : String) : Column SqlColumn SqlValue :=
  ⟨name, type, false, none⟩

/-- `name type NOT NULL`. -/
def required (name : SqlColumn) (type : String) : Column SqlColumn SqlValue :=
  ⟨name, type, true, none⟩

/-- `name type NOT NULL DEFAULT value`. -/
def defaulted (name : SqlColumn) (type : String) (value : SqlValue) :
    Column SqlColumn SqlValue :=
  ⟨name, type, true, some value⟩

def literal (s : String) : SqlValue := .text (Kernel.text s)

/-- The columns of `jobs` between its two keys and `created_at`. -/
def jobColumns : List (Column SqlColumn SqlValue) :=
  [required .url "TEXT", required .mode "VARCHAR(32)", required .asr "VARCHAR(32)",
    optional .language "VARCHAR(64)", required .configFingerprint "VARCHAR(64)",
    required .status "VARCHAR(32)", optional .stage "VARCHAR(32)", required .progress "INTEGER",
    required .attempt "INTEGER", required .maxAttempts "INTEGER",
    optional .leaseOwner "VARCHAR(64)", optional .leaseExpiresAt "FLOAT",
    optional .cancelRequestedAt "FLOAT", optional .nextRetryAt "FLOAT",
    optional .errorCode "VARCHAR(64)", optional .errorDetail "TEXT",
    required .retryable "BOOLEAN", required .createdAt "FLOAT", required .updatedAt "FLOAT"]

/-- `_JOBS_V1_DDL`. -/
def jobsV1 : SqlTable where
  columns := [required .id "INTEGER", required .jobId "VARCHAR(64)",
    required .idempotencyKey "VARCHAR(64)"] ++ jobColumns
  primaryKey := [.id]
  unique := [[.idempotencyKey]]
  check := []

/-- `_APP_SETTINGS_V2_DDL`. -/
def appSettingsV2 : SqlTable where
  columns := [required .id "INTEGER", required .setupCompleted "BOOLEAN",
    optional .reportDirectory "VARCHAR", optional .llmProvider "VARCHAR(32)",
    optional .llmModel "VARCHAR(128)", required .updatedAt "FLOAT"]
  primaryKey := [.id]
  unique := []
  check := []

/-- `_JOB_ARTIFACTS_V3_DDL`. -/
def jobArtifactsV3 : SqlTable where
  columns := [required .id "INTEGER", required .jobId "VARCHAR(64)",
    required .stage "VARCHAR(32)", required .artifactType "VARCHAR(64)",
    required .inputFingerprint "VARCHAR(64)", required .schemaVersion "INTEGER",
    required .storageKind "VARCHAR(16)", optional .payloadJson "TEXT",
    optional .relativePath "VARCHAR", optional .contentHash "VARCHAR(64)",
    optional .byteSize "INTEGER", required .createdAt "FLOAT", required .updatedAt "FLOAT"]
  primaryKey := [.id]
  unique := [[.jobId, .artifactType, .inputFingerprint]]
  check := []

/-- `jobs_new` of `_JOBS_V3_REBUILD`. -/
def jobsV3 : SqlTable where
  columns := [required .id "INTEGER", required .jobId "VARCHAR(64)",
    required .requestFingerprint "VARCHAR(64)"] ++ jobColumns
  primaryKey := [.id]
  unique := []
  check := []

/-- The target and source columns of the copy in `_JOBS_V3_REBUILD`. -/
def jobsV3Copy : List (SqlColumn × SqlColumn) :=
  [(.id, .id), (.jobId, .jobId), (.requestFingerprint, .idempotencyKey), (.url, .url),
    (.mode, .mode), (.asr, .asr), (.language, .language),
    (.configFingerprint, .configFingerprint), (.status, .status), (.stage, .stage),
    (.progress, .progress), (.attempt, .attempt), (.maxAttempts, .maxAttempts),
    (.leaseOwner, .leaseOwner), (.leaseExpiresAt, .leaseExpiresAt),
    (.cancelRequestedAt, .cancelRequestedAt), (.nextRetryAt, .nextRetryAt),
    (.errorCode, .errorCode), (.errorDetail, .errorDetail), (.retryable, .retryable),
    (.createdAt, .createdAt), (.updatedAt, .updatedAt)]

/-- `_MODEL_INSTALL_STATE_V5_DDL`. -/
def modelInstallStateV5 : SqlTable where
  columns := [required .modelId "VARCHAR(64)", required .version "VARCHAR(64)",
    required .status "VARCHAR(32)", required .downloadedBytes "INTEGER",
    required .expectedSizeBytes "INTEGER", optional .tempPath "VARCHAR",
    optional .installedPath "VARCHAR", optional .contentSha256 "VARCHAR(64)",
    optional .errorCode "VARCHAR(64)", optional .errorDetail "TEXT",
    required .updatedAt "FLOAT"]
  primaryKey := [.modelId]
  unique := []
  check := []

/-- `_MODEL_INSTALL_V6_DDL`. -/
def modelInstallV6 : SqlTable where
  columns := [required .modelId "VARCHAR(64)", required .version "VARCHAR(64)",
    required .installedPath "VARCHAR", required .installedAt "FLOAT"]
  primaryKey := [.modelId, .version]
  unique := []
  check := []

/-- `_ACTIVE_MODEL_V6_DDL`. -/
def activeModelV6 : SqlTable where
  columns := [required .modelId "VARCHAR(64)", required .activeVersion "VARCHAR(64)",
    required .updatedAt "FLOAT"]
  primaryKey := [.modelId]
  unique := []
  check := []

/-- `_MODEL_DOWNLOAD_V6_DDL`. -/
def modelDownloadV6 : SqlTable where
  columns := [required .operationId "VARCHAR(64)", required .modelId "VARCHAR(64)",
    required .version "VARCHAR(64)", required .sourceUrl "VARCHAR",
    required .sourceKind "VARCHAR(16)", required .expectedSha256 "VARCHAR(64)",
    required .expectedSizeBytes "INTEGER", required .downloadedBytes "INTEGER",
    optional .tempPath "VARCHAR", optional .etag "VARCHAR", optional .lastModified "VARCHAR",
    required .status "VARCHAR(32)", optional .errorCode "VARCHAR(64)",
    optional .errorDetail "TEXT", required .revision "INTEGER", required .createdAt "FLOAT",
    required .updatedAt "FLOAT"]
  primaryKey := [.operationId]
  unique := []
  check := []

def reportDocumentsV8 : SqlTable where
  columns := [required .id "INTEGER", required .jobId "VARCHAR(64)",
    required .analysisId "VARCHAR(64)", required .title "TEXT",
    required .platform "VARCHAR(64)", defaulted .author "TEXT" (literal ""),
    required .videoId "TEXT", required .sourceUrl "TEXT", optional .publishedAt "REAL",
    required .analyzedAt "REAL", defaulted .language "VARCHAR(64)" (literal ""),
    defaulted .summaryMode "VARCHAR(32)" (literal ""),
    defaulted .asrProvider "VARCHAR(64)" (literal ""),
    defaulted .asrModel "VARCHAR(64)" (literal ""),
    defaulted .asrModelVersion "VARCHAR(64)" (literal ""),
    defaulted .tagsJson "TEXT" (literal "[]"), defaulted .summaryPreview "TEXT" (literal ""),
    required .relativePath "TEXT", required .contentHash "VARCHAR(64)",
    optional .byteSize "INTEGER", defaulted .docSource "VARCHAR(16)" (literal "pipeline"),
    defaulted .docStatus "VARCHAR(16)" (literal "active"), required .indexedAt "REAL",
    required .updatedAt "REAL"]
  primaryKey := [.id]
  unique := []
  check := []

/-- The `fts5` table, as a table without constraints. -/
def reportFtsV8 : SqlTable where
  columns := [optional .title "", optional .tags "", optional .author "", optional .summary "",
    optional .transcript "", optional .url ""]
  primaryKey := []
  unique := []
  check := []

def indexIssuesV8 : SqlTable where
  columns := [required .id "INTEGER", required .issueCode "VARCHAR(64)",
    required .relativePath "TEXT", optional .detail "TEXT", required .firstSeenAt "REAL",
    required .lastSeenAt "REAL", optional .resolvedAt "REAL"]
  primaryKey := [.id]
  unique := []
  check := []

def indexStatusV8 : SqlTable where
  columns := [required .id "INTEGER", defaulted .state "VARCHAR(16)" (literal "idle"),
    optional .startedAt "REAL", optional .finishedAt "REAL",
    defaulted .scanned "INTEGER" (.integer 0), defaulted .indexed "INTEGER" (.integer 0),
    defaulted .unchanged "INTEGER" (.integer 0), defaulted .quarantined "INTEGER" (.integer 0),
    defaulted .duplicates "INTEGER" (.integer 0), defaulted .removed "INTEGER" (.integer 0),
    defaulted .purged "INTEGER" (.integer 0), optional .lastErrorCode "VARCHAR(64)"]
  primaryKey := [.id]
  unique := []
  check := [(.id, .integer 1)]

/-- `schema_migrations`. -/
def schemaMigrations : SqlTable where
  columns := [⟨.version, "INTEGER", false, none⟩, required .appliedAt "REAL"]
  primaryKey := [.version]
  unique := []
  check := []

end Ddl

open Ddl

def applyV1 : List SqlStatement := [.createTable .jobs jobsV1]

def applyV2 : List SqlStatement := [.createTable .appSettings appSettingsV2]

def applyV3 : List SqlStatement :=
  [.createTable .jobArtifacts jobArtifactsV3,
    .createIndex .ixJobArtifactsJobId ⟨.jobArtifacts, [.jobId], false, .all⟩,
    .createTable .jobsNew jobsV3,
    .copyRows .jobsNew .jobs jobsV3Copy,
    .dropTable .jobs,
    .renameTable .jobsNew .jobs,
    .createIndex .ixJobsJobId ⟨.jobs, [.jobId], true, .all⟩,
    .createIndex .ixJobsRequestFingerprint ⟨.jobs, [.requestFingerprint], false, .all⟩,
    .createIndex .ixJobsStatus ⟨.jobs, [.status], false, .all⟩]

def applyV4 : List SqlStatement :=
  [.addColumn .appSettings (optional .llmBaseUrl "VARCHAR"),
    .addColumn .appSettings (optional .llmCredentialRef "VARCHAR(128)")]

def applyV5 : List SqlStatement := [.createTable .modelInstallState modelInstallStateV5]

def applyV6 : List SqlStatement :=
  [.dropTable .modelInstallState,
    .createTable .modelInstall modelInstallV6,
    .createTable .activeModel activeModelV6,
    .createTable .modelDownload modelDownloadV6,
    .createIndex .uqModelDownloadActive ⟨.modelDownload, [.modelId], true,
      .isIn .status [literal "pending", literal "downloading", literal "verifying",
        literal "installing"]⟩]

/-- Version 7 widens the tables it finds. -/
def applyV7 (schema : SqlSchema) : List SqlStatement :=
  (if .jobs ∈ Dict.keys schema.tables then
    [.addColumn .jobs (optional .asrProviderId "VARCHAR(64)"),
      .addColumn .jobs (optional .asrModelId "VARCHAR(64)"),
      .addColumn .jobs (optional .asrModelVersion "VARCHAR(64)"),
      .addColumn .jobs (optional .asrRecommendationModelId "VARCHAR(64)")]
  else []) ++
  (if .appSettings ∈ Dict.keys schema.tables then
    [.addColumn .appSettings (optional .asrProvider "VARCHAR(64)"),
      .addColumn .appSettings (optional .whisperCppExecutable "VARCHAR")]
  else [])

/-- `_V8_STATEMENTS`. -/
def applyV8 : List SqlStatement :=
  [.createTable .reportDocuments reportDocumentsV8,
    .createIndex .ixReportDocumentsJobId ⟨.reportDocuments, [.jobId], true, .all⟩,
    .createIndex .ixReportDocumentsAnalysisId ⟨.reportDocuments, [.analysisId], true, .all⟩,
    .createIndex .ixReportDocumentsAnalyzedAt ⟨.reportDocuments, [.analyzedAt], false, .all⟩,
    .createTable .reportFts reportFtsV8,
    .createTable .indexIssues indexIssuesV8,
    .createIndex .uqIndexIssuesOpen
      ⟨.indexIssues, [.issueCode, .relativePath], true, .isNull .resolvedAt⟩,
    .createIndex .ixIndexIssuesOpen ⟨.indexIssues, [.resolvedAt], false, .all⟩,
    .createTable .indexStatus indexStatusV8,
    .insert .indexStatus [(.id, some (.integer 1)), (.state, some (literal "idle"))]]

/-- `_V9_STATEMENTS`. -/
def applyV9 : List SqlStatement :=
  [.addColumn .jobs (optional .title "TEXT"),
    .addColumn .jobs (optional .platform "VARCHAR(32)"),
    .addColumn .jobs (optional .subtitleProbe "VARCHAR(32)")]

/-- `_V10_STATEMENTS`. -/
def applyV10 : List SqlStatement :=
  [.addColumn .appSettings (optional .llmCredentialOrigin "VARCHAR(512)"),
    .update .appSettings .llmCredentialOrigin .llmBaseUrl [.llmCredentialRef, .llmBaseUrl]]

/-- What version `v` of the chain sends, to a database with this schema. -/
def applyVersion (v : Nat) (schema : SqlSchema) : List SqlStatement :=
  match v with
  | 1 => applyV1
  | 2 => applyV2
  | 3 => applyV3
  | 4 => applyV4
  | 5 => applyV5
  | 6 => applyV6
  | 7 => applyV7 schema
  | 8 => applyV8
  | 9 => applyV9
  | 10 => applyV10
  | _ => []

/-- `SCHEMA_VERSION`. -/
def SCHEMA_VERSION : Nat := 10

/-- The versions of `_MIGRATIONS`, in order. -/
def migrationVersions : List Nat := [1, 2, 3, 4, 5, 6, 7, 8, 9, 10]

/-- `CREATE TABLE IF NOT EXISTS schema_migrations`. -/
def ensureSchemaMigrations (db : SqlDb) : Except SqlError SqlDb :=
  if .schemaMigrations ∈ Dict.keys db.schema.tables then .ok db
  else exec (.createTable .schemaMigrations Ddl.schemaMigrations) db

def versionOf (row : SqlRow) : Option Int :=
  match row .version with
  | some (.integer v) => some v
  | _ => none

/-- `SELECT MAX(version) FROM schema_migrations`, zero when there is none. -/
def appliedVersion (db : SqlDb) : Int :=
  ((db.rows .schemaMigrations).filterMap versionOf).max?.getD 0

def recordVersion (now : ℚ) (v : Nat) : SqlStatement :=
  .insert .schemaMigrations [(.version, some (.integer v)), (.appliedAt, some (.real now))]

/-- The loop over `_MIGRATIONS`; `clock` is what `_now()` answers at each version. -/
def runMigrations (clock : Nat → ℚ) (target : Option Nat) (applied : Int) :
    List Nat → SqlDb → Except SqlError SqlDb
  | [], db => .ok db
  | v :: rest, db =>
    if (v : Int) ≤ applied then runMigrations clock target applied rest db
    else if target.any (· < v) then runMigrations clock target applied rest db
    else
      match execAll (applyVersion v db.schema ++ [recordVersion (clock v) v]) db with
      | .ok after => runMigrations clock target applied rest after
      | .error failure => .error failure

/-- `init_db` without its backup: the database after the transaction committed, or
the error that rolled it back. -/
def initDb (clock : Nat → ℚ) (target : Option Nat) (db : SqlDb) : Except SqlError SqlDb :=
  match ensureSchemaMigrations db with
  | .ok ensured => runMigrations clock target (appliedVersion ensured) migrationVersions ensured
  | .error failure => .error failure

/-! ## The copy before an upgrade -/

/-- `_read_schema_version` on a readable file: `none` when the version table is missing. -/
def readSchemaVersion (db : SqlDb) : Option Int :=
  if .schemaMigrations ∈ Dict.keys db.schema.tables then some (appliedVersion db) else none

/-- The files of the data directory: the database and its copies by version. -/
structure DatabaseFiles where
  live : SqlDb
  copies : Int → Option SqlDb

/-- A database file without tables, as `connect` leaves a new one. -/
def emptyDb : SqlDb := ⟨⟨[], []⟩, fun _ => []⟩

/-- How far `_snapshot` comes. -/
inductive SnapshotEnd where
  /-- One of the files could not be opened. -/
  | unopened
  /-- `src.backup` failed, and its transaction was rolled back. -/
  | brokenOff
  | written
  deriving DecidableEq

/-- `_snapshot`: connecting to the copy makes the file before anything is written to it. -/
def snapshot (live : SqlDb) (copy : Option SqlDb) : SnapshotEnd → Option SqlDb
  | .unopened => copy
  | .brokenOff => some (copy.getD emptyDb)
  | .written => some live

/-- One call of `init_db`: whether the version could be read, how far the snapshot came,
and whether the transaction reached its commit. -/
structure Start where
  versionReadable : Bool
  snapshot : SnapshotEnd
  commits : Bool
  clock : Nat → ℚ

/-- `backup_before_upgrade`. -/
def backupBeforeUpgrade (start : Start) (files : DatabaseFiles) : DatabaseFiles :=
  match if start.versionReadable then readSchemaVersion files.live else none with
  | none => files
  | some current =>
    if current = 0 ∨ (SCHEMA_VERSION : Int) ≤ current then files
    else
      { files with
        copies := Function.update files.copies current
          (snapshot files.live (files.copies current) start.snapshot) }

/-- `init_db` as the engine calls it. The transaction is all or nothing: an error,
or a death before the commit, leaves the file as it was. -/
def DatabaseFiles.start (files : DatabaseFiles) (start : Start) : DatabaseFiles :=
  let saved := backupBeforeUpgrade start files
  match initDb start.clock none saved.live with
  | .ok after => if start.commits then { saved with live := after } else saved
  | .error _ => saved

end EvoBlue.Source
