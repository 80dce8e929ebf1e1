import EvoBlue.Kernel.Json
import EvoBlue.Source.JobListing

/-!
# List pages on the wire

The body `jobs_unified_list` answers with, and what `mcp/listing.py` makes of a body:
`_strict_window`, the strict row model, and `unified_page`. A floating-point number is
kept as it is spelled.
-/

namespace EvoBlue.Source

open EvoBlue.Kernel

/-! ## The response body -/

def RowKind.value : RowKind → Text
  | .job => text "job"
  | .history => text "history"

def optionalStr (value : Option Text) : Json := value.elim .null .str

/-- `spell` writes a time as `json` writes a float. -/
def UnifiedJobListItem.toJson (spell : Time → Text) (item : UnifiedJobListItem) : Json :=
  .object [(text "kind", .str item.kind.value), (text "job_id", .str item.jobId),
    (text "status", .str (text item.status.value)), (text "progress", .int item.progress),
    (text "stage", optionalStr (item.stage.map fun stage => text stage.value)),
    (text "error_code", optionalStr item.errorCode),
    (text "created_at", item.createdAt.elim .null fun time => .float (spell time)),
    (text "title", optionalStr item.title), (text "platform", optionalStr item.platform),
    (text "url", optionalStr item.url)]

def UnifiedJobListResponse.toJson (spell : Time → Text) (response : UnifiedJobListResponse) : Json :=
  .object [(text "items", .array (response.items.map (·.toJson spell))),
    (text "total", .int response.total), (text "jobs_total", .int response.jobsTotal),
    (text "history_total", .int response.historyTotal), (text "limit", .int response.limit),
    (text "offset", .int response.offset)]

/-! ## Strict values -/

/-- A required `str`. -/
def strictStr : Option Json → Option Text
  | some (.str value) => some value
  | _ => none

/-- `str | None = None`. -/
def strictOptionalStr : Option Json → Option (Option Text)
  | none | some .null => some none
  | some (.str value) => some (some value)
  | _ => none

/-- `int = Field(ge=0)`; a bool is no int. -/
def strictCount : Option Json → Option Int
  | some (.int value) => if 0 ≤ value then some value else none
  | _ => none

/-- Whether an integer converts to a double without overflow. -/
def fitsDouble (value : Int) : Bool := value.natAbs < 2 ^ 1024 - 2 ^ 970

/-- `float | None = None`; an int that fits is a float. -/
def strictOptionalFloat : Option Json → Option (Option Json)
  | none | some .null => some none
  | some (.float lexeme) => some (some (.float lexeme))
  | some (.int value) => if fitsDouble value then some (some (.int value)) else none
  | _ => none

/-- `isinstance(value, int) and not isinstance(value, bool)`. -/
def plainInt : Option Json → Option Int
  | some (.int value) => some value
  | _ => none

/-! ## Rows -/

structure WireUnifiedRow where
  kind : Text
  jobId : Text
  status : Text
  progress : Int
  stage : Option Text
  errorCode : Option Text
  createdAt : Option Json
  title : Option Text
  platform : Option Text
  url : Option Text

/-- `_WireUnifiedRow.model_validate`. -/
def wireUnifiedRow (raw : Json) : Option WireUnifiedRow :=
  match raw with
  | .object _ => do
    let kind ← strictStr (raw.get (text "kind"))
    let jobId ← strictStr (raw.get (text "job_id"))
    let status ← strictStr (raw.get (text "status"))
    let progress ← strictCount (raw.get (text "progress"))
    let stage ← strictOptionalStr (raw.get (text "stage"))
    let errorCode ← strictOptionalStr (raw.get (text "error_code"))
    let createdAt ← strictOptionalFloat (raw.get (text "created_at"))
    let title ← strictOptionalStr (raw.get (text "title"))
    let platform ← strictOptionalStr (raw.get (text "platform"))
    let url ← strictOptionalStr (raw.get (text "url"))
    return { kind, jobId, status, progress, stage, errorCode, createdAt, title, platform, url }
  | _ => none

structure AnalysisJobListItem where
  jobId : Text
  title : Option Text := none
  platform : Option Text := none
  status : JobStatus
  progress : Option Int := none
  errorCode : Option Text := none
  url : Option Text := none
  deriving DecidableEq

structure ListAnalysisJobsOutput where
  items : List AnalysisJobListItem
  limit : Nat
  offset : Nat
  total : Int
  deriving DecidableEq

inductive ListPageError where
  /-- `EngineListFormatError`. -/
  | engineListFormat (message : String)
  /-- `ValidationError` of the page itself. -/
  | validationError
  deriving DecidableEq, Repr

abbrev ListPage := Except ListPageError

def engineListFormat {α : Type} (message : String) : ListPage α := .error (.engineListFormat message)

/-- `_wire` with the row model of the unified view. -/
def wire (raw : Json) : ListPage WireUnifiedRow :=
  match wireUnifiedRow raw with
  | some row => .ok row
  | none => engineListFormat "engine list item failed wire validation"

/-- The constraint of the field `progress`. -/
def AnalysisJobListItem.accepted (item : AnalysisJobListItem) : Bool :=
  item.progress.all fun progress => 0 ≤ progress && progress ≤ 100

/-- `JobStatus(value)`. -/
def jobStatusOf (value : Text) : Option JobStatus :=
  JobStatus.all.find? fun status => text status.value = value

/-- Construct the row of the output. -/
def project (item : AnalysisJobListItem) : ListPage AnalysisJobListItem :=
  if item.accepted then .ok item else engineListFormat "engine list item failed MCP projection"

def mcpJob (row : WireUnifiedRow) : ListPage AnalysisJobListItem :=
  match jobStatusOf row.status with
  | none => engineListFormat "engine list item has an unknown status"
  | some status =>
    project
      { jobId := row.jobId, title := row.title, platform := row.platform, status
        progress := some row.progress, errorCode := row.errorCode, url := row.url }

def mcpHistoryItem (jobId : Text) (title platform url : Option Text) : ListPage AnalysisJobListItem :=
  project { jobId, title, platform, status := .completed, progress := some 100, url }

/-! ## Pages -/

/-- The rows of a body and its total, when the window is the one asked for. -/
def strictWindow (body : Json) (limit offset : Nat) : ListPage (List Json × Int) :=
  match body with
  | .object _ =>
    match body.get (text "items"), plainInt (body.get (text "total")) with
    | some (.array rawItems), some total =>
      if total < 0 then engineListFormat "engine list body missing items/total"
      else if plainInt (body.get (text "limit")) ≠ some limit ∨
          plainInt (body.get (text "offset")) ≠ some offset then
        engineListFormat "engine list window does not echo the request"
      else if (rawItems.length : Int) ≠ min (limit : Int) (max 0 (total - offset)) then
        engineListFormat "engine list page capacity is inconsistent"
      else .ok (rawItems, total)
    | _, _ => engineListFormat "engine list body missing items/total"
  | _ => engineListFormat "engine list body is not an object"

def expectedKind (jobsTotal : Int) (position : Nat) : RowKind :=
  if (position : Int) < jobsTotal then .job else .history

/-- A row of the kind its position expects. -/
def projectRow (row : WireUnifiedRow) : ListPage AnalysisJobListItem :=
  if row.kind = RowKind.history.value then
    if row.status ≠ text JobStatus.completed.value then
      engineListFormat "unified history item must present as completed"
    else mcpHistoryItem row.jobId row.title row.platform row.url
  else do
    let item ← mcpJob row
    if item.status = .completed then
      engineListFormat "unified job segment must not contain completed jobs"
    else return item

/-- One row at its global index. -/
def unifiedRow (jobsTotal : Int) (position : Nat) (raw : Json) : ListPage AnalysisJobListItem := do
  let row ← wire raw
  if row.kind ≠ (expectedKind jobsTotal position).value then
    engineListFormat ("unified row sits outside its segment position (global index " ++
      toString position ++ ", expected " ++ plainString (expectedKind jobsTotal position).value ++ ")")
  else projectRow row

/-- The rows from this global index on. -/
def unifiedRows (jobsTotal : Int) : (position : Nat) → List Json → ListPage (List AnalysisJobListItem)
  | _, [] => .ok []
  | position, raw :: rest => do
    let item ← unifiedRow jobsTotal position raw
    let items ← unifiedRows jobsTotal (position + 1) rest
    return item :: items

/-- The constraints of `ListAnalysisJobsOutput`. -/
def listAnalysisJobsOutput (items : List AnalysisJobListItem) (limit offset : Nat) (total : Int) :
    ListPage ListAnalysisJobsOutput :=
  if 1 ≤ limit ∧ limit ≤ 100 ∧ 0 ≤ total then .ok { items, limit, offset, total }
  else .error .validationError

/-- A segment total: an int that is not negative. -/
def segmentTotal (value : Option Json) : ListPage Int :=
  match plainInt value with
  | some total =>
    if total < 0 then engineListFormat "unified list body missing segment totals" else .ok total
  | none => engineListFormat "unified list body missing segment totals"

def unifiedPage (body : Json) (limit offset : Nat) : ListPage ListAnalysisJobsOutput := do
  let (rawItems, total) ← strictWindow body limit offset
  let jobsTotal ← segmentTotal (body.get (text "jobs_total"))
  let historyTotal ← segmentTotal (body.get (text "history_total"))
  if total ≠ jobsTotal + historyTotal then
    engineListFormat "unified total does not equal the segment sums"
  else do
    let items ← unifiedRows jobsTotal offset rawItems
    listAnalysisJobsOutput items limit offset total

end EvoBlue.Source
