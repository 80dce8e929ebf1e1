import EvoBlue.Guarantees.ListFilters
import EvoBlue.Guarantees.ListPages
import EvoBlue.Source.ListWire

/-!
# The engine's pages at the bridge

Every page the engine answers with passes the bridge's validation and comes out as
the same rows. Of any other body the bridge makes its one error, or a page whose size
and whose segments are what the body's own totals say.
-/

namespace EvoBlue.Guarantees

open EvoBlue.Kernel EvoBlue.Source

/-! ## Errors -/

/-- It fails with `EngineListFormatError` if it fails. -/
def FormatErrorOnly {α : Type} (page : ListPage α) : Prop :=
  ∀ error, page = .error error → ∃ message, error = .engineListFormat message

section

variable {α β : Type}

theorem formatErrorOnly_ok (value : α) : FormatErrorOnly (.ok value : ListPage α) := by
  intro error failed
  cases failed

theorem formatErrorOnly_format (message : String) :
    FormatErrorOnly (engineListFormat message : ListPage α) := by
  intro error failed
  cases failed
  exact ⟨message, rfl⟩

theorem formatErrorOnly_bind {first : ListPage α} {next : α → ListPage β}
    (begins : FormatErrorOnly first) (goes : ∀ value, first = .ok value → FormatErrorOnly (next value)) :
    FormatErrorOnly (first >>= next) := by
  cases first with
  | ok value => exact goes value rfl
  | error raised =>
    intro error failed
    obtain ⟨message, rfl⟩ := begins raised rfl
    cases failed
    exact ⟨message, rfl⟩

theorem page_bind_ok {first : ListPage α} {next : α → ListPage β} {result : β}
    (returned : (first >>= next) = .ok result) :
    ∃ value, first = .ok value ∧ next value = .ok result := by
  cases first with
  | ok value => exact ⟨value, rfl, returned⟩
  | error raised => cases returned

end

theorem project_formatErrorOnly (item : AnalysisJobListItem) : FormatErrorOnly (project item) := by
  unfold project
  split
  · exact formatErrorOnly_ok item
  · exact formatErrorOnly_format _

theorem wire_formatErrorOnly (raw : Json) : FormatErrorOnly (wire raw) := by
  unfold wire
  split
  · exact formatErrorOnly_ok _
  · exact formatErrorOnly_format _

theorem projectRow_formatErrorOnly (row : WireUnifiedRow) : FormatErrorOnly (projectRow row) := by
  unfold projectRow
  split
  · split
    · exact formatErrorOnly_format _
    · exact project_formatErrorOnly _
  · refine formatErrorOnly_bind ?_ fun item _ => ?_
    · unfold mcpJob
      split
      · exact formatErrorOnly_format _
      · exact project_formatErrorOnly _
    · split
      · exact formatErrorOnly_format _
      · exact formatErrorOnly_ok item

theorem unifiedRow_formatErrorOnly (jobsTotal : Int) (position : Nat) (raw : Json) :
    FormatErrorOnly (unifiedRow jobsTotal position raw) := by
  refine formatErrorOnly_bind (wire_formatErrorOnly raw) fun row _ => ?_
  split
  · exact formatErrorOnly_format _
  · exact projectRow_formatErrorOnly row

theorem unifiedRows_formatErrorOnly (jobsTotal : Int) (position : Nat) (rawItems : List Json) :
    FormatErrorOnly (unifiedRows jobsTotal position rawItems) := by
  induction rawItems generalizing position with
  | nil => exact formatErrorOnly_ok []
  | cons raw rest ih =>
    refine formatErrorOnly_bind (unifiedRow_formatErrorOnly jobsTotal position raw) fun item _ => ?_
    refine formatErrorOnly_bind (ih (position + 1)) fun items _ => ?_
    exact formatErrorOnly_ok (item :: items)

theorem strictWindow_formatErrorOnly (body : Json) (limit offset : Nat) :
    FormatErrorOnly (strictWindow body limit offset) := by
  unfold strictWindow
  split
  · split
    · split
      · exact formatErrorOnly_format _
      · split
        · exact formatErrorOnly_format _
        · split
          · exact formatErrorOnly_format _
          · exact formatErrorOnly_ok _
    · exact formatErrorOnly_format _
  · exact formatErrorOnly_format _

theorem segmentTotal_formatErrorOnly (value : Option Json) : FormatErrorOnly (segmentTotal value) := by
  unfold segmentTotal
  split
  · split
    · exact formatErrorOnly_format _
    · exact formatErrorOnly_ok _
  · exact formatErrorOnly_format _

/-! ## What an accepted body says -/

theorem plainInt_some {value : Option Json} {n : Int} (found : plainInt value = some n) :
    value = some (.int n) := by
  unfold plainInt at found
  split at found
  · cases found
    rfl
  · cases found

/-- The window that was accepted. -/
theorem strictWindow_ok {body : Json} {limit offset : Nat} {rawItems : List Json} {total : Int}
    (accepted : strictWindow body limit offset = .ok (rawItems, total)) :
    body.get (text "total") = some (.int total) ∧ 0 ≤ total ∧
      (rawItems.length : Int) = min (limit : Int) (max 0 (total - offset)) := by
  unfold strictWindow at accepted
  split at accepted
  · split at accepted
    next found =>
      split at accepted
      · cases accepted
      next nonneg =>
        split at accepted
        · cases accepted
        · split at accepted
          · cases accepted
          next fits =>
            cases accepted
            exact ⟨plainInt_some found, by omega, not_not.1 fits⟩
    · cases accepted
  · cases accepted

theorem segmentTotal_ok {value : Option Json} {total : Int} (accepted : segmentTotal value = .ok total) :
    value = some (.int total) := by
  unfold segmentTotal at accepted
  split at accepted
  next found =>
    split at accepted
    · cases accepted
    · cases accepted
      exact plainInt_some found
  · cases accepted

theorem project_ok {item projected : AnalysisJobListItem} (accepted : project item = .ok projected) :
    projected = item ∧ item.accepted = true := by
  unfold project at accepted
  split at accepted
  next fits =>
    cases accepted
    exact ⟨rfl, fits⟩
  · cases accepted

/-- A row below the segment boundary is an unfinished job, any other a completed report. -/
def InSegment (jobsTotal : Int) (position : Nat) (item : AnalysisJobListItem) : Prop :=
  ((position : Int) < jobsTotal → item.status ≠ .completed) ∧
    (jobsTotal ≤ position → item.status = .completed ∧ item.progress = some 100)

/-- What the row of either kind comes to. -/
theorem projectRow_ok {row : WireUnifiedRow} {item : AnalysisJobListItem}
    (accepted : projectRow row = .ok item) : item.accepted = true ∧
      (row.kind = RowKind.history.value → item.status = .completed ∧ item.progress = some 100) ∧
      (row.kind ≠ RowKind.history.value → item.status ≠ .completed) := by
  unfold projectRow at accepted
  split at accepted
  next history =>
    split at accepted
    · cases accepted
    · obtain ⟨rfl, fits⟩ := project_ok accepted
      exact ⟨fits, fun _ => ⟨rfl, rfl⟩, fun other => absurd history other⟩
  next job =>
    obtain ⟨projected, built, accepted⟩ := page_bind_ok accepted
    split at accepted
    · cases accepted
    next unfinished =>
      cases accepted
      refine ⟨?_, fun history => absurd history job, fun _ => unfinished⟩
      unfold mcpJob at built
      split at built
      · cases built
      · obtain ⟨rfl, fits⟩ := project_ok built
        exact fits

theorem unifiedRow_ok {jobsTotal : Int} {position : Nat} {raw : Json} {item : AnalysisJobListItem}
    (accepted : unifiedRow jobsTotal position raw = .ok item) :
    InSegment jobsTotal position item ∧ item.accepted = true := by
  obtain ⟨row, -, accepted⟩ := page_bind_ok accepted
  split at accepted
  · cases accepted
  next placed =>
    have kind : row.kind = (expectedKind jobsTotal position).value := not_not.1 placed
    obtain ⟨fits, history, job⟩ := projectRow_ok accepted
    unfold expectedKind at kind
    refine ⟨⟨fun below => job ?_, fun above => history ?_⟩, fits⟩
    · rw [kind, if_pos below]
      decide
    · rw [kind, if_neg (by omega)]

theorem unifiedRows_ok {jobsTotal : Int} {position : Nat} {rawItems : List Json}
    {items : List AnalysisJobListItem} (accepted : unifiedRows jobsTotal position rawItems = .ok items) :
    items.length = rawItems.length ∧ ∀ index item, items[index]? = some item →
      InSegment jobsTotal (position + index) item ∧ item.accepted = true := by
  induction rawItems generalizing position items with
  | nil =>
    cases accepted
    exact ⟨rfl, fun index item found => by simp at found⟩
  | cons raw rest ih =>
    obtain ⟨first, built, accepted⟩ := page_bind_ok accepted
    obtain ⟨others, later, accepted⟩ := page_bind_ok accepted
    cases accepted
    obtain ⟨length, rows⟩ := ih later
    refine ⟨by rw [List.length_cons, List.length_cons, length], ?_⟩
    intro index item found
    cases index with
    | zero =>
      cases found
      exact unifiedRow_ok built
    | succ index =>
      have place := rows index item found
      rwa [Nat.add_assoc, Nat.add_comm 1 index] at place

/-! ## What the engine writes is read -/

section

variable {spell : Time → Text}

theorem strictOptionalStr_optionalStr (value : Option Text) :
    strictOptionalStr (some (optionalStr value)) = some value := by
  cases value <;> rfl

/-- The row a listed item is read as. -/
def wireOf (spell : Time → Text) (item : UnifiedJobListItem) : WireUnifiedRow where
  kind := item.kind.value
  jobId := item.jobId
  status := text item.status.value
  progress := item.progress
  stage := item.stage.map fun stage => text stage.value
  errorCode := item.errorCode
  createdAt := item.createdAt.map fun time => .float (spell time)
  title := item.title
  platform := item.platform
  url := item.url

theorem wire_toJson (item : UnifiedJobListItem) (counted : 0 ≤ item.progress) :
    wire (item.toJson spell) = .ok (wireOf spell item) := by
  have created : strictOptionalFloat (some (item.createdAt.elim .null fun time => .float (spell time))) =
      some (item.createdAt.map fun time => .float (spell time)) := by
    cases item.createdAt <;> rfl
  have read : wireUnifiedRow (item.toJson spell) = some (wireOf spell item) := by
    have fields : wireUnifiedRow (item.toJson spell) = (do
        let progress ← strictCount (some (.int item.progress))
        let stage ← strictOptionalStr
          (some (optionalStr (item.stage.map fun stage => text stage.value)))
        let errorCode ← strictOptionalStr (some (optionalStr item.errorCode))
        let createdAt ← strictOptionalFloat
          (some (item.createdAt.elim .null fun time => .float (spell time)))
        let title ← strictOptionalStr (some (optionalStr item.title))
        let platform ← strictOptionalStr (some (optionalStr item.platform))
        let url ← strictOptionalStr (some (optionalStr item.url))
        return { kind := item.kind.value, jobId := item.jobId, status := text item.status.value,
                 progress, stage, errorCode, createdAt, title, platform, url }) := rfl
    rw [fields, created]
    simp [strictCount, counted, strictOptionalStr_optionalStr, wireOf]
  unfold wire
  rw [read]

theorem jobStatusOf_value (status : JobStatus) : jobStatusOf (text status.value) = some status := by
  cases status <;> decide

/-- The row of the output with an item's own values. -/
def listItem (item : UnifiedJobListItem) : AnalysisJobListItem where
  jobId := item.jobId
  title := item.title
  platform := item.platform
  status := item.status
  progress := some item.progress
  errorCode := item.errorCode
  url := item.url

/-- A row of the kind its position expects is projected. -/
theorem unifiedRow_placed {item : UnifiedJobListItem} {jobsTotal : Int} {position : Nat}
    (counted : 0 ≤ item.progress) (placed : item.kind = expectedKind jobsTotal position) :
    unifiedRow jobsTotal position (item.toJson spell) = projectRow (wireOf spell item) := by
  have kind : ¬ (wireOf spell item).kind ≠ (expectedKind jobsTotal position).value := by
    rw [← placed]
    exact not_not.2 rfl
  unfold unifiedRow
  rw [wire_toJson item counted]
  exact if_neg kind

theorem projectRow_job {job : Job} (unfinished : job.status ≠ .completed)
    (counted : 0 ≤ job.progress ∧ job.progress ≤ 100) :
    projectRow (wireOf spell (jobItem job)) = .ok (listItem (jobItem job)) := by
  have built : mcpJob (wireOf spell (jobItem job)) = .ok (listItem (jobItem job)) := by
    have known : jobStatusOf (wireOf spell (jobItem job)).status = some job.status :=
      jobStatusOf_value job.status
    have fits : (listItem (jobItem job)).accepted = true := by
      simp [AnalysisJobListItem.accepted, listItem, jobItem, counted]
    unfold mcpJob
    rw [known]
    exact if_pos fits
  have kind : (wireOf spell (jobItem job)).kind ≠ RowKind.history.value := by
    change RowKind.job.value ≠ RowKind.history.value
    decide
  unfold projectRow
  rw [if_neg kind, built]
  exact if_neg unfinished

theorem projectRow_history (row : ReportRow) :
    projectRow (wireOf spell (historyItem row)) = .ok (listItem (historyItem row)) := by
  have kind : (wireOf spell (historyItem row)).kind = RowKind.history.value := rfl
  have completed : (historyItem row).status = .completed := rfl
  have status : ¬ (wireOf spell (historyItem row)).status ≠ text JobStatus.completed.value := by
    rw [wireOf, completed]
    exact fun differs => differs rfl
  have fits : (listItem (historyItem row)).accepted = true := by
    simp [AnalysisJobListItem.accepted, listItem, historyItem]
  unfold projectRow
  rw [if_pos kind, if_neg status]
  change project (listItem (historyItem row)) = _
  unfold project
  rw [if_pos fits]

theorem unifiedRows_toJson {jobsTotal : Int} {position : Nat} {items : List UnifiedJobListItem}
    (reads : ∀ index item, items[index]? = some item →
      unifiedRow jobsTotal (position + index) (item.toJson spell) = .ok (listItem item)) :
    unifiedRows jobsTotal position (items.map (·.toJson spell)) = .ok (items.map listItem) := by
  induction items generalizing position with
  | nil => rfl
  | cons item rest ih =>
    have later : ∀ index item, rest[index]? = some item →
        unifiedRow jobsTotal (position + 1 + index) (item.toJson spell) = .ok (listItem item) := by
      intro index item found
      rw [Nat.add_assoc, Nat.add_comm 1 index]
      exact reads (index + 1) item found
    have first := reads 0 item rfl
    rw [Nat.add_zero] at first
    rw [List.map_cons, unifiedRows, first, ih later]
    rfl

end

/-- What a body may become: the bridge's one error, or a page of the size its total leaves for
the window, with unfinished jobs below the body's `jobs_total` and completed reports from there on. -/
def FaithfulPage (body : Json) (limit offset : Nat) : Prop :=
  (∃ message, unifiedPage body limit offset = .error (.engineListFormat message)) ∨
    ∃ (page : ListAnalysisJobsOutput) (jobsTotal : Int),
      unifiedPage body limit offset = .ok page ∧
      body.get (text "total") = some (.int page.total) ∧
      body.get (text "jobs_total") = some (.int jobsTotal) ∧
      (page.items.length : Int) = min (limit : Int) (max 0 (page.total - offset)) ∧
      ∀ index item, page.items[index]? = some item → InSegment jobsTotal (offset + index) item

theorem unifiedPage_faithful (body : Json) {limit offset : Nat} (positive : 1 ≤ limit)
    (capped : limit ≤ 100) : FaithfulPage body limit offset := by
  have output : ∀ (items : List AnalysisJobListItem) (total : Int), 0 ≤ total →
      listAnalysisJobsOutput items limit offset total = .ok { items, limit, offset, total } := by
    intro items total nonneg
    exact if_pos ⟨positive, capped, nonneg⟩
  cases result : unifiedPage body limit offset with
  | error raised =>
    have only : FormatErrorOnly (unifiedPage body limit offset) := by
      refine formatErrorOnly_bind (strictWindow_formatErrorOnly body limit offset) fun window seen => ?_
      refine formatErrorOnly_bind (segmentTotal_formatErrorOnly _) fun jobsTotal _ => ?_
      refine formatErrorOnly_bind (segmentTotal_formatErrorOnly _) fun historyTotal _ => ?_
      split
      · exact formatErrorOnly_format _
      · refine formatErrorOnly_bind (unifiedRows_formatErrorOnly _ _ _) fun items _ => ?_
        rw [output items window.2 (strictWindow_ok seen).2.1]
        exact formatErrorOnly_ok _
    obtain ⟨message, rfl⟩ := only raised result
    exact .inl ⟨message, result⟩
  | ok page =>
    obtain ⟨⟨rawItems, total⟩, seen, returned⟩ := page_bind_ok result
    obtain ⟨jobsTotal, jobsSeen, returned⟩ := page_bind_ok returned
    obtain ⟨historyTotal, -, returned⟩ := page_bind_ok returned
    split at returned
    · cases returned
    · obtain ⟨items, rows, returned⟩ := page_bind_ok returned
      obtain ⟨-, nonneg, size⟩ := strictWindow_ok seen
      rw [output items total nonneg] at returned
      cases returned
      obtain ⟨length, placed⟩ := unifiedRows_ok rows
      refine .inr ⟨_, jobsTotal, result, (strictWindow_ok seen).1, segmentTotal_ok jobsSeen, ?_, ?_⟩
      · rw [length]
        exact size
      · intro index item found
        exact (placed index item found).1

/-! ## The engine's own pages -/

/-- A row of a page stands in the segment of its global index. -/
theorem unifiedRow_page {unicode : UnicodeData} {snapshot : Snapshot} {request : UnifiedRequest}
    {spell : Time → Text} (bounded : ∀ row ∈ snapshot.jobs.jobs, row.progress ≤ 100) {index : Nat}
    {item : UnifiedJobListItem}
    (found : (jobsUnifiedList unicode snapshot request).items[index]? = some item) :
    unifiedRow (jobsUnifiedList unicode snapshot request).jobsTotal (request.offset + index)
      (item.toJson spell) = .ok (listItem item) := by
  have listed : (unifiedListing unicode snapshot request)[request.offset + index]? = some item := by
    rw [unified_page_items] at found
    unfold slice at found
    rw [List.getElem?_take] at found
    split at found
    · rwa [List.getElem?_drop] at found
    · cases found
  rw [(unified_page_totals unicode snapshot request).1]
  unfold unifiedListing at listed
  rw [List.getElem?_append] at listed
  split at listed
  next below =>
    rw [List.length_map] at below
    rw [List.getElem?_map, Option.map_eq_some_iff] at listed
    obtain ⟨job, placed, rfl⟩ := listed
    have mem := List.mem_of_getElem? placed
    obtain ⟨memJobs, shown⟩ := List.mem_filter.1 ((List.mergeSort_perm _ _).mem_iff.1 mem)
    have counted := And.intro (snapshot.progress job memJobs) (bounded job memJobs)
    rw [unifiedRow_placed counted.1]
    · exact projectRow_job (jobListed_iff.1 shown).1 counted
    · exact (if_pos (by exact_mod_cast below)).symm
  next above =>
    rw [List.length_map] at above
    rw [List.getElem?_map, Option.map_eq_some_iff] at listed
    obtain ⟨row, -, rfl⟩ := listed
    rw [unifiedRow_placed (by change (0 : Int) ≤ 100; decide)]
    · exact projectRow_history row
    · exact (if_neg (by exact_mod_cast above)).symm

/-- A body whose parts are all accepted is accepted. -/
theorem unifiedPage_of_parts {body : Json} {limit offset : Nat} {rawItems : List Json}
    {total jobsTotal historyTotal : Int} {items : List AnalysisJobListItem}
    (window : strictWindow body limit offset = .ok (rawItems, total))
    (jobs : segmentTotal (body.get (text "jobs_total")) = .ok jobsTotal)
    (history : segmentTotal (body.get (text "history_total")) = .ok historyTotal)
    (sums : total = jobsTotal + historyTotal)
    (rows : unifiedRows jobsTotal offset rawItems = .ok items) :
    unifiedPage body limit offset = listAnalysisJobsOutput items limit offset total := by
  unfold unifiedPage
  simp [window, jobs, history, sums, rows, bind, Except.bind]

theorem segmentTotal_count (n : Nat) : segmentTotal (some (.int n)) = .ok (n : Int) := by
  have nonneg : ¬ (n : Int) < 0 := by omega
  unfold segmentTotal plainInt
  simp only [if_neg nonneg]

/-- The engine's window is accepted. -/
theorem strictWindow_toJson {spell : Time → Text} {response : UnifiedJobListResponse} {limit offset : Nat}
    (echo : response.limit = limit ∧ response.offset = offset)
    (size : response.items.length = min limit (response.total - offset)) :
    strictWindow (response.toJson spell) limit offset =
      .ok (response.items.map (·.toJson spell), (response.total : Int)) := by
  have fields : strictWindow (response.toJson spell) limit offset =
      if (response.total : Int) < 0 then engineListFormat "engine list body missing items/total"
      else if some (response.limit : Int) ≠ some (limit : Int) ∨
          some (response.offset : Int) ≠ some (offset : Int) then
        engineListFormat "engine list window does not echo the request"
      else if ((response.items.map (·.toJson spell)).length : Int) ≠
          min (limit : Int) (max 0 (response.total - offset)) then
        engineListFormat "engine list page capacity is inconsistent"
      else .ok (response.items.map (·.toJson spell), (response.total : Int)) := rfl
  have capacity : ((response.items.map (·.toJson spell)).length : Int) =
      min (limit : Int) (max 0 (response.total - offset)) := by
    rw [List.length_map, size]
    omega
  rw [fields, if_neg (by omega), if_neg (by simp [echo]), if_neg (not_not.2 capacity)]

/-- The rows the bridge answers with for the engine's rows. -/
theorem unifiedPage_toJson (unicode : UnicodeData) (spell : Time → Text) (snapshot : Snapshot)
    (request : UnifiedRequest) (bounded : ∀ row ∈ snapshot.jobs.jobs, row.progress ≤ 100) :
    unifiedPage ((jobsUnifiedList unicode snapshot request).toJson spell) request.limit
        request.offset =
      .ok { items := (jobsUnifiedList unicode snapshot request).items.map listItem
            limit := request.limit
            offset := request.offset
            total := (jobsUnifiedList unicode snapshot request).total } := by
  obtain ⟨jobsTotal, historyTotal, total⟩ := unified_page_totals unicode snapshot request
  have size : (jobsUnifiedList unicode snapshot request).items.length =
      min request.limit ((jobsUnifiedList unicode snapshot request).total - request.offset) := by
    rw [unified_page_items, total, jobsTotal, historyTotal]
    simp only [slice, unifiedListing, List.length_take, List.length_drop, List.length_append,
      List.length_map]
  have rows := unifiedRows_toJson fun index item found =>
    @unifiedRow_page unicode snapshot request spell bounded index item found
  have window := @strictWindow_toJson spell _ request.limit request.offset ⟨rfl, rfl⟩ size
  rw [unifiedPage_of_parts window (segmentTotal_count _) (segmentTotal_count _) (by omega) rows]
  exact if_pos ⟨request.positive, request.capped, by omega⟩

/-- The output's row of a job: its own status, progress, error and URL. -/
def jobRow (job : Job) : AnalysisJobListItem where
  jobId := text job.jobId
  title := job.title.map text
  platform := job.platform.map text
  status := job.status
  progress := some job.progress
  errorCode := job.errorCode.map text
  url := some (text job.url)

/-- The output's row of a report: completed. -/
def reportRow (row : ReportRow) : AnalysisJobListItem where
  jobId := row.jobId
  title := some row.title
  platform := some row.platform
  status := .completed
  progress := some 100
  url := some row.sourceUrl

theorem unified_page_split (unicode : UnicodeData) (snapshot : Snapshot) (request : UnifiedRequest) :
    ∃ (jobs : List Job) (reports : List ReportRow),
      (jobsUnifiedList unicode snapshot request).items =
        jobs.map jobItem ++ reports.map historyItem := by
  rw [unified_page_items, unifiedListing, slice_append, ← map_slice, ← map_slice]
  exact ⟨_, _, rfl⟩

/-- For every snapshot whose jobs have a progress of at most 100. Whatever is asked for, up to
the offsets SQLite can bind, the bridge accepts the engine's page and answers with its rows and
its total; and whatever body it is given, it makes its one error or a page that is faithful to
the body. -/
theorem list_pages_agree (unicode : UnicodeData) (spell : Time → Text) (snapshot : Snapshot)
    (bounded : ∀ row ∈ snapshot.jobs.jobs, row.progress ≤ 100) :
    (∀ request : UnifiedRequest, request.offset < 2 ^ 63 →
      ∃ (jobs : List Job) (reports : List ReportRow),
      (jobsUnifiedList unicode snapshot request).items =
        jobs.map jobItem ++ reports.map historyItem ∧
      unifiedPage ((jobsUnifiedList unicode snapshot request).toJson spell) request.limit
          request.offset =
        .ok { items := jobs.map jobRow ++ reports.map reportRow
              limit := request.limit
              offset := request.offset
              total := (jobsUnifiedList unicode snapshot request).total }) ∧
    ∀ (body : Json) (limit offset : Nat), 1 ≤ limit → limit ≤ 100 →
      FaithfulPage body limit offset := by
  refine ⟨fun request _ => ?_, fun body limit offset positive capped =>
    unifiedPage_faithful body positive capped⟩
  obtain ⟨jobs, reports, split⟩ := unified_page_split unicode snapshot request
  refine ⟨jobs, reports, split, ?_⟩
  rw [unifiedPage_toJson unicode spell snapshot request bounded, split, List.map_append,
    List.map_map, List.map_map]
  rfl

/-! ## A page of both kinds -/

/-- A job in this status. -/
def listedJob (id : Nat) (jobId : String) (status : JobStatus) : Job where
  id
  jobId
  requestFingerprint := jobId
  mode := "auto"
  asr := "auto"
  url := "https://www.bilibili.com/video/BV1GJ411x7h7"
  language := none
  configFingerprint := "c"
  status
  createdAt := id
  updatedAt := id

/-- An active report. -/
def listedReport (id : Nat) (jobId : Text) : ReportRow where
  id
  jobId
  analysisId := jobId
  title := text "A title"
  platform := text "bilibili"
  author := []
  videoId := text "BV1GJ411x7h7"
  sourceUrl := text "https://www.bilibili.com/video/BV1GJ411x7h7"
  publishedAt := none
  analyzedAt := id
  summaryMode := text "auto"
  docStatus := .active
  indexedAt := id
  updatedAt := id

def listedTexts (id : Nat) : FtsRow :=
  ⟨⟨text "A title", [], [], [], [], text "https://www.bilibili.com/video/BV1GJ411x7h7"⟩, id⟩

/-- Two unfinished jobs and one finished job. -/
def mixedJobs : JobsDb where
  jobs := [listedJob 1 "j1" .queued, listedJob 2 "r1" .completed, listedJob 3 "j2" .failed]
  nextJobId := 4

/-- Two reports, in no order. -/
def mixedIndex : IndexDb where
  documents := [listedReport 2 (text "r2"), listedReport 1 (text "r1")]
  nextDocumentId := 3
  fts := [listedTexts 1, listedTexts 2]

theorem mixed_keyed : mixedJobs.Keyed := by constructor <;> decide

theorem mixed_formed : mixedIndex.WellFormed where
  jobs := by decide
  ids := by decide
  fresh := by decide
  named := by decide
  paired := by simp [mixedIndex, IndexDb.textsOf, listedReport, listedTexts]
  owned := by decide
  stored := by decide +kernel
  indexed := by decide +kernel

theorem mixed_progress : ∀ row ∈ mixedJobs.jobs, 0 ≤ row.progress := by decide

def mixedSnapshot : Snapshot where
  jobs := mixedJobs
  index := mixedIndex
  keyed := mixed_keyed
  formed := mixed_formed
  progress := mixed_progress

theorem mixed_jobs : matchingJobs latinOne none none none (some "non_completed") mixedSnapshot.jobs =
    [listedJob 1 "j1" .queued, listedJob 3 "j2" .failed] :=
  List.mergeSort_of_pairwise (by decide +kernel)

theorem mixed_reports : matchingReports latinOne none none none none (unfinishedJobIds mixedSnapshot.jobs)
    mixedSnapshot.index = mixedSnapshot.index.documents :=
  List.mergeSort_of_pairwise (by decide +kernel)

/-- The page that begins with the last job goes on with the first report. -/
theorem list_pages_agree_mixed :
    ∃ page, unifiedPage
        ((jobsUnifiedList latinOne mixedSnapshot { limit := 2, offset := 1 }).toJson fun _ => text "0.0")
        2 1 = .ok page ∧
      page.total = 4 ∧ page.items.map (·.jobId) = [text "j2", text "r2"] := by
  obtain ⟨jobs, reports, split, accepted⟩ :=
    (list_pages_agree latinOne (fun _ => text "0.0") mixedSnapshot (by decide)).1
      { limit := 2, offset := 1 } (by decide)
  have total : (jobsUnifiedList latinOne mixedSnapshot { limit := 2, offset := 1 }).total = 4 := by
    obtain ⟨jobsTotal, historyTotal, sum⟩ :=
      unified_page_totals latinOne mixedSnapshot { limit := 2, offset := 1 }
    rw [sum, jobsTotal, historyTotal, mixed_jobs, mixed_reports]
    rfl
  have ids : (jobsUnifiedList latinOne mixedSnapshot { limit := 2, offset := 1 }).items.map (·.jobId) =
      [text "j2", text "r2"] := by
    rw [unified_page_items, unifiedListing, mixed_jobs, mixed_reports]
    rfl
  rw [split, List.map_append, List.map_map, List.map_map] at ids
  refine ⟨_, accepted, congrArg Int.ofNat total, ?_⟩
  rw [List.map_append, List.map_map, List.map_map]
  exact ids

end EvoBlue.Guarantees
