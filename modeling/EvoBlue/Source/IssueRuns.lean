import EvoBlue.Source.IssueRows

/-!
# Issues from run to run

What a run finds is what its batches reconcile: the outcomes of their files, each with the
time of its batch. A run may be disturbed: between its steps the directory changes, the
pipeline indexes a report, a reader marks one stale. None of these touches the issues.
-/

namespace EvoBlue.Source

open EvoBlue.Kernel

/-! ## One file -/

/-- The problems a scan finds in a file; `loses` says that an earlier file claimed its id. -/
def Finds (result : FileResult) (loses : Prop) (code : IssueCode) : Prop :=
  match result with
  | .unreadable => code = .markdown .frontmatterInvalid
  | .rejected found => code = .markdown found
  | .readable _ parsed => code ∈ contentCodes parsed ∨ (code = .duplicateAnalysisId ∧ loses)

/-- What becomes of the rows of an issue: without the problem none is added; a problem found
again keeps its open row, but a duplicate gets a new one. -/
structure IssueTold (found : Prop) (code : IssueCode) (path : Text) (now : Time) (db after : IndexDb) :
    Prop where
  absent : ¬ found → Kept code path db after
  again : found → code ≠ .duplicateAnalysisId → db.HasOpen code path → Refreshed code path now db after
  fresh : found → (code = .duplicateAnalysisId ∨ ¬ db.HasOpen code path) → Inserted code path now db after

theorem IssueTold.congr {found : Prop} {code : IssueCode} {path : Text} {now : Time} {db middle after : IndexDb}
    (told : IssueTold found code path now db middle) (kept : Kept code path middle after)
    (same : found → after.rowsOf code path = middle.rowsOf code path) :
    IssueTold found code path now db after where
  absent := fun none => kept.trans (told.absent none)
  again := by
    intro some_ single isOpen
    have refreshed := told.again some_ single isOpen
    unfold Refreshed Kept at refreshed ⊢
    rw [same some_]
    exact refreshed
  fresh := by
    intro some_ cause
    have inserted := told.fresh some_ cause
    unfold Inserted at inserted ⊢
    rw [same some_]
    exact inserted

/-- The same told from an earlier database with the same rows. -/
theorem IssueTold.before {found : Prop} {code : IssueCode} {path : Text} {now : Time} {db middle after : IndexDb}
    (told : IssueTold found code path now middle after)
    (same : middle.rowsOf code path = db.rowsOf code path) (next : db.nextIssueId ≤ middle.nextIssueId) :
    IssueTold found code path now db after := by
  have isOpen : middle.HasOpen code path ↔ db.HasOpen code path := by
    rw [IndexDb.hasOpen_iff, IndexDb.hasOpen_iff, same]
  refine ⟨fun none => ?_, fun some_ single openHere => ?_, fun some_ cause => ?_⟩
  · have kept := told.absent none
    unfold Kept at kept ⊢
    rw [← same]
    exact kept
  · have refreshed := told.again some_ single (isOpen.2 openHere)
    unfold Refreshed Kept at refreshed ⊢
    rw [← same]
    exact refreshed
  · rw [← isOpen] at cause
    obtain ⟨row, mem, openRow, first, last, fresh⟩ := told.fresh some_ cause
    exact ⟨row, mem, openRow, first, last, next.trans fresh⟩

theorem told_kept {code : IssueCode} {path : Text} {now : Time} {db after : IndexDb} {found : Prop}
    (none : ¬ found) (kept : Kept code path db after) : IssueTold found code path now db after where
  absent := fun _ => kept
  again := fun some_ => absurd some_ none
  fresh := fun some_ => absurd some_ none

theorem told_recorded {db : IndexDb} (formed : db.IssuesFormed) (found : MdCode) (rel : Text) (now : Time)
    (code : IssueCode) :
    IssueTold (code = .markdown found) code rel now db (db.recorded (.markdown found) rel now) := by
  have here := @recorded_here db (.markdown found) rel now
  refine ⟨fun none => ?_, ?_, ?_⟩
  · unfold Kept
    rw [recorded_apart formed (fun both => none both.1) now]
  · rintro rfl _ isOpen
    exact here.1 isOpen
  · rintro rfl (duplicate | closed)
    · cases duplicate
    · exact here.2 closed

theorem markdown_of_content {parsed : ParsedReport} {code : IssueCode} (mem : code ∈ contentCodes parsed) :
    code = .markdown .emptyBody := mem.1

/-- The diagnostics of a file that parsed. -/
theorem settleIssues_rows {rel : Text} {parsed : ParsedReport} {now : Time} {db after : IndexDb}
    (formed : db.IssuesFormed) (ran : (settleIssues rel parsed now).run db = (.ok (), after)) :
    Grows db after ∧ (∀ code path, path ≠ rel → after.rowsOf code path = db.rowsOf code path) ∧
      (∀ code, IssueTold (code ∈ contentCodes parsed) code rel now db after) ∧
      ¬ after.HasOpen .duplicateAnalysisId rel := by
  have body : ∃ middle, Grows db middle ∧
      (∀ code path, path ≠ rel → middle.rowsOf code path = db.rowsOf code path) ∧
      (∀ code, IssueTold (code ∈ contentCodes parsed) code rel now db middle) ∧
      (do
        resolveCodes rel now (mdDiagnosticCodes.filter fun code => code ≠ .emptyBody)
        let _ ← resolveIndexIssue .duplicateAnalysisId rel now
        return : IndexScript Unit).run middle = (.ok (), after) := by
    unfold settleIssues at ran
    split at ran
    next content =>
      obtain ⟨count, middle, one, ran⟩ := Script.bind_returned ran
      obtain rfl := resolveIndexIssue_returned one
      refine ⟨_, resolved_grows formed _ now, fun code path apart => ?_, fun code => ?_, ran⟩
      · exact resolved_issue_apart formed (fun both => apart both.2) now
      · apply told_kept _ (resolved_kept db _ now code rel)
        rintro ⟨_, none⟩
        rw [content] at none
        cases none
    next empty =>
      obtain ⟨id, middle, one, ran⟩ := Script.bind_returned ran
      obtain rfl := recordIndexIssue_returned one
      refine ⟨_, recorded_grows formed _ rel now, fun code path apart => ?_, fun code => ?_, ran⟩
      · exact recorded_apart formed (fun both => apart both.2) now
      · have found : code ∈ contentCodes parsed ↔ code = .markdown .emptyBody :=
          ⟨And.left, fun same => ⟨same, Bool.not_eq_true _ ▸ empty⟩⟩
        rw [found]
        exact told_recorded formed .emptyBody rel now code
  obtain ⟨middle, grows, apart, told, ran⟩ := body
  obtain ⟨_, later, others, ran⟩ := Script.bind_returned ran
  obtain ⟨count, last, duplicate, ran⟩ := Script.bind_returned ran
  cases ran
  obtain ⟨more, keptOthers, leftOthers⟩ := resolveCodes_rows grows.formed others
  obtain rfl := resolveIndexIssue_returned duplicate
  have final := resolved_grows more.formed (later.closesIssue .duplicateAnalysisId rel) now
  refine ⟨(grows.trans more).trans final, fun code path elsewhere => ?_, fun code => ?_, ?_⟩
  · rw [resolved_issue_apart more.formed (fun both => elsewhere both.2) now,
      leftOthers code path fun both => elsewhere both.2, apart code path elsewhere]
  · apply (told code).congr
    · exact (resolved_kept later _ now code rel).trans (keptOthers code rel)
    · intro found
      have isBody := markdown_of_content found
      have notDuplicate : ¬ (code = .duplicateAnalysisId ∧ rel = rel) := by
        rw [isBody]
        rintro ⟨same, _⟩
        cases same
      rw [resolved_issue_apart more.formed notDuplicate now]
      apply leftOthers
      rw [mem_otherCodes]
      exact fun both => both.1.2 isBody
  · rw [more.formed.resolved_issue]
    exact fun both => both.2 ⟨rfl, rfl⟩

/-- What reconciling one file does to the rows of all issues, and to the run. -/
structure FileRows (progress next : Progress) (outcome : FileOutcome) (now : Time) (db after : IndexDb) :
    Prop where
  grows : Grows db after
  apart : ∀ code path, path ≠ outcome.relPath → after.rowsOf code path = db.rowsOf code path
  told : ∀ code, IssueTold (Finds outcome.result (Taken progress outcome.result) code) code outcome.relPath
    now db after
  scanned : next.scanned = progress.scanned ++ [outcome.relPath]
  claims : ∀ jobId, next.claimOf jobId = none ↔
    progress.claimOf jobId = none ∧ outcome.carries jobId = false

theorem reconcileParsed_rows {env : ReportEnv} {now : Time} {progress next : Progress} {rel : Text}
    {raw : Bytes} {parsed : ParsedReport} {db after : IndexDb} (formed : db.IssuesFormed)
    (ran : (reconcileParsed env now (progress.scan rel) rel raw parsed).run db = (.ok next, after)) :
    FileRows progress next ⟨rel, .readable raw parsed⟩ now db after := by
  unfold reconcileParsed at ran
  obtain ⟨_, middle, settled, ran⟩ := Script.bind_returned ran
  obtain ⟨grows, apart, told, closed⟩ := settleIssues_rows formed settled
  have claimOf (jobId : Text) : (progress.scan rel).claimOf jobId = progress.claimOf jobId := rfl
  have duplicate_apart {code : IssueCode} (content : code ∈ contentCodes parsed) :
      code ≠ .duplicateAnalysisId := by
    rw [markdown_of_content content]
    intro same
    cases same
  cases claimed : progress.claimOf parsed.analysisId with
  | some winner =>
    rw [claimOf, claimed] at ran
    obtain ⟨id, last, recorded, ran⟩ := Script.bind_returned ran
    cases ran
    obtain rfl := recordIndexIssue_returned recorded
    have taken : Taken progress (.readable raw parsed) := by simp [Taken, claimed]
    refine ⟨grows.trans (recorded_grows grows.formed _ rel now), fun code path elsewhere => ?_,
      fun code => ?_, rfl, fun jobId => ?_⟩
    · rw [recorded_apart grows.formed (fun both => elsewhere both.2) now, apart code path elsewhere]
    · by_cases duplicate : code = .duplicateAnalysisId
      · subst duplicate
        refine ⟨fun none => absurd (.inr ⟨rfl, taken⟩) none, fun _ single => absurd rfl single,
          fun _ _ => ?_⟩
        obtain ⟨row, mem, isOpen, first, latest, fresh⟩ :=
          (@recorded_here middle .duplicateAnalysisId rel now).2 closed
        exact ⟨row, mem, isOpen, first, latest, grows.next.trans fresh⟩
      · have found : Finds (.readable raw parsed) (Taken progress (.readable raw parsed)) code ↔
            code ∈ contentCodes parsed := by simp [Finds, duplicate]
        have same := @recorded_apart middle grows.formed .duplicateAnalysisId code rel rel
          (fun both => duplicate both.1) now
        simp only [found]
        exact (told code).congr (congrArg _ same) fun _ => same
    · constructor
      · intro none
        refine ⟨none, ?_⟩
        rw [Bool.eq_false_iff, Ne, carries_readable]
        rintro rfl
        rw [show progress.claimOf parsed.analysisId = .none from none] at claimed
        cases claimed
      · exact And.left
  | none =>
    rw [claimOf, claimed] at ran
    have free : ¬ Taken progress (.readable raw parsed) := by simp [Taken, claimed]
    have found (code : IssueCode) : Finds (.readable raw parsed) (Taken progress (.readable raw parsed))
        code ↔ code ∈ contentCodes parsed := by simp [Finds, free]
    obtain ⟨doc, later, looked, ran⟩ := Script.bind_returned ran
    have unread := selectDocument_leaves parsed.analysisId middle
    rw [show (selectDocument parsed.analysisId).run middle = _ from looked] at unread
    have claims (jobId : Text) (claim : Claim) (named : claim.analysisId = parsed.analysisId) :
        ((progress.scan rel).claim claim).claimOf jobId = none ↔
          progress.claimOf jobId = none ∧ FileOutcome.carries ⟨rel, .readable raw parsed⟩ jobId = false := by
      simp [Progress.claimOf, Progress.claim, Progress.scan, FileOutcome.carries, named,
        List.find?_append]
    have stored : issueTable after = issueTable middle ∧ next.scanned = progress.scanned ++ [rel] ∧
        ∀ jobId, next.claimOf jobId = none ↔ progress.claimOf jobId = none ∧
          FileOutcome.carries ⟨rel, .readable raw parsed⟩ jobId = false := by
      split at ran
      next =>
        cases ran
        exact ⟨unread, rfl, fun jobId => claims jobId _ rfl⟩
      next =>
        obtain ⟨id, last, indexed, ran⟩ := Script.bind_returned ran
        cases ran
        have left := indexReport_leaves env.unicode (rescanColumns env rel raw parsed) (bodyTexts parsed)
          now later
        rw [show (indexReport env.unicode (rescanColumns env rel raw parsed) (bodyTexts parsed)
          now).run later = _ from indexed] at left
        exact ⟨left.trans unread, rfl, fun jobId => claims jobId _ rfl⟩
    obtain ⟨table, scanned, claims⟩ := stored
    have same := IndexDb.rowsOf_of_table table
    refine ⟨grows.trans (.of_table grows.formed table), fun code path elsewhere => ?_, fun code => ?_,
      scanned, claims⟩
    · rw [same, apart code path elsewhere]
    · simp only [found]
      exact (told code).congr (by unfold Kept; rw [same]) fun _ => by rw [same]

theorem reconcileFile_rows {env : ReportEnv} {now : Time} {progress next : Progress}
    {outcome : FileOutcome} {db after : IndexDb} (formed : db.IssuesFormed)
    (ran : (reconcileFile env now progress outcome).run db = (.ok next, after)) :
    FileRows progress next outcome now db after := by
  obtain ⟨rel, result⟩ := outcome
  unfold reconcileFile at ran
  cases result with
  | unreadable =>
    obtain ⟨id, middle, recorded, ran⟩ := Script.bind_returned ran
    cases ran
    obtain rfl := recordIndexIssue_returned recorded
    refine ⟨recorded_grows formed _ rel now, fun code path elsewhere => ?_, fun code => ?_, rfl,
      fun jobId => ?_⟩
    · exact recorded_apart formed (fun both => elsewhere both.2) now
    · exact told_recorded formed .frontmatterInvalid rel now code
    · exact (and_iff_left rfl).symm
  | rejected found =>
    obtain ⟨id, middle, recorded, ran⟩ := Script.bind_returned ran
    obtain ⟨_, last, resolved, ran⟩ := Script.bind_returned ran
    cases ran
    obtain rfl := recordIndexIssue_returned recorded
    have grows := recorded_grows formed (.markdown found) rel now
    obtain ⟨more, kept, left⟩ := resolveCodes_rows grows.formed resolved
    refine ⟨grows.trans more, fun code path elsewhere => ?_, fun code => ?_, rfl, fun jobId => ?_⟩
    · rw [left code path fun both => elsewhere both.2]
      exact recorded_apart formed (fun both => elsewhere both.2) now
    · apply (told_recorded formed found rel now code).congr (kept code rel)
      intro same
      apply left
      rw [mem_otherCodes]
      exact fun both => both.1.2 same
    · exact (and_iff_left rfl).symm
  | readable raw parsed => exact reconcileParsed_rows formed ran

/-! ## A run among other tasks -/

structure RunWorld where
  disk : Disk
  db : IndexDb
  phase : RunPhase := .begin
  /-- The files reconciled so far, each with the time of its batch. -/
  findings : List (FileOutcome × Time) := []

inductive RunEvent where
  /-- The directory is now this one. -/
  | edit (disk : Disk)
  | pipeline (jobId relPath : Text) (written raw : Bytes) (now : Time)
  | stale (jobId : Text) (now : Time)
  | step (now : Time)

/-- What the next step reconciles. -/
def RunPhase.reconciles (now : Time) : RunPhase → List (FileOutcome × Time)
  | .reconcile _ outcomes _ => outcomes.map fun outcome => (outcome, now)
  | _ => []

def runEvent (env : ReportEnv) (purge : Bool) (world : RunWorld) : RunEvent → RunWorld
  | .edit disk => { world with disk }
  | .pipeline jobId relPath written raw now =>
    { world with db := indexPipelineReport env jobId relPath written raw now world.db }
  | .stale jobId now => { world with db := ((markReportStale jobId now).transaction world.db).2 }
  | .step now =>
    let next := phaseStep env purge now world.disk world.db world.phase
    { world with
      db := next.2
      phase := next.1
      findings := world.findings ++ world.phase.reconciles now }

theorem indexPipelineReport_table (env : ReportEnv) (jobId relPath : Text) (written raw : Bytes)
    (now : Time) (db : IndexDb) :
    issueTable (indexPipelineReport env jobId relPath written raw now db) = issueTable db := by
  unfold indexPipelineReport
  split
  · split
    · rfl
    · exact (indexReport_leaves _ _ _ now).transaction db
  · rfl

/-! ## The issues while a run goes on -/

/-- The rows of all issues once these files are reconciled. -/
structure Logged (before : IndexDb) (findings : List (FileOutcome × Time)) (db : IndexDb) : Prop where
  grows : Grows before db
  files : ∀ found ∈ findings, ∀ code,
    IssueTold (Finds found.1.result (Loses (findings.map (·.1)) found.1) code) code found.1.relPath found.2
      before db
  elsewhere : ∀ code path, path ∉ findings.map (·.1.relPath) →
    db.rowsOf code path = before.rowsOf code path

/-- The same once the absence pass was made. -/
structure RunTold (before : IndexDb) (findings : List (FileOutcome × Time)) (db : IndexDb) : Prop where
  grows : Grows before db
  files : ∀ found ∈ findings, ∀ code,
    IssueTold (Finds found.1.result (Loses (findings.map (·.1)) found.1) code) code found.1.relPath found.2
      before db
  elsewhere : ∀ code path, path ∉ findings.map (·.1.relPath) → Kept code path before db

/-- What a run has gathered of its files. -/
structure Gathered (findings : List (FileOutcome × Time)) (progress : Progress) : Prop where
  scanned : progress.scanned = findings.map (·.1.relPath)
  claims : ∀ jobId, progress.claimOf jobId = none ↔ winnerOf (findings.map (·.1)) jobId = none

theorem logged_nil {before db : IndexDb} (formed : before.IssuesFormed)
    (same : issueTable db = issueTable before) : Logged before [] db where
  grows := .of_table formed same
  files := fun _ mem => nomatch mem
  elsewhere := fun code path _ => by rw [IndexDb.rowsOf_of_table same]

theorem Logged.of_table {before db after : IndexDb} {findings : List (FileOutcome × Time)}
    (logged : Logged before findings db) (same : issueTable after = issueTable db) :
    Logged before findings after where
  grows := logged.grows.trans (.of_table logged.grows.formed same)
  files := by
    intro found mem code
    have rows := IndexDb.rowsOf_of_table same
    exact (logged.files found mem code).congr (by unfold Kept; rw [rows]) fun _ => by rw [rows]
  elsewhere := by
    intro code path apart
    rw [IndexDb.rowsOf_of_table same]
    exact logged.elsewhere code path apart

theorem RunTold.of_table {before db after : IndexDb} {findings : List (FileOutcome × Time)}
    (told : RunTold before findings db) (same : issueTable after = issueTable db) :
    RunTold before findings after where
  grows := told.grows.trans (.of_table told.grows.formed same)
  files := by
    intro found mem code
    have rows := IndexDb.rowsOf_of_table same
    exact (told.files found mem code).congr (by unfold Kept; rw [rows]) fun _ => by rw [rows]
  elsewhere := by
    intro code path apart
    have kept := told.elsewhere code path apart
    unfold Kept at kept ⊢
    rw [IndexDb.rowsOf_of_table same]
    exact kept

theorem Gathered.file {findings : List (FileOutcome × Time)} {progress next : Progress}
    {outcome : FileOutcome} {now : Time} {db after : IndexDb} (gathered : Gathered findings progress)
    (file : FileRows progress next outcome now db after) :
    Gathered (findings ++ [(outcome, now)]) next where
  scanned := by
    rw [file.scanned, gathered.scanned, List.map_append]
    rfl
  claims := by
    intro jobId
    rw [file.claims, gathered.claims, List.map_append, List.map_singleton, winnerOf_concat,
      Option.or_eq_none_iff]
    cases outcome.carries jobId <;> simp

theorem Logged.file {before db after : IndexDb} {findings : List (FileOutcome × Time)}
    {progress next : Progress} {outcome : FileOutcome} {now : Time} (logged : Logged before findings db)
    (gathered : Gathered findings progress) (apart : outcome.relPath ∉ findings.map (·.1.relPath))
    (file : FileRows progress next outcome now db after) :
    Logged before (findings ++ [(outcome, now)]) after where
  grows := logged.grows.trans file.grows
  files := by
    intro found mem code
    rw [List.map_append, List.map_singleton]
    rcases List.mem_append.1 mem with earlier | new
    · have elsewhere : found.1.relPath ≠ outcome.relPath := by
        intro same
        exact apart (same ▸ List.mem_map_of_mem earlier)
      have rows := file.apart code _ elsewhere
      rw [loses_concat (List.mem_map_of_mem earlier)]
      exact (logged.files found earlier code).congr (by unfold Kept; rw [rows]) fun _ => rows
    · obtain rfl := List.mem_singleton.1 new
      have others : outcome.relPath ∉ (findings.map (·.1)).map (·.relPath) := by
        rw [List.map_map]
        exact apart
      rw [← taken_iff_loses gathered.claims others]
      exact (file.told code).before (logged.elsewhere code _ apart) logged.grows.next
  elsewhere := by
    intro code path away
    simp only [List.map_append, List.map_singleton, List.mem_append, List.mem_singleton, not_or] at away
    rw [file.apart code path away.2, logged.elsewhere code path away.1]

theorem Logged.reconciled {env : ReportEnv} {now : Time} {before db after : IndexDb}
    {findings : List (FileOutcome × Time)} {progress next : Progress} {outcomes : List FileOutcome}
    (logged : Logged before findings db) (gathered : Gathered findings progress)
    (distinct : (findings.map (·.1.relPath) ++ outcomes.map (·.relPath)).Nodup)
    (ran : (reconcileFiles env now progress outcomes).run db = (.ok next, after)) :
    Logged before (findings ++ outcomes.map fun outcome => (outcome, now)) after ∧
      Gathered (findings ++ outcomes.map fun outcome => (outcome, now)) next := by
  induction outcomes generalizing findings progress db with
  | nil =>
    cases ran
    rw [List.map_nil, List.append_nil]
    exact ⟨logged, gathered⟩
  | cons outcome rest ih =>
    unfold reconcileFiles at ran
    obtain ⟨middle, middleDb, first, ran⟩ := Script.bind_returned ran
    have file := reconcileFile_rows logged.grows.formed first
    have split : findings ++ (outcome :: rest).map (fun outcome => (outcome, now)) =
        (findings ++ [(outcome, now)]) ++ rest.map fun outcome => (outcome, now) := by simp
    have apart : outcome.relPath ∉ findings.map (·.1.relPath) := by
      intro mem
      exact (List.nodup_append.1 distinct).2.2 _ mem _ (List.mem_cons_self) rfl
    rw [split]
    apply ih (logged.file gathered apart file) (gathered.file file) _ ran
    rw [List.map_append, List.append_assoc]
    exact distinct

/-- The absence pass adds no row, and leaves those of scanned paths. -/
theorem Logged.passed {env : ReportEnv} {before db after : IndexDb} {findings : List (FileOutcome × Time)}
    {progress : Progress} {purge : Bool} {now : Time} {counters : Counters}
    (logged : Logged before findings db) (gathered : Gathered findings progress)
    (ran : (markAbsent env progress purge now).run db = (.ok counters, after)) :
    RunTold before findings after := by
  obtain ⟨paths, same, listed, ran⟩ := Script.bind_returned ran
  obtain ⟨counted, marked, all, ran⟩ := Script.bind_returned ran
  obtain ⟨count, swept, closed, done⟩ := Script.bind_returned ran
  cases done
  have unread : same = db := by
    obtain ⟨_, listed', _⟩ := listDocumentPaths_run db
    rw [listed] at listed'
    cases listed'
    rfl
  rw [unread] at all
  have table := markAll_leaves progress purge now progress.counters paths db
  rw [all] at table
  have whole := logged.of_table table
  have resolved := resolveIssuesForAbsentPaths_returned closed
  subst resolved
  have kept (code : IssueCode) (path : Text) :=
    resolved_kept marked (sweeps progress.scanned) now code path
  refine ⟨whole.grows.trans (resolved_grows whole.grows.formed _ now), ?_, ?_⟩
  · intro found mem code
    have scanned : found.1.relPath ∈ progress.scanned := by
      rw [gathered.scanned]
      exact List.mem_map_of_mem mem
    apply (whole.files found mem code).congr (kept code _)
    intro _
    apply resolved_apart
    intro row rowMem
    rw [sweeps, (IndexDb.mem_rowsOf.1 rowMem).2.2]
    simp [scanned]
  · intro code path apart
    apply (kept code path).trans
    rw [whole.elsewhere code path apart]

/-- The issues in each phase of a run. -/
def LoggedAt (before : IndexDb) (world : RunWorld) : Prop :=
  match world.phase with
  | .begin | .collect => world.findings = [] ∧ Logged before [] world.db
  | .scan progress left =>
    Gathered world.findings progress ∧ Logged before world.findings world.db ∧
      (world.findings.map (·.1.relPath) ++ left.flatten).Nodup
  | .reconcile progress outcomes left =>
    Gathered world.findings progress ∧ Logged before world.findings world.db ∧
      (world.findings.map (·.1.relPath) ++ (outcomes.map (·.relPath) ++ left.flatten)).Nodup
  | .recheck progress | .absence progress =>
    Gathered world.findings progress ∧ Logged before world.findings world.db
  | .verify _ | .finish _ _ | .done _ _ => RunTold before world.findings world.db
  | .parking _ | .failed _ => True

theorem LoggedAt.of_table {before db : IndexDb} {world : RunWorld} (logged : LoggedAt before world)
    (same : issueTable db = issueTable world.db) (disk : Disk) :
    LoggedAt before { world with db, disk } := by
  obtain ⟨_, _, phase, findings⟩ := world
  cases phase with
  | begin => exact ⟨logged.1, logged.2.of_table same⟩
  | collect => exact ⟨logged.1, logged.2.of_table same⟩
  | scan progress left => exact ⟨logged.1, logged.2.1.of_table same, logged.2.2⟩
  | reconcile progress outcomes left => exact ⟨logged.1, logged.2.1.of_table same, logged.2.2⟩
  | recheck progress => exact ⟨logged.1, logged.2.of_table same⟩
  | absence progress => exact ⟨logged.1, logged.2.of_table same⟩
  | verify counters => exact RunTold.of_table logged same
  | finish counters consistent => exact RunTold.of_table logged same
  | done counters consistent => exact RunTold.of_table logged same
  | parking raised => trivial
  | failed raised => trivial

theorem setIndexState_leaves (state : IndexState) (now : Time) (errorCode : Option String) :
    (setIndexState state now errorCode).Leaves issueTable := by
  intro db
  rfl

theorem loggedAt_step {env : ReportEnv} {purge : Bool} {before : IndexDb} (now : Time)
    (world : RunWorld) (logged : LoggedAt before world) :
    LoggedAt before (runEvent env purge world (.step now)) := by
  obtain ⟨disk, db, phase, findings⟩ := world
  unfold runEvent
  dsimp only
  cases phase with
  | begin =>
    obtain ⟨none, logged⟩ := logged
    dsimp only at none logged
    subst none
    simp only [phaseStep]
    split
    · exact ⟨rfl, logged.of_table ((setIndexState_leaves .running now none).transaction db)⟩
    · trivial
  | collect =>
    obtain ⟨none, logged⟩ := logged
    dsimp only at none logged
    subst none
    refine ⟨⟨rfl, fun jobId => ⟨fun _ => rfl, fun _ => rfl⟩⟩, logged, ?_⟩
    simp only [RunPhase.reconciles, List.append_nil, List.map_nil, List.nil_append, chunks_flatten]
    exact collect_nodup env.unicode disk.dir
  | scan progress left =>
    obtain ⟨gathered, logged, distinct⟩ := logged
    cases left with
    | nil =>
      simp only [phaseStep, RunPhase.reconciles, List.append_nil]
      exact ⟨gathered, logged⟩
    | cons rels left =>
      simp only [phaseStep, RunPhase.reconciles, List.append_nil]
      cases scanned : scanFiles env disk rels with
      | error raised => trivial
      | ok outcomes =>
        obtain ⟨_, rfl⟩ := scanFiles_ok.1 scanned
        refine ⟨gathered, logged, ?_⟩
        rw [map_outcomeOf_relPath]
        exact distinct
  | reconcile progress outcomes left =>
    obtain ⟨gathered, logged, distinct⟩ := logged
    dsimp only at gathered logged distinct
    simp only [phaseStep, RunPhase.reconciles]
    split
    next => trivial
    next next after ran =>
      have returned := Script.transaction_returned.1 ran
      have front := distinct
      rw [← List.append_assoc] at front
      obtain ⟨more, further⟩ := logged.reconciled gathered (List.nodup_append.1 front).1 returned
      refine ⟨further, more, ?_⟩
      rw [List.map_append, List.map_map]
      exact front
  | recheck progress =>
    simp only [phaseStep, RunPhase.reconciles, List.append_nil]
    split
    · exact logged
    · trivial
  | absence progress =>
    obtain ⟨gathered, logged⟩ := logged
    simp only [phaseStep, RunPhase.reconciles, List.append_nil]
    split
    next => trivial
    next counted after ran =>
      exact logged.passed gathered (Script.transaction_returned.1 ran)
  | verify counters =>
    simp only [phaseStep, RunPhase.reconciles, List.append_nil]
    exact logged
  | finish counters consistent =>
    simp only [phaseStep, RunPhase.reconciles, List.append_nil]
    exact RunTold.of_table logged rfl
  | parking raised => trivial
  | done counters consistent =>
    simp only [phaseStep, RunPhase.reconciles, List.append_nil]
    exact logged
  | failed raised => trivial

theorem loggedAt_event {env : ReportEnv} {purge : Bool} {before : IndexDb} (world : RunWorld)
    (event : RunEvent) (logged : LoggedAt before world) :
    LoggedAt before (runEvent env purge world event) := by
  cases event with
  | edit disk => exact logged.of_table rfl disk
  | pipeline jobId relPath written raw now =>
    exact logged.of_table (indexPipelineReport_table env jobId relPath written raw now world.db) world.disk
  | stale jobId now =>
    exact logged.of_table ((markReportStale_leaves jobId now).transaction world.db) world.disk
  | step now => exact loggedAt_step now world logged

/-- What a run that is done has told the issues. -/
theorem told_of_done {env : ReportEnv} {purge : Bool} {before : IndexDb} (formed : before.IssuesFormed)
    (disk : Disk) (events : List RunEvent) {counters : Counters} {consistent : Bool}
    (done : (run (runEvent env purge) ⟨disk, before, .begin, []⟩ events).phase = .done counters consistent) :
    RunTold before (run (runEvent env purge) ⟨disk, before, .begin, []⟩ events).findings
      (run (runEvent env purge) ⟨disk, before, .begin, []⟩ events).db := by
  have begins : LoggedAt before ⟨disk, before, .begin, []⟩ := ⟨rfl, logged_nil formed rfl⟩
  have ended := run_invariant (@loggedAt_event env purge before) begins events
  unfold LoggedAt at ended
  rw [done] at ended
  exact ended

/-! ## A run on its own -/

/-- What an undisturbed run has found in each phase. -/
def FoundAt (env : ReportEnv) (disk : Disk) (world : RunWorld) : Prop :=
  match world.phase with
  | .begin | .collect => world.findings = []
  | .scan progress _ | .reconcile progress _ _ | .recheck progress | .absence progress =>
    world.findings.map (·.1) = progress.scanned.map (outcomeOf env disk)
  | .verify _ | .finish _ _ | .done _ _ => world.findings.map (·.1) = runOutcomes env disk
  | .parking _ | .failed _ => True

theorem foundAt_step {env : ReportEnv} {purge : Bool} {disk : Disk} {before : IndexDb} (now : Time)
    {world : RunWorld} (same : world.disk = disk)
    (underway : Underway env purge disk before (world.phase, world.db))
    (later : Underway env purge disk before (phaseStep env purge now disk world.db world.phase))
    (found : FoundAt env disk world) : FoundAt env disk (runEvent env purge world (.step now)) := by
  obtain ⟨_, db, phase, findings⟩ := world
  obtain rfl : _ = disk := same
  unfold runEvent
  dsimp only at underway later ⊢
  cases phase with
  | begin =>
    simp only [phaseStep, RunPhase.reconciles, List.append_nil]
    split
    · exact found
    · trivial
  | collect =>
    simp only [phaseStep, RunPhase.reconciles, List.append_nil]
    exact congrArg (List.map (·.1)) found
  | scan progress left =>
    cases left with
    | nil =>
      simp only [phaseStep, RunPhase.reconciles, List.append_nil]
      exact found
    | cons rels left =>
      simp only [phaseStep, RunPhase.reconciles, List.append_nil]
      split
      · trivial
      · exact found
  | reconcile progress outcomes left =>
    obtain ⟨paths, next, split, rfl, scans, kept⟩ := underway
    simp only [phaseStep, RunPhase.reconciles] at later ⊢
    split
    next => trivial
    next after ran =>
      rw [ran] at later
      have returned := Script.transaction_returned.1 ran
      have reconciled := kept.kept.files_returned now (distinct_front split) returned
      have scanned := reconciled.scanned
      rw [← List.map_append, map_outcomeOf_relPath] at scanned
      have known : findings.map (·.1) = progress.scanned.map (outcomeOf env _) := found
      unfold FoundAt
      dsimp only
      rw [scanned, List.map_append, List.map_append, known, kept.scanned_eq, List.map_map]
      congr 1
      exact List.map_id _
  | recheck progress =>
    simp only [phaseStep, RunPhase.reconciles, List.append_nil]
    split
    · exact found
    · trivial
  | absence progress =>
    simp only [phaseStep, RunPhase.reconciles, List.append_nil]
    split
    · trivial
    · have known : findings.map (·.1) = progress.scanned.map (outcomeOf env _) := found
      rw [underway.scanned_eq] at known
      exact known
  | verify counters =>
    simp only [phaseStep, RunPhase.reconciles, List.append_nil]
    exact found
  | finish counters consistent =>
    simp only [phaseStep, RunPhase.reconciles, List.append_nil]
    exact found
  | parking raised => trivial
  | done counters consistent =>
    simp only [phaseStep, RunPhase.reconciles, List.append_nil]
    exact found
  | failed raised => trivial

/-- An undisturbed run finds what its directory holds. -/
theorem found_undisturbed {env : ReportEnv} {purge : Bool} {disk : Disk} {before : IndexDb}
    (formed : before.WellFormed) (issues : before.IssuesFormed) (nows : List Time) :
    ∃ world, run (runEvent env purge) ⟨disk, before, .begin, []⟩ (nows.map .step) = world ∧
      (world.phase, world.db) = undisturbed env purge disk before nows ∧ FoundAt env disk world := by
  have both : ∀ nows : List Time, ∀ world : RunWorld, world.disk = disk →
      Underway env purge disk before (world.phase, world.db) → FoundAt env disk world →
      ((run (runEvent env purge) world (nows.map .step)).phase,
        (run (runEvent env purge) world (nows.map .step)).db) =
          run (fun state now => phaseStep env purge now disk state.2 state.1)
            (world.phase, world.db) nows ∧
        FoundAt env disk (run (runEvent env purge) world (nows.map .step)) := by
    intro nows
    induction nows with
    | nil =>
      intro world _ _ found
      exact ⟨rfl, found⟩
    | cons now nows ih =>
      intro world same underway found
      have later := underway_step formed issues now (world.phase, world.db) underway
      have step := foundAt_step now same underway later found
      rw [List.map_cons, run_cons, run_cons]
      have next := ih (runEvent env purge world (.step now)) same
      rw [← same] at later next ⊢
      exact next later (same ▸ step)
  obtain ⟨state, found⟩ := both nows ⟨disk, before, .begin, []⟩ rfl rfl rfl
  exact ⟨_, rfl, state, found⟩

end EvoBlue.Source
